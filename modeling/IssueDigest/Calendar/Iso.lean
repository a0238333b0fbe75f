import IssueDigest.Calendar.Date
/-!
# Moments as text

`Moment.write` gives the one form that is written: `2024-05-01T12:30:00`, with six digits of a
fraction if there is one and the offset if it is known. `Moment.read` takes many forms: dates with
or without hyphens, week dates, any one character between date and time, times with or without
colons, fractions of any length behind a point or a comma, and an offset in the form of a time or
`Z`.

The readers go by the octets of the text, and a character that takes several is so many steps for
them; only the one between date and time is passed over as a whole. The reader of times looks at one
octet beyond the part it reads. A colon at the end of a time that an offset follows is passed over,
and so is what stands between a fraction of at least six digits and the offset.
-/

namespace IssueDigest

namespace Iso

/-- `width` decimal digits of a number. -/
def padded (width n : Nat) : List Char :=
  let digits := Nat.toDigits 10 n
  List.replicate (width - digits.length) '0' ++ digits

/-- A fraction of a second, if there is one. -/
def writeFraction (microsecond : Nat) : List Char :=
  if microsecond == 0 then [] else '.' :: padded 6 microsecond

/-- An offset: hours and minutes, and seconds if there are any. -/
def writeOffset (total : Int) : List Char :=
  let micro := total.natAbs
  let seconds := micro / 1000000
  (if total < 0 then '-' else '+') :: padded 2 (seconds / 3600) ++ ':' :: padded 2 (seconds / 60 % 60)
    ++ (if micro % 60000000 == 0 then []
        else ':' :: padded 2 (seconds % 60) ++ writeFraction (micro % 1000000))

/-- The number of the digits in front, `width` of them, and the rest. -/
def digits? : Nat → Nat → List Char → Option (Nat × List Char)
  | 0, n, cs => some (n, cs)
  | width + 1, n, c :: cs =>
    if c.isDigit then digits? width (n * 10 + (c.toNat - 48)) cs else none
  | _ + 1, _, [] => none

/-- A time of day as it was read, and whether something else follows it. -/
structure Clock where
  time : TimeOfDay
  /-- Does the text go on behind the time? -/
  goesOn : Bool

/-- The character at the front, which is NUL at the end of the text. -/
def front (cs : List Char) (follow : Char) : Char := cs.headD follow

/-- A fraction of a second: up to six digits count and further ones are passed over. -/
def readFraction (hour minute second : Nat) (follow : Char) (cs : List Char) : Option Clock := do
  let width := min 6 cs.length
  let (n, rest) ← digits? width 0 cs
  let rest := rest.dropWhile Char.isDigit
  pure ⟨⟨hour, minute, second, n * Nat.pow 10 (6 - width)⟩, front rest follow != '\x00'⟩

/-- What follows two digits of a time. -/
inductive Joint where
  /-- The time ends, and something else may follow it. -/
  | done (goesOn : Bool)
  /-- The next two digits. -/
  | next (rest : List Char)
  /-- A fraction. -/
  | fraction (rest : List Char)
  /-- No time goes on like this. -/
  | broken

/-- Looks at what follows two digits; `colons` says whether the parts of the time are set apart by
colons. -/
def joint (colons : Bool) (follow : Char) : List Char → Joint
  | [] => .done (follow != '\x00')
  | [c] => .done (c != '\x00')
  | c :: rest =>
    if colons && c == ':' then .next rest
    else if c == '.' || c == ',' then .fraction rest
    else if colons then .broken
    else .next (c :: rest)

/-- A time of day; `follow` is the character behind the text. -/
def readClock (cs : List Char) (follow : Char) : Option Clock := do
  let (hour, rest) ← digits? 2 0 cs
  let colons := front rest follow == ':'
  match joint colons follow rest with
  | .done goesOn => pure ⟨⟨hour, 0, 0, 0⟩, goesOn⟩
  | .fraction rest => readFraction hour 0 0 follow rest
  | .broken => none
  | .next rest =>
    let (minute, rest) ← digits? 2 0 rest
    match joint colons follow rest with
    | .done goesOn => pure ⟨⟨hour, minute, 0, 0⟩, goesOn⟩
    | .fraction rest => readFraction hour minute 0 follow rest
    | .broken => none
    | .next rest =>
      let (second, rest) ← digits? 2 0 rest
      match joint colons follow rest with
      | .done goesOn => pure ⟨⟨hour, minute, second, 0⟩, goesOn⟩
      | .fraction rest => readFraction hour minute second follow rest
      | .broken => none
      | .next rest => readFraction hour minute second follow rest

/-- Does the character start an offset? -/
def startsOffset (c : Char) : Bool := c == '+' || c == '-' || c == 'Z'

/-- The offset that a time behind its sign stands for; one below a second counts as none. -/
def offsetOf (negative : Bool) (t : TimeOfDay) : Int :=
  let seconds := t.hour * 3600 + t.minute * 60 + t.second
  if seconds == 0 then 0
  else
    let total : Int := seconds * 1000000 + t.microsecond
    if negative then -total else total

/-- A time of day with an offset or without. -/
def readTime (cs : List Char) : Option (TimeOfDay × Option Int) := do
  let body := cs.takeWhile fun c => !startsOffset c
  let rest := cs.dropWhile fun c => !startsOffset c
  let clock ← readClock body (front rest '\x00')
  match rest with
  | [] => if clock.goesOn then none else pure (clock.time, none)
  | 'Z' :: more => if front more '\x00' == '\x00' then pure (clock.time, some 0) else none
  | c :: more =>
    let shift ← readClock more '\x00'
    if shift.goesOn then none else pure (clock.time, some (offsetOf (c == '-') shift.time))

/-- The part of a text that is its date ends here. -/
def dateEnd (cs : List Char) : Nat :=
  let charAt (i : Nat) := cs.getD i '\x00'
  if cs.length == 7 then 7
  else if charAt 4 == '-' then
    if charAt 5 == 'W' then
      if charAt 8 == '-' && !(10 < cs.length && (charAt 10).isDigit) then 10 else 8
    else 10
  else if charAt 4 == 'W' then
    let digits := 7 + ((cs.drop 7).takeWhile Char.isDigit).length
    if digits < 9 then digits else if digits % 2 == 0 then 7 else 8
  else 8

/-- What a date says: a day of a month, or a day of a week. -/
inductive DateParts where
  | day (date : Date)
  | week (year week weekday : Nat)

/-- The parts of a date that fills the text. -/
def readDateParts (cs : List Char) : Option DateParts := do
  let (year, rest) ← digits? 4 0 cs
  let (hyphens, rest) := match rest with
    | '-' :: more => (true, more)
    | more => (false, more)
  match rest with
  | 'W' :: rest =>
    let (week, rest) ← digits? 2 0 rest
    match hyphens, rest with
    | _, [] => pure (.week year week 1)
    | true, '-' :: rest =>
      let (weekday, rest) ← digits? 1 0 rest
      if rest.isEmpty then pure (.week year week weekday) else none
    | true, _ => none
    | false, rest =>
      let (weekday, rest) ← digits? 1 0 rest
      if rest.isEmpty then pure (.week year week weekday) else none
  | rest =>
    let (month, rest) ← digits? 2 0 rest
    let rest ←
      if hyphens then
        match rest with
        | '-' :: more => some more
        | _ => none
      else some rest
    let (day, rest) ← digits? 2 0 rest
    if rest.isEmpty then pure (.day ⟨year, month, day⟩) else none

/-- The date of its parts, unless the year has no such week or the week no such day. -/
def DateParts.date? : DateParts → Option Date
  | day d => some d
  | week y w d =>
    if w < 1 || Date.weeksInYear y < w || d < 1 || 7 < d then none else some (Date.ofWeek y w d)

/-- Refuses parts of no date; weeks are counted from the year 1 on, so a week of the year 0 has no
month. -/
def DateParts.check : DateParts → Date → Except Fault Unit
  | day _, d => d.check
  | week y _ _, d => if y == 0 then .error (.refused (.outOfRange .month)) else d.check

/-- The text with `T` for a half that stands where date and time can meet. -/
def plainSeparator (t : Text) : Text :=
  let isHalf (i : Nat) : Bool := match t[i]? with
    | some (.half _) => true
    | _ => false
  match [7, 8, 10].find? isHalf with
  | some i => t.set i (.char 'T')
  | none => t

/-- The octets of a text, each as the character of that number. -/
def octets (cs : List Char) : List Char := (Utf8.encode cs).map fun b => Char.ofNat b.toNat

/-- How many octets of a character follow its first. -/
def tailLength (first : Char) : Nat :=
  let n := first.toNat
  if n < 0x80 then 0 else if n / 0x10 = 0xE then 2 else if n / 0x10 = 0xF then 3 else 1

/-- The parts of a moment, if the text has the form of one. -/
def readParts (t : Text) : Option (DateParts × Date × TimeOfDay × Option Int) := do
  if t.length < 7 then none else
  let cs ← octets <$> (plainSeparator t).chars?
  let stop := dateEnd cs
  let parts ← readDateParts (cs.take stop)
  let date ← parts.date?
  match cs.drop stop with
  | [] => pure (parts, date, ⟨0, 0, 0, 0⟩, none)
  | separator :: rest =>
    let (time, offset) ← readTime (rest.drop (tailLength separator))
    pure (parts, date, time, offset)

end Iso

namespace Moment

/-- The text of a moment. -/
def write (m : Moment) : List Char :=
  Iso.padded 4 m.date.year ++ '-' :: Iso.padded 2 m.date.month ++ '-' :: Iso.padded 2 m.date.day
    ++ 'T' :: Iso.padded 2 m.time.hour ++ ':' :: Iso.padded 2 m.time.minute
    ++ ':' :: Iso.padded 2 m.time.second ++ Iso.writeFraction m.time.microsecond
    ++ (m.offset.map Iso.writeOffset).getD []

/-- The moment that a text stands for. -/
def read (t : Text) : Except Fault Moment := do
  match Iso.readParts t with
  | none => throw (.refused (.badDate t))
  | some (parts, date, time, offset) =>
    match offset with
    | some total => checkOffset total
    | none => pure ()
    parts.check date
    time.check
    pure ⟨date, time, offset⟩

end Moment

end IssueDigest
