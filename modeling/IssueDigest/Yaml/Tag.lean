import IssueDigest.Text.CodePoint
/-!
# What a node is

Every node has a `Tag`, which says what it stands for. A node with a tag of its own name keeps it; a
scalar without quotes is what its text looks like.

* Truth values are one of eleven words in three spellings each, `yes` and `off` among them.
* Integers are decimal, binary behind `0b`, octal behind a zero, hexadecimal behind `0x`, or in base
  60 with colons between the digits; underscores may stand in all of them.
* Floats have a point, and a sign in their exponent; or they are infinite or no number.
* Dates have two digits for month and day; a time makes it a moment.

A line feed at the end of the text does not count.
-/

namespace IssueDigest.Yaml

/-- What a node stands for. -/
inductive Tag where
  | null
  | bool
  | int
  | float
  | octets
  | time
  | text
  | list
  | map
  | set
  /-- A list of mappings with one entry each, which are pairs. -/
  | pairs
  /-- The key whose value is merged into the mapping. -/
  | merge
  /-- The key whose value stands for the mapping where a scalar is expected. -/
  | standIn
  /-- Anything else. -/
  | unknown
  deriving DecidableEq, Repr, Inhabited

namespace Tag

/-- What the names of the tags known here start with. -/
def space : List Char := "tag:yaml.org,2002:".toList

/-- The words for the tags behind what their names start with. -/
def words : List (String × Tag) :=
  [("null", null), ("bool", bool), ("int", int), ("float", float), ("binary", octets),
    ("timestamp", time), ("str", text), ("seq", list), ("map", map), ("set", set), ("omap", pairs),
    ("pairs", pairs), ("merge", merge), ("value", standIn)]

/-- The tag of a name. -/
def ofName (name : List Char) : Tag :=
  ((words.find? fun w => space ++ w.1.toList == name).map Prod.snd).getD unknown

end Tag

/-! ## Looks -/

/-- The words for truth values in small letters, and the truth values. -/
def truthWords : List (String × Bool) :=
  [("yes", true), ("no", false), ("true", true), ("false", false), ("on", true), ("off", false)]

/-- A word in small letters, with a capital, and in capitals. -/
def spellings (word : String) : List (List Char) :=
  [word.toList, word.capitalize.toList, word.toUpper.toList]

/-- Does the text look like a truth value? -/
def looksBool (cs : List Char) : Bool := truthWords.any fun w => (spellings w.1).contains cs

/-- Does the text look like null? -/
def looksNull (cs : List Char) : Bool := cs == ['~'] || (spellings "null").contains cs

/-- The text without a sign in front. -/
def dropSign : List Char → List Char
  | '+' :: rest => rest
  | '-' :: rest => rest
  | cs => cs

/-- Is the character a digit or an underscore? -/
def isDigitOrUnderscore (c : Char) : Bool := c.isDigit || c == '_'

/-- Does the text start with a digit and go on with digits and underscores? -/
def isDigitRun : List Char → Bool
  | c :: rest => c.isDigit && rest.all isDigitOrUnderscore
  | [] => false

/-- Is the text a digit of base 60? -/
def isSixty : List Char → Bool
  | [a] => a.isDigit
  | [a, b] => '0' ≤ a && a ≤ '5' && b.isDigit
  | _ => false

/-- The parts of a text between colons. -/
def splitColons (cs : List Char) : List (List Char) :=
  cs.foldr (fun c parts =>
    match parts with
    | part :: rest => if c == ':' then [] :: part :: rest else (c :: part) :: rest
    | [] => [[c]]) [[]]

/-- Is the text a number of at least two digits in base 60? -/
def isSexagesimal (cs : List Char) : Bool :=
  match splitColons cs with
  | first :: second :: rest => isDigitRun first && (second :: rest).all isSixty
  | _ => false

/-- Does the text look like an integer? -/
def looksInt (cs : List Char) : Bool :=
  match dropSign cs with
  | ['0'] => true
  | '0' :: 'b' :: rest => !rest.isEmpty && rest.all fun c => c == '0' || c == '1' || c == '_'
  | '0' :: 'x' :: rest =>
    !rest.isEmpty && rest.all fun c =>
      isDigitOrUnderscore c || ('a' ≤ c && c ≤ 'f') || ('A' ≤ c && c ≤ 'F')
  | '0' :: rest => rest.all fun c => ('0' ≤ c && c ≤ '7') || c == '_'
  | cs => isDigitRun cs || isSexagesimal cs

/-- Is the text an exponent with a sign, or empty? -/
def isSignedExponent : List Char → Bool
  | [] => true
  | e :: sign :: digits =>
    (e == 'e' || e == 'E') && (sign == '+' || sign == '-') && !digits.isEmpty
      && digits.all Char.isDigit
  | _ => false

/-- Does the text look like a float? -/
def looksFloat (cs : List Char) : Bool :=
  let body := dropSign cs
  let whole := body.takeWhile (· != '.')
  match body.drop whole.length with
  | [] => false
  | _ :: part =>
    let afterDigits := part.dropWhile isDigitOrUnderscore
    (isDigitRun whole && isSignedExponent afterDigits)
      || (cs.head? == some '.' && isDigitRun (part.takeWhile isDigitOrUnderscore)
        && isSignedExponent afterDigits)
      || (isSexagesimal whole && afterDigits.isEmpty)
      || (whole.isEmpty && ["inf", "Inf", "INF"].any (·.toList == part))
      || (cs.head? == some '.' && ["nan", "NaN", "NAN"].any (·.toList == part))

/-! ## Dates and times -/

/-- An offset from universal time as it is written. -/
inductive Zone where
  /-- Universal time itself. -/
  | universal
  /-- Hours and minutes, and whether they are behind. -/
  | shift (behind : Bool) (hours minutes : Nat)
  deriving DecidableEq, Repr

/-- A time of day as it is written. -/
structure ClockText where
  hour : Nat
  minute : Nat
  second : Nat
  /-- The digits of the fraction. -/
  fraction : List Char
  zone : Option Zone
  deriving DecidableEq, Repr

/-- A date as it is written, perhaps with a time. -/
structure DateText where
  year : Nat
  month : Nat
  day : Nat
  /-- Have month and day two digits? -/
  isWide : Bool
  clock : Option ClockText
  deriving DecidableEq, Repr

/-- The number of at least `least` and at most `most` digits in front of a text, how many they are,
and what follows them. -/
def takeNumber (least most : Nat) (cs : List Char) : Option (Nat × Nat × List Char) :=
  let digits := (cs.take most).takeWhile Char.isDigit
  if digits.length < least then none
  else
    some (digits.foldl (fun n c => n * 10 + (c.toNat - 48)) 0, digits.length,
      cs.drop digits.length)

/-- What follows a character. -/
def after? (c : Char) : List Char → Option (List Char)
  | d :: rest => if d == c then some rest else none
  | [] => none

/-- The offset that fills a text. -/
def readZone : List Char → Option Zone
  | ['Z'] => some .universal
  | sign :: rest => do
    if sign != '+' && sign != '-' then none
    let (hours, _, rest) ← takeNumber 1 2 rest
    if rest.isEmpty then pure (.shift (sign == '-') hours 0)
    else
      let (minutes, _, rest) ← takeNumber 2 2 (← after? ':' rest)
      if rest.isEmpty then pure (.shift (sign == '-') hours minutes) else none
  | [] => none

/-- The time of day that fills a text. -/
def readClockText (cs : List Char) : Option ClockText := do
  let (hour, _, rest) ← takeNumber 1 2 cs
  let (minute, _, rest) ← takeNumber 2 2 (← after? ':' rest)
  let (second, _, rest) ← takeNumber 2 2 (← after? ':' rest)
  let (fraction, rest) := match rest with
    | '.' :: more => (more.takeWhile Char.isDigit, more.dropWhile Char.isDigit)
    | more => ([], more)
  if rest.isEmpty then pure ⟨hour, minute, second, fraction, none⟩
  else
    let zone ← readZone (rest.dropWhile fun c => c == ' ' || c == '\t')
    pure ⟨hour, minute, second, fraction, some zone⟩

/-- What stands behind a letter or blanks between date and time. -/
def afterDate? : List Char → Option (List Char)
  | 'T' :: rest => some rest
  | 't' :: rest => some rest
  | c :: rest =>
    if c == ' ' || c == '\t' then some (rest.dropWhile fun c => c == ' ' || c == '\t') else none
  | [] => none

/-- The date that fills a text, perhaps with a time. -/
def readDateText (cs : List Char) : Option DateText := do
  let (year, _, rest) ← takeNumber 4 4 cs
  let (month, monthWidth, rest) ← takeNumber 1 2 (← after? '-' rest)
  let (day, dayWidth, rest) ← takeNumber 1 2 (← after? '-' rest)
  let isWide := monthWidth == 2 && dayWidth == 2
  if rest.isEmpty then pure ⟨year, month, day, isWide, none⟩
  else pure ⟨year, month, day, isWide, some (← readClockText (← afterDate? rest))⟩

/-- Does the text look like a date? -/
def looksTime (cs : List Char) : Bool :=
  (readDateText cs).any fun d => d.isWide || d.clock.isSome

/-! ## Scalars without a tag -/

/-- The text without a line feed at its end. -/
def dropLineFeed (cs : List Char) : List Char :=
  if cs.getLast? == some '\n' then cs.dropLast else cs

/-- What a scalar that is not empty looks like. -/
def Tag.ofChars (cs : List Char) : Tag :=
  if looksBool cs then bool
  else if looksFloat cs then float
  else if looksInt cs then int
  else if cs == "<<".toList then merge
  else if looksNull cs then null
  else if looksTime cs then time
  else if cs == ['='] then standIn
  else if cs == ['!'] || cs == ['&'] || cs == ['*'] then unknown
  else text

/-- What a scalar without a tag and without quotes looks like. -/
def Tag.ofPlain (t : Text) : Tag :=
  match t.chars? with
  | some [] => null
  | some cs => ofChars (dropLineFeed cs)
  | none => text

end IssueDigest.Yaml
