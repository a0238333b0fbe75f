import IssueDigest.Document.Value
import IssueDigest.Number.Floating
import IssueDigest.Text.Base64
import IssueDigest.Text.Case
import IssueDigest.Yaml.Cursor
import IssueDigest.Yaml.Tag
/-!
# What scalars stand for

A scalar has a tag, either of its own or from its looks, and `readAtom` gives the value of its text
under that tag. A text need not look like what its tag says: then it is read as far as the rules for
such values reach, and refused in the way of these rules.
-/

namespace IssueDigest.Yaml

/-- The text without underscores. -/
def dropUnderscores (t : Text) : Text := t.filter (· ≠ .char '_')

/-- Splits off a sign; the text must not be empty. -/
def splitSign : Text → Except Fault (Bool × Text)
  | [] => .error .noCharacter
  | .char '-' :: rest => .ok (true, rest)
  | .char '+' :: rest => .ok (false, rest)
  | t => .ok (false, t)

/-- The parts of a text between colons. -/
def colonParts (t : Text) : List Text :=
  t.foldr (fun c parts =>
    match parts with
    | part :: rest => if c = .char ':' then [] :: part :: rest else (c :: part) :: rest
    | [] => [[c]]) [[]]

/-- The truth value of a text, which is one of the words in any case. -/
def readTruth (t : Text) : Except Fault Value :=
  let word := t.lower
  match truthWords.find? fun w => Text.ofString w.1 = word with
  | some (_, b) => .ok (.bool b)
  | none => .error (.lacks word)

/-- The magnitude of an integer. -/
def readMagnitude : Text → Except Fault Int
  | [] => .error .noCharacter
  | [.char '0'] => .ok 0
  | .char '0' :: .char 'b' :: rest => Numeral.readIn 2 rest
  | .char '0' :: .char 'x' :: rest => Numeral.readIn 16 rest
  | .char '0' :: rest => Numeral.readIn 8 (.char '0' :: rest)
  | t =>
    if t.contains (.char ':') then
      (colonParts t).foldlM (fun n part => (Numeral.read part).map (n * 60 + ·)) 0
    else Numeral.read t

/-- The integer of a text. -/
def readInt (t : Text) : Except Fault Value := do
  let (negative, rest) ← splitSign (dropUnderscores t)
  let n ← readMagnitude rest
  pure (.int (if negative then -n else n))

/-- The sum of the digits of a number in base 60, the last one first, `weight` being that of the
next. -/
def sumSixty (sum : Float) (weight : Nat) : List Float → Float
  | [] => sum
  | x :: rest => sumSixty (sum + x * Float.ofNat weight) (weight * 60) rest

/-- The magnitude of a float. -/
def readFloatMagnitude (t : Text) : Except Fault Float :=
  if t = Text.ofString ".inf" then .ok (1.0 / 0.0)
  else if t.contains (.char ':') then do
    let digits ← (colonParts t).mapM Numeral.readFloat
    pure (sumSixty 0.0 1 digits.reverse)
  else Numeral.readFloat t

/-- The float of a text. -/
def readFloat (t : Text) : Except Fault Value := do
  let (negative, rest) ← splitSign (dropUnderscores t).lower
  if rest = Text.ofString ".nan" then pure (.float (0.0 / 0.0))
  else
    let x ← readFloatMagnitude rest
    pure (.float (if negative then -x else x))

/-- The octets of a text in base 64. -/
def readOctets (t : Text) : Except Fault Value :=
  if t.all CodePoint.isAscii then
    match Base64.decode (t.filterMap CodePoint.char?) with
    | some bs => .ok (.octets bs)
    | none => refuse
  else refuse

/-- A fraction of a second in microseconds; further digits are cut off. -/
def microseconds (fraction : List Char) : Nat :=
  let digits := fraction.take 6
  Numeral.value 10 0 digits * Nat.pow 10 (6 - digits.length)

/-- How far the zone is ahead of universal time, in microseconds. -/
def Zone.offset : Zone → Int
  | universal => 0
  | shift behind hours minutes =>
    let total : Int := (hours * 60 + minutes) * 60000000
    if behind then -total else total

/-- The date or moment of a text. -/
def readTime (t : Text) : Except Fault Value := do
  match t.chars?.bind fun cs => readDateText (dropLineFeed cs) with
  | none => throw .noMatch
  | some d =>
    let date : Date := ⟨d.year, d.month, d.day⟩
    match d.clock with
    | none =>
      date.check
      pure (.date date)
    | some c =>
      let offset := c.zone.map Zone.offset
      match offset with
      | some total => checkOffset total
      | none => pure ()
      let time : TimeOfDay := ⟨c.hour, c.minute, c.second, microseconds c.fraction⟩
      date.check
      time.check
      pure (.timestamp ⟨date, time, offset⟩)

/-- The value of a text under a tag of scalars. -/
def readAtom : Tag → Text → Except Fault Value
  | .null, _ => .ok .null
  | .bool, t => readTruth t
  | .int, t => readInt t
  | .float, t => readFloat t
  | .octets, t => readOctets t
  | .time, t => readTime t
  | .text, t => .ok (.text t)
  | _, _ => refuse

end IssueDigest.Yaml
