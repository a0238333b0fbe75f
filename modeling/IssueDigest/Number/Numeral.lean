import IssueDigest.Fault
import IssueDigest.Number.Binary
import IssueDigest.Text.Blank
import IssueDigest.Text.Digit
/-!
# Integers as text

An integer is read from digits of any script, with an optional sign, single underscores between the
digits and blanks around the whole. The limit `digitLimit` on decimal digits holds for reading and
for writing; bases that are powers of two know no limit.
-/

namespace IssueDigest.Numeral

/-- The ASCII character that a code point counts as inside a number: digits of any script count as
plain digits, blanks as spaces, and everything else beyond ASCII as a question mark. -/
def plain (c : CodePoint) : Char :=
  if c.toNat < 127 then Char.ofNat c.toNat
  else if c.isBlank then ' '
  else
    match c.decimal? with
    | some d => Char.ofNat (48 + d)
    | none => '?'

/-- May the character surround a number? -/
def isMargin (c : Char) : Bool := (9 ≤ c.toNat && c.toNat ≤ 13) || c == ' '

/-- The value of a digit or letter as a digit of some base. -/
def digitValue? (c : Char) : Option Nat :=
  if c.isDigit then some (c.toNat - 48)
  else if 'a' ≤ c && c ≤ 'z' then some (c.toNat - 87)
  else if 'A' ≤ c && c ≤ 'Z' then some (c.toNat - 55)
  else none

/-- Is the character a digit of the base? -/
def isDigitOf (base : Nat) (c : Char) : Bool :=
  match digitValue? c with
  | some d => d < base
  | none => false

/-- The number that digits stand for, after those that make `n`. -/
def value (base : Nat) (n : Nat) : List Char → Nat
  | [] => n
  | c :: cs => value base (n * base + (digitValue? c).getD 0) cs

/-- A sign, if there is one, and the rest. -/
def splitSign : List Char → Bool × List Char
  | '-' :: cs => (true, cs)
  | '+' :: cs => (false, cs)
  | cs => (false, cs)

/-- The text without the mark of a base that is a power of two, and one underscore after it. -/
def dropMark (base : Nat) : List Char → List Char
  | '0' :: m :: cs =>
    let marks := if base = 16 then ['x', 'X'] else if base = 8 then ['o', 'O']
      else if base = 2 then ['b', 'B'] else []
    if marks.contains m then
      match cs with
      | '_' :: rest => rest
      | _ => cs
    else '0' :: m :: cs
  | cs => cs

/-- Does an underscore of the run stand at an end or beside another one? The flag says whether an
underscore, or nothing at all, stands in front. -/
def hasLooseUnderscore (afterUnderscore : Bool) : List Char → Bool
  | [] => afterUnderscore
  | c :: cs => (c == '_' && afterUnderscore) || hasLooseUnderscore (c == '_') cs

/-- The integer in a base, read from plain characters; `shown` is the text in messages. -/
def readPlain (base : Nat) (shown : Text) (cs : List Char) : Except Fault Int :=
  let refusal := Except.error (Fault.refused (.notInteger base shown))
  let (negative, cs) := splitSign (cs.dropWhile isMargin)
  let cs := dropMark base cs
  let run := cs.takeWhile fun c => isDigitOf base c || c == '_'
  let rest := cs.dropWhile fun c => isDigitOf base c || c == '_'
  let digits := run.filter (· != '_')
  if run.isEmpty || hasLooseUnderscore true run then refusal
  else if base = 10 && digitLimit < digits.length then
    .error (.refused (.integerTooLong digits.length))
  else if !(rest.dropWhile isMargin).isEmpty then refusal
  else .ok (if negative then -(value base 0 digits : Int) else value base 0 digits)

/-- The integer that a text stands for in a base. -/
def readIn (base : Nat) (t : Text) : Except Fault Int := readPlain base t.quoted (t.map plain)

/-- The integer that a text stands for. -/
def read (t : Text) : Except Fault Int := readIn 10 t

/-- The integer that an octet string stands for. -/
def readOctets (bs : List UInt8) : Except Fault Int :=
  readPlain 10 (Text.quotedOctets bs) (bs.map fun b => if b < 128 then Char.ofNat b.toNat else '?')

/-- The integer that a float is cut to. -/
def ofFloat (x : Float) : Except Fault Int :=
  match FloatClass.of x with
  | .nan => .error (.refused .integerOfNaN)
  | .infinite _ => .error .infinite
  | .finite negative b => .ok (if negative then -(b.truncate : Int) else b.truncate)

/-- Has the integer few enough digits to be written? -/
def isWritable (n : Int) : Bool := n.natAbs < Nat.pow 10 digitLimit

/-- The text of an integer that has few enough digits. -/
def write (n : Int) : Except Fault Text :=
  if isWritable n then .ok (Text.ofInt n) else .error (.refused .integerUnwritable)

end IssueDigest.Numeral
