import IssueDigest.Document.Value
import IssueDigest.Number.Binary
import IssueDigest.Number.Numeral
/-!
# Checking the parts of a document

A check of a value gives what the value stands for, or the flaw it has. A check of a part of a
document collects complaints: every field is looked at, in order, whatever is wrong with those
before it. A `Fault` ends the whole check at once.

Integers are taken in any form that does not lose anything: integral floats of ordinary size, truth
values, and texts of digits with blanks around them, an optional sign, single underscores between
the digits and a fraction of zeros.
-/

namespace IssueDigest

/-- The outcome of checking a part: what it stands for, or complaints. -/
abbrev Checked (α : Type) := Except Fault (Except (List Complaint) α)

/-- A check of one value. -/
abbrev ValueCheck (α : Type) := Value → Except Fault (Except Flaw α)

namespace Checked

/-- Two outcomes together; the complaints about both are kept. -/
def merge {α β : Type} :
    Except (List Complaint) α → Except (List Complaint) β → Except (List Complaint) (α × β)
  | .ok x, .ok y => .ok (x, y)
  | .error cs, .error ds => .error (cs ++ ds)
  | .error cs, .ok _ => .error cs
  | .ok _, .error ds => .error ds

/-- Two parts, one after the other. -/
def both {α β : Type} (a : Checked α) (b : Checked β) : Checked (α × β) :=
  match a with
  | .error e => .error e
  | .ok x => Except.map (merge x) b

/-- Changes what a part stands for. -/
def map {α β : Type} (f : α → β) (a : Checked α) : Checked β := Except.map (Except.map f) a

/-- The parts of a list, from the item with this index on. -/
def items {α : Type} (check : Nat → Value → Checked α) : Nat → List Value → Checked (List α)
  | _, [] => .ok (.ok [])
  | i, v :: rest => map (fun (x, xs) => x :: xs) (both (check i v) (items check (i + 1) rest))

/-- The outcome of a check of one value, as that of the part which this way leads to. -/
def place {α : Type} (path : List Step) (outcome : Except Fault (Except Flaw α)) : Checked α :=
  Except.map (fun r =>
    match r with
    | .ok a => .ok a
    | .error flaw => .error [⟨path, flaw⟩]) outcome

end Checked

namespace ValueCheck

/-- A step that refuses values, as a check: refusals are flaws and all other faults end the
check. -/
def settle {α : Type} : Except Fault α → Except Fault (Except Flaw α)
  | .ok a => .ok (.ok a)
  | .error (.refused reason) => .ok (.error (.refused reason.message))
  | .error e => .error e

/-- The text of a value. -/
def text : ValueCheck Text
  | .text t => .ok (.ok t)
  | .octets bs =>
    match Utf8.decode bs with
    | .ok cs => .ok (.ok (Text.ofChars cs))
    | .error _ => .ok (.error .unreadableText)
  | _ => .ok (.error .notText)

/-- The text of a value that holds no halves and at least one character. -/
def name : ValueCheck String := fun v =>
  Except.map (fun r =>
    match r with
    | .error flaw => .error flaw
    | .ok t =>
      match t.string? with
      | none => .error .unreadableText
      | some s => if t.isEmpty then .error .tooShort else .ok s) (text v)

/-- The text of a value, or none for null. -/
def optionalText : ValueCheck (Option Text)
  | .null => .ok (.ok none)
  | v => Except.map (Except.map some) (text v)

/-- A minus sign, if there is one, and the rest. -/
def splitMinus : List Char → Bool × List Char
  | '-' :: rest => (true, rest)
  | cs => (false, cs)

/-- A magnitude with its sign. -/
def signed (negative : Bool) (n : Nat) : Int := if negative then -(n : Int) else n

/-- The digits in front of a text that make a number without superfluous zeros. -/
def strictDigits : List Char → List Char
  | '0' :: _ => ['0']
  | cs => cs.takeWhile Char.isDigit

/-- Has the number, its sign included, more characters than are read? -/
def isTooLong (negative : Bool) (digits : List Char) : Bool :=
  digitLimit < digits.length + (if negative then 1 else 0)

/-- The text without a fraction of zeros. -/
def dropZeroFraction (cs : List Char) : List Char :=
  let whole := cs.takeWhile (· != '.')
  let zeros := cs.drop (whole.length + 1)
  if !zeros.isEmpty && zeros.all (· == '0') then whole else cs

/-- The integer that a text stands for in a looser form; its blanks are gone already. -/
def looseInt (cs : List Char) : Except Flaw Int :=
  let (negative, body) := Numeral.splitSign cs
  let body := dropZeroFraction body
  let digits := (body.filter (· != '_')).dropWhile (· == '0')
  if Numeral.hasLooseUnderscore true body || !(body.all fun c => c.isDigit || c == '_')
      || isTooLong negative digits then
    .error .unreadableInt
  else .ok (signed negative (Numeral.value 10 0 digits))

/-- The integer that a text stands for. -/
def intOfText (cs : List Char) : Except Flaw Int :=
  let (negative, body) := splitMinus cs
  let digits := strictDigits body
  if isTooLong negative digits then .error .intTooLong
  else if !digits.isEmpty && digits.length == body.length then
    .ok (signed negative (Numeral.value 10 0 digits))
  else
    let isWhite (c : Char) := (CodePoint.char c).isWhite
    looseInt ((cs.dropWhile isWhite).reverse.dropWhile isWhite).reverse

/-- What integers of 64 bits are below. -/
def int64Limit : Nat := 0x8000000000000000

/-- The integer that a float is. -/
def intOfFloat (x : Float) : Except Flaw Int :=
  match FloatClass.of x with
  | .finite negative magnitude =>
    if !magnitude.isIntegral then .error .fractionalInt
    else if magnitude.truncate < int64Limit then .ok (signed negative magnitude.truncate)
    else .error .intTooLong
  | _ => .error .notFinite

/-- The integer of a value. -/
def int : ValueCheck Int
  | .int n => .ok (.ok n)
  | .bool b => .ok (.ok (if b then 1 else 0))
  | .float x => .ok (intOfFloat x)
  | .text t =>
    match t.chars? with
    | some cs => .ok (intOfText cs)
    | none => .ok (.error .unreadableText)
  | .octets bs =>
    match Utf8.decode bs with
    | .ok cs => .ok (intOfText cs)
    | .error _ => .ok (.error .unreadableInt)
  | _ => .ok (.error .notInt)

end ValueCheck

namespace Checked

/-- A field that an entry must have. -/
def required {α : Type} (path : List Step) (name : String) (check : ValueCheck α)
    (entries : List (Value × Value)) : Checked α :=
  match Value.field? name entries with
  | some v => place (path ++ [.field name]) (check v)
  | none => .ok (.error [⟨path ++ [.field name], .missing⟩])

/-- A field that an entry may leave out. -/
def optional {α : Type} (path : List Step) (name : String) (check : ValueCheck α) (default : α)
    (entries : List (Value × Value)) : Checked α :=
  match Value.field? name entries with
  | some v => place (path ++ [.field name]) (check v)
  | none => .ok (.ok default)

/-- A field that is a list of entries of one kind, or left out. -/
def entryList {α : Type} (name kind : String)
    (check : List Step → List (Value × Value) → Checked α) (entries : List (Value × Value)) :
    Checked (List α) :=
  let entry (i : Nat) (v : Value) : Checked α :=
    match v with
    | .map fields => check [.field name, .item i] fields
    | _ => .ok (.error [⟨[.field name, .item i], .notEntry kind⟩])
  match Value.field? name entries with
  | none => .ok (.ok [])
  | some (.list members) => items entry 0 members
  | some (.set members) => items entry 0 members
  | some _ => .ok (.error [⟨[.field name], .notList⟩])

end Checked

end IssueDigest
