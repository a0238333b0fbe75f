import IssueDigest.Json.Value
import IssueDigest.Number.Floating
/-!
# Reading the object notation

The reader takes what the notation allows, and `NaN`, `Infinity` and `-Infinity` besides. Of
repeated names the last value counts, in the place of the first. Two escapes that name the halves of
a pair, one after the other, are one character; any other half stays as it is.

Values may be nested to any depth. A host whose stack is bounded gives up at some depth, and there this
reader goes on.

Every function returns the characters that are left. A fault of syntax remembers how many were left
where it was noticed; `read` turns that number into a line and a column.
-/

namespace IssueDigest.Json

/-- Why reading stops. -/
inductive Stop where
  /-- The text is not in the notation: what was expected, and how many characters were left. -/
  | syntaxAt (note : String) (left : Nat)
  /-- A number cannot be read. -/
  | fault (f : Fault)

/-- Is the character a blank of the notation? -/
def isBlank (c : Char) : Bool := c == ' ' || c == '\t' || c == '\n' || c == '\r'

/-- The text without the blanks in front. -/
def skipBlanks (cs : List Char) : List Char := cs.dropWhile isBlank

/-- The value of a hexadecimal digit. -/
def hexValue? (c : Char) : Option Nat :=
  if c.isDigit || ('a' ≤ c && c ≤ 'f') || ('A' ≤ c && c ≤ 'F') then Numeral.digitValue? c else none

/-- The 16-bit unit that four hexadecimal digits in front of a text stand for; something must follow
them, for no quoted text ends there. -/
def hexUnit? : List Char → Option Nat
  | a :: b :: c :: d :: _ :: _ => do
    let a ← hexValue? a
    let b ← hexValue? b
    let c ← hexValue? c
    let d ← hexValue? d
    pure (((a * 16 + b) * 16 + c) * 16 + d)
  | _ => none

/-- The character of a one-letter escape. -/
def escapeLetter? : Char → Option Char
  | '"' => some '"'
  | '\\' => some '\\'
  | '/' => some '/'
  | 'b' => some '\x08'
  | 'f' => some '\x0c'
  | 'n' => some '\n'
  | 'r' => some '\r'
  | 't' => some '\t'
  | _ => none

/-- The low half that an escape in front of a text names. -/
def lowHalf? : List Char → Option Nat
  | '\\' :: 'u' :: rest =>
    match hexUnit? rest with
    | some n => if 0xDC00 ≤ n && n < 0xE000 then some n else none
    | none => none
  | _ => none

/-- Puts a code point in front of what was read. -/
def consRead (c : CodePoint) (r : Except Stop (Text × List Char)) :
    Except Stop (Text × List Char) :=
  r.map fun (t, rest) => (c :: t, rest)

/-- The code point of a number, which is one. -/
def codePoint (n : Nat) : CodePoint := (CodePoint.ofNat? n).getD (.char '\uFFFD')

/-- Reads a text up to its closing quote; `start` is how many characters were left at the opening
one, and `skip` is how many characters belong to an escape that was read already. -/
def readText (start : Nat) : Nat → List Char → Except Stop (Text × List Char)
  | _, [] => .error (.syntaxAt "Unterminated string starting at" start)
  | skip + 1, _ :: rest => readText start skip rest
  | 0, '"' :: rest => .ok ([], rest)
  | 0, ['\\'] => .error (.syntaxAt "Unterminated string starting at" start)
  | 0, '\\' :: 'u' :: rest =>
    match hexUnit? rest with
    | none => .error (.syntaxAt "Invalid \\uXXXX escape" (rest.length + 1))
    | some n =>
      match if 0xD800 ≤ n && n < 0xDC00 then lowHalf? (rest.drop 4) else none with
      | some low =>
        consRead (codePoint (0x10000 + (n - 0xD800) * 0x400 + (low - 0xDC00)))
          (readText start 10 rest)
      | none => consRead (codePoint n) (readText start 4 rest)
  | 0, '\\' :: c :: rest =>
    match escapeLetter? c with
    | some x => consRead (.char x) (readText start 0 rest)
    | none => .error (.syntaxAt "Invalid \\escape" (rest.length + 2))
  | 0, c :: rest =>
    if c.toNat < 32 then .error (.syntaxAt "Invalid control character at" (rest.length + 1))
    else consRead (.char c) (readText start 0 rest)

/-- The fraction in front of a text: a point and digits. -/
def fraction (cs : List Char) : List Char :=
  match cs with
  | '.' :: rest => rest.takeWhile Char.isDigit
  | _ => []

/-- The integer part in front of a text: a zero, or digits that do not start with one. -/
def wholePart : List Char → List Char
  | '0' :: _ => ['0']
  | cs => cs.takeWhile Char.isDigit

/-- Reads a number. -/
def readNumber (cs : List Char) : Except Stop (Json × List Char) :=
  let (negative, body) : Bool × List Char := match cs with
    | '-' :: rest => (true, rest)
    | _ => (false, cs)
  let whole := wholePart body
  if whole.isEmpty then .error (.syntaxAt "Expecting value" cs.length)
  else
    let rest := body.drop whole.length
    let part := fraction rest
    let rest := if part.isEmpty then rest else rest.drop (part.length + 1)
    match Numeral.exponent? rest with
    | some (down, digits, rest) =>
      let x := Numeral.assemble whole part down digits
      .ok (.float (if negative then -x else x), rest)
    | none =>
      if part.isEmpty then
        if digitLimit < whole.length then
          .error (.fault (.refused (.integerTooLong whole.length)))
        else
          let n : Int := Numeral.value 10 0 whole
          .ok (.int (if negative then -n else n), rest)
      else
        let x := Numeral.assemble whole part false []
        .ok (.float (if negative then -x else x), rest)

/-- The words of the notation and their values. -/
def words : List (List Char × Json) :=
  [("null".toList, .null), ("true".toList, .bool true), ("false".toList, .bool false),
    ("NaN".toList, .float (0.0 / 0.0)), ("Infinity".toList, .float (1.0 / 0.0)),
    ("-Infinity".toList, .float (-1.0 / 0.0))]

mutual

/-- Reads a value; the fuel bounds the number of values and items. -/
def readValue : Nat → List Char → Except Stop (Json × List Char)
  | 0, cs => .error (.syntaxAt "Expecting value" cs.length)
  | fuel + 1, cs =>
    match cs with
    | '"' :: rest => (readText cs.length 0 rest).map fun (t, rest) => (.text t, rest)
    | '[' :: rest =>
      match skipBlanks rest with
      | ']' :: rest => .ok (.list [], rest)
      | rest => (readItems fuel rest).map fun (items, rest) => (.list items, rest)
    | '{' :: rest =>
      match skipBlanks rest with
      | '}' :: rest => .ok (.object [], rest)
      | rest => (readFields fuel rest).map fun (fields, rest) => (.object (Entries.ofPairs fields), rest)
    | cs =>
      match words.find? fun w => w.1.isPrefixOf cs with
      | some (word, v) => .ok (v, cs.drop word.length)
      | none => readNumber cs

/-- Reads the items of a list, the first of which starts here, and the closing bracket. -/
def readItems : Nat → List Char → Except Stop (List Json × List Char)
  | 0, cs => .error (.syntaxAt "Expecting value" cs.length)
  | fuel + 1, cs => do
    let (v, rest) ← readValue fuel cs
    match skipBlanks rest with
    | ']' :: rest => pure ([v], rest)
    | ',' :: rest =>
      let (items, rest) ← readItems fuel (skipBlanks rest)
      pure (v :: items, rest)
    | rest => throw (.syntaxAt "Expecting ',' delimiter" rest.length)

/-- Reads the fields of an object, the first of which starts here, and the closing brace. -/
def readFields : Nat → List Char → Except Stop (List (Text × Json) × List Char)
  | 0, cs => .error (.syntaxAt "Expecting value" cs.length)
  | fuel + 1, cs =>
    match cs with
    | '"' :: rest => do
      let (name, rest) ← readText cs.length 0 rest
      match skipBlanks rest with
      | ':' :: rest =>
        let (v, rest) ← readValue fuel (skipBlanks rest)
        match skipBlanks rest with
        | '}' :: rest => pure ([(name, v)], rest)
        | ',' :: rest =>
          let (fields, rest) ← readFields fuel (skipBlanks rest)
          pure ((name, v) :: fields, rest)
        | rest => throw (.syntaxAt "Expecting ',' delimiter" rest.length)
      | rest => throw (.syntaxAt "Expecting ':' delimiter" rest.length)
    | cs => .error (.syntaxAt "Expecting property name enclosed in double quotes" cs.length)

end

/-- The note on a fault of syntax: line, column and place, all counted from the front. -/
def syntaxNote (source : List Char) (note : String) (left : Nat) : Text :=
  let before := source.take (source.length - left)
  let column := (before.reverse.takeWhile (· != '\n')).length + 1
  note ++ ": line " ++ Text.ofNat (before.count '\n' + 1) ++ " column " ++ Text.ofNat column
    ++ " (char " ++ Text.ofNat before.length ++ ")"

/-- The fault of a stop. -/
def Stop.toFault (source : List Char) : Stop → Fault
  | .syntaxAt note left => .refused (.badJson (syntaxNote source note left))
  | .fault f => f

/-- The value that a text stands for, however deep it is nested. -/
def read (source : List Char) : Except Fault Json :=
  match source with
  | '\uFEFF' :: _ =>
    .error (.refused (.badJson
      (syntaxNote source "Unexpected UTF-8 BOM (decode using utf-8-sig)" source.length)))
  | _ =>
    match readValue (2 * source.length + 2) (skipBlanks source) with
    | .error stop => .error (stop.toFault source)
    | .ok (v, rest) =>
      match skipBlanks rest with
      | [] => .ok v
      | rest => .error (Stop.toFault source (.syntaxAt "Extra data" rest.length))

end IssueDigest.Json
