import IssueDigest.Journal.Basic
import IssueDigest.Number.Numeral
import IssueDigest.Text.Quoted
import IssueDigest.Text.Word
/-!
# Log lines

A layout is a text with fields such as `%(levelname)s`: a name in parentheses, flags, a width, a
precision and a letter for the form; two percent signs are one. A layout has to have at least one
field of that shape. An entry that does not fit its layout (an unknown field, a form that does not
suit the value) leaves no line.
-/

namespace IssueDigest

/-- The letters for forms, in capitals too, and the letters that count as one of them when case does
not matter. -/
def formLetters : List Char := "diouxefgcrsa%DIOUXEFGCRSA\u0130\u0131\u017f".toList

/-- The text without a width or precision in front: a star or digits. -/
def dropCount (t : Text) : Text :=
  match t with
  | .char '*' :: rest => rest
  | _ => t.dropWhile fun c => c.decimal?.isSome

/-- Does a field of the right shape start here? -/
def startsField (t : Text) : Bool :=
  match t with
  | .char '%' :: .char '(' :: rest =>
    match rest.takeWhile CodePoint.isWord, rest.dropWhile CodePoint.isWord with
    | _ :: _, .char ')' :: rest =>
      let rest := dropCount (rest.dropWhile fun c => c.satisfies "#0+ -".toList.contains)
      let rest :=
        match rest with
        | .char '.' :: more => if (dropCount more).length < more.length then dropCount more else rest
        | _ => rest
      match rest with
      | c :: _ => c.satisfies formLetters.contains
      | [] => false
    | _, _ => false
  | _ => false

/-- Does a field of the right shape start somewhere in the text? -/
def hasField : Text → Bool
  | [] => false
  | c :: rest => startsField (c :: rest) || hasField rest

/-- Refuses a layout without fields; the empty layout stands for no layout. -/
def checkLayout (layout : Text) : Except Fault Unit :=
  if layout.isEmpty || hasField layout then .ok () else .error (.refused (.badLayout layout))

/-- Sets the threshold of a journal, and its layout unless that is refused or empty. -/
def Journal.configure (j : Journal) (threshold : Level) (layout : Text) :
    Journal × Except Fault Unit :=
  let j := { j with threshold }
  match checkLayout layout with
  | .error e => (j, .error e)
  | .ok () => (if layout.isEmpty then j else { j with layout }, .ok ())

/-- The value of a field. -/
inductive FieldValue where
  | text (t : Text)
  | number (n : Nat)

/-- How a field is to be written. -/
structure FieldForm where
  left : Bool
  sign : Bool
  blank : Bool
  alternate : Bool
  zero : Bool
  width : Nat
  precision : Option Nat
  letter : Char

/-- The fields that are the same in every entry: who logs, in which place and in which thread. -/
def fixedFields : List (String × String) :=
  [("name", "safetyhub"), ("module", "logger"), ("filename", "logger.py"), ("funcName", "_log"),
    ("threadName", "MainThread"), ("processName", "MainProcess")]

/-- The value of a field of an entry; `stamp` is the text for its time. -/
def Entry.field? (e : Entry) (stamp name : Text) : Option FieldValue :=
  let own : List (String × FieldValue) :=
    [("levelname", .text e.level.name), ("levelno", .number e.level.weight),
      ("message", .text e.message), ("msg", .text e.message), ("asctime", .text stamp)]
  let fixed := fixedFields.map fun (word, text) => (word, FieldValue.text text)
  (own ++ fixed).findSome? fun (word, v) =>
    if Text.ofString word = name then some v else none

namespace FieldForm

/-- The text padded to the width: with blanks in front, or behind if it goes to the left. -/
def pad (f : FieldForm) (t : Text) : Text :=
  let fill := List.replicate (f.width - t.length) (CodePoint.char ' ')
  if f.left then t ++ fill else fill ++ t

/-- A number padded to the width, with zeros between what is in front of the digits and them. -/
def padNumber (f : FieldForm) (lead digits : Text) : Text :=
  let lead : Text := (if f.sign then "+" else if f.blank then " " else "") ++ lead
  if f.zero && !f.left then
    lead ++ List.replicate (f.width - lead.length - digits.length) (.char '0') ++ digits
  else f.pad (lead ++ digits)

/-- A text cut to the precision and padded. -/
def padText (f : FieldForm) (t : Text) : Text :=
  f.pad (match f.precision with
    | some n => t.take n
    | none => t)

/-- An integer in a base, with as many digits as the precision asks for. -/
def integer (f : FieldForm) (base n : Nat) (mark : String) : Text :=
  let digits := Nat.toDigits base n
  let digits := List.replicate (f.precision.getD 1 - digits.length) '0' ++ digits
  let digits := if f.letter == 'X' then digits.map Char.toUpper else digits
  f.padNumber (if f.alternate then mark else "") (Text.ofChars digits)

/-- Digits with a point in front of so many zeros; without zeros the point is left out, unless the
alternate form keeps it. -/
def withZeros (f : FieldForm) (digits : List Char) (zeros : Nat) : List Char :=
  digits ++ (if zeros = 0 && !f.alternate then [] else ['.']) ++ List.replicate zeros '0'

/-- A number in scientific form. Levels are numbers of two digits, the second a zero, so nothing is
rounded. -/
def scientific (f : FieldForm) (n places : Nat) : List Char :=
  let digits := Nat.toDigits 10 n
  f.withZeros (digits.take 1) places
    ++ (if f.letter.isUpper then 'E' else 'e') :: '+' :: '0' :: Nat.toDigits 10 (digits.length - 1)

/-- A number as a decimal in the form of the letter. -/
def decimal (f : FieldForm) (n : Nat) : Text :=
  let digits := Nat.toDigits 10 n
  let places := f.precision.getD 6
  let body :=
    match f.letter.toLower with
    | 'e' => f.scientific n places
    | 'f' => f.withZeros digits places
    | _ =>
      let significant := max 1 places
      if digits.length ≤ significant then
        f.withZeros digits (if f.alternate then significant - digits.length else 0)
      else f.scientific n (if f.alternate then significant - 1 else 0)
  f.padNumber [] (Text.ofChars body)

/-- The value in the form, unless the form does not suit it. -/
def render (f : FieldForm) (v : FieldValue) : Option Text :=
  match f.letter, v with
  | 's', .text t => some (f.padText t)
  | 's', .number n | 'r', .number n | 'a', .number n => some (f.padText (Text.ofNat n))
  | 'r', .text t => some (f.padText t.quoted)
  | 'a', .text t => some (f.padText (t.quoted.flatMap fun c =>
      if c.isAscii then [c]
      else if c.toNat < 0x100 then "\\x" ++ Text.ofChars (Text.hexDigits 2 c.toNat)
      else if c.toNat < 0x10000 then "\\u" ++ Text.ofChars (Text.hexDigits 4 c.toNat)
      else "\\U" ++ Text.ofChars (Text.hexDigits 8 c.toNat)))
  | 'c', .text t => if t.length = 1 then some (f.pad t) else none
  | 'c', .number n => some (f.pad [.char (Char.ofNat n)])
  | 'd', .number n | 'i', .number n | 'u', .number n => some (f.integer 10 n "")
  | 'o', .number n => some (f.integer 8 n "0o")
  | 'x', .number n => some (f.integer 16 n "0x")
  | 'X', .number n => some (f.integer 16 n "0X")
  | l, .number n => if "eEfFgG".toList.contains l then some (f.decimal n) else none
  | _, _ => none

end FieldForm

/-- The name of a field up to the parenthesis that closes it, and the rest; parentheses inside the
name come in pairs. -/
def fieldName (depth : Nat) : Text → Option (Text × Text)
  | [] => none
  | c :: rest =>
    if c = .char ')' && depth = 0 then some ([], rest)
    else
      let depth := if c = .char '(' then depth + 1 else if c = .char ')' then depth - 1 else depth
      (fieldName depth rest).map fun (name, rest) => (c :: name, rest)

/-- A decimal number in front, zero if there is none, and the rest. -/
def leadingNat (t : Text) : Nat × Text :=
  let digit (c : CodePoint) : Bool := c.satisfies Char.isDigit
  (Numeral.value 10 0 ((t.takeWhile digit).filterMap CodePoint.char?), t.dropWhile digit)

/-- The form of a field behind its name, and the rest. -/
def fieldForm? (t : Text) : Option (FieldForm × Text) :=
  let flag (c : CodePoint) : Bool := c.satisfies "-+ #0".toList.contains
  let flags := t.takeWhile flag
  let (width, rest) := leadingNat (t.dropWhile flag)
  let (precision, rest) : Option Nat × Text :=
    match rest with
    | .char '.' :: more => let (n, more) := leadingNat more; (some n, more)
    | _ => (none, rest)
  let rest :=
    match rest with
    | .char 'h' :: more | .char 'l' :: more | .char 'L' :: more => more
    | _ => rest
  match rest with
  | .char letter :: rest =>
    let has (c : Char) : Bool := flags.contains (.char c)
    some (⟨has '-', has '+', has ' ', has '#', has '0', width, precision, letter⟩, rest)
  | _ => none

/-- The fields of a layout filled in; the fuel bounds the number of fields. -/
def Entry.fill (e : Entry) (stamp : Text) : Nat → Text → Option Text
  | _, [] => some []
  | 0, _ => none
  | fuel + 1, .char '%' :: .char '(' :: rest => do
    let (name, rest) ← fieldName 0 rest
    let v ← e.field? stamp name
    let (form, rest) ← fieldForm? rest
    let shown ← form.render v
    (shown ++ ·) <$> e.fill stamp fuel rest
  | fuel + 1, .char '%' :: .char '%' :: rest => (CodePoint.char '%' :: ·) <$> e.fill stamp fuel rest
  | _ + 1, .char '%' :: _ => none
  | fuel + 1, c :: rest => (c :: ·) <$> e.fill stamp fuel rest

/-- The line of an entry, with its end; nothing if the entry does not fit the layout. -/
def Entry.line (e : Entry) (layout stamp : Text) : Text :=
  match e.fill stamp (layout.length + 1) layout with
  | some t => t ++ [.char '\n']
  | none => []

/-- The lines of a journal. -/
def Journal.lines (j : Journal) (stamp : Text) : Text :=
  j.entries.flatMap fun e => e.line j.layout stamp

end IssueDigest
