import IssueDigest.Json.Value
import IssueDigest.Number.Numeral
import IssueDigest.Number.Shortest
/-!
# Writing the object notation

A value is written as a list of `Token`s: marks, quoted texts and numbers. The tokens are what can
fail one by one: an integer with too many digits cannot be written, and whoever stores the text
cannot store a lone half. Three `Layout`s are in use, each a value of one record: the compact line
of the server and of log lines, and the indented document of the dismissal file.
-/

namespace IssueDigest.Json

/-- How a value is laid out. -/
structure Layout where
  /-- Are all characters beyond ASCII escaped? -/
  ascii : Bool
  /-- How many spaces a level is indented; none for a single line. -/
  indent : Option Nat
  /-- Are the fields of objects sorted by name? -/
  sorted : Bool
  deriving DecidableEq, Repr

/-- A piece of written text. -/
inductive Token where
  /-- Punctuation, words and blanks. -/
  | mark (s : String)
  /-- A quoted text. -/
  | text (t : Text)
  /-- An integer. -/
  | int (n : Int)
  /-- A float. -/
  | float (x : Float)

/-- The words for numbers that are not finite. -/
def specialWords : SpecialWords where
  nan := "NaN"
  infinity := "Infinity"

/-- The escape of a 16-bit unit. -/
def escapeUnit (n : Nat) : Text := "\\u" ++ Text.ofChars (Text.hexDigits 4 n)

/-- A code point inside quotes; `ascii` says whether those beyond ASCII are escaped. -/
def escape (ascii : Bool) (c : CodePoint) : Text :=
  if c = .char '"' then "\\\""
  else if c = .char '\\' then "\\\\"
  else if c = .char '\n' then "\\n"
  else if c = .char '\r' then "\\r"
  else if c = .char '\t' then "\\t"
  else if c.toNat = 12 then "\\f"
  else if c.toNat = 8 then "\\b"
  else if c.toNat < 32 then escapeUnit c.toNat
  else if ascii && 126 < c.toNat then
    if c.toNat < 0x10000 then escapeUnit c.toNat
    else
      escapeUnit (0xD800 + (c.toNat - 0x10000) / 0x400)
        ++ escapeUnit (0xDC00 + (c.toNat - 0x10000) % 0x400)
  else [c]

/-- A text between quotes. -/
def quote (ascii : Bool) (t : Text) : Text :=
  .char '"' :: t.flatMap (escape ascii) ++ [.char '"']

namespace Token

/-- The text of a token, whatever its size. -/
def render (ascii : Bool) : Token → Text
  | mark s => s
  | text t => quote ascii t
  | int n => Text.ofInt n
  | float x => writeFloat specialWords x

/-- Refuses an integer with too many digits. -/
def check : Token → Except Fault Unit
  | int n => if Numeral.isWritable n then .ok () else .error (.refused .integerUnwritable)
  | _ => .ok ()

end Token

/-- Where an indented line breaks. -/
def Layout.break (l : Layout) (level : Nat) : List Token :=
  match l.indent with
  | none => []
  | some width => [.mark (String.ofList ('\n' :: List.replicate (level * width) ' '))]

/-- What stands between two items. -/
def Layout.between (l : Layout) (level : Nat) : List Token :=
  if l.indent.isNone then [.mark ", "] else .mark "," :: l.break level

/-- Items between brackets. -/
def Layout.enclose (l : Layout) (level : Nat) (opening closing : String)
    (items : List (List Token)) : List Token :=
  if items.isEmpty then [.mark (opening ++ closing)]
  else
    .mark opening :: l.break (level + 1) ++ List.intercalate (l.between (level + 1)) items
      ++ l.break level ++ [.mark closing]

mutual

/-- The tokens of a value at a level of nesting. -/
def tokensAt (l : Layout) (level : Nat) : Json → List Token
  | .null => [.mark "null"]
  | .bool true => [.mark "true"]
  | .bool false => [.mark "false"]
  | .int n => [.int n]
  | .float x => [.float x]
  | .text t => [.text t]
  | .list items => l.enclose level "[" "]" (tokensOfItems l (level + 1) items)
  | .object fields =>
    l.enclose level "\x7b" "\x7d"
      ((if l.sorted then
          (tokensOfFields l (level + 1) fields).mergeSort fun a b => !Text.before b.1 a.1
        else tokensOfFields l (level + 1) fields).map Prod.snd)

/-- The tokens of each item. -/
def tokensOfItems (l : Layout) (level : Nat) : List Json → List (List Token)
  | [] => []
  | v :: rest => tokensAt l level v :: tokensOfItems l level rest

/-- The tokens of each field, with its name. -/
def tokensOfFields (l : Layout) (level : Nat) : List (Text × Json) → List (Text × List Token)
  | [] => []
  | (name, v) :: rest =>
    (name, .text name :: .mark ": " :: tokensAt l level v) :: tokensOfFields l level rest

end

/-- The tokens of a value. -/
def tokens (l : Layout) (v : Json) : List Token := tokensAt l 0 v

/-- The text of a value, whatever the size of its integers. -/
def render (l : Layout) (v : Json) : Text := (v.tokens l).flatMap (Token.render l.ascii)

/-- The text of a value, unless an integer has too many digits. -/
def write (l : Layout) (v : Json) : Except Fault Text := do
  (v.tokens l).forM Token.check
  pure (v.render l)

/-- One line, ASCII only. -/
def asciiLine : Layout := ⟨true, none, false⟩

/-- One line, characters as they are. -/
def plainLine : Layout := ⟨false, none, false⟩

/-- Indented, ASCII only. -/
def asciiPage : Layout := ⟨true, some 2, false⟩

/-- Indented, characters as they are, fields sorted. -/
def sortedPage : Layout := ⟨false, some 2, true⟩

end IssueDigest.Json
