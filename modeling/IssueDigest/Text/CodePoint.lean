/-!
# Code points and texts

A `Char` is a Unicode scalar value, and the two data formats this library reads can both name code
points that are none: the escape `\ud800` in a quoted string stands for one half of a surrogate
pair. A `Text` is a list of code points, scalar values and such halves alike, so that a title or a
dictionary key read from a file is kept as it was written. Identifiers, paths and settings can hold
no halves and stay `String`s; `Text.ofString` embeds them.

Texts are ordered by code point (`Text.before`), which is the order in which sorted keys are
written.
-/

namespace IssueDigest

/-- One Unicode code point: a scalar value, or half of a surrogate pair standing alone. -/
inductive CodePoint where
  /-- A scalar value. -/
  | char (c : Char)
  /-- The surrogate `0xD800 + offset`, standing alone. -/
  | half (offset : Fin 2048)
  deriving DecidableEq, Repr, Inhabited

namespace CodePoint

/-- The number of the code point. -/
def toNat : CodePoint → Nat
  | char c => c.toNat
  | half offset => 0xD800 + offset.val

/-- The code point of a number, if there is one. -/
def ofNat? (n : Nat) : Option CodePoint :=
  if h : n.isValidChar then some (char (Char.ofNatAux n h))
  else if 0xD800 ≤ n then
    if h : n - 0xD800 < 2048 then some (half ⟨n - 0xD800, h⟩) else none
  else none

/-- The scalar value, unless the code point is a lone half. -/
def char? : CodePoint → Option Char
  | char c => some c
  | half _ => none

/-- Does the scalar value satisfy the test? Halves satisfy none. -/
def satisfies (test : Char → Bool) : CodePoint → Bool
  | char c => test c
  | half _ => false

/-- Is the code point below 128? -/
def isAscii (c : CodePoint) : Bool := c.toNat < 128

end CodePoint

/-- A text: code points in order. -/
abbrev Text := List CodePoint

namespace Text

/-- The text of a list of scalar values. -/
def ofChars (cs : List Char) : Text := cs.map .char

/-- The text of a string. -/
def ofString (s : String) : Text := ofChars s.toList

instance : Coe String Text := ⟨ofString⟩

/-- The scalar values of a text that holds no halves. -/
def chars? (t : Text) : Option (List Char) := t.mapM CodePoint.char?

/-- The string of a text that holds no halves. -/
def string? (t : Text) : Option String := t.chars?.map String.ofList

/-- Lexicographic order by code point. -/
def before : Text → Text → Bool
  | [], [] => false
  | [], _ :: _ => true
  | _ :: _, [] => false
  | a :: s, b :: t => a.toNat < b.toNat || (a.toNat == b.toNat && before s t)

/-- The texts with `separator` between each two. -/
def joinWith (separator : Text) : List Text → Text
  | [] => []
  | [t] => t
  | t :: rest => t ++ separator ++ joinWith separator rest

/-- The decimal digits of a natural number. -/
def ofNat (n : Nat) : Text := ofChars (Nat.toDigits 10 n)

/-- An integer in decimal, with a sign in front of a negative one. -/
def ofInt : Int → Text
  | .ofNat n => ofNat n
  | .negSucc n => .char '-' :: ofNat (n + 1)

/-- Does one of the closed ranges hold the number? Sets of characters are given by such ranges, ascending
and apart, and all of them belong to version 14.0.0 of the character database. -/
def inRanges (ranges : List (Nat × Nat)) (n : Nat) : Bool :=
  ranges.any fun r => r.1 ≤ n && n ≤ r.2

end Text

end IssueDigest
