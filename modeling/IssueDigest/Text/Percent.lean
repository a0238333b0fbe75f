import IssueDigest.Text.Utf8
/-!
# Percent escapes

Identifiers are written with every octet but the unreserved ones as `%` and two hexadecimal digits,
so that the written form holds no `/`. Reading takes any spelling: the octets of a run of ASCII
characters, escaped or plain, are read together, with a replacement character for every defect, and
a `%` without two hexadecimal digits stands for itself.
-/

namespace IssueDigest.Percent

/-- May the octet stand for itself: a letter, a digit or one of `_.-~`? -/
def isUnreserved (b : UInt8) : Bool :=
  let c := Char.ofNat b.toNat
  b < 0x80 && (c.isAlphanum || c == '_' || c == '.' || c == '-' || c == '~')

/-- A hexadecimal digit, in capitals. -/
def hexDigit (n : Nat) : Char := if n < 10 then Char.ofNat (48 + n) else Char.ofNat (55 + n)

/-- The value of a hexadecimal digit of either case. -/
def hexValue? (c : Char) : Option Nat :=
  if '0' ≤ c && c ≤ '9' then some (c.toNat - 48)
  else if 'A' ≤ c && c ≤ 'F' then some (c.toNat - 55)
  else if 'a' ≤ c && c ≤ 'f' then some (c.toNat - 87)
  else none

/-- The written form of one octet. -/
def encodeOctet (b : UInt8) : List Char :=
  if isUnreserved b then [Char.ofNat b.toNat]
  else ['%', hexDigit (b.toNat / 16), hexDigit (b.toNat % 16)]

/-- The written form of a list of scalar values. -/
def encode (cs : List Char) : List Char := (Utf8.encode cs).flatMap encodeOctet

/-- A piece of escaped text: an octet, or a character beyond ASCII that stands for itself. -/
inductive Piece where
  /-- An octet, escaped or plain. -/
  | octet (b : UInt8)
  /-- A character beyond ASCII. -/
  | wide (c : Char)
  deriving DecidableEq, Repr

/-- A character that is not part of an escape. -/
def Piece.plain (c : Char) : Piece := if c.toNat < 0x80 then .octet c.toNat.toUInt8 else .wide c

/-- The pieces of escaped text. -/
def pieces : List Char → List Piece
  | '%' :: h :: l :: rest =>
    match hexValue? h, hexValue? l with
    | some x, some y => .octet (x * 16 + y).toUInt8 :: pieces rest
    | _, _ => .plain '%' :: pieces (h :: l :: rest)
  | c :: rest => .plain c :: pieces rest
  | [] => []

/-- Reads pieces, after octets that wait in reverse for the rest of their run. -/
def regroup (waiting : List UInt8) : List Piece → List Char
  | [] => Utf8.decodeLossy waiting.reverse
  | .octet b :: rest => regroup (b :: waiting) rest
  | .wide c :: rest => Utf8.decodeLossy waiting.reverse ++ c :: regroup [] rest

/-- The scalar values that escaped text stands for. -/
def decode (cs : List Char) : List Char := regroup [] (pieces cs)

end IssueDigest.Percent
