import IssueDigest.Text.CodePoint
/-!
# Octets in base 64

Four characters of an alphabet of 64 stand for three octets. Characters outside the alphabet are
passed over; once padding fills up a group, whatever follows is passed over too. A group that is cut
short without padding is refused.
-/

namespace IssueDigest.Base64

/-- The six bits that a character stands for. -/
def sextet? (c : Char) : Option Nat :=
  if 'A' ≤ c && c ≤ 'Z' then some (c.toNat - 65)
  else if 'a' ≤ c && c ≤ 'z' then some (c.toNat - 71)
  else if c.isDigit then some (c.toNat + 4)
  else if c == '+' then some 62
  else if c == '/' then some 63
  else none

/-- Reads characters; `place` is how many of the group were read, `bits` what is left of them, and
`pads` how many signs of padding were met since. -/
def decodeFrom (place bits pads : Nat) : List Char → Option (List UInt8)
  | [] => if place = 0 then some [] else none
  | c :: rest =>
    if c == '=' then
      if 2 ≤ place && 4 ≤ place + pads + 1 then some []
      else decodeFrom place bits (if 2 ≤ place then pads + 1 else pads) rest
    else
      match sextet? c with
      | none => decodeFrom place bits pads rest
      | some n =>
        if place = 0 then decodeFrom 1 n 0 rest
        else if place = 1 then
          (decodeFrom 2 (n % 16) 0 rest).map ((bits * 4 + n / 16).toUInt8 :: ·)
        else if place = 2 then
          (decodeFrom 3 (n % 4) 0 rest).map ((bits * 16 + n / 4).toUInt8 :: ·)
        else (decodeFrom 0 0 0 rest).map ((bits * 64 + n).toUInt8 :: ·)

/-- The octets that a text stands for. -/
def decode (cs : List Char) : Option (List UInt8) := decodeFrom 0 0 0 cs

end IssueDigest.Base64
