import IssueDigest.Number.Binary
import IssueDigest.Text.CodePoint
/-!
# Shortest decimals

A finite float is written with the fewest digits that read back as it; of two such decimals the
nearer one, and on a tie the one whose last digit is even. Which decimals read back is decided in
exact arithmetic: those between the midpoints to the neighbours, the midpoints included when the
significand is even.

Numbers from `10 ^ -4` up to `10 ^ 16` are written positionally, with `.0` after an integral one,
all others with a signed exponent of at least two digits.
-/

namespace IssueDigest

/-- The decimal number `digits * 10 ^ exponent`. -/
structure Decimal where
  /-- The integer in front. -/
  digits : Nat
  /-- The power of ten. -/
  exponent : Int
  deriving DecidableEq, Repr

namespace Decimal

/-- Compares `a * 10 ^ i` with `n * 2 ^ j`. -/
def compareScaled (a : Nat) (i : Int) (n : Nat) (j : Int) : Ordering :=
  compare (a * Nat.pow 10 i.toNat * Nat.pow 2 (-j).toNat) (n * Nat.pow 2 j.toNat * Nat.pow 10 (-i).toNat)

/-- Does the decimal read back as the magnitude? -/
def readsBack (b : Binary) (d : Decimal) : Bool :=
  let low := 4 * b.significand - (if b.narrowBelow then 1 else 2)
  let high := 4 * b.significand + 2
  let even := b.significand % 2 == 0
  let atLow := compareScaled d.digits d.exponent low (b.exponent - 2)
  let atHigh := compareScaled d.digits d.exponent high (b.exponent - 2)
  (atLow == .gt || (even && atLow == .eq)) && (atHigh == .lt || (even && atHigh == .eq))

/-- How many digits stand before the point of a positive magnitude, counted down to negative numbers
for leading zeros: the least `k` for which the magnitude is below `10 ^ k`. -/
def scale (b : Binary) : Int :=
  let guess : Int := ((b.significand.log2 : Int) + b.exponent) * 30103 / 100000
  ((List.range 4).map fun (i : Nat) => guess - 1 + i).find?
      (fun k => compareScaled 1 k b.significand b.exponent == .gt)
    |>.getD (guess + 3)

/-- The candidate on the grid of `10 ^ exponent` that reads back and is nearest. -/
def onGrid (b : Binary) (exponent : Int) : Option Decimal :=
  let num := b.significand * Nat.pow 2 b.exponent.toNat * Nat.pow 10 (-exponent).toNat
  let den := Nat.pow 2 (-b.exponent).toNat * Nat.pow 10 exponent.toNat
  let floor := num / den
  let below : Decimal := ⟨floor, exponent⟩
  let above : Decimal := ⟨floor + 1, exponent⟩
  match readsBack b below, readsBack b above with
  | true, true =>
    match compare (2 * num) ((2 * floor + 1) * den) with
    | .lt => some below
    | .gt => some above
    | .eq => some (if floor % 2 == 0 then below else above)
  | true, false => some below
  | false, true => some above
  | false, false => none

/-- The digits without zeros at their end, which go into the exponent. -/
def strip : Nat → Decimal → Decimal
  | 0, d => d
  | fuel + 1, d =>
    if d.digits != 0 && d.digits % 10 == 0 then strip fuel ⟨d.digits / 10, d.exponent + 1⟩ else d

/-- The shortest decimal that reads back as a positive magnitude: seventeen digits always do. -/
def shortest (b : Binary) : Decimal :=
  let k := scale b
  let found := ((List.range 17).findSome? fun (n : Nat) => onGrid b (k - (n + 1))).getD ⟨0, 0⟩
  strip 17 found

/-- Digits with the point after the first `whole` of them. -/
def placePoint (digits : List Char) (whole : Int) : List Char :=
  if whole ≤ 0 then '0' :: '.' :: List.replicate (-whole).toNat '0' ++ digits
  else if digits.length ≤ whole then
    digits ++ List.replicate (whole.toNat - digits.length) '0' ++ ['.', '0']
  else digits.take whole.toNat ++ '.' :: digits.drop whole.toNat

/-- The written form of a positive decimal. -/
def layout (d : Decimal) : List Char :=
  let digits := Nat.toDigits 10 d.digits
  let whole : Int := digits.length + d.exponent
  if -4 < whole && whole ≤ 16 then placePoint digits whole
  else
    let e := whole - 1
    let magnitude := Nat.toDigits 10 e.natAbs
    let front :=
      match digits with
      | [c] => [c]
      | c :: cs => c :: '.' :: cs
      | [] => []
    front ++ 'e' :: (if e < 0 then '-' else '+')
      :: List.replicate (2 - magnitude.length) '0' ++ magnitude

end Decimal

/-- How numbers that are no finite numbers are written. -/
structure SpecialWords where
  /-- What stands for no number. -/
  nan : String
  /-- What stands for infinity. -/
  infinity : String
  deriving DecidableEq, Repr

/-- The written form of a float. -/
def FloatClass.write (words : SpecialWords) : FloatClass → List Char
  | nan => words.nan.toList
  | infinite negative => (if negative then ['-'] else []) ++ words.infinity.toList
  | finite negative b =>
    (if negative then ['-'] else [])
      ++ (if b.significand == 0 then ['0', '.', '0'] else (Decimal.shortest b).layout)

/-- The written form of a float with the given words. -/
def writeFloat (words : SpecialWords) (x : Float) : Text :=
  Text.ofChars ((FloatClass.of x).write words)

end IssueDigest
