/-!
# Floats as exact numbers

A finite float is `significand * 2 ^ exponent`, with a sign. Everything the library asks of a float
(is it integral, which integer is it cut to, which decimals read back as it) is asked of these
integers.
-/

namespace IssueDigest

/-- The magnitude of a finite float, `significand * 2 ^ exponent`. -/
structure Binary where
  /-- The integer in front. -/
  significand : Nat
  /-- The power of two. -/
  exponent : Int
  /-- Is the gap to the next smaller magnitude half the gap to the next larger one? -/
  narrowBelow : Bool
  deriving DecidableEq, Repr

namespace Binary

/-- The magnitude that the bits of a finite float stand for. -/
def ofBits (bits : UInt64) : Binary :=
  let e := ((bits >>> 52) &&& 0x7FF).toNat
  let f := (bits &&& 0xFFFFFFFFFFFFF).toNat
  if e == 0 then ⟨f, -1074, false⟩ else ⟨Nat.pow 2 52 + f, (e : Int) - 1075, f == 0 && 1 < e⟩

/-- The magnitude of a finite float. -/
def ofFloat (x : Float) : Binary := ofBits x.toBits

/-- The integer part. -/
def truncate (b : Binary) : Nat :=
  if 0 ≤ b.exponent then b.significand * Nat.pow 2 b.exponent.toNat
  else b.significand / Nat.pow 2 (-b.exponent).toNat

/-- Has the number no fractional part? -/
def isIntegral (b : Binary) : Bool :=
  0 ≤ b.exponent || b.significand % Nat.pow 2 (-b.exponent).toNat == 0

end Binary

/-- A float by its kind. -/
inductive FloatClass where
  /-- No number. -/
  | nan
  /-- An infinity. -/
  | infinite (negative : Bool)
  /-- A finite number. -/
  | finite (negative : Bool) (magnitude : Binary)
  deriving DecidableEq, Repr

/-- The kind of a float. -/
def FloatClass.of (x : Float) : FloatClass :=
  let negative := x.toBits >>> 63 == 1
  if x.isNaN then nan
  else if x.isInf then infinite negative
  else finite negative (Binary.ofFloat x)

/-- The integer that a finite float is, if it is integral. -/
def FloatClass.int? : FloatClass → Option Int
  | finite negative b =>
    if b.isIntegral then some (if negative then -(b.truncate : Int) else b.truncate) else none
  | _ => none

/-- The float nearest to `digits * 10 ^ exponent`. Powers far outside the range of floats are not
computed. -/
def floatOfDecimal (digits : Nat) (exponent : Int) : Float :=
  let magnitude := (Nat.toDigits 10 digits).length + exponent
  if digits == 0 || magnitude < -400 then 0.0
  else if 400 < magnitude then 1.0 / 0.0
  else OfScientific.ofScientific digits (exponent < 0) exponent.natAbs

end IssueDigest
