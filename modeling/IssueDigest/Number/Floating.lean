import IssueDigest.Number.Numeral
/-!
# Floats as text

A float is read from decimal digits of any script with an optional point and exponent, or from one
of the words for no number and for infinity, in either case; a sign may stand in front and blanks
around the whole.
-/

namespace IssueDigest.Numeral

/-- An exponent in front of a text, as its sign and digits, and what follows it. -/
def exponent? : List Char → Option (Bool × List Char × List Char)
  | e :: rest =>
    if e == 'e' || e == 'E' then
      let (negative, rest) := splitSign rest
      let digits := rest.takeWhile Char.isDigit
      if digits.isEmpty then none else some (negative, digits, rest.dropWhile Char.isDigit)
    else none
  | [] => none

/-- The float of the digits before and behind the point and of an exponent. -/
def assemble (whole part : List Char) (down : Bool) (exponent : List Char) : Float :=
  let e : Int := value 10 0 exponent
  floatOfDecimal (value 10 0 (whole ++ part)) ((if down then -e else e) - part.length)

/-- The digits behind a point in front of a text, and what follows them. -/
def splitFraction : List Char → List Char × List Char
  | '.' :: rest => (rest.takeWhile Char.isDigit, rest.dropWhile Char.isDigit)
  | cs => ([], cs)

/-- The float without a sign that a text in small letters stands for. -/
def magnitude? (cs : List Char) : Option Float :=
  if cs == "inf".toList || cs == "infinity".toList then some (1.0 / 0.0)
  else if cs == "nan".toList then some (0.0 / 0.0)
  else
    let whole := cs.takeWhile Char.isDigit
    let (part, rest) := splitFraction (cs.dropWhile Char.isDigit)
    if whole.isEmpty && part.isEmpty then none
    else
      match rest, exponent? rest with
      | [], _ => some (assemble whole part false [])
      | _, some (down, digits, []) => some (assemble whole part down digits)
      | _, _ => none

/-- The float that a text stands for. -/
def readFloat (t : Text) : Except Fault Float :=
  let cs := ((t.map plain).dropWhile isMargin).reverse.dropWhile isMargin
  let (negative, body) := splitSign cs.reverse
  match magnitude? (body.map Char.toLower) with
  | some x => .ok (if negative then -x else x)
  | none => .error (.refused (.notFloat t))

end IssueDigest.Numeral
