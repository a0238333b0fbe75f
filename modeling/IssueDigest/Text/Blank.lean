import IssueDigest.Text.CodePoint
/-!
# Blanks

Three sets of characters pass for white space in the formats read here. `isBlank` is the widest: the
white space of the character database and the four information separators `0x1C` to `0x1F`.
`isWhite` is the property of the database alone, and `isAsciiBlank` is what may surround the digits
of a number.
-/

namespace IssueDigest

namespace Text

/-- The blanks, as ranges of code points. -/
def blankRanges : List (Nat × Nat) :=
  [(0x9, 0xD), (0x1C, 0x20), (0x85, 0x85), (0xA0, 0xA0), (0x1680, 0x1680), (0x2000, 0x200A),
   (0x2028, 0x2029), (0x202F, 0x202F), (0x205F, 0x205F), (0x3000, 0x3000)]

end Text

namespace CodePoint

/-- Is the code point a blank? -/
def isBlank (c : CodePoint) : Bool := Text.inRanges Text.blankRanges c.toNat

/-- Is the code point white space, the information separators left out? -/
def isWhite (c : CodePoint) : Bool := c.isBlank && !(0x1C ≤ c.toNat && c.toNat ≤ 0x1F)

/-- Is the code point one of tab, line feed, vertical tab, form feed, carriage return and space? -/
def isAsciiBlank (c : CodePoint) : Bool := (9 ≤ c.toNat && c.toNat ≤ 13) || c.toNat == 32

end CodePoint

namespace Text

/-- The text without the code points in front that satisfy the test, nor those at the end. -/
def trimBoth (test : CodePoint → Bool) (t : Text) : Text :=
  ((t.dropWhile test).reverse.dropWhile test).reverse

/-- The text without its surrounding blanks. -/
def trim (t : Text) : Text := t.trimBoth CodePoint.isBlank

end Text

end IssueDigest
