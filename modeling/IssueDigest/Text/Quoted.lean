import IssueDigest.Text.Printable
/-!
# Quoted texts

How a text is shown inside a message: between single quotes, or between double quotes when it holds
a single quote and no double one. Backslash, the quote itself, tab, line feed and carriage return
are escaped with a letter, all else that is not printable with its number in hexadecimal.
-/

namespace IssueDigest.Text

/-- `width` hexadecimal digits of `n`, in small letters, zeros in front. -/
def hexDigits (width n : Nat) : List Char :=
  let digits := Nat.toDigits 16 n
  List.replicate (width - digits.length) '0' ++ digits

/-- One code point inside a text quoted with `quote`. -/
def quoteCode (quote : Char) (c : CodePoint) : Text :=
  if c = .char quote || c = .char '\\' then [.char '\\', c]
  else if c = .char '\t' then "\\t"
  else if c = .char '\n' then "\\n"
  else if c = .char '\r' then "\\r"
  else if c.isPrintable then [c]
  else if c.toNat < 0x100 then "\\x" ++ ofChars (hexDigits 2 c.toNat)
  else if c.toNat < 0x10000 then "\\u" ++ ofChars (hexDigits 4 c.toNat)
  else "\\U" ++ ofChars (hexDigits 8 c.toNat)

/-- The quote for a text: single, unless the text holds a single quote and no double one. -/
def quoteFor (t : Text) : Char :=
  if t.contains (.char '\'') && !t.contains (.char '"') then '"' else '\''

/-- The text as a message shows it. -/
def quoted (t : Text) : Text :=
  let quote := quoteFor t
  .char quote :: t.flatMap (quoteCode quote) ++ [.char quote]

/-- A list of texts as a message shows it. -/
def quotedList (ts : List Text) : Text :=
  "[" ++ joinWith ", " (ts.map quoted) ++ "]"

/-- One octet inside a quoted octet string. -/
def quoteOctet (quote : Char) (b : UInt8) : Text :=
  if b.toNat < 128 && CodePoint.isPrintable (.char (Char.ofNat b.toNat)) || b == 9 || b == 10 || b == 13 then
    quoteCode quote (.char (Char.ofNat b.toNat))
  else "\\x" ++ ofChars (hexDigits 2 b.toNat)

/-- An octet string as a message shows it. -/
def quotedOctets (bs : List UInt8) : Text :=
  let quote := quoteFor (bs.map fun b => .char (Char.ofNat b.toNat))
  .char 'b' :: .char quote :: bs.flatMap (quoteOctet quote) ++ [.char quote]

end IssueDigest.Text
