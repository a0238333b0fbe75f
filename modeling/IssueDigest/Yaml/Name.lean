import IssueDigest.Number.Numeral
import IssueDigest.Text.Percent
import IssueDigest.Yaml.Cursor
import IssueDigest.Yaml.Token
/-!
# Names in a document

Anchors and aliases, tags, and the directives in front of a document. Tags may hold escaped octets,
which must be whole characters.
-/

namespace IssueDigest.Yaml

/-- Reads the name of an anchor or an alias, whose first character stands here. -/
def readAnchor (c : Cursor) : Except Fault (List Char × Cursor) :=
  let (name, c) := c.next.takeWhile isNameChar
  if name.isEmpty then refuse
  else if isGap c.peek || "?:,]\x7d%@\x60".toList.contains c.peek then .ok (name, c)
  else refuse

/-- May the character stand in a tag as it is? -/
def isTagChar (ch : Char) : Bool :=
  ch.isAlphanum || "-;/?:@&=+$,_.!~*'()[]".toList.contains ch

/-- The octets of the escapes in front of a text, and how many characters these take. -/
def escapedOctets : List Char → Except Fault (List UInt8 × Nat)
  | '%' :: a :: b :: rest =>
    match Percent.hexValue? a, Percent.hexValue? b with
    | some x, some y => (escapedOctets rest).map fun (bs, n) => ((x * 16 + y).toUInt8 :: bs, n + 3)
    | _, _ => refuse
  | '%' :: _ => refuse
  | _ => .ok ([], 0)

/-- Reads the rest of a tag, pieces without and with escapes in turn. -/
def readTagPieces : Nat → Cursor → Except Fault (List Char × Cursor)
  | 0, c => .ok ([], c)
  | fuel + 1, c => do
    let (piece, c) := c.takeWhile isTagChar
    if c.peek == '%' then
      let (octets, width) ← escapedOctets c.rest
      match Utf8.decode octets with
      | .error _ => refuse
      | .ok cs =>
        let (more, c) ← readTagPieces fuel (c.advance width)
        pure (piece ++ cs ++ more, c)
    else pure (piece, c)

/-- Reads the rest of a tag, which is not empty. -/
def readTagRest (c : Cursor) : Except Fault (List Char × Cursor) := do
  let (name, after) ← readTagPieces c.bound c
  if after.index = c.index then refuse else pure (name, after)

/-- Reads a handle: an exclamation mark alone, or a name between two. -/
def readHandle (c : Cursor) : Except Fault (List Char × Cursor) :=
  if c.peek != '!' then refuse
  else
    let after := c.next
    if after.peek == ' ' then .ok (['!'], after)
    else
      let (name, after) := after.takeWhile isNameChar
      if after.peek == '!' then .ok ('!' :: name ++ ['!'], after.next) else refuse

/-- Has the tag a handle with a name, an exclamation mark before its first space? -/
def hasNamedHandle (cs : List Char) : Bool :=
  (cs.takeWhile fun ch => !isSpaceOrEnd ch).contains '!'

/-- Reads a tag, whose exclamation mark stands here. -/
def readTag (c : Cursor) : Except Fault (TagName × Cursor) := do
  let (tag, c) ←
    if c.peekAt 1 == '<' then do
      let (name, c) ← readTagRest (c.advance 2)
      if c.peek == '>' then pure ((⟨none, name⟩ : TagName), c.next) else refuse
    else if isGap (c.peekAt 1) then pure (⟨none, ['!']⟩, c.next)
    else do
      let (handle, c) ←
        if hasNamedHandle (c.rest.drop 1) then readHandle c else pure (['!'], c.next)
      let (name, c) ← readTagRest c
      pure (⟨some handle, name⟩, c)
  if isSpaceOrEnd c.peek then pure (tag, c) else refuse

/-- Reads a number of a version. -/
def readVersionNumber (c : Cursor) : Except Fault (Int × Cursor) := do
  let (digits, c) := c.takeWhile Char.isDigit
  if digits.isEmpty then refuse
  let n ← Numeral.read (Text.ofChars digits)
  pure (n, c)

/-- Reads the version of the format. -/
def readVersion (c : Cursor) : Except Fault (Token × Cursor) := do
  let (major, c) ← readVersionNumber c.skipSpaces
  if c.peek != '.' then refuse
  let (minor, c) ← readVersionNumber c.next
  if isSpaceOrEnd c.peek then pure (.version ⟨major, minor⟩, c) else refuse

/-- Reads a handle and what it stands for. -/
def readHandleSetting (c : Cursor) : Except Fault (Token × Cursor) := do
  let (handle, c) ← readHandle c.skipSpaces
  if c.peek != ' ' then refuse
  let (start, c) ← readTagRest c.skipSpaces
  if isSpaceOrEnd c.peek then pure (.handle handle start, c) else refuse

/-- Reads a directive, whose percent sign stands here, to the end of its line. -/
def readDirective (c : Cursor) : Except Fault (Token × Cursor) := do
  let (name, c) := c.next.takeWhile isNameChar
  if name.isEmpty || !isSpaceOrEnd c.peek then refuse
  let (token, c) ←
    if name == "YAML".toList then readVersion c
    else if name == "TAG".toList then readHandleSetting c
    else pure (.directive, c.skipWhile fun ch => !isLineEnd ch)
  let c ← c.endLine
  pure (token, c)

end IssueDigest.Yaml
