import IssueDigest.Fault
/-!
# Places in a document

A `Cursor` is what is left of the text, with the number of characters, lines and columns passed. It
looks ahead without end: behind the text there is nothing but NUL, which no document holds. Line
ends are line feeds, next-line characters and the two Unicode separators; carriage returns are gone
by the time a document is read. A byte order mark takes up no column.
-/

namespace IssueDigest.Yaml

/-- The text is not in the document format. -/
def refuse {α : Type} : Except Fault α := .error (.refused .badYaml)

/-- The character that stands for the end of the text. -/
def theEnd : Char := '\x00'

/-- Does the character end a line? -/
def isBreak (c : Char) : Bool := c == '\n' || c == '\u0085' || c == '\u2028' || c == '\u2029'

/-- Does the character end a line or the text? -/
def isLineEnd (c : Char) : Bool := c == theEnd || isBreak c

/-- Is the character a space or a tab? -/
def isBlank (c : Char) : Bool := c == ' ' || c == '\t'

/-- Is the character a space, or does it end a line or the text? -/
def isSpaceOrEnd (c : Char) : Bool := c == ' ' || isLineEnd c

/-- Is the character a blank, or does it end a line or the text? -/
def isGap (c : Char) : Bool := isBlank c || isLineEnd c

/-- The line end that a scalar keeps: next-line characters become line feeds. -/
def keptBreak (c : Char) : Char := if c == '\u0085' then '\n' else c

/-- Is the character a letter or digit of ASCII, a hyphen or an underscore? -/
def isNameChar (c : Char) : Bool := c.isAlphanum || c == '-' || c == '_'

/-- Is the character a hexadecimal digit? -/
def isHexDigit (c : Char) : Bool :=
  c.isDigit || ('a' ≤ c && c ≤ 'f') || ('A' ≤ c && c ≤ 'F')

/-- A place in a document. -/
structure Cursor where
  /-- How many characters the text has. -/
  total : Nat
  /-- What is left of the text. -/
  rest : List Char
  /-- How many characters were passed. -/
  index : Nat
  /-- How many lines were passed. -/
  line : Nat
  /-- How many columns of the line were passed. -/
  column : Nat

namespace Cursor

/-- The start of a text. -/
def start (text : List Char) : Cursor := ⟨text.length, text, 0, 0, 0⟩

/-- More than the number of characters that are left. -/
def bound (c : Cursor) : Nat := c.total + 1

/-- The character some places ahead. -/
def peekAt (c : Cursor) (n : Nat) : Char := c.rest.getD n theEnd

/-- The character ahead. -/
def peek (c : Cursor) : Char := c.rest.headD theEnd

/-- Passes a character. -/
def next (c : Cursor) : Cursor :=
  match c.rest with
  | [] => c
  | ch :: rest =>
    if isBreak ch then { c with rest, index := c.index + 1, line := c.line + 1, column := 0 }
    else if ch == '\uFEFF' then { c with rest, index := c.index + 1 }
    else { c with rest, index := c.index + 1, column := c.column + 1 }

/-- Passes some characters. -/
def advance : Nat → Cursor → Cursor
  | 0, c => c
  | n + 1, c => advance n c.next

/-- The characters ahead that satisfy the test, and the place behind them. -/
def takeWhile (test : Char → Bool) (c : Cursor) : List Char × Cursor :=
  let run := c.rest.takeWhile test
  (run, c.advance run.length)

/-- Passes the characters that satisfy the test. -/
def skipWhile (test : Char → Bool) (c : Cursor) : Cursor := (c.takeWhile test).2

/-- Passes spaces. -/
def skipSpaces (c : Cursor) : Cursor := c.skipWhile (· == ' ')

/-- Passes a comment, if one starts here. -/
def skipComment (c : Cursor) : Cursor :=
  if c.peek == '#' then c.skipWhile fun ch => !isLineEnd ch else c

/-- Do three hyphens, or three dots, stand here on their own? -/
def isMark (ch : Char) (c : Cursor) : Bool :=
  [ch, ch, ch].isPrefixOf c.rest && isGap (c.peekAt 3)

/-- Does a mark between documents stand here? -/
def isDocumentMark (c : Cursor) : Bool := c.isMark '-' || c.isMark '.'

/-- Passes the rest of a line on which only a comment may stand. -/
def endLine (c : Cursor) : Except Fault Cursor :=
  let c := c.skipSpaces.skipComment
  if isLineEnd c.peek then .ok c.next else refuse

end Cursor

end IssueDigest.Yaml
