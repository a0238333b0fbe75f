import IssueDigest.Number.Numeral
import IssueDigest.Yaml.Cursor
/-!
# Scalars

Four ways to write a text:

* plain, on its own, to the end of the node;
* between single quotes, where a quote is written twice;
* between double quotes, with escapes;
* as a block of indented lines, folded or not.

In the first three a single line end inside the text is a space, and of more of them the first is
left out. A folded block treats its lines in the same way, unless one of them is indented further.
-/

namespace IssueDigest.Yaml

/-- The line ends of a scalar as it keeps them: a line feed alone becomes a space, and of more line
ends a line feed in front is left out. -/
def foldBreaks (first : Char) (others : List Char) : List Char :=
  if keptBreak first != '\n' then keptBreak first :: others
  else if others.isEmpty then [' ']
  else others

/-! ## Quoted -/

/-- The character of an escape of one letter. -/
def escapeLetter? : Char → Option Char
  | '0' => some '\x00'
  | 'a' => some '\x07'
  | 'b' => some '\x08'
  | 't' => some '\t'
  | '\t' => some '\t'
  | 'n' => some '\n'
  | 'v' => some '\x0b'
  | 'f' => some '\x0c'
  | 'r' => some '\r'
  | 'e' => some '\x1b'
  | ' ' => some ' '
  | '"' => some '"'
  | '\\' => some '\\'
  | '/' => some '/'
  | 'N' => some '\u0085'
  | '_' => some '\u00a0'
  | 'L' => some '\u2028'
  | 'P' => some '\u2029'
  | _ => none

/-- How many hexadecimal digits follow the letter of an escape. -/
def escapeWidth? : Char → Option Nat
  | 'x' => some 2
  | 'u' => some 4
  | 'U' => some 8
  | _ => none

/-- The code point of a number in an escape. -/
def escapedPoint (n : Nat) : Except Fault CodePoint :=
  match CodePoint.ofNat? n with
  | some c => .ok c
  | none => .error (if n < 0x80000000 then .refused .badCodePoint else .hugeCodePoint)

/-- The code point of the digits in front of a text. -/
def readEscape (width : Nat) (c : Cursor) : Except Fault (Text × Cursor) := do
  let digits := c.rest.take width
  if digits.length < width || !digits.all isHexDigit then refuse
  let point ← escapedPoint (Numeral.value 16 0 digits)
  pure ([point], c.advance width)

/-- The line ends of empty lines inside quotes; no mark between documents may stand there. -/
def quotedBreaks : Nat → Cursor → Except Fault (List Char × Cursor)
  | 0, c => .ok ([], c)
  | fuel + 1, c =>
    if c.isDocumentMark then refuse
    else
      let c := c.skipWhile isBlank
      if isBreak c.peek then
        (quotedBreaks fuel c.next).map fun (more, after) => (keptBreak c.peek :: more, after)
      else .ok ([], c)

/-- Does the character interrupt a run inside quotes? -/
def interruptsQuoted (ch : Char) : Bool :=
  isGap ch || ch == '\'' || ch == '"' || ch == '\\'

/-- Reads the text inside quotes up to a blank, a line end or the closing quote. -/
def quotedRun (double : Bool) : Nat → Cursor → Except Fault (Text × Cursor)
  | 0, c => .ok ([], c)
  | fuel + 1, c => do
    let (run, c) := c.takeWhile fun ch => !interruptsQuoted ch
    let goOn (piece : Text) (c : Cursor) : Except Fault (Text × Cursor) :=
      (quotedRun double fuel c).map fun (more, c) => (Text.ofChars run ++ piece ++ more, c)
    let ch := c.peek
    if !double && ch == '\'' && c.peekAt 1 == '\'' then goOn [.char '\''] (c.advance 2)
    else if (double && ch == '\'') || (!double && (ch == '"' || ch == '\\')) then
      goOn [.char ch] c.next
    else if double && ch == '\\' then
      let c := c.next
      match escapeLetter? c.peek, escapeWidth? c.peek with
      | some x, _ => goOn [.char x] c.next
      | none, some width =>
        let (piece, c) ← readEscape width c.next
        goOn piece c
      | none, none =>
        if isBreak c.peek then
          let (breaks, c) ← quotedBreaks c.bound c.next
          goOn (Text.ofChars breaks) c
        else refuse
    else pure (Text.ofChars run, c)

/-- Reads blanks or line ends inside quotes. -/
def quotedGap (c : Cursor) : Except Fault (Text × Cursor) := do
  let (blanks, c) := c.takeWhile isBlank
  if c.peek == theEnd then refuse
  else if isBreak c.peek then
    let (others, after) ← quotedBreaks c.bound c.next
    pure (Text.ofChars (foldBreaks c.peek others), after)
  else pure (Text.ofChars blanks, c)

/-- Reads runs and gaps in turn up to the closing quote, which is passed. -/
def quotedPieces (double : Bool) : Nat → Cursor → Except Fault (Text × Cursor)
  | 0, _ => refuse
  | fuel + 1, c => do
    let (run, c) ← quotedRun double c.bound c
    if c.peek == (if double then '"' else '\'') then pure (run, c.next)
    else
      let (gap, c) ← quotedGap c
      let (more, c) ← quotedPieces double fuel c
      pure (run ++ gap ++ more, c)

/-- Reads a text between quotes, the first of which stands here. -/
def readQuoted (double : Bool) (c : Cursor) : Except Fault (Text × Cursor) :=
  quotedPieces double c.bound c.next

/-! ## Plain -/

/-- Does a plain text end in front of this character and the one after it? -/
def endsPlain (inFlow : Bool) (ch after : Char) : Bool :=
  isGap ch
    || (ch == ':' && (isGap after || (inFlow && ",[]\x7b\x7d".toList.contains after)))
    || (inFlow && ",?[]\x7b\x7d".toList.contains ch)

/-- The front of a text up to where a plain text ends. -/
def plainRun (inFlow : Bool) : List Char → List Char
  | [] => []
  | ch :: rest =>
    if endsPlain inFlow ch (rest.headD theEnd) then [] else ch :: plainRun inFlow rest

/-- The line ends of empty lines behind a plain text; none if a mark between documents ends it. -/
def plainBreaks : Nat → Cursor → Option (List Char) × Cursor
  | 0, c => (some [], c)
  | fuel + 1, c =>
    if c.isDocumentMark then (none, c)
    else
      let c := c.skipSpaces
      if isBreak c.peek then
        let (more, after) := plainBreaks fuel c.next
        (more.map (keptBreak c.peek :: ·), after)
      else (some [], c)

/-- What stands between two runs of a plain text. -/
structure PlainGap where
  /-- The blanks and line ends as the text keeps them; nothing if the text ends here. -/
  text : List Char
  /-- Does a line end here? -/
  breaksLine : Bool
  /-- The place behind the gap. -/
  after : Cursor

/-- Reads what stands between two runs of a plain text. -/
def plainGap (c : Cursor) : PlainGap :=
  let (spaces, c) := c.takeWhile (· == ' ')
  if isBreak c.peek then
    match plainBreaks c.bound c.next with
    | (none, after) => ⟨[], true, after⟩
    | (some others, after) => ⟨foldBreaks c.peek others, true, after⟩
  else ⟨spaces, false, c⟩

/-- A plain text that was read. -/
structure Plain where
  text : List Char
  /-- Did its last line end? -/
  breaksLine : Bool
  /-- The place behind it. -/
  after : Cursor

/-- Reads runs and gaps in turn, `gap` standing in front. Further lines must be indented by as much
as `indent` says, unless brackets are open. -/
def plainPieces (inFlow : Bool) (indent : Nat) : Nat → PlainGap → Plain
  | 0, gap => ⟨[], gap.breaksLine, gap.after⟩
  | fuel + 1, gap =>
    let run := plainRun inFlow gap.after.rest
    if gap.after.peek == '#' || run.isEmpty then ⟨[], gap.breaksLine, gap.after⟩
    else
      let next := plainGap (gap.after.advance run.length)
      if next.text.isEmpty || next.after.peek == '#' || (!inFlow && next.after.column < indent) then
        ⟨gap.text ++ run, next.breaksLine, next.after⟩
      else
        let more := plainPieces inFlow indent fuel next
        { more with text := gap.text ++ run ++ more.text }

/-- Reads a plain text that starts here. -/
def readPlain (inFlow : Bool) (indent : Nat) (c : Cursor) : Plain :=
  plainPieces inFlow indent c.bound ⟨[], false, c⟩

/-! ## Blocks -/

/-- What becomes of the line ends behind a block. -/
inductive Chomping where
  /-- One is kept. -/
  | clip
  /-- All are kept. -/
  | keep
  /-- None is kept. -/
  | strip
  deriving DecidableEq, Repr

/-- What the first line of a block says. -/
structure BlockHeader where
  chomping : Chomping
  /-- How much further than what surrounds it the block is indented. -/
  increment : Option Nat

/-- The chomping that a sign stands for. -/
def chompingOf? : Char → Option Chomping
  | '+' => some .keep
  | '-' => some .strip
  | _ => none

/-- Reads how much further a block is indented, if that is said. -/
def readIncrement (c : Cursor) : Except Fault (Option Nat × Cursor) :=
  if c.peek == '0' then refuse
  else if c.peek.isDigit then .ok (some (c.peek.toNat - 48), c.next)
  else .ok (none, c)

/-- Reads the first line of a block behind its sign. -/
def readHeader (c : Cursor) : Except Fault (BlockHeader × Cursor) := do
  let (header, c) ←
    match chompingOf? c.peek with
    | some chomping => do
      let (increment, c) ← readIncrement c.next
      pure ((⟨chomping, increment⟩ : BlockHeader), c)
    | none => do
      let (increment, c) ← readIncrement c
      match increment.bind fun _ => chompingOf? c.peek with
      | some chomping => pure (⟨chomping, increment⟩, c.next)
      | none => pure (⟨.clip, increment⟩, c)
  if !isSpaceOrEnd c.peek then refuse
  let c ← c.endLine
  pure (header, c)

/-- Passes spaces, but not beyond the column. -/
def skipIndent (indent : Nat) (c : Cursor) : Cursor :=
  c.advance (min (indent - c.column) (c.rest.takeWhile (· == ' ')).length)

/-- The line ends of empty lines in a block, which may be indented less. -/
def blockBreaks (indent : Nat) : Nat → Cursor → List Char × Cursor
  | 0, c => ([], c)
  | fuel + 1, c =>
    let c := skipIndent indent c
    if isBreak c.peek then
      let (more, after) := blockBreaks indent fuel c.next
      (keptBreak c.peek :: more, after)
    else ([], c)

/-- The line ends of empty lines in front of a block, and how far the widest line up to its first
character is indented. -/
def leadingBreaks : Nat → Cursor → List Char × Nat × Cursor
  | 0, c => ([], 0, c)
  | fuel + 1, c =>
    let (spaces, c) := c.takeWhile (· == ' ')
    let width := if spaces.isEmpty then 0 else c.column
    if isBreak c.peek then
      let (more, wider, after) := leadingBreaks fuel c.next
      (keptBreak c.peek :: more, max width wider, after)
    else ([], width, c)

/-- The lines of a block that were read. -/
structure BlockLines where
  text : List Char
  /-- The line end of the last line. -/
  lastBreak : List Char
  /-- The line ends of the empty lines behind it. -/
  tail : List Char
  /-- The place behind the block. -/
  after : Cursor

/-- Does a line of the block start here? -/
def startsLine (indent : Nat) (c : Cursor) : Bool := c.column == indent && c.peek != theEnd

/-- What a block keeps of the line end between two lines and of those of empty lines between them;
`outdented` says that neither line starts with a blank. -/
def joinLines (folded outdented : Bool) (lineEnd : List Char) (empty : List Char) : List Char :=
  if folded && lineEnd == ['\n'] && outdented then (if empty.isEmpty then [' '] else [])
  else lineEnd

/-- Reads the lines of a block from the first one on; `empty` are the line ends in front. -/
def blockLines (folded : Bool) (indent : Nat) : Nat → List Char → Cursor → BlockLines
  | 0, empty, c => ⟨[], [], empty, c⟩
  | fuel + 1, empty, c =>
    let (line, behind) := c.takeWhile fun ch => !isLineEnd ch
    let lineEnd := if isBreak behind.peek then [keptBreak behind.peek] else []
    let (tail, after) := blockBreaks indent c.bound behind.next
    if startsLine indent after then
      let outdented := !isBlank c.peek && !isBlank after.peek
      let more := blockLines folded indent fuel tail after
      { more with text := empty ++ line ++ joinLines folded outdented lineEnd tail ++ more.text }
    else ⟨empty ++ line, lineEnd, tail, after⟩

/-- The text of a block. -/
def BlockLines.chomp (b : BlockLines) : Chomping → List Char
  | .clip => b.text ++ b.lastBreak
  | .keep => b.text ++ b.lastBreak ++ b.tail
  | .strip => b.text

/-- Reads a block, whose sign stands here, indented by at least `least`. -/
def readBlock (folded : Bool) (least : Nat) (c : Cursor) : Except Fault (Text × Cursor) := do
  let (header, c) ← readHeader c.next
  let fuel := c.bound
  let (empty, indent, c) := match header.increment with
    | some n =>
      let indent := least + n - 1
      let (empty, c) := blockBreaks indent fuel c
      (empty, indent, c)
    | none =>
      let (empty, width, c) := leadingBreaks fuel c
      (empty, max least width, c)
  let lines := if startsLine indent c then blockLines folded indent fuel empty c
    else ⟨[], [], empty, c⟩
  pure (Text.ofChars (lines.chomp header.chomping), lines.after)

end IssueDigest.Yaml
