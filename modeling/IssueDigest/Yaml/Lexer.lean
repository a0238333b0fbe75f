import IssueDigest.Table
import IssueDigest.Yaml.Name
import IssueDigest.Yaml.Scalar
/-!
# Cutting a document into tokens

A key of a mapping need not be marked: it is a key because a colon follows it, on the same line and
within 1024 characters. So wherever a key can start, its place is kept as a `PendingKey`, and the
token in front of it is put in when the colon is met. Where a key must stand, because its line
starts at the column of the mapping, a pending key that turns out to be none is refused.

The tokens that are cut before a fault is met are delivered, and the fault behind them, so that
whoever reads the tokens notices whichever comes first. A pending key is not delivered, nor is
anything behind it.
-/

namespace IssueDigest.Yaml

/-- A place where a key may have started. -/
structure PendingKey where
  /-- How many tokens are in front of it. -/
  number : Nat
  /-- Must it be a key? -/
  required : Bool
  index : Nat
  line : Nat
  column : Nat

/-- How many characters a key without a mark may have. -/
def keyLimit : Nat := 1024

/-- The tokens cut so far and what is left. -/
structure Lexer where
  cursor : Cursor
  /-- The tokens, the last one first. -/
  tokens : List Token
  /-- How many tokens there are. -/
  count : Nat
  /-- How many brackets are open. -/
  flow : Nat
  /-- The column of the innermost block; none outside all blocks. -/
  indent : Option Nat
  /-- The columns of the blocks around it, from the inside out. -/
  outer : List (Option Nat)
  /-- May a key without a mark start here? -/
  keyAllowed : Bool
  /-- The pending keys, by the number of open brackets. -/
  keys : List (Nat × PendingKey)

/-- The tokens of a text, and the fault behind them, if there is one. -/
structure Lexed where
  tokens : List Token
  fault : Option Fault

namespace Lexer

/-- The start of a text. -/
def start (text : List Char) : Lexer :=
  let c := Cursor.start text
  ⟨if c.peek == '\uFEFF' then c.next else c, [], 0, 0, none, [], true, []⟩

/-- Adds a token. -/
def push (l : Lexer) (t : Token) : Lexer :=
  { l with tokens := t :: l.tokens, count := l.count + 1 }

/-- Can the pending key be no key any more? -/
def isStale (l : Lexer) (k : PendingKey) : Bool :=
  k.line != l.cursor.line || keyLimit < l.cursor.index - k.index

/-- The pending keys that can still be keys. -/
def liveKeys (l : Lexer) : List (Nat × PendingKey) := l.keys.filter fun k => !l.isStale k.2

/-- Drops the pending keys that can be no keys any more; a required one is refused. -/
def dropStale (l : Lexer) : Except Fault Lexer :=
  if l.keys.any fun k => l.isStale k.2 && k.2.required then refuse
  else .ok { l with keys := l.liveKeys }

/-- The pending key inside the innermost bracket. -/
def pending? (l : Lexer) : Option PendingKey := Entries.get? l.flow l.keys

/-- Drops the pending key inside the innermost bracket; a required one is refused. -/
def dropKey (l : Lexer) : Except Fault Lexer :=
  match l.pending? with
  | some k => if k.required then refuse else .ok { l with keys := Entries.erase l.flow l.keys }
  | none => .ok l

/-- Keeps this place, if a key can start here. -/
def keepKey (l : Lexer) : Except Fault Lexer := do
  if !l.keyAllowed then pure l
  else
    let l ← l.dropKey
    let key : PendingKey :=
      { number := l.count
        required := l.flow == 0 && l.indent == some l.cursor.column
        index := l.cursor.index
        line := l.cursor.line
        column := l.cursor.column }
    pure { l with keys := (l.flow, key) :: l.keys }

/-- Closes the blocks that are indented further than the column, `outer` being those around the
innermost one; with no column all of them. -/
def closeBlocks (column : Option Nat) (l : Lexer) : List (Option Nat) → Lexer
  | [] => l
  | next :: outer =>
    match l.indent with
    | none => l
    | some indent =>
      if column.any (indent ≤ ·) then l
      else closeBlocks column { l.push .blockEnd with indent := next, outer } outer

/-- Closes the blocks that are indented further than the column, unless brackets are open. -/
def unwind (l : Lexer) (column : Option Nat) : Lexer :=
  if l.flow == 0 then l.closeBlocks column l.outer else l

/-- Opens a block at a column, if it is indented further than the innermost one. -/
def openBlock (l : Lexer) (column : Nat) : Lexer × Bool :=
  if l.indent.all (· < column) then
    ({ l with indent := some column, outer := l.indent :: l.outer }, true)
  else (l, false)

/-- Opens a block here with this token, if it is indented further than the innermost one; where no
key can start, no block can. -/
def openBlockHere (l : Lexer) (t : Token) : Except Fault Lexer :=
  if l.flow != 0 then .ok l
  else if !l.keyAllowed then refuse
  else
    let (l, opened) := l.openBlock l.cursor.column
    .ok (if opened then l.push t else l)

/-- Passes blanks, comments and line ends. -/
def skipGap : Nat → Lexer → Lexer
  | 0, l => l
  | fuel + 1, l =>
    let c := l.cursor.skipSpaces.skipComment
    if isBreak c.peek then
      skipGap fuel { l with cursor := c.next, keyAllowed := l.keyAllowed || l.flow == 0 }
    else { l with cursor := c }

/-- Takes the end of the text. -/
def takeEnd (l : Lexer) : Except Fault Lexer := do
  let l ← (l.unwind none).dropKey
  pure { l.push .finish with keyAllowed := false, keys := [] }

/-- Takes a directive. -/
def takeDirective (l : Lexer) : Except Fault Lexer := do
  let l ← (l.unwind none).dropKey
  let (t, cursor) ← readDirective l.cursor
  pure { l.push t with cursor, keyAllowed := false }

/-- Takes a mark between documents. -/
def takeMark (l : Lexer) (t : Token) : Except Fault Lexer := do
  let l ← (l.unwind none).dropKey
  pure { l.push t with cursor := l.cursor.advance 3, keyAllowed := false }

/-- Takes an opening bracket. -/
def takeOpening (l : Lexer) (t : Token) : Except Fault Lexer := do
  let l ← l.keepKey
  pure { l.push t with cursor := l.cursor.next, flow := l.flow + 1, keyAllowed := true }

/-- Takes a closing bracket. -/
def takeClosing (l : Lexer) (t : Token) : Except Fault Lexer := do
  let l ← l.dropKey
  pure { l.push t with cursor := l.cursor.next, flow := l.flow - 1, keyAllowed := false }

/-- Takes a comma. -/
def takeComma (l : Lexer) : Except Fault Lexer := do
  let l ← l.dropKey
  pure { l.push .comma with cursor := l.cursor.next, keyAllowed := true }

/-- Takes the hyphen in front of an item. -/
def takeItem (l : Lexer) : Except Fault Lexer := do
  let l ← (← l.openBlockHere .blockList).dropKey
  pure { l.push .item with cursor := l.cursor.next, keyAllowed := true }

/-- Takes the mark of a key. -/
def takeKey (l : Lexer) : Except Fault Lexer := do
  let l ← (← l.openBlockHere .blockMap).dropKey
  pure { l.push .key with cursor := l.cursor.next, keyAllowed := l.flow == 0 }

/-- Puts the token of a key, and perhaps that of its mapping, in front of a pending key. -/
def confirmKey (l : Lexer) (k : PendingKey) : Lexer :=
  let (l, opened) := if l.flow == 0 then l.openBlock k.column else (l, false)
  let front : List Token := if opened then [.key, .blockMap] else [.key]
  let behind := l.count - k.number
  { l with
    tokens := l.tokens.take behind ++ front ++ l.tokens.drop behind
    count := l.count + front.length
    keys := Entries.erase l.flow l.keys }

/-- Takes a colon. -/
def takeValue (l : Lexer) : Except Fault Lexer := do
  match l.pending? with
  | some k =>
    let l := l.confirmKey k
    pure { l.push .value with cursor := l.cursor.next, keyAllowed := false }
  | none =>
    let l ← l.openBlockHere .blockMap
    pure { l.push .value with cursor := l.cursor.next, keyAllowed := l.flow == 0 }

/-- Takes an alias or an anchor. -/
def takeAnchor (l : Lexer) (t : List Char → Token) : Except Fault Lexer := do
  let l ← l.keepKey
  let (name, cursor) ← readAnchor l.cursor
  pure { l.push (t name) with cursor, keyAllowed := false }

/-- Takes a tag. -/
def takeTag (l : Lexer) : Except Fault Lexer := do
  let l ← l.keepKey
  let (tag, cursor) ← readTag l.cursor
  pure { l.push (.tag tag) with cursor, keyAllowed := false }

/-- The least column of what belongs to the innermost block. -/
def innerColumn (l : Lexer) : Nat :=
  match l.indent with
  | some column => column + 1
  | none => 0

/-- Takes a block scalar. -/
def takeBlock (l : Lexer) (folded : Bool) : Except Fault Lexer := do
  let l ← l.dropKey
  let (text, cursor) ← readBlock folded (max 1 l.innerColumn) l.cursor
  pure { l.push (.scalar false text) with cursor, keyAllowed := true }

/-- Takes a quoted scalar. -/
def takeQuoted (l : Lexer) (double : Bool) : Except Fault Lexer := do
  let l ← l.keepKey
  let (text, cursor) ← readQuoted double l.cursor
  pure { l.push (.scalar false text) with cursor, keyAllowed := false }

/-- Takes a plain scalar. -/
def takePlain (l : Lexer) : Except Fault Lexer := do
  let l ← l.keepKey
  let plain := readPlain (l.flow != 0) l.innerColumn l.cursor
  pure { l.push (.scalar true (Text.ofChars plain.text)) with
    cursor := plain.after, keyAllowed := plain.breaksLine }

/-- The characters that mean something at the start of a token. -/
def indicators : List Char := "-?:,[]\x7b\x7d#&*!|>'\"%@\x60".toList

/-- Can a plain scalar start here? -/
def startsPlain (l : Lexer) : Bool :=
  let ch := l.cursor.peek
  (!isGap ch && !indicators.contains ch)
    || (!isGap (l.cursor.peekAt 1) && (ch == '-' || (l.flow == 0 && (ch == '?' || ch == ':'))))

/-- Takes the token that starts here. -/
def take (l : Lexer) : Except Fault Lexer :=
  let c := l.cursor
  let ch := c.peek
  let alone := isGap (c.peekAt 1)
  if ch == theEnd then l.takeEnd
  else if ch == '%' && c.column == 0 then l.takeDirective
  else if c.column == 0 && c.isMark '-' then l.takeMark .documentStart
  else if c.column == 0 && c.isMark '.' then l.takeMark .documentEnd
  else if ch == '[' then l.takeOpening .flowList
  else if ch == '\x7b' then l.takeOpening .flowMap
  else if ch == ']' then l.takeClosing .flowListEnd
  else if ch == '\x7d' then l.takeClosing .flowMapEnd
  else if ch == ',' then l.takeComma
  else if ch == '-' && alone then l.takeItem
  else if ch == '?' && (l.flow != 0 || alone) then l.takeKey
  else if ch == ':' && (l.flow != 0 || alone) then l.takeValue
  else if ch == '*' then l.takeAnchor .alias
  else if ch == '&' then l.takeAnchor .anchor
  else if ch == '!' then l.takeTag
  else if ch == '|' && l.flow == 0 then l.takeBlock false
  else if ch == '>' && l.flow == 0 then l.takeBlock true
  else if ch == '\'' then l.takeQuoted false
  else if ch == '"' then l.takeQuoted true
  else if l.startsPlain then l.takePlain
  else refuse

/-- Takes the next token. -/
def step (l : Lexer) : Except Fault Lexer := do
  let l ← (l.skipGap l.cursor.bound).dropStale
  (l.unwind (some l.cursor.column)).take

/-- How many tokens are delivered when the next one cannot be taken. -/
def delivered (l : Lexer) : Nat := l.liveKeys.foldl (fun n k => min n k.2.number) l.count

/-- Was the end of the text taken? -/
def isFinished (l : Lexer) : Bool := l.tokens.head? == some .finish

/-- Takes tokens up to the end of the text or the first fault. -/
def run : Nat → Lexer → Lexed
  | 0, l => ⟨l.tokens.reverse, none⟩
  | fuel + 1, l =>
    if l.isFinished then ⟨l.tokens.reverse, none⟩
    else
      match l.step with
      | .ok next => run fuel next
      | .error e => ⟨l.tokens.reverse.take l.delivered, some e⟩

end Lexer

/-- The tokens of a text. -/
def lex (text : List Char) : Lexed := (Lexer.start text).run (text.length + 2)

end IssueDigest.Yaml
