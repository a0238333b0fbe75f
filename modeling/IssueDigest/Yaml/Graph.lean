import IssueDigest.Table
import IssueDigest.Yaml.Lexer
import IssueDigest.Yaml.Tag
/-!
# The nodes of a document

A document is a graph: an alias leads to the node that was named, which may contain the alias. A
node is its tag and its content, and nodes refer to each other by their place in the graph.

The tokens are read by one function for every kind of node that takes the nodes inside it in turn.
What may be left out is a scalar without text. Of several documents, and of names that are given
twice or not at all, there is none that could be read.
-/

namespace IssueDigest.Yaml

/-- What a node consists of. -/
inductive Content where
  | scalar (text : Text)
  | list (items : List Nat)
  | map (entries : List (Nat × Nat))
  deriving DecidableEq, Repr, Inhabited

/-- A node of a document. -/
structure Node where
  tag : Tag
  content : Content
  deriving DecidableEq, Repr, Inhabited

/-- The nodes of a document, by number. -/
abbrev Graph := Array Node

/-- What is known while tokens are read. -/
structure Reading where
  /-- The tokens that are left. -/
  tokens : List Token
  /-- What stops the tokens. -/
  fault : Fault
  /-- The nodes so far. -/
  graph : Graph
  /-- The nodes that have names. -/
  anchors : Entries (List Char) Nat
  /-- What the handles of tags stand for. -/
  handles : Entries (List Char) (List Char)

/-- An action that reads tokens. -/
abbrev Take (α : Type) := StateT Reading (Except Fault) α

namespace Take

/-- The token ahead. -/
def peek : Take Token := do
  match (← get).tokens with
  | t :: _ => pure t
  | [] => throw (← get).fault

/-- Passes the token ahead. -/
def skip : Take Unit := modify fun r => { r with tokens := r.tokens.drop 1 }

/-- Refuses the document. -/
def refuse {α : Type} : Take α := throw (.refused .badYaml)

/-- Is the token ahead one of these? It is passed if so. -/
def skipIf (t : Token) : Take Bool := do
  if (← peek) == t then
    skip
    pure true
  else pure false

/-- Is the token ahead one of these? -/
def isAhead (ts : List Token) : Take Bool := return ts.contains (← peek)

/-- Adds a node. -/
def add (n : Node) : Take Nat := do
  let r ← get
  set { r with graph := r.graph.push n }
  pure r.graph.size

/-- Adds the scalar that stands for what is left out. -/
def addEmpty : Take Nat := add ⟨.null, .scalar []⟩

/-- Changes the content of a node. -/
def setContent (id : Nat) (content : Content) : Take Unit :=
  modify fun r => { r with graph := r.graph.modify id fun n => { n with content } }

/-- Names a node. -/
def name (anchor : Option (List Char)) (id : Nat) : Take Unit :=
  match anchor with
  | some a => modify fun r => { r with anchors := r.anchors.put a id }
  | none => pure ()

/-- What a tag is called in full. -/
def fullTag (t : TagName) : Take (List Char) := do
  match t.handle with
  | none => pure t.suffix
  | some handle =>
    match (← get).handles.get? handle with
    | some start => pure (start ++ t.suffix)
    | none => refuse

/-- What stands in front of a node. -/
structure Properties where
  anchor : Option (List Char)
  tag : Option (List Char)

/-- An anchor, if it is ahead. -/
def anchor? : Take (Option (List Char)) := do
  match ← peek with
  | .anchor a =>
    skip
    pure (some a)
  | _ => pure none

/-- A tag, if it is ahead. -/
def tag? : Take (Option TagName) := do
  match ← peek with
  | .tag t =>
    skip
    pure (some t)
  | _ => pure none

/-- Reads an anchor and a tag, in either order. -/
def properties : Take Properties := do
  let first ← anchor?
  let tag ← tag?
  let anchor ← if first.isNone && tag.isSome then anchor? else pure first
  let full ← match tag with
    | some t => some <$> fullTag t
    | none => pure none
  pure ⟨anchor, full⟩

/-- The tag of a collection. -/
def Properties.tagOr (p : Properties) (fallback : Tag) : Tag :=
  match p.tag with
  | none | some ['!'] => fallback
  | some name => Tag.ofName name

/-- The tag of a scalar; an exclamation mark alone is the tag of what it looks like. -/
def Properties.scalarTag (p : Properties) (plain : Bool) (text : Text) : Tag :=
  match p.tag with
  | none => if plain then Tag.ofPlain text else .text
  | some ['!'] => Tag.ofPlain text
  | some name => Tag.ofName name

/-- Is the name of a node taken? -/
def checkAnchor (p : Properties) : Take Unit := do
  match p.anchor with
  | some a => if ((← get).anchors.get? a).isSome then refuse
  | none => pure ()

/-- Adds a scalar. -/
def addScalar (p : Properties) (plain : Bool) (text : Text) : Take Nat := do
  let id ← add ⟨p.scalarTag plain text, .scalar text⟩
  name p.anchor id
  pure id

/-- Adds a collection, whose parts are read while it already has its name. -/
def addCollection (p : Properties) (fallback : Tag) (parts : Take Content) : Take Nat := do
  let id ← add ⟨p.tagOr fallback, .list []⟩
  name p.anchor id
  setContent id (← parts)
  pure id

/-- Which nodes may be ahead, besides those in brackets and scalars. -/
inductive Place where
  /-- None. -/
  | inFlow
  /-- Blocks. -/
  | inBlock
  /-- Blocks, and items that are not indented. -/
  | underKey
  deriving DecidableEq

/-- The node that an alias leads to. -/
def named (a : List Char) : Take Nat := do
  match (← get).anchors.get? a with
  | some id => pure id
  | none => refuse

/-- Reads a node; if one of these tokens is ahead it was left out. -/
def emptyAt (ends : List Token) (read : Take Nat) : Take Nat := do
  if ← isAhead ends then addEmpty else read

/-- Reads what belongs to a key or value, if its mark is ahead. -/
def marked (mark : Token) (ends : List Token) (read : Take Nat) : Take Nat := do
  if ← skipIf mark then emptyAt ends read else addEmpty

mutual

/-- Reads a node. -/
def node : Nat → Place → Take Nat
  | 0, _ => refuse
  | fuel + 1, place => do
    match ← peek with
    | .alias a =>
      skip
      named a
    | _ =>
      let p ← properties
      let t ← peek
      if place = .underKey && t == .item then
        checkAnchor p
        addCollection p .list (.list <$> loose fuel)
      else
        match t with
        | .scalar plain text =>
          skip
          checkAnchor p
          addScalar p plain text
        | .flowList =>
          skip
          checkAnchor p
          addCollection p .list (.list <$> flowItems fuel true)
        | .flowMap =>
          skip
          checkAnchor p
          addCollection p .map (.map <$> flowEntries fuel true)
        | .blockList =>
          if place = .inFlow then bare p
          else
            checkAnchor p
            skip
            addCollection p .list (.list <$> blockItems fuel)
        | .blockMap =>
          if place = .inFlow then bare p
          else
            checkAnchor p
            skip
            addCollection p .map (.map <$> blockEntries fuel)
        | _ => bare p

/-- A node that is all properties. -/
def bare (p : Properties) : Take Nat := do
  if p.anchor.isNone && p.tag.isNone then refuse
  else
    checkAnchor p
    addScalar p p.tag.isNone []

/-- Reads the items of a block up to its end. -/
def blockItems : Nat → Take (List Nat)
  | 0 => refuse
  | fuel + 1 => do
    if ← skipIf .item then
      let id ← emptyAt [.item, .blockEnd] (node fuel .inBlock)
      return id :: (← blockItems fuel)
    else if ← skipIf .blockEnd then pure []
    else refuse

/-- Reads items that are not indented. -/
def loose : Nat → Take (List Nat)
  | 0 => refuse
  | fuel + 1 => do
    if ← skipIf .item then
      let id ← emptyAt [.item, .key, .value, .blockEnd] (node fuel .inBlock)
      return id :: (← loose fuel)
    else pure []

/-- Reads the entries of a block up to its end. -/
def blockEntries : Nat → Take (List (Nat × Nat))
  | 0 => refuse
  | fuel + 1 => do
    if ← skipIf .key then
      let key ← emptyAt [.key, .value, .blockEnd] (node fuel .underKey)
      let value ← marked .value [.key, .value, .blockEnd] (node fuel .underKey)
      return (key, value) :: (← blockEntries fuel)
    else if ← skipIf .blockEnd then pure []
    else refuse

/-- Reads the items between brackets; `first` says that none was read yet. -/
def flowItems : Nat → Bool → Take (List Nat)
  | 0, _ => refuse
  | fuel + 1, first => do
    if ← skipIf .flowListEnd then return []
    if !first then
      if !(← skipIf .comma) then refuse
    if ← skipIf .key then
      let id ← addCollection ⟨none, none⟩ .map do
        let key ← emptyAt [.value, .comma, .flowListEnd] (node fuel .inFlow)
        let value ← marked .value [.comma, .flowListEnd] (node fuel .inFlow)
        pure (.map [(key, value)])
      return id :: (← flowItems fuel false)
    else if ← skipIf .flowListEnd then pure []
    else
      let id ← node fuel .inFlow
      return id :: (← flowItems fuel false)

/-- Reads the entries between braces; `first` says that none was read yet. -/
def flowEntries : Nat → Bool → Take (List (Nat × Nat))
  | 0, _ => refuse
  | fuel + 1, first => do
    if ← skipIf .flowMapEnd then return []
    if !first then
      if !(← skipIf .comma) then refuse
    if ← skipIf .key then
      let key ← emptyAt [.value, .comma, .flowMapEnd] (node fuel .inFlow)
      let value ← marked .value [.comma, .flowMapEnd] (node fuel .inFlow)
      return (key, value) :: (← flowEntries fuel false)
    else if ← skipIf .flowMapEnd then pure []
    else
      let key ← node fuel .inFlow
      let value ← addEmpty
      return (key, value) :: (← flowEntries fuel false)

end

/-- The handles that need not be set. -/
def standardHandles : Entries (List Char) (List Char) :=
  [(['!'], ['!']), (['!', '!'], Tag.space)]

/-- Reads the directives in front of a document; `versioned` says that a version was set. -/
def directives : Nat → Bool → Take Unit
  | 0, _ => refuse
  | fuel + 1, versioned => do
    match ← peek with
    | .version v =>
      skip
      if versioned || v.major ≠ 1 then refuse
      directives fuel true
    | .handle handle start =>
      skip
      let r ← get
      if (r.handles.get? handle).isSome then refuse
      set { r with handles := r.handles.put handle start }
      directives fuel versioned
    | .directive =>
      skip
      directives fuel versioned
    | _ => pure ()

/-- Sets the handles that were not set. -/
def addStandardHandles : Take Unit :=
  modify fun r =>
    { r with
      handles := standardHandles.foldl (fun handles (handle, start) =>
        if (handles.get? handle).isSome then handles else handles.put handle start) r.handles }

/-- Passes marks of the end of a document. -/
def skipEnds : Nat → Take Unit
  | 0 => refuse
  | fuel + 1 => do if ← skipIf .documentEnd then skipEnds fuel

/-- Is a directive ahead? -/
def atDirective : Take Bool := do
  match ← peek with
  | .version _ | .handle _ _ | .directive => pure true
  | _ => pure false

/-- Reads a document with a mark in front, if there is one. -/
def markedDocument (fuel : Nat) : Take (Option Nat) := do
  skipEnds fuel
  if ← isAhead [.finish] then pure none
  else
    directives fuel false
    addStandardHandles
    if !(← skipIf .documentStart) then refuse
    if (← atDirective) || (← isAhead [.documentStart, .documentEnd, .finish]) then
      some <$> addEmpty
    else some <$> node fuel .inBlock

/-- Reads the only document, if there is one. -/
def document (fuel : Nat) : Take (Option Nat) := do
  let root ←
    if (← atDirective) || (← isAhead [.documentStart, .finish]) then markedDocument fuel
    else
      addStandardHandles
      some <$> node fuel .inBlock
  if root.isSome then
    let _ ← skipIf .documentEnd
    skipEnds fuel
    if !(← isAhead [.finish]) then
      directives fuel false
      refuse
  pure root

end Take

/-- The nodes of a text and the number of the outermost one, if there is any. -/
def Graph.read (text : List Char) : Except Fault (Graph × Option Nat) := do
  let lexed := lex text
  let fuel := 4 * lexed.tokens.length + 8
  let r : Reading :=
    { tokens := lexed.tokens
      fault := lexed.fault.getD (.refused .badYaml)
      graph := #[]
      anchors := []
      handles := [] }
  let (root, r) ← (Take.document fuel).run r
  pure (r.graph, root)

end IssueDigest.Yaml
