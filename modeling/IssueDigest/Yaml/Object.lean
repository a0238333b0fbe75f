import IssueDigest.Yaml.Atom
import IssueDigest.Yaml.Merge
/-!
# The value of a document

What the nodes stand for is found out level by level: the scalars of a collection when the
collection is looked at, the collections inside it when those that were met before are done. So the
first fault in this order is the one that is noticed. A node that is reached twice is looked at
once.

The graph may be endless as a tree. `Value.read` follows it to a given depth, and what is deeper is
an empty collection.
-/

namespace IssueDigest.Yaml

/-- What a node stands for. -/
inductive Object where
  /-- A scalar. -/
  | atom (v : Value)
  | list (items : List Nat)
  | map (entries : List (Value × Nat))
  | set (keys : List Value)
  /-- A list of pairs. -/
  | pairs (entries : List (Nat × Nat))

/-- What is known while nodes are looked at. -/
structure Survey where
  graph : Graph
  /-- How many merges there may be. -/
  merges : Nat
  /-- What nodes stand for; a collection that was met but not looked at is a list without items. -/
  objects : Array (Option Object)
  /-- The collections that were met but not looked at, in order. -/
  waiting : List Nat

/-- An action that looks at nodes. -/
abbrev Look (α : Type) := StateT Survey (Except Fault) α

/-- The text of a scalar; a mapping has that of the entry that stands in for it. -/
def Graph.scalarText (g : Graph) : Nat → Nat → Except Fault Text
  | 0, _ => refuse
  | fuel + 1, id =>
    match (g.node id).content with
    | .scalar t => .ok t
    | .list _ => refuse
    | .map entries =>
      match entries.find? fun e => (g.node e.1).tag = .standIn with
      | some e => scalarText g fuel e.2
      | none => refuse

namespace Look

/-- Is it a tag of collections? -/
def isCollection : Tag → Bool
  | .list | .map | .set | .pairs => true
  | _ => false

/-- Refuses the document. -/
def refuse {α : Type} : Look α := throw (.refused .badYaml)

/-- Sets what a node stands for. -/
def setObject (id : Nat) (o : Object) : Look Unit :=
  modify fun s => { s with objects := s.objects.setIfInBounds id (some o) }

/-- The value of a scalar. -/
def atom (id : Nat) : Look Value := do
  let g := (← get).graph
  let n := g.node id
  let text ← g.scalarText (g.size + 1) id
  match n.tag, n.content with
  | .time, .map _ => throw (.mismatch .dateNotText)
  | tag, _ => readAtom tag text

/-- Meets a node. -/
def meet (id : Nat) : Look Object := do
  let s ← get
  match s.objects.getD id none with
  | some o => pure o
  | none =>
    if isCollection (s.graph.node id).tag then
      set { s with waiting := s.waiting ++ [id] }
      setObject id (.list [])
      pure (.list [])
    else
      let o := Object.atom (← atom id)
      setObject id o
      pure o

/-- Meets the key of an entry, which is a scalar. -/
def meetKey (id : Nat) : Look Value := do
  match ← meet id with
  | .atom v => pure v
  | _ => refuse

/-- Meets the entries of a mapping, merged ones included. -/
def entries (id : Nat) : Look (List (Value × Nat)) := do
  let s ← get
  match (s.graph.node id).content with
  | .map _ =>
    let graph ← s.graph.mergeInto (s.merges + 1) id []
    set { s with graph }
    (graph.entries id).mapM fun e => do
      let key ← meetKey e.1
      let _ ← meet e.2
      pure (key, e.2)
  | _ => refuse

/-- Meets the items of a list. -/
def items (id : Nat) : Look (List Nat) := do
  match ((← get).graph.node id).content with
  | .list items =>
    items.forM fun item => do let _ ← meet item
    pure items
  | _ => refuse

/-- Meets the pairs of a list. -/
def pairs (id : Nat) : Look (List (Nat × Nat)) := do
  match ((← get).graph.node id).content with
  | .list items =>
    items.mapM fun item => do
      match ((← get).graph.node item).content with
      | .map [e] =>
        let _ ← meet e.1
        let _ ← meet e.2
        pure e
      | _ => refuse
  | _ => refuse

/-- Looks at a collection. -/
def lookAt (id : Nat) : Look Unit := do
  match ((← get).graph.node id).tag with
  | .list => setObject id (.list (← items id))
  | .map => setObject id (.map (← entries id))
  | .set => setObject id (.set ((← entries id).map Prod.fst))
  | .pairs => setObject id (.pairs (← pairs id))
  | _ => refuse

/-- Looks at the collections that were met. -/
def rest : Nat → Look Unit
  | 0 => pure ()
  | fuel + 1 => do
    let s ← get
    match s.waiting with
    | [] => pure ()
    | id :: waiting =>
      set { s with waiting }
      lookAt id
      rest fuel

end Look

/-- The value of a node, followed to a depth. -/
def valueOf (objects : Array (Option Object)) : Nat → Nat → Value
  | 0, id =>
    match objects.getD id none with
    | some (.atom v) => v
    | some (.map _) => .map []
    | some (.set _) => .set []
    | _ => .list []
  | depth + 1, id =>
    match objects.getD id none with
    | some (.atom v) => v
    | some (.map entries) => .map (entries.map fun (k, v) => (k, valueOf objects depth v))
    | some (.set keys) => .set (Value.distinct keys)
    | some (.list items) => .list (items.map (valueOf objects depth))
    | some (.pairs entries) =>
      .list (entries.map fun (k, v) => .list [valueOf objects depth k, valueOf objects depth v])
    | none => .list []

/-- May the character stand in a document? -/
def isAllowed (c : Char) : Bool :=
  c == '\t' || c == '\n' || c == '\r' || c == '\u0085'
    || (' ' ≤ c && c ≤ '~') || ('\u00a0' ≤ c && c ≤ '\ufffd') || '\uffff' < c

/-- The value that a text stands for, followed to a depth; none if the text holds no document. -/
def read (depth : Nat) (text : List Char) : Except Fault (Option Value) := do
  if !text.all isAllowed then refuse
  let (graph, root) ← Graph.read text
  match root with
  | none => pure none
  | some id =>
    let s : Survey :=
      { graph
        merges := graph.entryCount + 1
        objects := .replicate graph.size none
        waiting := [] }
    let (_, s) ← (do
      let _ ← Look.meet id
      Look.rest (graph.size + 1) : Look Unit).run s
    pure (some (valueOf s.objects depth id))

end IssueDigest.Yaml
