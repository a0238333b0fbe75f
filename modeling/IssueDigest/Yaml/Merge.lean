import IssueDigest.Yaml.Graph
/-!
# Merged mappings

An entry whose key is `<<` stands for the entries of the mapping that is its value, or of the
mappings in a list. They come before the mapping's own entries, so that its own ones win, and of
those in a list the first one wins. A key that is an equals sign alone is just a text.

Every merge takes the entry away before it looks at the value, so that a mapping may merge itself.
-/

namespace IssueDigest.Yaml.Graph

/-- The node with a number. -/
def node (g : Graph) (id : Nat) : Node := g.getD id default

/-- The entries of a mapping. -/
def entries (g : Graph) (id : Nat) : List (Nat × Nat) :=
  match (g.node id).content with
  | .map entries => entries
  | _ => []

/-- Changes the entries of a mapping. -/
def setEntries (g : Graph) (id : Nat) (entries : List (Nat × Nat)) : Graph :=
  g.modify id fun n => { n with content := .map entries }

/-- Is the entry to be merged? -/
def isMerge (g : Graph) (e : Nat × Nat) : Bool := (g.node e.1).tag = .merge

/-- Makes keys texts that are equals signs alone. -/
def plainKeys (g : Graph) (entries : List (Nat × Nat)) : Graph :=
  entries.foldl (fun g e =>
    if (g.node e.1).tag = .standIn then g.modify e.1 fun n => { n with tag := .text } else g) g

/-- Merges what is to be merged into a mapping; `merged` are the entries that were merged already. -/
def mergeInto : Nat → Graph → Nat → List (Nat × Nat) → Except Fault Graph
  | 0, _, _, _ => refuse
  | fuel + 1, g, id, merged =>
    let entries := g.entries id
    let before := entries.takeWhile fun e => !g.isMerge e
    match entries.drop before.length with
    | [] => .ok ((g.plainKeys entries).setEntries id (merged ++ entries))
    | e :: after => do
      let g := g.setEntries id (before ++ after)
      match (g.node e.2).content with
      | .scalar _ => refuse
      | .map _ =>
        let g ← mergeInto fuel g e.2 []
        mergeInto fuel g id (merged ++ g.entries e.2)
      | .list items =>
        let (g, lists) ← items.foldlM (fun (g, lists) item => do
          match (g.node item).content with
          | .map _ =>
            let g ← mergeInto fuel g item []
            pure (g, g.entries item :: lists)
          | _ => refuse) (g, ([] : List (List (Nat × Nat))))
        mergeInto fuel g id (merged ++ lists.flatten)

/-- How many entries there are in all mappings. -/
def entryCount (g : Graph) : Nat := g.foldl (fun n node =>
  match node.content with
  | .map entries => n + entries.length
  | _ => n) 0

end IssueDigest.Yaml.Graph
