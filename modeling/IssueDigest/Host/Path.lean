/-!
# Paths

A path is its names in order, with the slashes it starts with if it is absolute. Empty names and
single dots are left out on reading, so that `./d.json` and `d.json` are one path; the path without
names is written as a dot.
-/

namespace IssueDigest

/-- A path of the file system. -/
structure Path where
  /-- The slashes in front: none, one or two. -/
  slashes : Nat
  /-- The names, from the outside in. -/
  names : List String
  deriving DecidableEq, Repr, Inhabited

namespace Path

/-- The parts of a text between slashes. -/
def split : List Char → List (List Char)
  | [] => [[]]
  | c :: rest =>
    match c, split rest with
    | '/', parts => [] :: parts
    | _, [] => [[c]]
    | _, part :: parts => (c :: part) :: parts

/-- The path that a string names. -/
def ofString (s : String) : Path :=
  let cs := s.toList
  let lead := (cs.takeWhile (· == '/')).length
  let names := (split cs).filter fun part => !part.isEmpty && part != ['.']
  ⟨if lead = 2 then 2 else min lead 1, names.map String.ofList⟩

/-- The written form of a path. -/
def text (p : Path) : String :=
  if p.slashes = 0 && p.names.isEmpty then "."
  else String.ofList (List.replicate p.slashes '/') ++ "/".intercalate p.names

/-- The path of the directory that holds the entry. -/
def parent (p : Path) : Path := { p with names := p.names.dropLast }

/-- Goes one name further from a place. -/
def walk (place : List String) (name : String) : List String :=
  if name == ".." then
    match place.getLast? with
    | none => [".."]
    | some ".." => place ++ [".."]
    | some "/" => place
    | some _ => place.dropLast
  else place ++ [name]

/-- The place that a path leads to, seen from the working directory. -/
def place (p : Path) : List String :=
  p.names.foldl walk (if p.slashes = 0 then [] else ["/"])

end Path

end IssueDigest
