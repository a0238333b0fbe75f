import IssueDigest.Issue.Key
import IssueDigest.Json.Value
/-!
# Issues and their sources

A source belongs to a deduplication group or to none, and an issue carries a deduplication mark or
none. The type of a source is kept as a number, so that types not known here survive.
-/

namespace IssueDigest

/-- The known types of sources. -/
inductive SourceKind where
  /-- Its entries are fixed. -/
  | fixed
  /-- It sends its own data. -/
  | dynamic
  /-- It sends issues only. -/
  | issueOnly
  deriving DecidableEq, Repr

namespace SourceKind

/-- All known types. -/
def all : List SourceKind := [fixed, dynamic, issueOnly]

/-- The number of a type. -/
def code : SourceKind → Int
  | fixed => 1
  | dynamic => 2
  | issueOnly => 3

/-- The name of a type. -/
def name : SourceKind → String
  | fixed => "STATIC"
  | dynamic => "DYNAMIC"
  | issueOnly => "ISSUE_ONLY"

end SourceKind

/-- A producer of issues. -/
structure Source where
  id : String
  /-- The number of its type. -/
  type : Int
  /-- Sources of one group may report duplicates of each other's issues. -/
  group : Option Text
  deriving DecidableEq, Repr, Inhabited

/-- An issue, with the source that reported it and the user it concerns. -/
structure Issue where
  source : Source
  id : String
  severity : Int
  title : Text
  /-- Issues with one mark from sources of one group are duplicates. -/
  mark : Option Text
  user : Int
  deriving DecidableEq, Repr, Inhabited

namespace Issue

/-- The identity of an issue. -/
def key (i : Issue) : IssueKey := ⟨i.source.id, i.id, i.user⟩

/-- A text, if there is one. -/
def optional : Option Text → Json
  | some t => .text t
  | none => .null

/-- The issue as an object, unless its user id has too many digits. -/
def fields (i : Issue) : Except Fault (List (String × Json)) := do
  let key ← i.key.write
  pure
    [("issue_key", .string key), ("source_id", .string i.source.id), ("issue_id", .string i.id),
      ("user_id", .int i.user), ("severity_level", .int i.severity), ("title", .text i.title),
      ("deduplication_group", optional i.source.group), ("deduplication_id", optional i.mark)]

end Issue

end IssueDigest
