import IssueDigest.Issue.Basic
import IssueDigest.Journal.Layout
/-!
# Messages from callers

Callers may log messages with context of their own. Their names must not be those of the message and
its level, nor those that a summary gives itself.
-/

namespace IssueDigest.Journal

/-- The names that every message gives itself. -/
def ownNames : List String := ["message", "level"]

/-- The names that a summary gives itself besides. -/
def summaryNames : List String :=
  ["input_count", "bucket_count", "removed_count", "remaining_count"]

/-- Refuses context with one of the names. -/
def checkNames (names : List String) (context : Context) : Except Fault Unit :=
  match context.find? fun c => names.any fun name => Text.ofString name = c.1 with
  | some (name, _) => .error (.mismatch (.nameTaken name))
  | none => .ok ()

/-- Adds a caller's message. -/
def report (j : Journal) (level : Level) (message : Text) (context : Context) :
    Except Fault Journal := do
  checkNames ownNames context
  pure (j.note level message context)

/-- Adds a summary of how many issues there were, how many buckets, and how many were left out. -/
def summarize (j : Journal) (input buckets removed : Int) (context : Context) :
    Except Fault Journal := do
  checkNames (ownNames ++ summaryNames) context
  let counts : Context :=
    [("input_count", .int input), ("bucket_count", .int buckets), ("removed_count", .int removed),
      ("remaining_count", .int (input - removed))]
  pure (j.note .info "Duplicate issues filtered" (counts ++ context))

end IssueDigest.Journal

namespace IssueDigest

/-- Can issues of the source come from outside? Types that are not known are logged. -/
def Source.isExternal (s : Source) (j : Journal) : Bool × Journal :=
  if s.type = SourceKind.fixed.code then (false, j)
  else if s.type = SourceKind.dynamic.code || s.type = SourceKind.issueOnly.code then (true, j)
  else
    (false, j.note .warning "Unexpected safety source type"
      [("source_id", .string s.id), ("source_type", .int s.type)])

end IssueDigest
