import IssueDigest.Issue.Basic
import IssueDigest.Table
/-!
# Buckets of duplicates

Issues are duplicates of each other when they carry one deduplication mark and come from sources of
one group. A bucket holds the issues of one such pair, in the order of the list they come from, and
buckets come in the order in which their pairs first appear. All but the first issue of a bucket are
redundant.
-/

namespace IssueDigest

/-- What duplicates have in common. -/
structure DedupKey where
  group : Text
  mark : Text
  deriving DecidableEq, Repr, Inhabited

/-- What an issue has in common with its duplicates; nothing without a group or without a mark. -/
def Issue.dedupKey? (i : Issue) : Option DedupKey :=
  match i.source.group, i.mark with
  | some group, some mark => some ⟨group, mark⟩
  | _, _ => none

namespace Dedup

/-- Puts an issue into its bucket, which is opened at the end if there is none. -/
def insert (buckets : Entries DedupKey (List Issue)) (i : Issue) : Entries DedupKey (List Issue) :=
  match i.dedupKey? with
  | none => buckets
  | some key => buckets.put key ((buckets.get? key).getD [] ++ [i])

/-- The buckets of a list of issues. -/
def buckets (issues : List Issue) : Entries DedupKey (List Issue) := issues.foldl insert []

/-- The keys of the issues that are redundant. -/
def redundant (buckets : Entries DedupKey (List Issue)) : List IssueKey :=
  buckets.flatMap fun b => (b.2.drop 1).map Issue.key

end Dedup

end IssueDigest
