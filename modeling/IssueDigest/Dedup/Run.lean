import IssueDigest.Dedup.Bucket
import IssueDigest.Dismissal.Store
/-!
# Collapsing duplicates

The list comes sorted by priority. In each bucket the first dismissed issue lends its dismissal to
the other issues of equal or lower severity; then all but the first issue of each bucket are left
out. The dismissals are aligned inside one batch block. When a step fails the list stays as it was.
-/

namespace IssueDigest.Dedup

open Store
open Act (lift)

/-- The first issue that is dismissed at its own severity. -/
def firstDismissed : List Issue → Action (Option Issue)
  | [] => pure none
  | i :: rest => do
    if ← isDismissed i.key i.severity then pure (some i) else firstDismissed rest

/-- Lends the dismissal of an issue to another one, unless they are the same or the other is more
severe. -/
def lend (top i : Issue) : Action Unit := do
  if i.key ≠ top.key && i.severity ≤ top.severity then
    let topText ← lift top.key.write
    let text ← lift i.key.write
    note .debug "Aligning dismissal of duplicate issue"
      [("from_key", .string topText), ("to_key", .string text)]
    copy top.key i.key

/-- Aligns the dismissals of a bucket. -/
def align (bucket : List Issue) : Action Unit := do
  match ← firstDismissed bucket with
  | none => pure ()
  | some top => bucket.forM (lend top)

/-- The issues whose keys are not redundant. -/
def survivors (issues : List Issue) : List Issue :=
  let out := redundant (buckets issues)
  issues.filter fun i => !out.contains i.key

/-- Aligns dismissals and returns the issues that are left to show. -/
def run (issues : List Issue) : Action (List Issue) := do
  let found := buckets issues
  note .debug "Deduplicating issues"
    [("issue_count", .int issues.length), ("bucket_count", .int found.length)]
  batch (found.forM fun b => align b.2)
  if (redundant found).isEmpty then pure issues
  else
    let left := survivors issues
    note .info "Duplicate issues filtered"
      [("input_count", .int issues.length), ("bucket_count", .int found.length),
        ("removed_count", .int (issues.length - left.length)),
        ("remaining_count", .int left.length)]
    pure left

end IssueDigest.Dedup
