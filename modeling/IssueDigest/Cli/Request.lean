import IssueDigest.Dedup.Bucket
import IssueDigest.Dismissal.Store
/-!
# Requests about issues

Dismissing issues by the keys that a user names, and showing an issue on one line.
-/

namespace IssueDigest

open Store
open Act (lift)

/-- The issue with a key; of several, the last one. -/
def issueWithKey? (issues : List Issue) (key : IssueKey) : Option Issue :=
  issues.reverse.find? fun i => i.key = key

/-- Dismisses every issue named, at its own severity; a name without an issue is logged. -/
def applyDismissals (issues : List Issue) : List String → Action Unit
  | [] => pure ()
  | name :: rest => do
    let key ← lift (IssueKey.read name)
    match issueWithKey? issues key with
    | none => note .warning "Cannot dismiss unknown issue" [("issue_key", .string name)]
    | some i =>
      let _ ← dismiss key i.severity none
    applyDismissals issues rest

/-- The line that shows an issue. -/
def issueLine (i : Issue) : Action Text := do
  let dismissed ← isDismissed i.key i.severity
  let severity ← lift (Numeral.write i.severity)
  let key ← lift i.key.write
  pure ("[" ++ severity ++ "] " ++ key ++ " " ++ i.title
    ++ (if dismissed then Text.ofString " (dismissed)" else []))

end IssueDigest
