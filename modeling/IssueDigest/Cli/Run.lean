import IssueDigest.Cli.Arguments
import IssueDigest.Cli.Request
import IssueDigest.Dedup.Run
import IssueDigest.Dismissal.Open
import IssueDigest.Document.Read
import IssueDigest.Journal.Layout
import IssueDigest.Settings.Load
/-!
# A run of the program

A run reads its arguments, takes the variables beside the program over, reads the settings and the
issue file, dismisses the issues named, leaves duplicates out, and prints the issues that are left. It
ends with a status: 0 if all went well, 2 if the arguments are mistaken, and 1 if the settings, the
issue file or the name of an issue cannot be used. Other faults are not caught, and none is while the
variables are taken over. The store is closed in any case.
-/

namespace IssueDigest

open Act (lift printLine complain)

namespace Command

open Store

/-- Are duplicates left out? -/
def collapses (c : Command) (settings : Settings) : Bool := settings.collapse && !c.keepAll

/-- The issues that are left to show. -/
def select (c : Command) (settings : Settings) (issues : List Issue) : Action (List Issue) := do
  if c.collapses settings then Dedup.run issues
  else
    note .info "Deduplication disabled; printing all issues" []
    pure issues

/-- An issue as an object that also says whether it is dismissed. -/
def row (i : Issue) : Action Json := do
  let fields ← lift i.fields
  let dismissed ← isDismissed i.key i.severity
  pure (.record (fields ++ [("dismissed", .bool dismissed)]))

/-- Prints issues. -/
def present (c : Command) (issues : List Issue) : Action Unit := do
  if c.json then
    let rows ← issues.mapM row
    let page ← lift (Json.write Json.asciiPage (.list rows))
    Action.ofWorld (printLine page)
  else
    issues.forM fun i => do Action.ofWorld (printLine (← issueLine i))

/-- The work on a store that is open; returns the status. -/
def work (c : Command) (settings : Settings) (issues : List Issue) : Action Nat := do
  let refusal ← try
      applyDismissals issues c.dismissals
      pure none
    catch e =>
      if e.isRefusal then pure (some e.message) else throw e
  match refusal with
  | some message =>
    Action.ofWorld (complain message)
    pure 1
  | none =>
    c.present (← c.select settings issues)
    note .info "Dismissal store stats" (← stats)
    pure 0

/-- The settings of a run. -/
def adjust (c : Command) (settings : Settings) : Settings :=
  { settings with backend := c.backend.getD settings.backend }

/-- Lets the journal follow the settings, and logs them. -/
def announce (settings : Settings) : Act World Unit := do
  let w ← get
  let (journal, result) := w.journal.configure settings.level settings.layout
  set { w with journal }
  lift result
  Act.note .info "Configuration loaded" settings.context

/-- Reads the issue file and works on its issues. -/
def proceed (c : Command) (settings : Settings) : Act World Nat := do
  let refusal : Except Text (List Issue) ← try
      pure (.ok (← Listing.load c.file))
    catch e =>
      if e.isOs || e.isRefusal then pure (.error e.message) else throw e
  match refusal with
  | .error message =>
    complain ("Cannot load " ++ c.file ++ ": " ++ message)
    pure 1
  | .ok issues =>
    let store ← Store.create settings none
    Store.runOn store (Act.andFinally (c.work settings issues) close)

/-- Announces the settings, and proceeds unless something is wrong with them. -/
def start (c : Command) (settings : Settings) : Act World Nat := do
  announce settings
  match settings.problems with
  | [] => c.proceed settings
  | problems =>
    Act.note .error "Configuration validation failed"
      [("issues", .list (problems.map .string))]
    problems.forM fun problem => complain ("  - " ++ problem)
    pure 1

/-- Runs a command; returns the status. -/
def run (c : Command) : Act World Nat := do
  Settings.takeVariables
  match Settings.load (← get) [] with
  | .error e =>
    match e with
    | .invalid _ _ =>
      complain ("Configuration error: " ++ e.message)
      pure 1
    | _ => throw e
  | .ok settings => c.start (c.adjust settings)

end Command

/-- Runs the program with arguments; returns the status. -/
def runProgram (arguments : List String) : Act World Nat := do
  match Command.read arguments with
  | .ok c => c.run
  | .error .help =>
    modify fun w => w.print Usage.help
    pure 0
  | .error (.mistake m) =>
    modify fun w => w.complain Usage.form
    complain (Usage.program ++ ": error: " ++ m.message)
    pure 2

end IssueDigest
