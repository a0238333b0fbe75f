import IssueDigest.Settings.Basic
/-!
# The options of the command line

An option has one name or more and may want a value. The usage says in which form the arguments are
expected; the help says what each of them is for.
-/

namespace IssueDigest

/-- The options of the command line. -/
inductive Switch where
  /-- Shows the help. -/
  | help
  /-- Which kind of dismissal store is used. -/
  | backend
  /-- Names an issue to dismiss. -/
  | dismiss
  /-- Leaves duplicates in. -/
  | keepAll
  /-- Shows the issues as a list of objects. -/
  | json
  deriving DecidableEq, Repr

namespace Switch

/-- All options, in the order in which they are shown. -/
def all : List Switch := [help, backend, dismiss, keepAll, json]

/-- The long name of an option. -/
def name : Switch → String
  | help => "--help"
  | backend => "--backend"
  | dismiss => "--dismiss"
  | keepAll => "--no-dedup"
  | json => "--json"

/-- An option as complaints show it: all its names. -/
def title : Switch → String
  | help => "-h/--help"
  | s => s.name

/-- Does the option want a value? -/
def wantsValue : Switch → Bool
  | backend | dismiss => true
  | help | keepAll | json => false

end Switch

namespace Usage

/-- The name under which the program shows itself. -/
def program : String := "main.py"

/-- The form of the option for the kind of store. -/
def backendForm : String :=
  "--backend \x7b" ++ ",".intercalate (Backend.all.map Backend.word) ++ "\x7d"

/-- The form of the arguments. -/
def form : String :=
  "usage: " ++ program ++ " [-h] [" ++ backendForm ++ "] [--dismiss KEY]\n"
    ++ "               [--no-dedup] [--json]\n"
    ++ "               file\n"

/-- The help. -/
def help : String :=
  form
    ++ "\nCollapse duplicate safety issues.\n"
    ++ "\npositional arguments:\n"
    ++ "  file                  YAML or JSON issue file, issues sorted by priority\n"
    ++ "\noptions:\n"
    ++ "  -h, --help            show this help message and exit\n"
    ++ "  " ++ backendForm ++ "\n"
    ++ "                        Dismissal store backend (overrides DISMISSAL_BACKEND).\n"
    ++ "  --dismiss KEY         Dismiss the issue source_id/issue_id[/user_id] before\n"
    ++ "                        deduplicating. Repeatable.\n"
    ++ "  --no-dedup            Print issues without filtering duplicates.\n"
    ++ "  --json                Print surviving issues as JSON.\n"

end Usage

end IssueDigest
