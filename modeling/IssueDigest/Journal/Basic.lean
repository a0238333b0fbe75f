import IssueDigest.Journal.Scrub
import IssueDigest.Json.Writer
import IssueDigest.Text.Case
/-!
# The journal

A journal keeps what was logged, from a threshold on. A message may come with context, which is
written as one line of the object notation, scrubbed, and cut to a thousand code points.
-/

namespace IssueDigest

/-- How important an entry of the journal is. -/
inductive Level where
  | debug
  | info
  | warning
  | error
  | critical
  deriving DecidableEq, Repr, Inhabited

namespace Level

/-- The number of a level. -/
def weight : Level → Nat
  | debug => 10
  | info => 20
  | warning => 30
  | error => 40
  | critical => 50

/-- The name of a level. -/
def name : Level → String
  | debug => "DEBUG"
  | info => "INFO"
  | warning => "WARNING"
  | error => "ERROR"
  | critical => "CRITICAL"

/-- The level that a name in capitals stands for as a threshold; without a level of its own the
journal takes that of messages for information. -/
def ofName? (name : Text) : Option Level :=
  [("DEBUG", debug), ("INFO", info), ("NOTSET", info), ("WARNING", warning), ("WARN", warning),
    ("ERROR", error), ("CRITICAL", critical), ("FATAL", critical)].findSome? fun (word, level) =>
      if Text.ofString word = name then some level else none

end Level

/-- The first code points of a text, so many; a negative number leaves out as many at the end. -/
def Text.cut (limit : Int) (t : Text) : Text :=
  if 0 ≤ limit then t.take limit.toNat else t.take (t.length - (-limit).toNat)

/-- A value as one scrubbed line, cut to a length. -/
def summary (limit : Int) (v : Json) : Text :=
  match v.write Json.plainLine with
  | .error _ => "<unable to serialize>"
  | .ok t =>
    let t := Scrub.scrub t
    if limit < t.length then t.cut limit ++ "... [truncated]" else t

/-- How long the context of an entry may be. -/
def contextLimit : Int := 1000

/-- Named values that come with a message. -/
abbrev Context := List (Text × Json)

/-- The text of a message with its context. -/
def withContext (message : Text) (context : Context) : Text :=
  if context.isEmpty then message
  else message ++ " | Context: " ++ summary contextLimit (.object context)

/-- An entry of the journal. -/
structure Entry where
  level : Level
  message : Text
  deriving DecidableEq, Repr

/-- What was logged, from which level on, and how its lines are laid out. -/
structure Journal where
  threshold : Level
  layout : Text
  entries : List Entry
  deriving Repr

namespace Journal

/-- The layout of lines when nothing else is said. -/
def standardLayout : String := "%(asctime)s - %(name)s - %(levelname)s - %(message)s"

/-- A journal without entries. -/
def empty : Journal := ⟨.info, standardLayout, []⟩

/-- Adds a message, if its level reaches the threshold. -/
def note (j : Journal) (level : Level) (message : Text) (context : Context) : Journal :=
  if j.threshold.weight ≤ level.weight then
    { j with entries := j.entries ++ [⟨level, withContext message context⟩] }
  else j

/-- The level of a name in either case; unknown names are refused. -/
def thresholdOf (name : Text) : Except Fault Level :=
  match Level.ofName? name.upper with
  | some level => .ok level
  | none => .error (.refused (.unknownLevel name.upper))

end Journal

end IssueDigest
