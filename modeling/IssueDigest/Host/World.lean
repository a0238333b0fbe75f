import IssueDigest.Calendar.Date
import IssueDigest.Host.Disk
import IssueDigest.Host.Server
import IssueDigest.Journal.Basic
/-!
# The world around a store

What a store works on: the disk, the server, the journal, the clock and the environment, and what a
run printed. Beside the program there may be a file of variables, or in one of the directories around
it; the world says what the nearest one holds, and not where it was found. An action that works on some
state either succeeds or fails, and in both cases leaves the state as it then is.
-/

namespace IssueDigest

/-- An action on a state that may fail; the state is kept in either case. -/
abbrev Act (σ α : Type) := ExceptT Fault (StateM σ) α

/-- Everything outside the library that it reads and writes. -/
structure World where
  disk : Disk
  server : Server
  journal : Journal
  /-- The moment that the clock shows. -/
  now : Moment
  /-- Variables of the environment. -/
  environment : List (String × String)
  /-- The file of variables beside the program, if there is one. -/
  nearby : Option (List UInt8)
  /-- Is what is printed encoded on its way out, so that it can hold no halves? -/
  encodes : Bool
  /-- What was printed. -/
  printed : Text
  /-- What was printed about mistakes and failures. -/
  complained : Text

/-- The first second of a year, in local time. -/
def Moment.newYear (year : Nat) : Moment := ⟨⟨year, 1, 1⟩, ⟨0, 0, 0, 0⟩, none⟩

namespace World

/-- An empty disk, an empty server, an empty journal and an empty environment, and no variables beside
the program. Nothing was printed, and what is printed is kept as it is. -/
def blank : World where
  disk := .blank
  server := .blank
  journal := .empty
  now := .newYear 2024
  environment := []
  nearby := none
  encodes := false
  printed := []
  complained := []

instance : Inhabited World := ⟨blank⟩

/-- Adds a message to the journal. -/
def note (w : World) (level : Level) (message : Text) (context : List (String × Json)) : World :=
  { w with
    journal := w.journal.note level message (context.map fun c => (Text.ofString c.1, c.2)) }

/-- Prints a text. -/
def print (w : World) (t : Text) : World := { w with printed := w.printed ++ t }

/-- Prints a text about a mistake or a failure. -/
def complain (w : World) (t : Text) : World := { w with complained := w.complained ++ t }

/-- Writes a file. -/
def writeFile (w : World) (p : Path) (content : List UInt8) : World × Except Fault Unit :=
  let (disk, result) := w.disk.write p content
  ({ w with disk }, result)

/-- Makes a call to the server. -/
def call (w : World) (c : Call) : World × Except Fault Unit :=
  let (server, result) := w.server.call c
  ({ w with server }, result)

end World

namespace Act

/-- A pure step that may fail. -/
def lift {σ α : Type} (x : Except Fault α) : Act σ α :=
  match x with
  | .ok a => pure a
  | .error e => throw e

/-- Adds a message to the journal. -/
def note (level : Level) (message : Text) (context : List (String × Json)) : Act World Unit :=
  modify fun w => w.note level message context

/-- Prints a line. Where it has to be encoded and cannot, nothing of it is printed. -/
def printLine (t : Text) : Act World Unit := do
  if (← get).encodes then
    let _ ← lift (encodeText t)
  modify fun w => w.print (t ++ [.char '\n'])

/-- Prints a line about a mistake or a failure. -/
def complain (t : Text) : Act World Unit := modify fun w => w.complain (t ++ [.char '\n'])

/-- Runs an action, then another one in any case; a failure of the latter counts first. -/
def andFinally {σ α : Type} (body : Act σ α) (last : Act σ Unit) : Act σ α := do
  let result ← try (Except.ok <$> body : Act σ (Except Fault α)) catch e => pure (.error e)
  last
  lift result

end Act

end IssueDigest
