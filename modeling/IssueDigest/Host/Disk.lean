import IssueDigest.Fault
import IssueDigest.Host.Path
import IssueDigest.Table
/-!
# The disk

Files and directories by their place, seen from the working directory. Looking a path up goes name
by name, so that a missing or misplaced directory on the way is noticed before what it should lead
to. A schedule of mishaps says which attempts to write fail, counted from the first; a mishap leaves
the file alone or cuts it off. Stored texts may end their lines in any of three ways; inside the library
a line ends with a line feed.
-/

namespace IssueDigest

/-- Line ends of any kind as line feeds. -/
def unifyLines : List Char → List Char
  | '\r' :: '\n' :: rest => '\n' :: unifyLines rest
  | '\r' :: rest => '\n' :: unifyLines rest
  | c :: rest => c :: unifyLines rest
  | [] => []

/-- The characters of a stored text. -/
def decodeText (bs : List UInt8) : Except Fault (List Char) :=
  match Utf8.decode bs with
  | .ok cs => .ok (unifyLines cs)
  | .error defect => .error (.refused (.badOctets defect))

/-- The longest front of a run of halves. -/
def halves (t : Text) : Text := t.takeWhile fun c => c.char?.isNone

/-- The octets of a text, unless it cannot be stored. -/
def encodeText (t : Text) : Except Fault (List UInt8) :=
  match t.chars? with
  | some cs => pure (Utf8.encode cs)
  | none =>
    let front := t.takeWhile fun c => c.char?.isSome
    throw (.refused (.unstorable front.length (halves (t.drop front.length))))

/-- What stands at a place. -/
inductive Node where
  | directory
  | file (content : List UInt8)
  deriving DecidableEq, Repr

/-- How an attempt to write fails. -/
structure Mishap where
  /-- The cause that is reported. -/
  cause : OsCause
  /-- How many octets reached the file; none if it was not opened. -/
  kept : Option Nat
  deriving DecidableEq, Repr

/-- A disk, seen from the working directory. -/
structure Disk where
  /-- Everything in it but the working directory and what is above. -/
  nodes : Table (List String) Node
  /-- How many attempts to write there have been. -/
  attempts : Nat
  /-- The attempts that fail, by number. -/
  mishaps : Nat → Option Mishap

namespace Disk

/-- A disk with nothing in the working directory, on which every write succeeds. -/
def blank : Disk := ⟨.empty, 0, fun _ => none⟩

instance : Inhabited Disk := ⟨blank⟩

/-- Is the place the working directory, the root, or above the working directory? -/
def isStanding (place : List String) : Bool := place == ["/"] || place.all (· == "..")

/-- What stands at a place. -/
def node? (d : Disk) (place : List String) : Option Node :=
  if isStanding place then some .directory else d.nodes.get? place

/-- How many octets a name may have. -/
def nameLimit : Nat := 255

/-- How many octets a path may have, one for its end included. -/
def pathLimit : Nat := 4096

/-- Goes through the directories of names from a place; returns the place of the last name. -/
def descend (d : Disk) (place : List String) : List String → Except OsCause (List String)
  | [] => .ok place
  | [name] => if nameLimit < name.utf8ByteSize then .error .nameTooLong else .ok (Path.walk place name)
  | name :: rest =>
    if nameLimit < name.utf8ByteSize then .error .nameTooLong
    else
      match d.node? (Path.walk place name) with
      | none => .error .noEntry
      | some (.file _) => .error .notDirectory
      | some .directory => descend d (Path.walk place name) rest

/-- The place of a path, if the directories on the way are there. -/
def locate (d : Disk) (p : Path) : Except OsCause (List String) :=
  if pathLimit ≤ p.text.utf8ByteSize then .error .nameTooLong
  else d.descend (if p.slashes = 0 then [] else ["/"]) p.names

/-- The refusal of a path, for a cause. -/
def refuse {α : Type} (p : Path) (cause : OsCause) : Except Fault α :=
  .error (.os ⟨cause, p.text⟩)

/-- Refuses a path with a NUL in it. -/
def checkPath (p : Path) : Except Fault Unit :=
  if p.text.any (· == '\x00') then .error (.refused .nulInPath) else .ok ()

/-- Does something stand at the path? Missing and misplaced directories on the way are no fault. -/
def holds (d : Disk) (p : Path) : Except Fault Bool :=
  match checkPath p with
  | .error _ => .ok false
  | .ok () =>
    match d.locate p with
    | .ok place => .ok (d.node? place).isSome
    | .error .nameTooLong => refuse p .nameTooLong
    | .error _ => .ok false

/-- Is there a directory at the path? -/
def hasDirectory (d : Disk) (p : Path) : Bool :=
  match d.locate p with
  | .ok place => d.node? place == some .directory
  | .error _ => false

/-- The octets of the file at a path. -/
def read (d : Disk) (p : Path) : Except Fault (List UInt8) := do
  checkPath p
  match d.locate p with
  | .error cause => refuse p cause
  | .ok place =>
    match d.node? place with
    | none => refuse p .noEntry
    | some .directory => refuse p .isDirectory
    | some (.file content) => pure content

/-- Puts something at a place. -/
def put (d : Disk) (place : List String) (n : Node) : Disk := { d with nodes := d.nodes.put place n }

/-- Takes what stands at a place away. -/
def remove (d : Disk) (place : List String) : Disk := { d with nodes := d.nodes.erase place }

/-- Makes one directory. -/
def makeDirectory (d : Disk) (p : Path) : Except OsCause Disk := do
  let place ← d.locate p
  match d.node? place with
  | some _ => throw .entryExists
  | none => pure (d.put place .directory)

/-- Makes the directories along names that are still to come, those that are there left alone. -/
def makeDirectories (d : Disk) (slashes : Nat) : List String → List String → Disk × Except Fault Unit
  | done, [] =>
    let p : Path := ⟨slashes, done⟩
    match d.makeDirectory p with
    | .ok d => (d, .ok ())
    | .error cause => (d, if d.hasDirectory p then .ok () else refuse p cause)
  | done, name :: rest =>
    let p : Path := ⟨slashes, done⟩
    match d.makeDirectory p with
    | .ok d => makeDirectories d slashes (done ++ [name]) rest
    | .error cause =>
      if d.hasDirectory p then makeDirectories d slashes (done ++ [name]) rest
      else (d, refuse p cause)

/-- Sees to it that there is a directory at the path, with those above it. -/
def ensureDirectory (d : Disk) (p : Path) : Disk × Except Fault Unit :=
  match checkPath p with
  | .error e => (d, .error e)
  | .ok () =>
    match d.makeDirectory p with
    | .ok d => (d, .ok ())
    | .error .noEntry => d.makeDirectories p.slashes (p.names.take 1) (p.names.drop 1)
    | .error cause => (d, if d.hasDirectory p then .ok () else refuse p cause)

/-- The place of a path, if a file can be written there. -/
def writable (d : Disk) (p : Path) : Except Fault (List String) := do
  checkPath p
  match d.locate p with
  | .error cause => refuse p cause
  | .ok place =>
    match d.node? place with
    | some .directory => refuse p .isDirectory
    | _ => pure place

/-- Writes the file at a path. -/
def write (d : Disk) (p : Path) (content : List UInt8) : Disk × Except Fault Unit :=
  match d.writable p with
  | .error e => (d, .error e)
  | .ok place =>
    let next := { d with attempts := d.attempts + 1 }
    match d.mishaps d.attempts with
    | none => (next.put place (.file content), .ok ())
    | some ⟨cause, none⟩ => (next, refuse p cause)
    | some ⟨cause, some kept⟩ =>
      (next.put place (.file (content.take kept)), refuse p cause)

end Disk

end IssueDigest
