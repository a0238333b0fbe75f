import IssueDigest.Dismissal.Record
import IssueDigest.Host.World
import IssueDigest.Issue.Key
import IssueDigest.Json.Reader
import IssueDigest.Json.Writer
/-!
# Dismissal stores

A store keeps dismissal records by issue key and counts what it did. There are three kinds:

* a memory store keeps a table;
* a file store keeps a table by key text, and writes the whole of it to its file after every change,
  or once when the outermost batch block is left;
* a server store keeps each record as a text of its own on a shared server, and nothing itself.

Every operation is an `Action` on a `Session`, the store together with the world. An action that
fails leaves the session as it then is: the counters, the table and the file are those of the moment
of the failure. Each call to the server and each writing of the file is a step of its own.
-/

namespace IssueDigest

/-- What a store did so far. -/
structure Counters where
  /-- How often it was asked whether an issue is dismissed. -/
  checks : Nat
  /-- How many records it copied. -/
  copies : Nat
  /-- How many faults it met and recorded. -/
  errors : Nat
  deriving DecidableEq, Repr, Inhabited

/-- The table of a file store, and how it stands to the file. -/
structure FileBook where
  path : Path
  /-- The records, by key text. -/
  records : Table Text Record
  /-- How many batch blocks are open. -/
  depth : Nat
  /-- Has something changed that is still to be written? -/
  pending : Bool

/-- Where a store keeps its records. -/
inductive Backing where
  | memory (records : Table IssueKey Record)
  | file (book : FileBook)
  /-- On the server, under names that start with `front`. -/
  | server (front : String)

/-- A dismissal store. -/
structure Store where
  /-- Its name, for messages and statistics. -/
  name : String
  counters : Counters
  backing : Backing

/-- A store and the world it works in. -/
structure Session where
  store : Store
  world : World

/-- An action on a session. -/
abbrev Action (α : Type) := Act Session α

/-- An action on the world, in a session. -/
def Action.ofWorld {α : Type} (action : Act World α) : Action α := do
  let s ← get
  let (result, world) := action.run s.world
  set { s with world }
  Act.lift result

namespace Session

/-- Replaces where the store keeps its records. -/
def setBacking (s : Session) (b : Backing) : Session :=
  { s with store := { s.store with backing := b } }

/-- Changes the counters. -/
def count (s : Session) (f : Counters → Counters) : Session :=
  { s with store := { s.store with counters := f s.store.counters } }

end Session

namespace Store

open Act (lift)

/-- Adds a message to the journal. -/
def note (level : Level) (message : Text) (context : List (String × Json)) : Action Unit :=
  modify fun s => { s with world := s.world.note level message context }

/-- Records that something went wrong. -/
def noteError : Action Unit :=
  modify (Session.count · fun c => { c with errors := c.errors + 1 })

/-- Makes a call to the server. -/
def call (c : Call) : Action Unit := do
  let s ← get
  let (world, result) := s.world.call c
  set { s with world }
  lift result

/-- The name of an issue's entry on the server. -/
def entryName (front : String) (key : IssueKey) : Except Fault String :=
  key.write.map fun text => front ++ text

/-- The characters of an entry that the server handed over. -/
def charsOf : Answer → Except Fault (List Char)
  | .text s => .ok s.toList
  | .octets bs =>
    match Utf8.decode bs with
    | .ok cs => .ok cs
    | .error defect => .error (.refused (.badOctets defect))

/-- The record that an entry of the server stands for. -/
def readEntry (a : Answer) : Except Fault Record := charsOf a >>= Json.read >>= Record.ofJson

/-- The entry of the server for a record. -/
def writeEntry (r : Record) : Except Fault Text := r.toJson.write Json.asciiLine

/-- A written text as a string: what is written in ASCII holds no halves. -/
def asString (t : Text) : String := String.ofList (t.filterMap CodePoint.char?)

/-- The document of a table of records. -/
def documentOf (records : Table Text Record) : Json :=
  .object (records.entries.map fun (key, r) => (key, r.toJson))

/-- The octets of a token of the document, unless it cannot be stored. -/
def octetsOf (token : Json.Token) : Except Fault (List UInt8) := do
  token.check
  encodeText (token.render false)

/-- The octets of tokens, up to the first that cannot be stored. -/
def octetsUpTo : List Json.Token → List UInt8 × Except Fault Unit
  | [] => ([], .ok ())
  | token :: rest =>
    match octetsOf token with
    | .error e => ([], .error e)
    | .ok bs =>
      let (more, result) := octetsUpTo rest
      (bs ++ more, result)

/-- The octets of the document of a table, up to the first record that cannot be stored. -/
def octets (records : Table Text Record) : List UInt8 × Except Fault Unit :=
  octetsUpTo ((documentOf records).tokens Json.sortedPage)

/-- Writes the table of a file store to its file. A file that cannot be written is an error of the
store; a record that cannot be stored leaves the file cut off in front of it. -/
def saveFile (book : FileBook) : Action Unit := do
  let s ← get
  let (content, stored) := octets book.records
  let (world, written) := s.world.writeFile book.path content
  set { s with world }
  match written with
  | .error e =>
    if e.isOs then
      noteError
      note .error "Failed to write dismissal file"
        [("path", .string book.path.text), ("error", .text e.message)]
    throw e
  | .ok () =>
    lift stored
    modify (Session.setBacking · (.file { book with pending := false }))

/-- Takes over a changed table and writes it, or leaves it pending while a batch block is open. -/
def persist (book : FileBook) : Action Unit := do
  if 0 < book.depth then modify (Session.setBacking · (.file { book with pending := true }))
  else
    modify (Session.setBacking · (.file book))
    saveFile book

/-- The record of an issue. -/
def find (key : IssueKey) : Action (Option Record) := do
  match (← get).store.backing with
  | .memory records => pure (records.get? key)
  | .file book =>
    let text ← lift key.write
    pure (book.records.get? text)
  | .server front =>
    let name ← lift (entryName front key)
    call .get
    match (← get).world.server.answer? name with
    | none => pure none
    | some answer => some <$> lift (readEntry answer)

/-- Keeps a record for an issue, in place of an earlier one. -/
def keep (key : IssueKey) (r : Record) : Action Unit := do
  match (← get).store.backing with
  | .memory records => modify (Session.setBacking · (.memory (records.put key r)))
  | .file book =>
    let text ← lift key.write
    persist { book with records := book.records.put text r }
  | .server front =>
    let name ← lift (entryName front key)
    let entry ← lift (writeEntry r)
    try
      call .set
      modify fun s =>
        let server := s.world.server
        { s with
          world := { s.world with
            server := { server with entries := server.entries.put name (asString entry) } } }
    catch e =>
      noteError
      note .error "Failed to store dismissal in Redis"
        [("issue_key", .string key.render), ("error", .text e.message)]
      throw e

/-- Deletes entries of the server; returns how many there were. -/
def deleteEntries (names : List String) : Action Nat := do
  call .delete
  let s ← get
  let entries := s.world.server.entries
  let present := names.filter fun name => (entries.get? name).isSome
  set { s with
    world := { s.world with
      server := { s.world.server with
        entries := present.foldl (fun t name => t.erase name) entries } } }
  pure present.length

/-- Drops the record of an issue; returns whether there was one. -/
def drop (key : IssueKey) : Action Bool := do
  match (← get).store.backing with
  | .memory records =>
    modify (Session.setBacking · (.memory (records.erase key)))
    pure (records.get? key).isSome
  | .file book =>
    let text ← lift key.write
    if (book.records.get? text).isSome then
      persist { book with records := book.records.erase text }
      pure true
    else pure false
  | .server front =>
    let name ← lift (entryName front key)
    return 0 < (← deleteEntries [name])

/-- The names of a store's entries on the server. -/
def entryNames (front : String) : Action (List String) := do
  call .list
  return (← get).world.server.namesUnder front

/-- Drops all records. -/
def clear : Action Unit := do
  match (← get).store.backing with
  | .memory _ => modify (Session.setBacking · (.memory .empty))
  | .file book => persist { book with records := .empty }
  | .server front =>
    let names ← entryNames front
    if !names.isEmpty then
      let _ ← deleteEntries names

/-- How many records there are. -/
def size : Action Nat := do
  match (← get).store.backing with
  | .memory records => pure records.size
  | .file book => pure book.records.size
  | .server front => return (← entryNames front).length

/-- Writes a file store's table once more, or takes leave of the server. -/
def close : Action Unit := do
  match (← get).store.backing with
  | .memory _ => pure ()
  | .file book => saveFile book
  | .server _ => call .close

/-- Does the server answer? A store without a server has none to ask. -/
def ping : Action Bool := do
  match (← get).store.backing with
  | .server _ =>
    try
      call .ping
      return (← get).world.server.awake
    catch _ =>
      noteError
      pure false
  | _ => pure true

/-- Opens a batch block. -/
def enterBatch : Action Unit :=
  modify fun s =>
    match s.store.backing with
    | .file book => s.setBacking (.file { book with depth := book.depth + 1 })
    | _ => s

/-- Closes a batch block; a file store writes what is pending when no other block is open. -/
def leaveBatch : Action Unit := do
  match (← get).store.backing with
  | .file book =>
    let book := { book with depth := book.depth - 1 }
    modify (Session.setBacking · (.file book))
    if book.depth = 0 && book.pending then saveFile book
  | _ => pure ()

/-- Runs an action inside a batch block, which is closed in any case; a failure to write what is
pending takes the place of a failure of the action. -/
def batch {α : Type} (body : Action α) : Action α := do
  enterBatch
  Act.andFinally body leaveBatch

/-- Is the issue dismissed at this severity? -/
def isDismissed (key : IssueKey) (severity : Int) : Action Bool := do
  modify (Session.count · fun c => { c with checks := c.checks + 1 })
  match ← find key with
  | none => pure false
  | some r => pure (r.covers severity)

/-- Gives an issue the record of another one, if that has one. -/
def copy (source target : IssueKey) : Action Unit := do
  match ← find source with
  | none =>
    let name := (← get).store.name
    let sourceText ← lift source.write
    let targetText ← lift target.write
    note .warning "No dismissal data to copy"
      [("backend", .string name), ("from_key", .string sourceText),
        ("to_key", .string targetText)]
  | some r =>
    keep target r
    modify (Session.count · fun c => { c with copies := c.copies + 1 })

/-- Dismisses an issue at a severity, at the moment given or else now. -/
def dismiss (key : IssueKey) (severity : Int) (moment : Option Moment) : Action Record := do
  let previous ← find key
  let r : Record :=
    { since := moment.getD (← get).world.now
      severity
      count := match previous with
        | some p => p.count + 1
        | none => 1 }
  keep key r
  let name := (← get).store.name
  let text ← lift key.write
  note .debug "Issue dismissed"
    [("backend", .string name), ("issue_key", .string text), ("severity_level", .int severity)]
  pure r

/-- What a store says about itself. -/
def stats : Action (List (String × Json)) := do
  let n ← size
  let store := (← get).store
  let extra : List (String × Json) :=
    match store.backing with
    | .memory _ => []
    | .file book => [("path", .string book.path.text)]
    | .server front => [("key_prefix", .string front)]
  pure <|
    [("backend", .string store.name), ("size", .int n), ("checks", .int store.counters.checks),
      ("copies", .int store.counters.copies), ("errors", .int store.counters.errors)] ++ extra

end Store

end IssueDigest
