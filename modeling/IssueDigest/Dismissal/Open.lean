import IssueDigest.Dismissal.Store
import IssueDigest.Settings.Basic
/-!
# Opening dismissal stores

A file store starts with the records of its file. A file that is missing or unreadable counts as
empty, the latter with a warning. `create` opens the store that is asked for, or else the first one
behind it in the order server, file, memory that can be opened; a server counts as open when it
answers.
-/

namespace IssueDigest

namespace Store

/-- The records of the fields of a document. -/
def readRecords : List (Text × Json) → Except Fault (List (Text × Record))
  | [] => pure []
  | (key, v) :: rest => do
    let r ← Record.ofJson v
    let more ← readRecords rest
    pure ((key, r) :: more)

/-- The table of a document. -/
def tableOf : Json → Except Fault (Table Text Record)
  | .object fields => Table.ofPairs <$> readRecords fields
  | _ => .error (.refused .notAnObject)

/-- The table that the octets of a dismissal file stand for. -/
def readDocument (bs : List UInt8) : Except Fault (Table Text Record) :=
  decodeText bs >>= Json.read >>= tableOf

/-- The table of a dismissal file. -/
def readFile (d : Disk) (p : Path) : Except Fault (Table Text Record) := d.read p >>= readDocument

/-- Does a store start empty when its file cannot be read for this fault? -/
def isForgiven : Fault → Bool
  | .refused _ | .invalid _ _ | .os _ | .lacks _ | .mismatch _ => true
  | _ => false

/-- A memory store. -/
def inMemory (name : String) : Store := ⟨name, ⟨0, 0, 0⟩, .memory .empty⟩

/-- A file store with a table. -/
def onFile (name : String) (path : Path) (records : Table Text Record) (errors : Nat) : Store :=
  ⟨name, ⟨0, 0, errors⟩, .file ⟨path, records, 0, false⟩⟩

/-- A server store. -/
def onServer (name front : String) : Store := ⟨name, ⟨0, 0, 0⟩, .server front⟩

/-- Opens a file store; the directory of its file is made. -/
def openFile (name path : String) : Act World Store := do
  let p := Path.ofString path
  let w ← get
  let (disk, made) := w.disk.ensureDirectory p.parent
  set { w with disk }
  Act.lift made
  if !(← Act.lift (disk.holds p)) then pure (onFile name p .empty 0)
  else
    match readFile disk p with
    | .ok records => pure (onFile name p records 0)
    | .error e =>
      if isForgiven e then
        Act.note .warning "Ignoring unreadable dismissal file"
          [("path", .string p.text), ("error", .text e.message)]
        pure (onFile name p .empty 1)
      else throw e

/-- Opens a server store. -/
def openServer (name url front : String) : Act World Store := do
  Act.lift ((← get).server.checkAddress url)
  pure (onServer name front)

/-- Runs an action on a store that is not kept. -/
def runOn {α : Type} (store : Store) (action : Action α) : Act World α := do
  let (result, s) := action.run ⟨store, ← get⟩
  set s.world
  Act.lift result

/-- Opens a store of a kind, if it is usable. -/
def openUsable (settings : Settings) : Backend → Act World (Option Store)
  | .server => do
    let store ← openServer "redis" settings.serverUrl settings.front
    if ← runOn store ping then
      Act.note .info "Redis dismissal store created" []
      pure (some store)
    else
      Act.note .warning "Redis connection failed" [("redis_url", .string settings.serverUrl)]
      runOn store close
      pure none
  | .file => do
    let store ← openFile "file" settings.filePath
    Act.note .info "File dismissal store created" [("path", .string settings.filePath)]
    pure (some store)
  | .memory => do
    Act.note .info "Memory dismissal store created" []
    pure (some (inMemory "memory"))

/-- Is a store passed over when it cannot be opened for this fault? -/
def isPassedOver (e : Fault) : Bool := e.isOs || e.isRefusal || e.isServer

/-- Opens a store of a kind; none if it is unusable, with an entry in the journal. -/
def tryOpen (settings : Settings) (kind : Backend) : Act World (Option Store) := do
  try openUsable settings kind
  catch e =>
    if isPassedOver e then
      Act.note .error "Failed to create dismissal store"
        [("backend_type", .string kind.word), ("error", .text e.message)]
      pure none
    else throw e

/-- The kinds that stand in for a kind, in order. -/
def fallbacks : Backend → List Backend
  | .server => [.file, .memory]
  | .file => [.memory]
  | .memory => []

/-- Opens the first usable store of the kinds; `wanted` is the one that was asked for. -/
def openFirst (settings : Settings) (wanted : Backend) : List Backend → Act World Store
  | [] => pure (inMemory "memory")
  | kind :: rest => do
    match ← tryOpen settings kind with
    | none => openFirst settings wanted rest
    | some store =>
      if kind ≠ wanted then
        Act.note .warning "Using fallback dismissal store"
          [("backend", .string kind.word), ("primary_failed", .string wanted.word)]
      pure store

/-- The kind that is asked for: by name in any case, or else that of the settings. -/
def wantedKind (settings : Settings) (request : Option Text) : Except Fault Backend :=
  match request with
  | none | some [] => .ok settings.backend
  | some name =>
    match Backend.ofWord? name.lower with
    | some kind => .ok kind
    | none => .error (.refused (.notMember .backend name.lower.quoted))

/-- Opens the store that is asked for, or the first usable one that stands in for it. -/
def create (settings : Settings) (request : Option Text) : Act World Store := do
  let wanted ← Act.lift (wantedKind settings request)
  openFirst settings wanted (wanted :: fallbacks wanted)

end Store

end IssueDigest
