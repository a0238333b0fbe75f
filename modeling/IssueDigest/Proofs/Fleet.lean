import IssueDigest.Proofs.Backends
/-!
# Stores that share a server

A `Fleet` is any number of stores with one server between them. Each store has a session of its own; what
it finds as the server there is the common one, and what it leaves is what the others find. Its journal,
its clock and its disk nobody else sees.

Operations of the stores follow one another in any order (`Fleet.runTurns`). What a single store does by
itself is `Session.runTurns`.
-/

namespace IssueDigest

/-- The session with another server. -/
def Session.withServer (s : Session) (server : Server) : Session :=
  { s with world := { s.world with server } }

/-- The operations one after another, each whether or not those before it failed. -/
def Session.runTurns (s : Session) : List Turn → List (Except Fault Outcome) × Session
  | [] => ([], s)
  | t :: rest =>
    let (result, s) := t.run.run s
    let (results, s) := s.runTurns rest
    (result :: results, s)

/-- Stores that share a server. -/
structure Fleet (ι : Type) where
  /-- The server that they share. -/
  server : Server
  /-- The stores, each with the rest of the world it works in. -/
  sessions : ι → Session

namespace Fleet

variable {ι α : Type} [DecidableEq ι] {f : Fleet ι} {i j : ι}

/-- A store and the world it works in. -/
def session (f : Fleet ι) (i : ι) : Session := (f.sessions i).withServer f.server

/-- The fleet when a store has come to this session. -/
def put (f : Fleet ι) (i : ι) (s : Session) : Fleet ι :=
  ⟨s.world.server, Function.update f.sessions i s⟩

/-- One of the stores does something. -/
def act (f : Fleet ι) (i : ι) (x : Action α) : Except Fault α × Fleet ι :=
  let (result, s) := x.run (f.session i)
  (result, f.put i s)

/-- Operations of the stores, one after another: who did what comes with the result. -/
def runTurns (f : Fleet ι) : List (ι × Turn) → List (ι × Except Fault Outcome) × Fleet ι
  | [] => ([], f)
  | (i, t) :: rest =>
    let (result, f) := f.act i t.run
    let (results, f) := f.runTurns rest
    ((i, result) :: results, f)

theorem session_put_self (f : Fleet ι) (i : ι) (s : Session) : (f.put i s).session i = s := by
  simp [session, put, Session.withServer]

/-- The others find the server as it was left. -/
theorem session_put_of_ne (h : j ≠ i) (s : Session) :
    (f.put i s).session j = (f.session j).withServer s.world.server := by
  simp [session, put, Session.withServer, h]

theorem snd_act (f : Fleet ι) (i : ι) (x : Action α) :
    (f.act i x).2 = f.put i (x.run (f.session i)).2 := rfl

end Fleet

end IssueDigest
