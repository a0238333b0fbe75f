import IssueDigest.Proofs.Outages
import IssueDigest.Proofs.Printout
import IssueDigest.Proofs.Reopening
/-!
# Which store a run works on

The store that is asked for may be out of reach, and then another one stands in for it. The choice falls
on the file if it is asked for, or if it stands in for a server that cannot be used
(`Settings.PicksFile`); what can go wrong after that is that the file cannot be opened, and then memory
stands in.

Whether a file store is created depends on the settings, the server and the disk, and on nothing else:
`finds_of_create` reads off a run what that was, and `run_create_file` makes a store of it, in any world.
-/

namespace IssueDigest

open Store

/-! ### The server -/

/-- Can a store be opened on the server? -/
def Server.isUsable (server : Server) (url : String) : Bool :=
  (server.checkAddress url).isOk && !server.outage server.calls .ping && server.awake

namespace Store

theorem run_ping_server (name front : String) (counters : Counters) (w : World) :
    ∃ counters', ping.run ⟨⟨name, counters, .server front⟩, w⟩ =
      (.ok (!w.server.outage w.server.calls .ping && w.server.awake),
        called ⟨⟨name, counters', .server front⟩, w⟩) := by
  rw [ping, Act.run_get_bind]
  dsimp only
  cases hping : w.server.outage w.server.calls .ping with
  | false =>
    have hcall := run_call (s := ⟨⟨name, counters, .server front⟩, w⟩) hping
    rw [Act.run_bind, Act.run_tryCatch, Act.run_bind_ok hcall]
    exact ⟨counters, rfl⟩
  | true =>
    have hcall := run_call_of_outage (s := ⟨⟨name, counters, .server front⟩, w⟩) hping
    rw [Act.run_bind, Act.run_tryCatch, Act.run_bind_error hcall]
    exact ⟨{ counters with errors := counters.errors + 1 }, rfl⟩

/-- The world after one more call to the server. -/
def afterCall (w : World) : World :=
  { w with server := { w.server with calls := w.server.calls + 1 } }

theorem run_close_server (name front : String) (w : World) :
    (runOn (onServer name front) close).run w = (.ok (), afterCall w) ∨
      (runOn (onServer name front) close).run w = (.error (.server "down"), afterCall w) := by
  have hclose : close.run ⟨onServer name front, w⟩ = (call .close).run ⟨onServer name front, w⟩ := rfl
  rw [run_runOn, hclose]
  obtain hcall | hcall := run_call_cases .close ⟨onServer name front, w⟩
  · rw [hcall]
    exact .inl rfl
  · rw [hcall]
    exact .inr rfl

/-- An address is taken or refused, and nothing else happens. -/
theorem run_openServer (name url front : String) (w : World) :
    (openServer name url front).run w =
      ((w.server.checkAddress url).map fun _ => onServer name front, w) := by
  rw [openServer, Act.run_get_bind]
  cases w.server.checkAddress url <;> rfl

theorem Server.refused_of_checkAddress {server : Server} {url : String} {e : Fault}
    (h : server.checkAddress url = .error e) : ∃ note, e = .refused (.badAddress note) := by
  rw [Server.checkAddress] at h
  split at h
  · cases h
  · exact ⟨_, (Except.error.inj h).symm⟩

/-- **A server store is opened if the server can be used**, and otherwise passed over. -/
theorem run_tryOpen_server (settings : Settings) (w : World) : ∃ server journal,
    (tryOpen settings .server).run w =
      (.ok (if w.server.isUsable settings.serverUrl then some (onServer "redis" settings.front)
        else none), { w with server, journal }) := by
  have hopened := run_openServer "redis" settings.serverUrl settings.front w
  cases haddress : w.server.checkAddress settings.serverUrl with
  | error e =>
    obtain ⟨note, rfl⟩ := Server.refused_of_checkAddress haddress
    have husable : w.server.isUsable settings.serverUrl = false := by
      rw [Server.isUsable, haddress]
      rfl
    rw [haddress] at hopened
    rw [husable, tryOpen, Act.run_tryCatch, openUsable, Act.run_bind_error hopened]
    exact ⟨_, _, rfl⟩
  | ok =>
    have husable : w.server.isUsable settings.serverUrl =
        (!w.server.outage w.server.calls .ping && w.server.awake) := by
      rw [Server.isUsable, haddress]
      rfl
    rw [haddress] at hopened
    obtain ⟨counters, hping⟩ := run_ping_server "redis" settings.front ⟨0, 0, 0⟩ w
    rw [← husable] at hping
    have hasked : (runOn (onServer "redis" settings.front) ping).run w =
        (.ok (w.server.isUsable settings.serverUrl), afterCall w) := by
      rw [run_runOn, onServer, hping]
      rfl
    rw [tryOpen, Act.run_tryCatch, openUsable, Act.run_bind_ok hopened, Act.run_bind_ok hasked]
    cases w.server.isUsable settings.serverUrl with
    | true => exact ⟨_, _, rfl⟩
    | false =>
      -- Taking leave of the server may fail as well, and is caught in the same place.
      rw [if_neg (by simp), if_neg (by simp), Act.note, Act.run_modify_bind, Act.run_bind]
      obtain hclose | hclose := run_close_server "redis" settings.front ((afterCall w).note .warning
        "Redis connection failed" [("redis_url", .string settings.serverUrl)])
      · rw [hclose]
        exact ⟨_, _, rfl⟩
      · rw [hclose]
        exact ⟨_, _, rfl⟩

/-! ### What opening a store leaves in place -/

open Act (Preserves)

variable {P : World → Prop}

/-- Opening a file store has to do with the disk and the journal alone. -/
theorem preserves_openFile (name path : String) (hdisk : ∀ w disk, P w → P { w with disk })
    (hnote : ∀ context,
      (Act.note .warning "Ignoring unreadable dismissal file" context).Preserves P) :
    (openFile name path).Preserves P := by
  intro w hw
  rw [openFile, Act.run_get_bind]
  dsimp only
  rw [Act.run_set_bind]
  refine Preserves.bind (.lift _) (fun _ => (Preserves.lift _).bind fun there => ?_) _ (hdisk _ _ hw)
  split
  · exact .pure _
  · split
    · exact .pure _
    · split
      · exact (hnote _).bind fun _ => .pure _
      · exact .throw _

/-- What is said while a store is opened. -/
def openingMessages : List Text :=
  ["Redis dismissal store created", "Redis connection failed", "File dismissal store created",
    "Ignoring unreadable dismissal file", "Memory dismissal store created",
    "Failed to create dismissal store"]

/-- Does the property survive what is done while a store is opened: a change of the disk, a call to the
server and what is said? -/
structure SurvivesOpening (P : World → Prop) : Prop where
  disk : ∀ w disk, P w → P { w with disk }
  call : ∀ w, P w → P (afterCall w)
  note : ∀ level, ∀ message ∈ openingMessages, ∀ context, (Act.note level message context).Preserves P

namespace SurvivesOpening

theorem openFile (h : SurvivesOpening P) (name path : String) : (Store.openFile name path).Preserves P :=
  preserves_openFile name path h.disk fun _ => h.note _ _ (by simp [openingMessages]) _

theorem ping (h : SurvivesOpening P) (name front : String) :
    (runOn (onServer name front) Store.ping).Preserves P := by
  intro w hw
  obtain ⟨counters, hrun⟩ := run_ping_server name front ⟨0, 0, 0⟩ w
  rw [run_runOn, onServer, hrun]
  exact h.call w hw

theorem close (h : SurvivesOpening P) (name front : String) :
    (runOn (onServer name front) Store.close).Preserves P := by
  intro w hw
  obtain hrun | hrun := run_close_server name front w
  · rw [hrun]
    exact h.call w hw
  · rw [hrun]
    exact h.call w hw

theorem openUsable (h : SurvivesOpening P) (settings : Settings) (kind : Backend) :
    (Store.openUsable settings kind).Preserves P := by
  cases kind with
  | memory => exact (h.note _ _ (by simp [openingMessages]) _).bind fun _ => .pure _
  | file =>
    exact (h.openFile _ _).bind fun _ =>
      (h.note _ _ (by simp [openingMessages]) _).bind fun _ => .pure _
  | server =>
    -- The store that is asked is the one that was opened, so the run is followed that far.
    intro w hw
    have hopened := run_openServer "redis" settings.serverUrl settings.front w
    cases haddress : w.server.checkAddress settings.serverUrl with
    | error e =>
      rw [haddress] at hopened
      rw [Store.openUsable, Act.run_bind_error hopened]
      exact hw
    | ok =>
      rw [haddress] at hopened
      rw [Store.openUsable, Act.run_bind_ok hopened]
      refine (h.ping _ _).bind (fun there => ?_) w hw
      split
      · exact (h.note _ _ (by simp [openingMessages]) _).bind fun _ => .pure _
      · exact (h.note _ _ (by simp [openingMessages]) _).bind fun _ =>
          (h.close _ _).bind fun _ => .pure _

theorem tryOpen (h : SurvivesOpening P) (settings : Settings) (kind : Backend) :
    (Store.tryOpen settings kind).Preserves P := by
  refine (h.openUsable settings kind).tryCatch fun e => ?_
  split
  · exact (h.note _ _ (by simp [openingMessages]) _).bind fun _ => .pure _
  · exact .throw e

end SurvivesOpening

end Store

/-! ### The file -/

/-- Does the choice fall on the file? -/
def Settings.PicksFile (settings : Settings) (server : Server) : Prop :=
  settings.backend = .file ∨ settings.backend = .server ∧ server.isUsable settings.serverUrl = false

/-- Can the directory of the file be made, and does a store start with these records then? -/
structure Settings.Finds (settings : Settings) (d disk : Disk) (records : Table Text Record) :
    Prop where
  made : d.ensureDirectory (Path.ofString settings.filePath).parent = (disk, .ok ())
  start : startsWith disk (Path.ofString settings.filePath) = .ok records

/-- A directory that was made is found again, while directories stay where they are. -/
theorem Settings.Finds.again {settings : Settings} {d d' disk : Disk}
    {records records' : Table Text Record} (h : settings.Finds d disk records)
    (hdirectories : ∀ place, disk.node? place = some .directory → d'.node? place = some .directory)
    (hstart : startsWith d' (Path.ofString settings.filePath) = .ok records') :
    settings.Finds d' d' records' := by
  obtain ⟨hcheck, hdirectory⟩ := Disk.hasDirectory_of_ensureDirectory h.made
  have hthere := Disk.hasDirectory_of_directories hdirectories hdirectory
  exact ⟨Disk.ensureDirectory_of_hasDirectory hcheck hthere, hstart⟩

namespace Store

variable {settings : Settings} {w w' : World} {store : Store} {disk : Disk}
  {records : Table Text Record}

theorem run_tryOpen_file (h : settings.Finds w.disk disk records) :
    ∃ errors journal, (tryOpen settings .file).run w =
      (.ok (some (onFile "file" (Path.ofString settings.filePath) records errors)),
        { w with disk, journal }) := by
  obtain ⟨errors, journal, hopen⟩ := run_openFile_of_made "file" h.made h.start
  exact ⟨errors, _, Act.run_tryCatch_ok (Act.run_bind_ok hopen)⟩

theorem finds_of_tryOpen (h : (tryOpen settings .file).run w = (.ok (some store), w')) :
    ∃ disk records, settings.Finds w.disk disk records := by
  rw [tryOpen, Act.run_tryCatch] at h
  split at h
  · next hopen =>
    obtain ⟨found, w₁, hopen, -⟩ := Act.run_bind_eq_ok hopen
    obtain ⟨records, errors, disk, journal, -, -, hmade, hstart⟩ := started_of_openFile hopen
    exact ⟨disk, records, hmade, hstart⟩
  · split at h
    · cases Except.ok.inj (Prod.mk.inj h).1
    · cases (Prod.mk.inj h).1

/-! ### The first that can be opened -/

section First

variable {wanted kind : Backend} {rest : List Backend}

theorem run_openFirst_some (wanted : Backend) (rest : List Backend)
    (h : (tryOpen settings kind).run w = (.ok (some store), w')) :
    ∃ journal, (openFirst settings wanted (kind :: rest)).run w =
      (.ok store, { w' with journal }) := by
  rw [openFirst, Act.run_bind_ok h]
  dsimp only
  split
  · exact ⟨_, rfl⟩
  · exact ⟨_, rfl⟩

theorem run_openFirst_none (h : (tryOpen settings kind).run w = (.ok none, w')) :
    (openFirst settings wanted (kind :: rest)).run w =
      (openFirst settings wanted rest).run w' := by
  rw [openFirst, Act.run_bind_ok h]

/-- A memory store can always be opened, so the search ends there at the latest. -/
theorem eq_inMemory_of_openFirst
    (h : (openFirst settings wanted [.memory]).run w = (.ok store, w')) :
    store = inMemory "memory" := by
  have hopen : (tryOpen settings .memory).run w = (.ok (some (inMemory "memory")), _) := rfl
  obtain ⟨journal, hrun⟩ := run_openFirst_some wanted [] hopen
  exact (Except.ok.inj (Prod.mk.inj (hrun.symm.trans h)).1).symm

theorem finds_of_openFirst {book : FileBook} (hfile : store.backing = .file book)
    (h : (openFirst settings wanted [.file, .memory]).run w = (.ok store, w')) :
    ∃ disk records, settings.Finds w.disk disk records := by
  obtain ⟨found, w₁, hopen, hrest⟩ := Act.run_bind_eq_ok h
  cases found with
  | some found => exact finds_of_tryOpen hopen
  | none =>
    obtain rfl := eq_inMemory_of_openFirst hrest
    cases hfile

end First

theorem run_create (settings : Settings) (w : World) : (create settings none).run w =
    (openFirst settings settings.backend (settings.backend :: fallbacks settings.backend)).run w :=
  rfl

/-- **A file store is created** where the choice falls on the file and the file can be opened. -/
theorem run_create_file (hpicks : settings.PicksFile w.server)
    (h : settings.Finds w.disk disk records) :
    ∃ errors server journal, (create settings none).run w =
      (.ok (onFile "file" (Path.ofString settings.filePath) records errors),
        { w with disk, server, journal }) := by
  rw [run_create]
  rcases hpicks with hbackend | ⟨hbackend, hserver⟩
  · obtain ⟨errors, journal, hopen⟩ := run_tryOpen_file h
    obtain ⟨journal', hrun⟩ := run_openFirst_some .file [.memory] hopen
    rw [hbackend]
    exact ⟨errors, w.server, journal', hrun⟩
  · obtain ⟨server, journal, hnone⟩ := run_tryOpen_server settings w
    rw [hserver] at hnone
    obtain ⟨errors, journal', hopen⟩ := run_tryOpen_file (w := { w with server, journal }) h
    obtain ⟨journal'', hrun⟩ := run_openFirst_some .server [.memory] hopen
    rw [hbackend]
    exact ⟨errors, server, journal'', (run_openFirst_none hnone).trans hrun⟩

/-- **Where a file store is created** the choice has fallen on the file, and it could be opened. -/
theorem finds_of_create {book : FileBook} (h : (create settings none).run w = (.ok store, w'))
    (hfile : store.backing = .file book) :
    settings.PicksFile w.server ∧ ∃ disk records, settings.Finds w.disk disk records := by
  rw [run_create] at h
  cases hbackend : settings.backend with
  | memory =>
    rw [hbackend] at h
    obtain rfl := eq_inMemory_of_openFirst h
    cases hfile
  | file =>
    rw [hbackend] at h
    exact ⟨.inl hbackend, finds_of_openFirst hfile h⟩
  | server =>
    rw [hbackend] at h
    obtain ⟨server, journal, htry⟩ := run_tryOpen_server settings w
    cases husable : w.server.isUsable settings.serverUrl with
    | true =>
      rw [husable] at htry
      obtain ⟨journal', hrun⟩ := run_openFirst_some .server [.file, .memory] htry
      obtain rfl := Except.ok.inj (Prod.mk.inj (hrun.symm.trans h)).1
      cases hfile
    | false =>
      rw [husable] at htry
      obtain ⟨disk, records, hfinds⟩ :=
        finds_of_openFirst hfile ((run_openFirst_none htry).symm.trans h)
      exact ⟨.inr ⟨hbackend, husable⟩, disk, records, hfinds⟩

end Store

end IssueDigest
