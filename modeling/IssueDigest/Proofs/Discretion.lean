import IssueDigest.Cli.Request
import IssueDigest.Proofs.Durability
import IssueDigest.Proofs.Interruption
/-!
# The level of the journal shows in the journal alone

Messages are logged in the middle of what stores do: within loops, between two changes, and where a fault is
being handled. Whether a message is kept depends on the level of the journal, and nothing else does: with
another level every task ends the same, and leaves the same list, the same store, the same disk and the
same server (`logging_changes_nothing`). What is kept under a level is what is kept under the lowest one, as
far as it reaches the level.

An action is **discreet** (`Act.Discreet`) if it never looks at the journal: whatever journal there is, it
ends the same way, and says the same to it. Adding a message is discreet, and so is what is put together
from discreet actions.
-/

namespace IssueDigest

open Store

/-! ### What is said to a journal -/

namespace Journal

/-- Adds entries, as far as they reach the threshold. -/
def adding (j : Journal) (said : List Entry) : Journal :=
  { j with entries := j.entries ++ said.filter fun e => j.threshold.weight ≤ e.level.weight }

@[simp]
theorem adding_nil (j : Journal) : j.adding [] = j := by
  simp [adding]

theorem adding_adding (j : Journal) (said more : List Entry) :
    (j.adding said).adding more = j.adding (said ++ more) := by
  rw [adding, adding, adding, List.filter_append, List.append_assoc]

theorem note_eq_adding (j : Journal) (level : Level) (message : Text) (context : Context) :
    j.note level message context = j.adding [⟨level, withContext message context⟩] := by
  unfold note adding
  split
  · next h => simp [h]
  · next h => simp [h]

end Journal

/-- A state with a journal in it, in whose place another one can be put. -/
class Journaled (σ : Type) where
  withJournal : Journal → σ → σ

export Journaled (withJournal)

instance : Journaled World := ⟨fun journal w => { w with journal }⟩

instance : Journaled Session := ⟨fun j s => { s with world := withJournal j s.world }⟩

instance : Journaled Dedup.Desk := ⟨fun j d => { d with session := withJournal j d.session }⟩

/-- Does the action come out the same whatever journal there is, and say the same to it? -/
def Act.Discreet {σ α : Type} [Journaled σ] (x : Act σ α) : Prop :=
  ∀ s, ∃ r s' said, ∀ j, x.run (withJournal j s) = (r, withJournal (j.adding said) s')

namespace Act.Discreet

/-! ### Putting actions together -/

section Combinations

variable {σ α β : Type} [Journaled σ] {x : Act σ α}

/-- Where nothing is said. -/
theorem of_run (h : ∀ s, ∃ r s', ∀ j, x.run (withJournal j s) = (r, withJournal j s')) : Discreet x := by
  intro s
  obtain ⟨r, s', hrun⟩ := h s
  exact ⟨r, s', [], fun j => by rw [hrun, Journal.adding_nil]⟩

theorem pure (a : α) : Discreet (Pure.pure a : Act σ α) := of_run fun s => ⟨.ok a, s, fun _ => rfl⟩

theorem throw (e : Fault) : Discreet (MonadExcept.throw e : Act σ α) :=
  of_run fun s => ⟨.error e, s, fun _ => rfl⟩

theorem lift (r : Except Fault α) : Discreet (Act.lift r : Act σ α) := by
  cases r with
  | ok a => exact pure a
  | error e => exact throw e

theorem bind {f : α → Act σ β} (hx : Discreet x) (hf : ∀ a, Discreet (f a)) : Discreet (x >>= f) := by
  intro s
  obtain ⟨r, s₁, said, hrun⟩ := hx s
  cases r with
  | error e => exact ⟨.error e, s₁, said, fun j => run_bind_error (hrun j)⟩
  | ok a =>
    obtain ⟨r, s₂, more, hrun'⟩ := hf a s₁
    refine ⟨r, s₂, said ++ more, fun j => ?_⟩
    rw [run_bind_ok (hrun j), hrun', Journal.adding_adding]

theorem map (hx : Discreet x) (f : α → β) : Discreet (f <$> x) := by
  rw [map_eq_pure_bind]
  exact hx.bind fun a => pure (f a)

theorem tryCatch {handle : Fault → Act σ α} (hx : Discreet x) (hhandle : ∀ e, Discreet (handle e)) :
    Discreet (MonadExcept.tryCatch x handle) := by
  intro s
  obtain ⟨r, s₁, said, hrun⟩ := hx s
  cases r with
  | ok a => exact ⟨.ok a, s₁, said, fun j => run_tryCatch_ok (hrun j)⟩
  | error e =>
    obtain ⟨r, s₂, more, hrun'⟩ := hhandle e s₁
    refine ⟨r, s₂, said ++ more, fun j => ?_⟩
    rw [run_tryCatch_error (hrun j), hrun', Journal.adding_adding]

theorem andFinally {last : Act σ Unit} (hx : Discreet x) (hlast : Discreet last) :
    Discreet (Act.andFinally x last) :=
  ((hx.map _).tryCatch fun e => pure (.error e)).bind fun r => hlast.bind fun _ => lift r

/-- Looking at the state, but not at the journal. -/
theorem get_bind {f : σ → Act σ β} (hsame : ∀ j s, f (withJournal j s) = f s) (hf : ∀ s, Discreet (f s)) :
    Discreet (get >>= f) := by
  intro s
  obtain ⟨r, s', said, hrun⟩ := hf s s
  refine ⟨r, s', said, fun j => ?_⟩
  rw [run_get_bind, hsame, hrun]

/-- Changing the state, but not the journal, by what is found there. -/
theorem get_set_bind {g : σ → σ} {f : σ → Act σ β} (hg : ∀ j s, g (withJournal j s) = withJournal j (g s))
    (hsame : ∀ j s, f (withJournal j s) = f s) (hf : ∀ s, Discreet (f s)) :
    Discreet (get >>= fun s => set (g s) >>= fun _ => f s) := by
  intro s
  obtain ⟨r, s', said, hrun⟩ := hf s (g s)
  refine ⟨r, s', said, fun j => ?_⟩
  rw [run_get_bind, run_set_bind, hg, hsame, hrun]

/-- Adding one message. -/
theorem notes {x : Act σ Unit} {level : Level} {message : Text} {context : Context}
    (h : ∀ j s, x.run (withJournal j s) = (.ok (), withJournal (j.note level message context) s)) :
    Discreet x :=
  fun s => ⟨.ok (), s, [⟨level, withContext message context⟩], fun j => by rw [h, Journal.note_eq_adding]⟩

theorem modifies {g : σ → σ} (hg : ∀ j s, g (withJournal j s) = withJournal j (g s)) :
    Discreet (modify g : Act σ Unit) :=
  of_run fun s => ⟨.ok (), g s, fun j => by rw [run_modify, hg]⟩

end Combinations

/-! ### What stores do -/

section Stores

variable {α : Type}

theorem note (level : Level) (message : Text) (context : List (String × Json)) :
    Discreet (Store.note level message context) :=
  notes fun _ _ => rfl

theorem count (f : Counters → Counters) : Discreet (modify (Session.count · f) : Action Unit) :=
  modifies fun _ _ => rfl

theorem setBacking (b : Backing) : Discreet (modify (Session.setBacking · b) : Action Unit) :=
  modifies fun _ _ => rfl

theorem atMoment (now : Moment) : Discreet (modify (Session.atMoment · now) : Action Unit) :=
  modifies fun _ _ => rfl

theorem call (c : Call) : Discreet (Store.call c) :=
  get_set_bind (fun _ _ => rfl) (fun _ _ => rfl) fun s => lift (s.world.call c).2

/-- **Writing a file** says why it failed, if it did. -/
theorem saveFile (book : FileBook) : Discreet (Store.saveFile book) := by
  refine @get_set_bind _ _ _
    (fun s : Session => { s with world := (s.world.writeFile book.path (octets book.records).1).1 }) _
    (fun _ _ => rfl) (fun _ _ => rfl) fun s => ?_
  dsimp only
  split
  · next e _ =>
    split
    · exact (count _).bind fun _ => (note _ _ _).bind fun _ => throw e
    · exact throw e
  · exact (lift _).bind fun _ => setBacking _

theorem persist (book : FileBook) : Discreet (Store.persist book) := by
  unfold Store.persist
  split
  · exact setBacking _
  · exact (setBacking _).bind fun _ => saveFile book

theorem find (key : IssueKey) : Discreet (Store.find key) := by
  refine get_bind (fun _ _ => rfl) fun s => ?_
  cases s.store.backing with
  | memory records => exact pure _
  | file book => exact (lift _).bind fun text => pure _
  | server front =>
    refine (lift _).bind fun name => (call .get).bind fun _ => get_bind (fun _ _ => rfl) fun s => ?_
    cases s.world.server.answer? name with
    | none => exact pure none
    | some answer => exact (lift _).map some

theorem keep (key : IssueKey) (r : Record) : Discreet (Store.keep key r) := by
  refine get_bind (fun _ _ => rfl) fun s => ?_
  cases s.store.backing with
  | memory records => exact setBacking _
  | file book => exact (lift _).bind fun text => persist _
  | server front =>
    refine (lift _).bind fun name => (lift _).bind fun entry => tryCatch ?_ fun e => ?_
    · exact (call .set).bind fun _ => modifies fun _ _ => rfl
    · exact (count _).bind fun _ => (note _ _ _).bind fun _ => throw e

theorem deleteEntries (names : List String) : Discreet (Store.deleteEntries names) :=
  (call .delete).bind fun _ => get_set_bind (fun _ _ => rfl) (fun _ _ => rfl) fun _ => pure _

theorem drop (key : IssueKey) : Discreet (Store.drop key) := by
  refine get_bind (fun _ _ => rfl) fun s => ?_
  cases s.store.backing with
  | memory records => exact (setBacking _).bind fun _ => pure _
  | file book =>
    refine (lift _).bind fun text => ?_
    split
    · exact (persist _).bind fun _ => pure true
    · exact pure false
  | server front => exact (lift _).bind fun name => (deleteEntries _).bind fun n => pure _

theorem entryNames (front : String) : Discreet (Store.entryNames front) :=
  (call .list).bind fun _ => get_bind (fun _ _ => rfl) fun _ => pure _

theorem clear : Discreet Store.clear := by
  refine get_bind (fun _ _ => rfl) fun s => ?_
  cases s.store.backing with
  | memory records => exact setBacking _
  | file book => exact persist _
  | server front =>
    refine (entryNames front).bind fun names => ?_
    split
    · exact (deleteEntries _).bind fun _ => pure ()
    · exact pure ()

theorem size : Discreet Store.size := by
  refine get_bind (fun _ _ => rfl) fun s => ?_
  cases s.store.backing with
  | memory records => exact pure _
  | file book => exact pure _
  | server front => exact (entryNames front).bind fun names => pure _

theorem close : Discreet Store.close := by
  refine get_bind (fun _ _ => rfl) fun s => ?_
  cases s.store.backing with
  | memory records => exact pure ()
  | file book => exact saveFile book
  | server front => exact call .close

theorem ping : Discreet Store.ping := by
  refine get_bind (fun _ _ => rfl) fun s => ?_
  cases s.store.backing with
  | memory records => exact pure true
  | file book => exact pure true
  | server front =>
    refine (tryCatch ((call .ping).bind fun _ => get_bind (fun _ _ => rfl) fun s => ?_) fun _ => ?_).bind
      fun answer => ?_
    · exact pure (Except.error s.world.server.awake)
    · exact (count _).bind fun _ => pure (Except.ok false)
    · cases answer <;> exact pure _

theorem enterBatch : Discreet Store.enterBatch := by
  refine modifies fun j s => ?_
  obtain ⟨⟨name, counters, backing⟩, world⟩ := s
  cases backing <;> rfl

theorem leaveBatch : Discreet Store.leaveBatch := by
  refine get_bind (fun _ _ => rfl) fun s => ?_
  cases s.store.backing with
  | memory records => exact pure ()
  | file book =>
    refine (setBacking _).bind fun _ => ?_
    split
    · exact saveFile _
    · exact pure ()
  | server front => exact pure ()

theorem batch {body : Action α} (h : Discreet body) : Discreet (Store.batch body) :=
  enterBatch.bind fun _ => h.andFinally leaveBatch

theorem isDismissed (key : IssueKey) (severity : Int) : Discreet (Store.isDismissed key severity) := by
  refine (count _).bind fun _ => (find key).bind fun found => ?_
  cases found with
  | none => exact pure false
  | some r => exact pure _

theorem copy (source target : IssueKey) : Discreet (Store.copy source target) := by
  refine (find source).bind fun found => ?_
  cases found with
  | none =>
    refine get_bind (fun _ _ => rfl) fun s => ?_
    exact (lift _).bind fun _ => (lift _).bind fun _ => note _ _ _
  | some r => exact (keep target r).bind fun _ => count _

theorem dismiss (key : IssueKey) (severity : Int) (moment : Option Moment) :
    Discreet (Store.dismiss key severity moment) := by
  refine (find key).bind fun previous => get_bind (fun _ _ => rfl) fun s => (keep key _).bind fun _ => ?_
  refine get_bind (fun _ _ => rfl) fun s => (lift _).bind fun text => ?_
  exact (note _ _ _).bind fun _ => pure _

theorem stats : Discreet Store.stats :=
  size.bind fun _ => get_bind (fun _ _ => rfl) fun _ => pure _

theorem closed : Action.Closed (fun {_} x => Discreet x) :=
  ⟨pure, bind, fun _ => lift _, note, isDismissed, copy⟩

theorem dedup (issues : List Issue) : Discreet (Dedup.run issues) := by
  refine (note _ _ _).bind fun _ => (batch (closed.align _)).bind fun _ => ?_
  split
  · exact pure issues
  · exact (note _ _ _).bind fun _ => pure _

theorem applyDismissals (issues : List Issue) (names : List String) :
    Discreet (IssueDigest.applyDismissals issues names) := by
  induction names with
  | nil => exact pure ()
  | cons name names ih =>
    refine (lift _).bind fun key => ?_
    cases issueWithKey? issues key with
    | none => exact (note _ _ _).bind fun _ => ih
    | some i => exact (dismiss _ _ _).bind fun _ => ih

/-- **Every operation on a store is discreet.** -/
theorem op (o : Op) : Discreet o.run := by
  cases o with
  | dismiss => exact (dismiss _ _ _).map _
  | undismiss => exact (drop _).map _
  | check => exact (isDismissed _ _).map _
  | get => exact (find _).map _
  | copy => exact (copy _ _).map _
  | clear => exact clear.map _
  | size => exact size.map _
  | enterBatch => exact enterBatch.map _
  | leaveBatch => exact leaveBatch.map _
  | deduplicate => exact (dedup _).map _

theorem move (m : Move) : Discreet m.run := by
  cases m with
  | turn t => exact (atMoment t.now).bind fun _ => op t.op
  | close => exact close.map _
  | abort e => exact (throw e).andFinally leaveBatch

end Stores

/-! ### Opening stores -/

section Opening

variable {α : Type}

theorem worldNote (level : Level) (message : Text) (context : List (String × Json)) :
    Discreet (Act.note level message context) :=
  notes fun _ _ => rfl

theorem runOn {x : Action α} (hx : Discreet x) (store : Store) : Discreet (Store.runOn store x) := by
  intro w
  obtain ⟨r, s', said, hrun⟩ := hx ⟨store, w⟩
  refine ⟨r, s'.world, said, fun j => ?_⟩
  have hrun : x.run ⟨store, withJournal j w⟩ = (r, withJournal (j.adding said) s') := hrun j
  rw [Store.runOn, run_get_bind, hrun]
  dsimp only
  rw [run_set_bind]
  cases r <;> rfl

theorem openFile (name path : String) : Discreet (Store.openFile name path) := by
  refine @get_set_bind _ _ _
    (fun w : World => { w with disk := (w.disk.ensureDirectory (Path.ofString path).parent).1 }) _
    (fun _ _ => rfl) (fun _ _ => rfl) fun w => ?_
  refine (lift _).bind fun _ => (lift _).bind fun there => ?_
  split
  · exact pure _
  · split
    · exact pure _
    · next e _ =>
      split
      · exact (worldNote _ _ _).bind fun _ => pure _
      · exact throw e

theorem openServer (name url front : String) : Discreet (Store.openServer name url front) :=
  get_bind (fun _ _ => rfl) fun _ => (lift _).bind fun _ => pure _

theorem tryOpen (settings : Settings) (kind : Backend) : Discreet (Store.tryOpen settings kind) := by
  refine tryCatch ?_ fun e => ?_
  · cases kind with
    | server =>
      refine (openServer _ _ _).bind fun store => (ping.runOn store).bind fun answer => ?_
      split
      · exact (worldNote _ _ _).bind fun _ => pure _
      · exact (worldNote _ _ _).bind fun _ => (close.runOn store).bind fun _ => pure none
    | file => exact (openFile _ _).bind fun store => (worldNote _ _ _).bind fun _ => pure _
    | memory => exact (worldNote _ _ _).bind fun _ => pure _
  · split
    · exact (worldNote _ _ _).bind fun _ => pure none
    · exact throw e

theorem openFirst (settings : Settings) (wanted : Backend) (kinds : List Backend) :
    Discreet (Store.openFirst settings wanted kinds) := by
  induction kinds with
  | nil => exact pure _
  | cons kind rest ih =>
    refine (tryOpen settings kind).bind fun found => ?_
    cases found with
    | none => exact ih
    | some store =>
      dsimp only
      split
      · exact (worldNote _ _ _).bind fun _ => pure store
      · exact pure store

/-- **Opening the store that is asked for** is discreet, whichever stands in for it. -/
theorem create (settings : Settings) (request : Option Text) : Discreet (Store.create settings request) :=
  (lift _).bind fun wanted => openFirst settings wanted _

end Opening

end Act.Discreet

/-! ### Tasks at a desk -/

/-- How a store is opened: as one of a kind, or by settings and a request. -/
inductive Opening where
  | memory (name : String)
  | file (name path : String)
  | server (name url front : String)
  | asked (settings : Settings) (request : Option Text)

/-- The opening in a world. -/
def Opening.run : Opening → Act World Store
  | memory name => pure (inMemory name)
  | file name path => openFile name path
  | server name url front => openServer name url front
  | asked settings request => create settings request

/-- What is done at a desk: moves of its store, asking whether the server is there and how the store stands,
work on the list that is shown, and opening another store in the place of the one there. -/
inductive Task where
  | wait (now : Moment)
  | move (m : Move)
  | ping
  | stats
  | lay (issues : List Issue)
  | collapse
  | apply (names : List String)
  | start (opening : Opening)

/-- What a task gives back. -/
inductive Report where
  | done
  | outcome (o : Outcome)
  | answer (b : Bool)
  | figures (facts : List (String × Json))

namespace Dedup

/-- Opens a store in the place of the one at the desk. -/
def startAtDesk (opening : Opening) : Act Desk Unit := do
  let d ← get
  let (result, world) := opening.run.run d.session.world
  set { d with session := { d.session with world } }
  let store ← Act.lift result
  modify fun d => { d with session := { d.session with store } }

/-- Dismisses the issues of the list that are named. -/
def applyAtDesk (names : List String) : Act Desk Unit := do
  let issues := (← get).shown
  atDesk (applyDismissals issues names)

end Dedup

open Dedup

/-- The task at a desk. -/
def Task.run : Task → Act Desk Report
  | wait now => (fun _ => .done) <$> atDesk (modify (Session.atMoment · now))
  | move m => .outcome <$> atDesk m.run
  | ping => .answer <$> atDesk Store.ping
  | stats => .figures <$> atDesk Store.stats
  | lay issues => (fun _ => .done) <$> (modify fun d => { d with shown := issues } : Act Desk Unit)
  | collapse => (fun _ => .done) <$> Dedup.collapse
  | apply names => (fun _ => .done) <$> applyAtDesk names
  | start opening => (fun _ => .done) <$> startAtDesk opening

namespace Dedup.Desk

/-- How each task ends, and how it leaves the desk. -/
def trace (d : Desk) : List Task → List (Except Fault Report × Desk)
  | [] => []
  | t :: rest => t.run.run d :: (t.run.run d).2.trace rest

/-- The desk with an empty journal of the level. -/
def logging (d : Desk) (level : Level) : Desk :=
  withJournal { d.session.world.journal with threshold := level, entries := [] } d

/-- What has been logged. -/
def entries (d : Desk) : List Entry := d.session.world.journal.entries

/-- Everything at the desk but the journal: the list, the store with its counters and records, the disk, the
server and what else there is in the world. -/
def apart (d : Desk) : Desk := withJournal .empty d

@[simp]
theorem entries_withJournal (j : Journal) (d : Desk) : (withJournal j d).entries = j.entries := rfl

@[simp]
theorem apart_withJournal (j : Journal) (d : Desk) : (withJournal j d).apart = d.apart := rfl

end Dedup.Desk

namespace Act.Discreet

theorem atDesk {α : Type} {x : Action α} (hx : Discreet x) : Discreet (Dedup.atDesk x) := by
  intro d
  obtain ⟨r, s', said, hrun⟩ := hx d.session
  exact ⟨r, ⟨s', d.shown⟩, said, fun j => run_atDesk (hrun j)⟩

theorem opening (o : Opening) : Discreet o.run := by
  cases o with
  | memory name => exact pure _
  | file name path => exact openFile name path
  | server name url front => exact openServer name url front
  | asked settings request => exact create settings request

theorem collapse : Discreet Dedup.collapse := by
  refine get_bind (fun _ _ => rfl) fun d => (note _ _ _).atDesk.bind fun _ => ?_
  refine (batch (closed.align _)).atDesk.bind fun _ => ?_
  split
  · exact pure ()
  · exact (modifies fun _ _ => rfl).bind fun _ => get_bind (fun _ _ => rfl) fun d => (note _ _ _).atDesk

theorem applyAtDesk (names : List String) : Discreet (Dedup.applyAtDesk names) :=
  get_bind (fun _ _ => rfl) fun d => (applyDismissals d.shown names).atDesk

theorem startAtDesk (o : Opening) : Discreet (Dedup.startAtDesk o) := by
  intro d
  obtain ⟨r, w, said, hrun⟩ := opening o d.session.world
  have hrun (j : Journal) :
      o.run.run (withJournal j d).session.world = (r, withJournal (j.adding said) w) := hrun j
  cases r with
  | error e =>
    refine ⟨.error e, { d with session := { d.session with world := w } }, said, fun j => ?_⟩
    rw [Dedup.startAtDesk, run_get_bind, hrun]
    rfl
  | ok store =>
    refine ⟨.ok (), { d with session := ⟨store, w⟩ }, said, fun j => ?_⟩
    rw [Dedup.startAtDesk, run_get_bind, hrun]
    rfl

/-- **Every task is discreet.** -/
theorem task (t : Task) : Discreet t.run := by
  cases t with
  | wait now => exact (atMoment now).atDesk.map _
  | move m => exact (move m).atDesk.map _
  | ping => exact ping.atDesk.map _
  | stats => exact stats.atDesk.map _
  | lay issues =>
    have hlaid : Discreet (modify fun d => { d with shown := issues } : Act Desk Unit) :=
      modifies fun _ _ => rfl
    exact hlaid.map _
  | collapse => exact collapse.map _
  | apply names => exact (applyAtDesk names).map _
  | start opening => exact (startAtDesk opening).map _

end Act.Discreet

/-! ### Two levels -/

/-- **A history is the same for every journal**, and so is what it has said up to each task. -/
theorem Dedup.Desk.exists_history (tasks : List Task) (d : Desk) :
    ∃ history : List (Except Fault Report × Desk × List Entry), ∀ j,
      (withJournal j d).trace tasks =
        history.map fun (r, d', said) => (r, withJournal (j.adding said) d') := by
  induction tasks generalizing d with
  | nil => exact ⟨[], fun _ => rfl⟩
  | cons t tasks ih =>
    obtain ⟨r, d₁, said, hrun⟩ := Act.Discreet.task t d
    obtain ⟨history, hrest⟩ := ih d₁
    -- What the rest says comes behind what the task has said.
    refine ⟨(r, d₁, said) :: history.map fun (r, d', more) => (r, d', said ++ more), fun j => ?_⟩
    rw [trace, hrun, hrest, List.map_cons, List.map_map]
    congr 1
    refine List.map_congr_left fun e _ => ?_
    simp only [Function.comp_apply, Journal.adding_adding]

/-- **The level of the journal changes nothing but the journal.** Take any desk, with a store of any kind on
a disk and a server where anything may fail, and any tasks there. Under any two levels each task ends the
same, with the same result or the same fault, and leaves the same desk but for the journal. And at each task
what has been logged under a level are the entries that have been logged under the lowest one, in order and
word for word, as far as they reach the level. -/
theorem logging_changes_nothing (d : Desk) (tasks : List Task) :
    (∀ level level' : Level,
      ((d.logging level).trace tasks).map (fun (r, d') => (r, d'.apart)) =
        ((d.logging level').trace tasks).map fun (r, d') => (r, d'.apart)) ∧
      ∀ level : Level,
        ((d.logging level).trace tasks).map (fun (_, d') => d'.entries) =
          ((d.logging .debug).trace tasks).map fun (_, d') =>
            d'.entries.filter fun e => level.weight ≤ e.level.weight := by
  obtain ⟨history, hrun⟩ := Desk.exists_history tasks d
  have hlogging (level : Level) : (d.logging level).trace tasks =
      history.map fun (r, d', said) =>
        (r, withJournal (Journal.adding ⟨level, d.session.world.journal.layout, []⟩ said) d') :=
    hrun ⟨level, d.session.world.journal.layout, []⟩
  constructor
  · intro level level'
    simp only [hlogging, List.map_map, Function.comp_def, Desk.apart_withJournal]
  · intro level
    have hall (e : Entry) : Level.debug.weight ≤ e.level.weight := by cases e.level <;> decide
    simp [hlogging, Function.comp_def, Journal.adding, hall]

end IssueDigest
