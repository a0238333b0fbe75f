import IssueDigest.Proofs.FileSteps
import IssueDigest.Proofs.Reopening
/-!
# What a file store holds is on the disk

Whenever no batch block is open, a new store on the same path holds what the running store holds.
This is so from the moment the store is opened, whatever its file looked like, through any moves:
operations, closing, blocks that are left in order or by a failure. One thing is asked of the moves. No
write fails; a write that fails shows in the result of its move, for the move then ends otherwise than
it would if the write were put off (`Move.Unhindered`).

One detail does not come back. An offset below a second is written with a fraction and read as none at
all, so the new store holds such a moment as it is read (`Record.shown`). Moments that were read from a
text or from a clock that shows local time have no such offset (`Moment.Storable`), and where no others
are given the two stores hold the same. What is asked of the moments given is therefore a parameter.

The invariant (`FileBook.Lasts`) says what the pending flag is for: as long as nothing is pending, the
file stands for the records, and outside all blocks nothing is pending. It covers the file as it was
found, too: a store that starts empty because its file is damaged leaves the damage there, and the next
store starts empty over it again.
-/

namespace IssueDigest

open Store

/-! ### Moves -/

/-- A move in the life of a store: an operation, closing, or leaving the innermost block because what
stands in it failed. -/
inductive Move where
  | turn (t : Turn)
  | close
  | abort (e : Fault)

/-- The move on a store. -/
def Move.run : Move → Action Outcome
  | turn t => t.run
  | close => (fun _ => Outcome.done) <$> Store.close
  | abort e => Act.andFinally (throw e) Store.leaveBatch

namespace Session

/-- The session when one more block is open. -/
def deeper (s : Session) : Session := (enterBatch.run s).2

/-- The session after a move. -/
def after (s : Session) (m : Move) : Session := (m.run.run s).2

/-- The session after moves. -/
def afterAll (s : Session) (moves : List Move) : Session := moves.foldl after s

end Session

/-- Does no write fail in the move? A write that fails is the only thing that sets the move off from
the same one inside one more block, where it would be put off. -/
def Move.Unhindered (m : Move) (s : Session) : Prop :=
  match m with
  | turn t => (t.run.run s).1 = (t.run.run s.deeper).1
  | close => (Store.close.run s).1 = .ok ()
  | abort _ => (Store.leaveBatch.run s).1 = .ok ()

/-- Does no write fail in any of the moves? -/
def Session.Unhindered (s : Session) : List Move → Prop
  | [] => True
  | m :: rest => m.Unhindered s ∧ (s.after m).Unhindered rest

/-- Is the moment of a dismissal such a one? -/
def Op.DatedBy (P : Moment → Prop) (now : Moment) : Op → Prop
  | .dismiss _ _ moment => P (moment.getD now)
  | _ => True

def Move.DatedBy (P : Moment → Prop) : Move → Prop
  | turn t => t.op.DatedBy P t.now
  | _ => True

/-- Can the moment of a dismissal be read back as it is? -/
def Op.Dated (now : Moment) (op : Op) : Prop := op.DatedBy Moment.Storable now

def Move.Dated (m : Move) : Prop := m.DatedBy Moment.Storable

/-! ### The invariant -/

/-- Does the file stand for the records as they are read? -/
structure Store.Settled (records : Table Text Record) (d : Disk) (p : Path) : Prop where
  found : ∃ t, startsWith d p = .ok t ∧ ∀ k, t.get? k = (records.get? k).map Record.shown
  printable : ∀ e ∈ records.entries, e.2.Printable

/-- Does the disk keep what the book holds, but for what is pending, and are its moments such ones? -/
structure FileBook.Lasts (P : Moment → Prop) (book : FileBook) (d : Disk) : Prop where
  housed : Housed d book.path
  moments : ∀ e ∈ book.records.entries, P e.2.since
  settled : book.pending = false → Settled book.records d book.path
  idle : book.depth = 0 → book.pending = false

/-- Does the disk keep what the store holds, but for what is pending? -/
def Session.Lasts (P : Moment → Prop) (s : Session) (p : Path) : Prop :=
  ∃ book, s.store.backing = .file book ∧ book.path = p ∧ book.Lasts P s.world.disk

section Lasting

variable {P : Moment → Prop}

theorem Session.Lasts.sameFile {s s' : Session} {p : Path} (h : s.Lasts P p) (hs : s.SameFile s') :
    s'.Lasts P p := by
  obtain ⟨book, hbacking, hpath, hlasts⟩ := h
  exact ⟨book, hs.backing.trans hbacking, hpath, hs.disk ▸ hlasts⟩

/-- A store that has just been opened. -/
theorem Store.lasts_of_openFile (hP : ∀ m : Moment, m.Storable → P m) {name path : String}
    {w w' : World} {store : Store} (h : (openFile name path).run w = (.ok store, w')) :
    Session.Lasts P ⟨store, w'⟩ (Path.ofString path) := by
  obtain ⟨records, errors, rfl, hhoused, hstart⟩ := start_of_openFile h
  have hstorable := storable_of_startsWith hstart
  have hshown (k : Text) := (map_shown_get? (fun e he => (hstorable e he).since) k).symm
  exact ⟨_, rfl, rfl, hhoused, fun e he => hP _ (hstorable e he).since,
    fun _ => ⟨⟨records, hstart, hshown⟩, fun e he => (hstorable e he).toPrintable⟩, fun _ => rfl⟩

/-! ### Writing -/

/-- **What writing the table does.** It puts the octets that could be stored into the file, and fails
if the disk does or if not all of them could be stored. -/
theorem Store.saveFile_run {s s' : Session} {book : FileBook} {r : Except Fault Unit}
    (h : (saveFile book).run s = (r, s')) :
    ∃ written, s.world.disk.write book.path (octets book.records).1 = (s'.world.disk, written) ∧
      r = (written >>= fun _ => (octets book.records).2) ∧
      (r = .ok () → s'.store.backing = .file { book with pending := false }) := by
  rw [saveFile, Act.run_get_bind] at h
  cases hoctets : octets book.records with
  | mk content stored =>
  cases hwrite : s.world.disk.write book.path content with
  | mk disk written =>
  simp only [hoctets, World.writeFile, hwrite] at h
  rw [Act.run_set_bind] at h
  cases written with
  | error e =>
    -- The store counts the fault if it comes from the file system.
    dsimp only at h
    split at h
    · obtain ⟨rfl, rfl⟩ := Prod.mk.inj h
      exact ⟨.error e, rfl, rfl, fun hok => by cases hok⟩
    · obtain ⟨rfl, rfl⟩ := Prod.mk.inj h
      exact ⟨.error e, rfl, rfl, fun hok => by cases hok⟩
  | ok =>
    cases stored with
    | error e =>
      obtain ⟨rfl, rfl⟩ := Prod.mk.inj h
      exact ⟨.ok (), rfl, rfl, fun hok => by cases hok⟩
    | ok =>
      obtain ⟨rfl, rfl⟩ := Prod.mk.inj h
      exact ⟨.ok (), rfl, rfl, fun _ => rfl⟩

/-- A table that was written to the end, and nothing else, clears the flag. -/
theorem Store.saveFile_ok {s s' : Session} {book : FileBook}
    (h : (saveFile book).run s = (.ok (), s')) :
    (octets book.records).2 = .ok () ∧
      s.world.disk.write book.path (octets book.records).1 = (s'.world.disk, .ok ()) ∧
      s'.store.backing = .file { book with pending := false } := by
  obtain ⟨written, hwrite, hr, hbacking⟩ := saveFile_run h
  obtain ⟨⟨⟩, rfl, hstored⟩ := bind_eq_ok_iff.mp hr.symm
  exact ⟨hstored, hwrite, hbacking rfl⟩

/-- **A write that succeeds settles everything.** -/
theorem Store.lasts_of_saveFile (hP : ∀ m, P m → m.IsValid) {s s' : Session} {b : FileBook}
    (hhoused : Housed s.world.disk b.path) (hmoments : ∀ e ∈ b.records.entries, P e.2.since)
    (h : (saveFile b).run s = (.ok (), s')) : s'.Lasts P b.path := by
  obtain ⟨hstored, hwrite, hbacking⟩ := saveFile_ok h
  obtain ⟨-, -, hdirectories⟩ := Disk.read_of_write hwrite
  have hplain : Plain b.records := plain_of_octets hstored
  have hstart := startsWith_of_write_of_valid hstored hwrite fun e he => hP _ (hmoments e he)
  exact ⟨_, hbacking, rfl, hhoused.of_directories hdirectories, hmoments,
    fun _ => ⟨hstart, fun e he => (hplain e he).2⟩, fun _ => rfl⟩

theorem Store.lasts_of_persist (hP : ∀ m, P m → m.IsValid) {s s' : Session} {book : FileBook}
    (hhoused : Housed s.world.disk book.path) (hmoments : ∀ e ∈ book.records.entries, P e.2.since)
    (h : (persist book).run s = (.ok (), s')) : s'.Lasts P book.path := by
  by_cases hdepth : 0 < book.depth
  · rw [run_persist_inside hdepth] at h
    obtain ⟨-, rfl⟩ := Prod.mk.inj h
    refine ⟨_, rfl, rfl, hhoused, hmoments, nofun, fun hzero => absurd hzero ?_⟩
    exact Nat.pos_iff_ne_zero.mp hdepth
  · rw [run_persist_outside (by omega)] at h
    exact lasts_of_saveFile hP (s := s.setBacking (.file book)) hhoused hmoments h

/-- Inside a block nothing stands in the way of taking a table over. -/
theorem Session.TakesOver.ok_inside {α : Type} {s : Session} {x : Action α} {book : FileBook}
    (h : s.TakesOver x book) (hdepth : 0 < book.depth) : ∃ a, (x.run s).1 = .ok a := by
  obtain ⟨s₁, rest, -, hrun, hrest⟩ := h
  obtain ⟨a, s₃, h₃, -⟩ := hrest (s₁.setBacking (.file { book with pending := true }))
  refine ⟨a, ?_⟩
  rw [hrun, Act.run_bind_ok (run_persist_inside hdepth s₁), h₃]

theorem Session.TakesOver.lasts (hP : ∀ m, P m → m.IsValid) {α : Type} {s : Session} {x : Action α}
    {book : FileBook} (h : s.TakesOver x book) (hhoused : Housed s.world.disk book.path)
    (hmoments : ∀ e ∈ book.records.entries, P e.2.since) {a : α}
    (hok : (x.run s).1 = .ok a) : (x.run s).2.Lasts P book.path := by
  obtain ⟨s₁, rest, hsame, hrun, hrest⟩ := h
  rw [hrun, Act.run_bind] at hok ⊢
  cases hpersist : (persist book).run s₁ with
  | mk result s₂ =>
  cases result with
  | error e =>
    rw [hpersist] at hok
    cases hok
  | ok =>
    obtain ⟨a', s₃, h₃, hsame₃⟩ := hrest s₂
    have hlasts := lasts_of_persist hP (s := s₁) (hsame.disk ▸ hhoused) hmoments hpersist
    dsimp only
    rw [h₃]
    exact hlasts.sameFile hsame₃

/-- Outside all blocks the table that is taken over is written at once. -/
theorem Session.TakesOver.backing_outside {α : Type} {s : Session} {x : Action α} {book : FileBook}
    (h : s.TakesOver x book) (hdepth : book.depth = 0) {a : α} (hok : (x.run s).1 = .ok a) :
    (x.run s).2.store.backing = .file { book with pending := false } := by
  obtain ⟨s₁, rest, -, hrun, hrest⟩ := h
  rw [hrun, Act.run_bind, run_persist_outside hdepth] at hok ⊢
  cases hsave : (saveFile book).run (s₁.setBacking (.file book)) with
  | mk result s₂ =>
  cases result with
  | error e =>
    rw [hsave] at hok
    cases hok
  | ok =>
    obtain ⟨a', s₃, h₃, hsame₃⟩ := hrest s₂
    obtain ⟨-, -, hbacking⟩ := saveFile_ok hsave
    dsimp only
    rw [h₃]
    exact hsame₃.backing.trans hbacking

/-! ### Single steps -/

/-- What holds of the record that a dismissal makes, and of all records, holds of all that are planned. -/
theorem Op.forall_of_plan {P : Record → Prop} {op : Op} {now : Moment}
    {records records' : Table Text Record} (h : op.plan records now = some records')
    (hnew : ∀ key severity moment, op = .dismiss key severity moment →
      ∀ count, P ⟨moment.getD now, severity, count⟩)
    (hrecords : ∀ e ∈ records.entries, P e.2) : ∀ e ∈ records'.entries, P e.2 := by
  have hput {key : Text} {r : Record} (hr : P r) : ∀ e ∈ (records.put key r).entries, P e.2 := by
    intro e he
    rcases Entries.mem_put he with rfl | he
    · exact hr
    · exact hrecords e he
  cases op with
  | dismiss key severity moment =>
    rw [plan] at h
    split at h
    · obtain rfl := Option.some.inj h
      exact hput (hnew key severity moment rfl _)
    · cases h
  | undismiss key =>
    rw [plan] at h
    split at h
    · obtain rfl := Option.some.inj h
      exact fun e he => hrecords e (List.mem_of_mem_filter he)
    · cases h
  | copy source target =>
    rw [plan] at h
    split at h
    · obtain ⟨r, hr, rfl⟩ := Option.map_eq_some_iff.mp h
      exact hput (hrecords _ (Entries.mem_of_get?_eq_some hr))
    · cases h
  | clear =>
    obtain rfl := Option.some.inj h
    intro e he
    cases he
  | check | get | size | enterBatch | leaveBatch | deduplicate => cases h

/-- What is planned has such moments if the operation is dated by one and the records are. -/
theorem Op.moments_of_plan {op : Op} {now : Moment} {records records' : Table Text Record}
    (h : op.plan records now = some records') (hdated : op.DatedBy P now)
    (hmoments : ∀ e ∈ records.entries, P e.2.since) : ∀ e ∈ records'.entries, P e.2.since := by
  refine forall_of_plan (P := fun r => P r.since) h ?_ hmoments
  rintro key severity moment rfl count
  exact hdated

section Steps

variable {name : String} {counters : Counters} {book : FileBook} {world : World}

/-- **A single step lasts** unless its write fails. -/
theorem Op.lasts_single (hP : ∀ m, P m → m.IsValid) {op : Op} (hop : op.IsSingle)
    (hdated : op.DatedBy P world.now) (hlasts : book.Lasts P world.disk)
    (h : (op.run.run ⟨⟨name, counters, .file book⟩, world⟩).1 =
      (op.run.run ⟨⟨name, counters, .file book.deeper⟩, world⟩).1) :
    (op.run.run ⟨⟨name, counters, .file book⟩, world⟩).2.Lasts P book.path := by
  cases hplan : op.plan book.records world.now with
  | none => exact Session.Lasts.sameFile ⟨book, rfl, rfl, hlasts⟩ (sameFile_of_plan hop hplan)
  | some records =>
    have hmoments := moments_of_plan hplan hdated hlasts.moments
    -- One block further in the step cannot fail, so here it does not either.
    have htakes : Session.TakesOver ⟨⟨name, counters, .file book.deeper⟩, world⟩ op.run
        { book.deeper with records } := takesOver_of_plan hop hplan
    obtain ⟨a, ha⟩ := htakes.ok_inside (Nat.succ_pos _)
    exact (takesOver_of_plan hop hplan).lasts hP hlasts.housed hmoments (h.trans ha)

/-! ### Blocks -/

/-- The world when the deduplicator has said what it is about to do. -/
def Dedup.noted (issues : List Issue) (world : World) : World :=
  world.note .debug "Deduplicating issues"
    [("issue_count", .int issues.length), ("bucket_count", .int (buckets issues).length)]

/-- What leaving a block does: the table is written if it is pending and no other block is open. -/
theorem Store.run_leaveBatch_file :
    leaveBatch.run ⟨⟨name, counters, .file book⟩, world⟩ =
      if book.depth - 1 = 0 ∧ book.pending = true then
        (saveFile { book with depth := book.depth - 1 }).run
          ⟨⟨name, counters, .file { book with depth := book.depth - 1 }⟩, world⟩
      else (.ok (), ⟨⟨name, counters, .file { book with depth := book.depth - 1 }⟩, world⟩) := by
  rw [leaveBatch, Act.run_get_bind]
  dsimp only
  rw [Act.run_modify_bind]
  by_cases hwrites : book.depth - 1 = 0 ∧ book.pending = true
  · rw [if_pos hwrites, if_pos (by simpa using hwrites)]
    rfl
  · rw [if_neg hwrites, if_neg (by simpa using hwrites)]
    rfl

theorem Store.lasts_leaveBatch (hP : ∀ m, P m → m.IsValid) (hlasts : book.Lasts P world.disk)
    (h : (leaveBatch.run ⟨⟨name, counters, .file book⟩, world⟩).1 = .ok ()) :
    (leaveBatch.run ⟨⟨name, counters, .file book⟩, world⟩).2.Lasts P book.path := by
  rw [run_leaveBatch_file] at h ⊢
  split at h
  · next hwrites =>
    rw [if_pos hwrites]
    exact lasts_of_saveFile hP (b := { book with depth := book.depth - 1 }) hlasts.housed
      hlasts.moments (Prod.ext h rfl)
  · next hquiet =>
    rw [if_neg hquiet]
    refine ⟨_, rfl, rfl, hlasts.housed, hlasts.moments, hlasts.settled, fun hdepth => ?_⟩
    exact Bool.eq_false_of_not_eq_true fun hpending => hquiet ⟨hdepth, hpending⟩

/-- Outside all blocks nothing is pending, so leaving one that was never entered writes nothing. -/
theorem Store.leaveBatch_deeper_ok (hidle : book.depth = 0 → book.pending = false) :
    (leaveBatch.run ⟨⟨name, counters, .file book.deeper⟩, world⟩).1 = .ok () := by
  rw [run_leaveBatch_file, if_neg]
  rintro ⟨hdepth, hpending⟩
  rw [show book.deeper.pending = book.pending from rfl, hidle hdepth] at hpending
  cases hpending

/-! ### Collapsing duplicates -/

theorem Store.run_batch {α : Type} (body : Action α) :
    (batch body).run ⟨⟨name, counters, .file book⟩, world⟩ =
      (Act.andFinally body leaveBatch).run ⟨⟨name, counters, .file book.deeper⟩, world⟩ :=
  Act.run_bind_ok rfl

/-- A run of the deduplicator aligns inside a block and returns a list, unless that fails or the
write at the end of the block does. -/
theorem Dedup.run_of_inside (name : String) (counters : Counters) (world : World)
    (issues : List Issue) : ∃ left : List Issue,
    ∀ (book : FileBook) (r : Except Fault Unit) (s : Session),
      ((buckets issues).forM fun b => align b.2).run
          ⟨⟨name, counters, .file book.deeper⟩, noted issues world⟩ = (r, s) →
        match leaveBatch.run s with
        | (.ok (), s') => ∃ s'', s'.SameFile s'' ∧
          (Dedup.run issues).run ⟨⟨name, counters, .file book⟩, world⟩ = (r.map fun _ => left, s'')
        | (.error e, s') =>
          (Dedup.run issues).run ⟨⟨name, counters, .file book⟩, world⟩ = (.error e, s') := by
  obtain ⟨left, finish, hfinish, hrun⟩ : ∃ left : List Issue, ∃ finish : Action (List Issue),
      (∀ s, ∃ s', finish.run s = (.ok left, s') ∧ s.SameFile s') ∧
        Dedup.run issues = (do
          note .debug "Deduplicating issues"
            [("issue_count", .int issues.length), ("bucket_count", .int (buckets issues).length)]
          batch ((buckets issues).forM fun b => align b.2)
          finish) := by
    by_cases hempty : (redundant (buckets issues)).isEmpty
    · refine ⟨issues, pure issues, fun s => ⟨s, rfl, .refl s⟩, ?_⟩
      rw [Dedup.run, if_pos hempty]
    · refine ⟨survivors issues, (do
        let left := survivors issues
        note .info "Duplicate issues filtered"
          [("input_count", .int issues.length), ("bucket_count", .int (buckets issues).length),
            ("removed_count", .int (issues.length - left.length)),
            ("remaining_count", .int left.length)]
        pure left), fun s => ⟨_, rfl, ⟨rfl, rfl⟩⟩, ?_⟩
      rw [Dedup.run, if_neg hempty]
  refine ⟨left, fun book r s hinside => ?_⟩
  have hbatch := (run_batch _).trans (Act.run_andFinally hinside)
  rw [hrun]
  match hleave : leaveBatch.run s with
  | (.ok (), s') =>
    rw [hleave] at hbatch
    cases r with
    | ok =>
      obtain ⟨s'', hs'', hsame⟩ := hfinish s'
      exact ⟨s'', hsame, (Act.run_bind_ok rfl).trans ((Act.run_bind_ok hbatch).trans hs'')⟩
    | error e => exact ⟨s', .refl _, (Act.run_bind_ok rfl).trans (Act.run_bind_error hbatch)⟩
  | (.error e, s') =>
    rw [hleave] at hbatch
    exact (Act.run_bind_ok rfl).trans (Act.run_bind_error hbatch)

/-- A table whose numbers can be written does not fail over one. -/
theorem Store.saveFile_ne_unwritable {s : Session}
    (h : ∀ e ∈ book.records.entries, e.2.Printable) :
    ((saveFile book).run s).1 ≠ .error (.refused .integerUnwritable) := by
  intro herror
  obtain ⟨written, hwrite, hr, -⟩ := saveFile_run (Act.run_eq_of_fst herror)
  obtain rfl | ⟨⟨⟩, rfl, hstored⟩ := bind_eq_error_iff.mp hr.symm
  · rcases Disk.write_error (congrArg Prod.snd hwrite) with he | he <;> cases he
  · exact octets_ne_unwritable h hstored

/-- What steps inside a block leave of a book that lasts. -/
theorem FileBook.Lasts.within {book' : FileBook} (hlasts : book.Lasts P world.disk)
    (hwithin : book.deeper.Within book') : book'.Lasts P world.disk where
  housed := hwithin.path ▸ hlasts.housed
  moments := by
    intro e' he'
    obtain ⟨e, he, heq⟩ := hwithin.records e' he'
    exact heq ▸ hlasts.moments e he
  settled := by
    intro hpending
    obtain rfl := hwithin.pending hpending
    exact hlasts.settled hpending
  idle := by
    intro hdepth
    rw [hwithin.depth] at hdepth
    cases hdepth

/-- Leaving the block after such steps does not fail over a number: what they leave was written or
read before. -/
theorem Store.leaveBatch_ne_unwritable {book' : FileBook} (hlasts : book.Lasts P world.disk)
    (hwithin : book.deeper.Within book') {counters : Counters} {world' : World} :
    (leaveBatch.run ⟨⟨name, counters, .file book'⟩, world'⟩).1 ≠
      .error (.refused .integerUnwritable) := by
  rw [run_leaveBatch_file]
  split
  · next hwrites =>
    have hdepth : book.depth = 0 := by
      have : book'.depth = book.depth + 1 := hwithin.depth
      omega
    refine saveFile_ne_unwritable fun e' he' => ?_
    obtain ⟨e, he, heq⟩ := hwithin.records e' he'
    exact heq ▸ (hlasts.settled (hlasts.idle hdepth)).printable e he
  · exact fun h => by cases h

/-- **The deduplicator lasts** unless its write fails. -/
theorem Dedup.lasts_run (hP : ∀ m, P m → m.IsValid) (issues : List Issue)
    (hlasts : book.Lasts P world.disk)
    (h : ((Dedup.run issues).run ⟨⟨name, counters, .file book⟩, world⟩).1 =
      ((Dedup.run issues).run ⟨⟨name, counters, .file book.deeper⟩, world⟩).1) :
    ((Dedup.run issues).run ⟨⟨name, counters, .file book⟩, world⟩).2.Lasts P book.path := by
  obtain ⟨left, houtcome⟩ :=
    Dedup.run_of_inside name counters world issues
  have hbody := Action.Inner.closed.align (buckets issues)
  obtain ⟨r, counters', book', journal, hwithin, hfault, hinside, hdeeper⟩ :=
    hbody name counters book.deeper (noted issues world) (Nat.succ_pos _)
  have hlasts' : book'.Lasts P world.disk := hlasts.within hwithin
  have hhere := houtcome book r _ hinside
  have hthere := houtcome book.deeper r _ hdeeper
  match hleave : leaveBatch.run
      (⟨⟨name, counters', .file book'⟩, { noted issues world with journal }⟩ : Session) with
  | (.ok (), s') =>
    rw [hleave] at hhere
    obtain ⟨s'', hsame, hrun⟩ := hhere
    have hleft : (leaveBatch.run (⟨⟨name, counters', .file book'⟩,
        { noted issues world with journal }⟩ : Session)).2.Lasts P book'.path :=
      lasts_leaveBatch hP hlasts' (by rw [hleave])
    rw [hleave, hwithin.path] at hleft
    rw [hrun]
    exact hleft.sameFile hsame
  | (.error e, s') =>
    -- One block further in there is no write, so the result is that of the inner steps.
    rw [hleave] at hhere
    have hdeep : (leaveBatch.run (⟨⟨name, counters', .file book'.deeper⟩,
        { noted issues world with journal }⟩ : Session)).1 = .ok () := leaveBatch_deeper_ok hlasts'.idle
    rw [Act.run_eq_of_fst hdeep] at hthere
    obtain ⟨s'', -, hrun⟩ := hthere
    rw [hhere, hrun] at h
    have hr : r = .error e := by
      cases r with
      | ok => cases h
      | error e' => exact congrArg _ (Except.error.inj h).symm
    -- They fail only over a key, and leaving the block does not fail like that.
    obtain rfl := hfault e hr
    exact absurd (congrArg Prod.fst hleave) (leaveBatch_ne_unwritable hlasts hwithin)

/-! ### Any move -/

/-- A turn takes over what is planned when its clock shows the time. -/
theorem Turn.takesOver_of_plan {t : Turn} (hop : t.op.IsSingle) {records : Table Text Record}
    (h : t.op.plan book.records t.now = some records) :
    Session.TakesOver ⟨⟨name, counters, .file book⟩, world⟩ t.run { book with records } := by
  obtain ⟨s₁, rest, hsame, hrun, hrest⟩ :=
    @Op.takesOver_of_plan name counters book { world with now := t.now } t.op hop records h
  exact ⟨s₁, rest, ⟨hsame.backing, hsame.disk⟩, (Act.run_modify_bind _ _ _).trans hrun, hrest⟩

/-- **A turn lasts** unless its write fails. -/
theorem Turn.lasts (hP : ∀ m, P m → m.IsValid) {t : Turn} (hdated : t.op.DatedBy P t.now)
    (hlasts : book.Lasts P world.disk)
    (h : (t.run.run ⟨⟨name, counters, .file book⟩, world⟩).1 =
      (t.run.run ⟨⟨name, counters, .file book.deeper⟩, world⟩).1) :
    (t.run.run ⟨⟨name, counters, .file book⟩, world⟩).2.Lasts P book.path := by
  obtain ⟨now, op⟩ := t
  have hnow (b : FileBook) : (Turn.run ⟨now, op⟩).run ⟨⟨name, counters, .file b⟩, world⟩ =
      op.run.run ⟨⟨name, counters, .file b⟩, { world with now }⟩ := rfl
  rw [hnow, hnow] at h
  rw [hnow]
  cases op with
  | enterBatch =>
    refine ⟨book.deeper, rfl, rfl, hlasts.housed, hlasts.moments, hlasts.settled, fun hdepth => ?_⟩
    cases hdepth
  | leaveBatch =>
    have hdeep : (leaveBatch.run (⟨⟨name, counters, .file book.deeper⟩,
        { world with now }⟩ : Session)).1 = .ok () := leaveBatch_deeper_ok hlasts.idle
    rw [Op.run, Act.run_map_fst, Act.run_map_fst] at h
    rw [Op.run, Act.run_map_snd]
    exact lasts_leaveBatch hP hlasts
      (eq_of_map_eq (fun _ _ _ => rfl) (h.trans (congrArg _ hdeep)))
  | deduplicate issues =>
    rw [Op.run, Act.run_map_fst, Act.run_map_fst] at h
    rw [Op.run, Act.run_map_snd]
    exact Dedup.lasts_run hP issues hlasts
      (eq_of_map_eq (fun _ _ => Outcome.issues.inj) h)
  | dismiss => exact Op.lasts_single hP trivial hdated hlasts h
  | undismiss | check | get | copy | clear | size =>
    exact Op.lasts_single hP trivial trivial hlasts h

/-- **A move lasts** unless its write fails. -/
theorem Session.Lasts.after (hP : ∀ m, P m → m.IsValid) {s : Session} {p : Path} {m : Move}
    (h : s.Lasts P p) (hdated : m.DatedBy P) (hm : m.Unhindered s) : (s.after m).Lasts P p := by
  obtain ⟨⟨name, counters, backing⟩, world⟩ := s
  obtain ⟨book, rfl, rfl, hlasts⟩ := h
  cases m with
  | turn t => exact Turn.lasts hP hdated hlasts hm
  | close =>
    rw [Session.after, Move.run, Act.run_map_snd]
    exact lasts_of_saveFile hP hlasts.housed hlasts.moments (Prod.ext hm rfl)
  | abort e =>
    rw [Session.after, Move.run, Act.run_andFinally_snd, Act.run_throw]
    exact lasts_leaveBatch hP hlasts hm

/-- **Any number of moves lasts** if no write fails. -/
theorem Session.Lasts.afterAll (hP : ∀ m, P m → m.IsValid) {s : Session} {p : Path}
    {moves : List Move} (h : s.Lasts P p) (hdated : ∀ m ∈ moves, m.DatedBy P)
    (hmoves : s.Unhindered moves) : (s.afterAll moves).Lasts P p := by
  induction moves generalizing s with
  | nil => exact h
  | cons m moves ih =>
    obtain ⟨hm, hrest⟩ := hmoves
    exact ih (h.after hP (hdated m List.mem_cons_self) hm)
      (fun m' hm' => hdated m' (List.mem_cons_of_mem _ hm')) hrest

end Steps

/-- Where no block is open a new store on the path holds what the store holds, as it is read. -/
theorem Session.Lasts.reopens {s : Session} {path : String} (h : s.Lasts P (Path.ofString path)) :
    ∃ book, s.store.backing = .file book ∧ (∀ e ∈ book.records.entries, P e.2.since) ∧
      (book.depth = 0 → ∀ name, ∃ fresh w found, (openFile name path).run s.world = (.ok fresh, w) ∧
        fresh.backing = .file found ∧
        ∀ text, found.records.get? text = (book.records.get? text).map Record.shown) := by
  obtain ⟨book, hbacking, hpath, hlasts⟩ := h
  refine ⟨book, hbacking, hlasts.moments, fun hdepth name => ?_⟩
  obtain ⟨t, ht, hget⟩ := (hlasts.settled (hlasts.idle hdepth)).found
  have hhoused := hlasts.housed
  rw [hpath] at ht hhoused
  obtain ⟨errors, w, hrun, -⟩ := run_openFile_of_startsWith name hhoused ht
  exact ⟨_, w, _, hrun, rfl, hget⟩

end Lasting

/-- **What the store holds is on the disk.** However the file looked when the store was opened, and
whatever moves followed without a write that failed: when no block is open, a new store on the path
holds for every key text what the running store holds, an offset below a second left out. Where none of
the moments given has such an offset, it holds the same. -/
theorem openFile_afterAll {name path : String} {w w' : World} {store : Store}
    (hopen : (openFile name path).run w = (.ok store, w')) {moves : List Move}
    (hvalid : ∀ m ∈ moves, m.DatedBy Moment.IsValid)
    (hmoves : Session.Unhindered ⟨store, w'⟩ moves) (name' : String) :
    ∃ book, (Session.afterAll ⟨store, w'⟩ moves).store.backing = .file book ∧
      (book.depth = 0 → ∃ fresh w'' found,
        (openFile name' path).run (Session.afterAll ⟨store, w'⟩ moves).world = (.ok fresh, w'') ∧
          fresh.backing = .file found ∧
          (∀ text, found.records.get? text = (book.records.get? text).map Record.shown) ∧
          ((∀ m ∈ moves, m.Dated) →
            ∀ text, found.records.get? text = book.records.get? text)) := by
  obtain ⟨book, hbacking, -, hreopens⟩ :=
    ((lasts_of_openFile (fun _ => Moment.Storable.valid) hopen).afterAll (fun _ => id) hvalid
      hmoves).reopens
  refine ⟨book, hbacking, fun hdepth => ?_⟩
  obtain ⟨fresh, w'', found, hrun, hfound, hget⟩ := hreopens hdepth name'
  refine ⟨fresh, w'', found, hrun, hfound, hget, fun hdated text => ?_⟩
  -- With moments that can be stored the same moves keep another invariant.
  obtain ⟨book', hbacking', hmoments, -⟩ :=
    ((lasts_of_openFile (fun _ => id) hopen).afterAll (fun _ => Moment.Storable.valid) hdated
      hmoves).reopens
  obtain rfl : book = book' := Backing.file.inj (hbacking.symm.trans hbacking')
  exact (hget text).trans (map_shown_get? hmoments text)

/-! ### Where no write can fail -/

/-- Does the move fit what the store holds? -/
def Move.Fits (m : Move) (l : Ledger) : Prop :=
  match m with
  | turn t => t.Fits l
  | close | abort _ => True

/-- The map after the move. -/
def Move.next (m : Move) (l : Ledger) : Ledger :=
  match m with
  | turn t => t.next l
  | close | abort _ => l

/-- Does each move fit when it is made? -/
def Ledger.FitsAll (l : Ledger) : List Move → Prop
  | [] => True
  | m :: rest => m.Fits l ∧ (m.next l).FitsAll rest

theorem Move.Fits.dated {m : Move} {l : Ledger} (h : m.Fits l) : m.Dated := by
  cases m with
  | turn t =>
    obtain ⟨now, op⟩ := t
    cases op with
    | dismiss => exact h.2.2.storable
    | _ => trivial
  | close => trivial
  | abort => trivial

/-- A block more or less makes no difference to a store that works. -/
theorem Session.works_deeper {s : Session} (h : s.Works) (hown : s.Own) :
    s.deeper.Works ∧ s.deeper.Own ∧ s.deeper.ledger = s.ledger := by
  obtain ⟨s', hrun, hevolves, hledger⟩ := enterBatch_yields h
  rw [deeper, hrun]
  exact ⟨hevolves.works, hevolves.own hown, hledger⟩

/-- **A store that works is hindered by nothing**, and works on. -/
theorem Move.unhindered {m : Move} {s : Session} (hs : s.Works) (hown : s.Own)
    (hfits : m.Fits s.ledger) :
    m.Unhindered s ∧ (s.after m).Works ∧ (s.after m).Own ∧ (s.after m).ledger = m.next s.ledger := by
  cases m with
  | turn t =>
    obtain ⟨s', hrun, hworks, hown', hledger⟩ := t.run_ok hs hown hfits
    obtain ⟨hdeep, howndeep, hledgerdeep⟩ := Session.works_deeper hs hown
    have hfitsdeep : t.Fits s.deeper.ledger := by
      rw [hledgerdeep]
      exact hfits
    obtain ⟨_, hrundeep, -⟩ := t.run_ok hdeep howndeep hfitsdeep
    refine ⟨?_, ?_⟩
    · rw [Unhindered, hrun, hrundeep, hledgerdeep]
    · rw [Session.after, run, hrun]
      exact ⟨hworks, hown', hledger⟩
  | close =>
    obtain ⟨s', hrun, hevolves, hledger⟩ := close_yields hs
    rw [Unhindered, Session.after, run, Act.run_map_snd, hrun]
    exact ⟨rfl, hevolves.works, hevolves.own hown, hledger⟩
  | abort e =>
    obtain ⟨s', hrun, hevolves, hledger⟩ := leaveBatch_yields hs
    rw [Unhindered, Session.after, run, Act.run_andFinally_snd, Act.run_throw, hrun]
    exact ⟨rfl, hevolves.works, hevolves.own hown, hledger⟩

/-- Moments that can be read back as they are are moments of the calendar. -/
theorem Move.Dated.valid {m : Move} (h : m.Dated) : m.DatedBy Moment.IsValid := by
  cases m with
  | turn t =>
    obtain ⟨now, op⟩ := t
    cases op with
    | dismiss => exact Moment.Storable.valid h
    | _ => trivial
  | close => trivial
  | abort => trivial

theorem Session.unhindered {s : Session} {moves : List Move} (hs : s.Works) (hown : s.Own)
    (hfits : s.ledger.FitsAll moves) : s.Unhindered moves ∧ ∀ m ∈ moves, m.Dated := by
  induction moves generalizing s with
  | nil => exact ⟨trivial, nofun⟩
  | cons m moves ih =>
    obtain ⟨hm, hrest⟩ := hfits
    obtain ⟨hunhindered, hworks, hown', hledger⟩ := m.unhindered hs hown hm
    rw [← hledger] at hrest
    obtain ⟨hall, hdated⟩ := ih hworks hown' hrest
    exact ⟨⟨hunhindered, hall⟩, List.forall_mem_cons.mpr ⟨hm.dated, hdated⟩⟩

/-- The store on an empty working directory. -/
theorem run_openFile_blank : (openFile "store" "d.json").run .blank =
    (.ok (onFile "store" (Path.ofString "d.json") .empty 0), .blank) :=
  run_openFile "store" ready_blank

/-- It works. -/
theorem works_blank : Session.Works ⟨onFile "store" (Path.ofString "d.json") .empty 0, .blank⟩ :=
  ⟨ready_blank.accepts, plain_empty⟩

/-- A dismissal that a duplicate takes over in a block that fails, and what is done afterwards. -/
def troubled : List Move :=
  [.turn ⟨.newYear 2024, .enterBatch⟩,
    .turn ⟨.newYear 2024, .dismiss (Dedup.duplicate "a" 0).key 100 none⟩,
    .turn ⟨.newYear 2024, .deduplicate [Dedup.duplicate "a" 0, Dedup.duplicate "b" 0]⟩,
    .abort .noCharacter,
    .turn ⟨.newYear 2024, .undismiss (Dedup.duplicate "a" 0).key⟩,
    .close]

/-- A new store on an empty working directory, and another one after the trouble. -/
theorem openFile_afterAll_troubled :
    ∃ store, (openFile "store" "d.json").run .blank = (.ok store, .blank) ∧
      Session.Unhindered ⟨store, .blank⟩ troubled ∧ (∀ m ∈ troubled, m.Dated) ∧
      ∃ book, (Session.afterAll ⟨store, .blank⟩ troubled).store.backing = .file book ∧
        (book.depth = 0 → ∃ fresh w'' found,
          (openFile "fresh" "d.json").run (Session.afterAll ⟨store, .blank⟩ troubled).world =
            (.ok fresh, w'') ∧
            fresh.backing = .file found ∧
            ∀ text, found.records.get? text = book.records.get? text) := by
  have hgiven : (Moment.newYear 2024).Given := .inr ⟨⟨rfl, rfl, by decide, nofun⟩, rfl⟩
  have hfits : Ledger.empty.FitsAll troubled := by
    refine ⟨trivial, ⟨Dedup.printable_duplicate _, ⟨by decide +kernel, by decide +kernel⟩, hgiven⟩,
      fun i hi => ?_, trivial, Dedup.printable_duplicate _, trivial, trivial⟩
    rcases List.mem_pair.mp hi with rfl | rfl <;> exact Dedup.printable_duplicate _
  have hledger : Session.ledger
      ⟨onFile "store" (Path.ofString "d.json") .empty 0, World.blank⟩ = .empty := rfl
  rw [← hledger] at hfits
  obtain ⟨hmoves, hdated⟩ := Session.unhindered works_blank (fun _ => nofun) hfits
  obtain ⟨book, hbacking, hreopens⟩ :=
    openFile_afterAll run_openFile_blank (fun m hm => (hdated m hm).valid) hmoves "fresh"
  refine ⟨_, run_openFile_blank, hmoves, hdated, book, hbacking, fun hdepth => ?_⟩
  obtain ⟨fresh, w'', found, hrun, hfound, -, hsame⟩ := hreopens hdepth
  exact ⟨fresh, w'', found, hrun, hfound, hsame hdated⟩

/-- The beginning of 2024 at a place that is a microsecond ahead. -/
def Moment.ahead : Moment := { Moment.newYear 2024 with offset := some 1 }

/-- A dismissal at that moment. -/
def dismissAhead : Turn :=
  ⟨.newYear 2024, .dismiss (Dedup.duplicate "a" 0).key 100 (some .ahead)⟩

/-- What it leaves on an empty store. -/
def tableAhead : Table Text Record :=
  Table.empty.put (Text.ofString (Dedup.duplicate "a" 0).key.render) ⟨.ahead, 100, 1⟩

theorem plan_dismissAhead : dismissAhead.op.plan .empty dismissAhead.now = some tableAhead := by
  rw [dismissAhead, Op.plan, if_pos (Dedup.printable_duplicate "a")]
  rfl

theorem run_dismissAhead {s : Session} (hs : s.Works) (hkind : s.kind = .file)
    (hempty : s.ledger = .empty) : (dismissAhead.run.run s).1 = .ok (.record ⟨.ahead, 100, 1⟩) := by
  have hrecords : (s.atMoment (.newYear 2024)).ledger.records (Dedup.duplicate "a" 0).key = none :=
    congrArg (fun l : Ledger => l.records (Dedup.duplicate "a" 0).key) hempty
  have htakes : (s.atMoment (.newYear 2024)).Takes
      (dismissal none (.newYear 2024) 100 (some .ahead)) := by
    rw [Session.Takes, show (s.atMoment (.newYear 2024)).kind = .file from hkind]
    exact ⟨by decide +kernel, by decide +kernel⟩
  rw [← hrecords] at htakes
  obtain ⟨s', hrun, -⟩ := (dismiss_yields (hs.atMoment (.newYear 2024))
    (Dedup.printable_duplicate "a") htakes).map Outcome.record
  rw [hrecords] at hrun
  exact congrArg Prod.fst hrun

/-- A new store does not hold the offset of a microsecond that the running store holds. -/
theorem openFile_afterAll_ahead :
    ∃ store, (openFile "store" "d.json").run .blank = (.ok store, .blank) ∧
      (∀ m ∈ [Move.turn dismissAhead], m.DatedBy Moment.IsValid) ∧
      Session.Unhindered ⟨store, .blank⟩ [.turn dismissAhead] ∧
      ∃ book, (Session.afterAll ⟨store, .blank⟩ [.turn dismissAhead]).store.backing = .file book ∧
        book.depth = 0 ∧ ∃ fresh w found,
          (openFile "fresh" "d.json").run (Session.afterAll ⟨store, .blank⟩
            [.turn dismissAhead]).world = (.ok fresh, w) ∧
          fresh.backing = .file found ∧
          found.records.get? (Text.ofString (Dedup.duplicate "a" 0).key.render) ≠
            book.records.get? (Text.ofString (Dedup.duplicate "a" 0).key.render) := by
  have hvalid : ∀ m ∈ [Move.turn dismissAhead], m.DatedBy Moment.IsValid := by
    simp only [List.forall_mem_cons]
    exact ⟨⟨rfl, rfl, by decide, by decide⟩, nofun⟩
  obtain ⟨hdeeper, -, hledger⟩ := Session.works_deeper works_blank fun _ => nofun
  have hok := run_dismissAhead works_blank rfl rfl
  have hmoves : Session.Unhindered ⟨onFile "store" (Path.ofString "d.json") .empty 0, .blank⟩
      [.turn dismissAhead] :=
    ⟨hok.trans (run_dismissAhead hdeeper rfl hledger).symm, trivial⟩
  have htakes : Session.TakesOver ⟨onFile "store" (Path.ofString "d.json") .empty 0, .blank⟩
      dismissAhead.run ⟨Path.ofString "d.json", tableAhead, 0, false⟩ :=
    @Turn.takesOver_of_plan "store" ⟨0, 0, 0⟩ ⟨Path.ofString "d.json", .empty, 0, false⟩ .blank
      dismissAhead trivial tableAhead plan_dismissAhead
  have hwritten := htakes.backing_outside rfl hok
  obtain ⟨book, hbacking, -, hreopens⟩ :=
    ((lasts_of_openFile (fun _ => Moment.Storable.valid) run_openFile_blank).afterAll (fun _ => id)
      hvalid hmoves).reopens
  -- The table is written at once, so what the store holds is known.
  have hbook : book = ⟨Path.ofString "d.json", tableAhead, 0, false⟩ := by
    have hlast (s : Session) (t : Turn) : s.afterAll [.turn t] = (t.run.run s).2 := rfl
    rw [hlast, hwritten] at hbacking
    exact (Backing.file.inj hbacking).symm
  have hdepth : book.depth = 0 := by rw [hbook]
  obtain ⟨fresh, w, found, hrun, hfound, hget⟩ := hreopens hdepth "fresh"
  refine ⟨_, run_openFile_blank, hvalid, hmoves, book, hbacking, hdepth, fresh, w, found, hrun,
    hfound, ?_⟩
  rw [hget, hbook, tableAhead, Table.get?_put, if_pos rfl]
  intro h
  cases congrArg (Option.map fun r : Record => r.since.offset) h

end IssueDigest
