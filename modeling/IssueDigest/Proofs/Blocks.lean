import IssueDigest.Proofs.Durability
/-!
# Operations and blocks, step by step

`Op.Does` says of an operation that it takes a table over and reports. Here that is spelled out for the
three places where an operation can stand: nothing is planned (`Turn.run_idle`), the table is put off
because a block is open (`Turn.run_inside`), or it is written at once (`Turn.run_outside`). Leaving a
block is the fourth thing that can write.

What is said of runs is built from **steps**: single operations, and entering and leaving blocks, in
order or by a failure.
-/

namespace IssueDigest

open Store

/-! ### Writing a file -/

namespace Disk

variable {d d' : Disk} {p : Path} {place : List String} {content : List UInt8}

/-- Where a path leads depends on what is there alone. -/
theorem locate_of_nodes (hnodes : d'.nodes = d.nodes) (p : Path) : d'.locate p = d.locate p := by
  have hnode (q : List String) : d'.node? q = d.node? q := by rw [node?, node?, hnodes]
  have hdescend (place names : List String) : d'.descend place names = d.descend place names := by
    induction names generalizing place with
    | nil => rfl
    | cons name rest ih =>
      cases rest with
      | nil => rfl
      | cons next rest => simp only [descend, hnode, ih]
  rw [locate, locate, hdescend]

theorem writable_of_nodes (hnodes : d'.nodes = d.nodes) (p : Path) :
    d'.writable p = d.writable p := by
  simp only [writable, locate_of_nodes hnodes, node?, hnodes]

theorem holds_of_nodes (hnodes : d'.nodes = d.nodes) (p : Path) : d'.holds p = d.holds p := by
  simp only [holds, locate_of_nodes hnodes, node?, hnodes]

/-- The disk after a write that succeeded. -/
def written (d : Disk) (place : List String) (content : List UInt8) : Disk :=
  { d with attempts := d.attempts + 1 }.put place (.file content)

theorem write_of_writable (h : d.writable p = .ok place) (hcalm : d.mishaps d.attempts = none)
    (content : List UInt8) : d.write p content = (d.written place content, .ok ()) := by
  simp only [write, h, hcalm, written]

/-- A write that succeeds finds a place and meets no mishap. -/
theorem writable_of_write (h : d.write p content = (d', .ok ())) :
    ∃ place, d.writable p = .ok place ∧ d.mishaps d.attempts = none := by
  unfold write at h
  split at h
  · cases (Prod.mk.inj h).2
  · next place hplace =>
    refine ⟨place, hplace, ?_⟩
    dsimp only at h
    split at h
    · next hcalm => exact hcalm
    · cases (Prod.mk.inj h).2
    · cases (Prod.mk.inj h).2

/-- Where a file was written the next one can be written. -/
theorem writable_after_write (h : d.write p content = (d', .ok ())) :
    ∃ place, d'.writable p = .ok place := by
  obtain ⟨place, hplace, hcalm⟩ := writable_of_write h
  obtain ⟨rfl, -⟩ := Prod.mk.inj ((write_of_writable hplace hcalm content).symm.trans h)
  exact ⟨place, writable_of_put_file (d := d) rfl hplace⟩

end Disk

namespace Store

variable {s s' : Session} {book : FileBook}

/-- Can the table be written to the end, at this place? -/
structure Writes (d : Disk) (p : Path) (records : Table Text Record) (place : List String) : Prop where
  stored : (octets records).2 = .ok ()
  free : d.writable p = .ok place
  calm : d.mishaps d.attempts = none

/-- Writing a table to the end changes the file and clears the flag, and nothing else. -/
theorem run_saveFile_of_writes {place : List String}
    (h : Writes s.world.disk book.path book.records place) :
    (saveFile book).run s =
      (.ok (), Session.setBacking
        { s with
          world := { s.world with disk := s.world.disk.written place (octets book.records).1 } }
        (.file { book with pending := false })) := by
  obtain ⟨hstored, hfree, hcalm⟩ := h
  have hwrite := Disk.write_of_writable hfree hcalm (octets book.records).1
  cases hoctets : octets book.records with
  | mk content stored =>
  rw [hoctets] at hstored hwrite
  obtain rfl : stored = .ok () := hstored
  rw [saveFile, Act.run_get_bind]
  simp only [hoctets, World.writeFile, hwrite]
  rfl

/-- So does leaving the outermost block when it is pending. -/
theorem run_leaveBatch_of_writes {name : String} {counters : Counters} {world : World}
    {place : List String} (hdepth : book.depth - 1 = 0) (hpending : book.pending = true)
    (h : Writes world.disk book.path book.records place) :
    leaveBatch.run ⟨⟨name, counters, .file book⟩, world⟩ =
      (.ok (), ⟨⟨name, counters, .file { book with depth := book.depth - 1, pending := false }⟩,
        { world with disk := world.disk.written place (octets book.records).1 }⟩) := by
  rw [run_leaveBatch_file, if_pos ⟨hdepth, hpending⟩]
  exact @run_saveFile_of_writes ⟨⟨name, counters, _⟩, world⟩ { book with depth := book.depth - 1 }
    place h

/-- A table that was written could be written. -/
theorem writes_of_saveFile (h : (saveFile book).run s = (.ok (), s')) :
    ∃ place, Writes s.world.disk book.path book.records place := by
  obtain ⟨hstored, hwrite, -⟩ := saveFile_ok h
  obtain ⟨place, hplace, hcalm⟩ := Disk.writable_of_write hwrite
  exact ⟨place, hstored, hplace, hcalm⟩

/-- A table is written and settled, or the disk is as the failed attempt leaves it, and nothing else has
changed but counters and the journal. -/
theorem run_saveFile_cases (book : FileBook) (s : Session) :
    (∃ disk, (saveFile book).run s =
        (.ok (), ⟨{ s.store with backing := .file { book with pending := false } },
          { s.world with disk }⟩)) ∨
      ∃ e disk counters journal, counters.copies = s.store.counters.copies ∧
        (saveFile book).run s =
          (.error e, ⟨{ s.store with counters }, { s.world with disk, journal }⟩) := by
  rw [saveFile, Act.run_get_bind]
  cases hoctets : octets book.records with
  | mk content stored =>
  cases hwrite : s.world.disk.write book.path content with
  | mk disk written =>
  simp only [World.writeFile, hwrite]
  rw [Act.run_set_bind]
  cases written with
  | error e =>
    -- The store counts the fault if it comes from the file system.
    dsimp only
    split
    · exact .inr ⟨e, disk, { s.store.counters with errors := s.store.counters.errors + 1 }, _, rfl,
        rfl⟩
    · exact .inr ⟨e, disk, s.store.counters, s.world.journal, rfl, rfl⟩
  | ok =>
    cases stored with
    | error e => exact .inr ⟨e, disk, s.store.counters, s.world.journal, rfl, rfl⟩
    | ok => exact .inl ⟨disk, rfl⟩

/-- A table that could not be written leaves the store with what it had. -/
theorem backing_of_saveFile_error {e : Fault} (h : (saveFile book).run s = (.error e, s')) :
    s'.store.backing = s.store.backing := by
  obtain ⟨disk, hrun⟩ | ⟨e', disk, counters, journal, -, hrun⟩ := run_saveFile_cases book s
  · cases (Prod.mk.inj (hrun.symm.trans h)).1
  · obtain ⟨-, rfl⟩ := Prod.mk.inj (hrun.symm.trans h)
    rfl

end Store

/-! ### Single operations -/

section Turns

variable {t : Turn} {book : FileBook} {r : Except Fault Outcome} {f : Counters → Counters}
  {g : String → Journal → Journal} (hdoes : t.op.Does book.records t.now r f g)
  (name : String) (counters : Counters) (world : World)

include hdoes

/-- An operation that plans nothing only reports. -/
theorem Turn.run_idle (hplan : t.op.plan book.records t.now = none) :
    t.run.run ⟨⟨name, counters, .file book⟩, world⟩ =
      (r, Session.told ⟨⟨name, counters, .file book⟩, { world with now := t.now }⟩ f g) := by
  have hrun := hdoes.run name counters book { world with now := t.now } rfl rfl
  rw [hplan] at hrun
  exact hrun

variable {changed : Table Text Record} (hplan : t.op.plan book.records t.now = some changed)

include hplan

/-- Inside a block the table is put off, and nothing can fail. -/
theorem Turn.run_inside (hdepth : 0 < book.depth) :
    t.run.run ⟨⟨name, counters, .file book⟩, world⟩ =
      (r, Session.told ⟨⟨name, counters, .file { book with records := changed, pending := true }⟩,
        { world with now := t.now }⟩ f g) := by
  have hrun := hdoes.run name counters book { world with now := t.now } rfl rfl
  rw [hplan, commit, @run_persist_inside { book with records := changed } hdepth] at hrun
  exact hrun

/-- Outside all blocks it is written at once. -/
theorem Turn.run_outside (hdepth : book.depth = 0) :
    t.run.run ⟨⟨name, counters, .file book⟩, world⟩ =
      match (saveFile { book with records := changed }).run
        ⟨⟨name, counters, .file { book with records := changed }⟩, { world with now := t.now }⟩ with
      | (.ok (), s) => (r, s.told f g)
      | (.error e, s) => (.error e, s) := by
  have hrun := hdoes.run name counters book { world with now := t.now } rfl rfl
  rw [hplan, commit, @run_persist_outside { book with records := changed } hdepth] at hrun
  exact hrun

/-- If the table can be written, the operation ends as it would inside a block. -/
theorem Turn.run_written (hdepth : book.depth = 0) {place : List String}
    (h : Writes world.disk book.path changed place) :
    t.run.run ⟨⟨name, counters, .file book⟩, world⟩ =
      (r, Session.told ⟨⟨name, counters, .file { book with records := changed, pending := false }⟩,
        { world with now := t.now, disk := world.disk.written place (octets changed).1 }⟩ f g) := by
  have hsave : (saveFile { book with records := changed }).run
      ⟨⟨name, counters, .file { book with records := changed }⟩, { world with now := t.now }⟩ =
        (.ok (), _) := run_saveFile_of_writes h
  rw [run_outside hdoes name counters world hplan hdepth, hsave]
  rfl

/-- An operation whose write does not fail could write its table. -/
theorem Turn.writes_of_unhindered (hdepth : book.depth = 0)
    (h : (Move.turn t).Unhindered ⟨⟨name, counters, .file book⟩, world⟩) :
    ∃ place, Writes world.disk book.path changed place := by
  -- One block further in the table is put off and nothing fails, so nothing fails here.
  have hdeep : t.run.run ⟨⟨name, counters, .file book.deeper⟩, world⟩ = (r, _) :=
    @run_inside t book.deeper r f g hdoes name counters world changed hplan (Nat.succ_pos _)
  have hsame : (t.run.run ⟨⟨name, counters, .file book⟩, world⟩).1 = r :=
    h.trans (congrArg Prod.fst hdeep)
  obtain ⟨a, rfl⟩ := hdoes.sure changed hplan
  rw [run_outside hdoes name counters world hplan hdepth] at hsame
  split at hsame
  · next hsave => exact writes_of_saveFile hsave
  · cases hsame

end Turns

/-! ### Steps -/

/-- Does the move leave a block, in order or by a failure? -/
def Move.Leaves : Move → Prop
  | turn t => t.op = .leaveBatch
  | close => False
  | abort _ => True

/-- Is the move a single operation, or one that enters or leaves a block? -/
def Move.IsStep : Move → Prop
  | turn t => t.op.IsSingle ∨ t.op = .enterBatch ∨ t.op = .leaveBatch
  | close => False
  | abort _ => True

/-- Entering a block counts it and does nothing else to store and disk. -/
theorem Session.after_enter {s : Session} {book : FileBook} (hbook : s.store.backing = .file book)
    (opened : Moment) :
    (s.after (.turn ⟨opened, .enterBatch⟩)).store.backing = .file book.deeper ∧
      (s.after (.turn ⟨opened, .enterBatch⟩)).world.disk = s.world.disk := by
  obtain ⟨⟨name, counters, backing⟩, world⟩ := s
  obtain rfl : backing = .file book := hbook
  exact ⟨rfl, rfl⟩

/-- Leaving a block by a failure does to the store what leaving it in order does. -/
theorem Move.Leaves.after {m : Move} (h : m.Leaves) (s : Session) :
    ∃ now, s.after m = (leaveBatch.run (s.atMoment now)).2 := by
  cases m with
  | turn t =>
    obtain ⟨now, op⟩ := t
    obtain rfl : op = .leaveBatch := h
    refine ⟨now, ?_⟩
    exact Act.run_map_snd (fun _ => Outcome.done) leaveBatch (s.atMoment now)
  | close => exact h.elim
  | abort e =>
    refine ⟨s.world.now, ?_⟩
    rw [Session.after, run, Act.run_andFinally_snd, Act.run_throw]
    rfl

/-- Leaving a block is hindered only by the write at its end. -/
theorem Move.Leaves.unhindered {m : Move} (h : m.Leaves) {name : String} {counters : Counters}
    {book : FileBook} {world : World} (hidle : book.depth = 0 → book.pending = false)
    (hok : ∀ now, (leaveBatch.run ⟨⟨name, counters, .file book⟩, { world with now }⟩).1 = .ok ()) :
    m.Unhindered ⟨⟨name, counters, .file book⟩, world⟩ := by
  cases m with
  | turn t =>
    obtain ⟨now, op⟩ := t
    obtain rfl : op = .leaveBatch := h
    have hdeep : (leaveBatch.run
        (⟨⟨name, counters, .file book.deeper⟩, { world with now }⟩ : Session)).1 = .ok () :=
      leaveBatch_deeper_ok hidle
    change ((Op.run .leaveBatch).run ⟨⟨name, counters, .file book⟩, { world with now }⟩).1 =
      ((Op.run .leaveBatch).run ⟨⟨name, counters, .file book.deeper⟩, { world with now }⟩).1
    rw [Op.run, Act.run_map_fst, Act.run_map_fst, hok, hdeep]
  | close => exact h.elim
  | abort e => exact hok world.now

namespace Session

/-- Does the move change the records of a file store? -/
def changes (s : Session) (m : Move) : Bool :=
  match s.store.backing, m with
  | .file book, .turn t => (t.op.plan book.records t.now).isSome
  | _, _ => false

/-- Does one of the moves change them? -/
def changesAny (s : Session) : List Move → Bool
  | [] => false
  | m :: rest => s.changes m || (s.after m).changesAny rest

theorem changes_turn (name : String) (counters : Counters) (book : FileBook) (world : World) (t : Turn) :
    changes ⟨⟨name, counters, .file book⟩, world⟩ (.turn t) =
      (t.op.plan book.records t.now).isSome := rfl

/-- Leaving a block changes no record. -/
theorem changes_leave (s : Session) {m : Move} (hleaves : m.Leaves) : s.changes m = false := by
  obtain ⟨⟨name, counters, backing⟩, world⟩ := s
  cases m with
  | turn t =>
    obtain ⟨now, op⟩ := t
    obtain rfl : op = .leaveBatch := hleaves
    cases backing <;> rfl
  | close => exact hleaves.elim
  | abort e => cases backing <;> rfl

theorem changes_enter (s : Session) (opened : Moment) :
    s.changes (.turn ⟨opened, .enterBatch⟩) = false := by
  obtain ⟨⟨name, counters, backing⟩, world⟩ := s
  cases backing <;> rfl

theorem afterAll_append (s : Session) (front back : List Move) :
    s.afterAll (front ++ back) = (s.afterAll front).afterAll back := List.foldl_append

theorem changesAny_append (s : Session) (front back : List Move) :
    s.changesAny (front ++ back) = (s.changesAny front || (s.afterAll front).changesAny back) := by
  induction front generalizing s with
  | nil => rfl
  | cons m front ih => rw [List.cons_append, changesAny, ih, changesAny, Bool.or_assoc]; rfl

theorem unhindered_append {s : Session} {front back : List Move} :
    s.Unhindered (front ++ back) ↔ s.Unhindered front ∧ (s.afterAll front).Unhindered back := by
  induction front generalizing s with
  | nil => exact ⟨fun h => ⟨trivial, h⟩, And.right⟩
  | cons m front ih => rw [List.cons_append, Unhindered, ih, Unhindered, and_assoc]; rfl

end Session

end IssueDigest
