import IssueDigest.Proofs.Blocks
/-!
# Writes that fail

Any write may fail here. What the store has put off in a block stays pending when the write at the end
of the block fails, and the next block that is left tries again. A change outside all blocks is not
marked like that. If its write fails it is in the store and not on the disk, and a block that is left
later has nothing to write: the change is lost to the file until something else is changed
(`Session.Loses`, `Session.Lost`).

The invariant (`Session.Honours`): where nothing is pending, the file stands for the records, or a
change has been lost and nothing has been changed since. Each kind of step keeps it. Leaving the
outermost block without a failure leaves nothing pending, so one of the two holds there.
-/

namespace IssueDigest

open Store

/-- Does the file stand for the records? Without a file there are none. -/
def Store.Stands (d : Disk) (p : Path) (records : Table Text Record) : Prop :=
  (∃ t, readFile d p = .ok t ∧ ∀ k, t.get? k = records.get? k) ∨
    d.holds p = .ok false ∧ records = .empty

namespace Session

/-- Is the move a change outside all blocks, with nothing pending, whose write fails? -/
def Loses (s : Session) (m : Move) : Prop :=
  ∃ book, s.store.backing = .file book ∧ book.depth = 0 ∧ book.pending = false ∧
    s.changes m = true ∧ ∃ e, (m.run.run s).1 = .error e

/-- Has one of the moves lost a change, and none changed anything since? The disk is still as the write
that failed has left it. -/
def Lost (s : Session) (moves : List Move) : Prop :=
  ∃ before m later, moves = before ++ m :: later ∧ (s.afterAll before).Loses m ∧
    (s.afterAll (before ++ [m])).changesAny later = false ∧
    (s.afterAll moves).world.disk = (s.afterAll (before ++ [m])).world.disk

/-- Does the file stand for the records, unless they are pending, or unless this excuses it? -/
def Honours (s : Session) (p : Path) (excuse : Prop) : Prop :=
  ∃ book, s.store.backing = .file book ∧ book.path = p ∧
    (∀ e ∈ book.records.entries, e.2.since.Storable) ∧
    (book.pending = false → Stands s.world.disk p book.records ∨ excuse)

/-- What excuses a file after a move: what did before if the move has changed nothing, or the move. -/
def Excuse (s : Session) (m : Move) (excuse : Prop) : Prop :=
  excuse ∧ s.changes m = false ∧ (s.after m).world.disk = s.world.disk ∨ s.Loses m

end Session

/-- A table that was written stands in the file. -/
theorem Store.stands_of_saveFile {s s' : Session} {book : FileBook}
    (hmoments : ∀ e ∈ book.records.entries, e.2.since.Storable)
    (h : (saveFile book).run s = (.ok (), s')) :
    s'.store.backing = .file { book with pending := false } ∧
      Stands s'.world.disk book.path book.records := by
  obtain ⟨hstored, hwrite, hbacking⟩ := saveFile_ok h
  exact ⟨hbacking, .inl (readFile_of_write hstored hwrite hmoments)⟩

namespace Session.Honours

variable {s : Session} {p : Path} {excuse : Prop}

theorem imp {excuse' : Prop} (h : s.Honours p excuse) (himp : excuse → excuse') :
    s.Honours p excuse' := by
  obtain ⟨book, hbacking, hpath, hmoments, hstands⟩ := h
  exact ⟨book, hbacking, hpath, hmoments, fun hpending => (hstands hpending).imp_right himp⟩

/-- A single operation changes nothing, or puts its change off, or writes it, or loses it. -/
theorem single (h : s.Honours p excuse) {t : Turn} (hsingle : t.op.IsSingle)
    (hdated : t.op.Dated t.now) :
    (s.after (.turn t)).Honours p (s.Excuse (.turn t) excuse) := by
  obtain ⟨⟨name, counters, backing⟩, world⟩ := s
  obtain ⟨book, rfl, rfl, hmoments, hstands⟩ := h
  obtain ⟨r, f, g, hdoes⟩ := Op.exists_does book.records t.now hsingle
  cases hplan : t.op.plan book.records t.now with
  | none =>
    have hrun := Turn.run_idle hdoes name counters world hplan
    have hafter : Session.after ⟨⟨name, counters, .file book⟩, world⟩ (.turn t) = _ :=
      congrArg Prod.snd hrun
    rw [Excuse, changes_turn, hplan, hafter]
    exact ⟨book, rfl, rfl, hmoments, fun hpending =>
      (hstands hpending).imp_right fun hexcuse => .inl ⟨hexcuse, rfl, rfl⟩⟩
  | some changed =>
    have hmoments' := Op.moments_of_plan hplan hdated hmoments
    rcases Nat.eq_zero_or_pos book.depth with hdepth | hdepth
    · have hrun := Turn.run_outside hdoes name counters world hplan hdepth
      match hsave : (saveFile { book with records := changed }).run
          ⟨⟨name, counters, .file { book with records := changed }⟩, { world with now := t.now }⟩ with
      | (.ok (), s') =>
        obtain ⟨hbacking, hstands'⟩ := stands_of_saveFile hmoments' hsave
        rw [hsave] at hrun
        have hafter : Session.after ⟨⟨name, counters, .file book⟩, world⟩ (.turn t) = s'.told f g :=
          congrArg Prod.snd hrun
        rw [hafter]
        exact ⟨_, hbacking, rfl, hmoments', fun _ => .inl hstands'⟩
      | (.error e, s') =>
        -- What was pending before stays pending, so only a change with nothing pending is lost.
        have hbacking := backing_of_saveFile_error hsave
        rw [hsave] at hrun
        have hafter : Session.after ⟨⟨name, counters, .file book⟩, world⟩ (.turn t) = s' :=
          congrArg Prod.snd hrun
        rw [hafter]
        refine ⟨_, hbacking, rfl, hmoments', fun hpending => .inr (.inr ?_)⟩
        exact ⟨book, rfl, hdepth, hpending, (changes_turn ..).trans (by rw [hplan]; rfl), e,
          congrArg Prod.fst hrun⟩
    · have hrun := Turn.run_inside hdoes name counters world hplan hdepth
      have hafter : Session.after ⟨⟨name, counters, .file book⟩, world⟩ (.turn t) = _ :=
        congrArg Prod.snd hrun
      rw [hafter]
      exact ⟨_, rfl, rfl, hmoments', nofun⟩

theorem enter (h : s.Honours p excuse) (opened : Moment) :
    (s.after (.turn ⟨opened, .enterBatch⟩)).Honours p
      (s.Excuse (.turn ⟨opened, .enterBatch⟩) excuse) := by
  obtain ⟨⟨name, counters, backing⟩, world⟩ := s
  obtain ⟨book, rfl, rfl, hmoments, hstands⟩ := h
  exact ⟨book.deeper, rfl, rfl, hmoments, fun hpending =>
    (hstands hpending).imp_right fun hexcuse => .inl ⟨hexcuse, rfl, rfl⟩⟩

/-- What is pending is written when the outermost block is left, or stays pending. -/
theorem leave (h : s.Honours p excuse) {m : Move} (hleaves : m.Leaves) :
    (s.after m).Honours p (s.Excuse m excuse) := by
  have hchanges := changes_leave s hleaves
  obtain ⟨now, hafter⟩ := hleaves.after s
  obtain ⟨⟨name, counters, backing⟩, world⟩ := s
  obtain ⟨book, rfl, rfl, hmoments, hstands⟩ := h
  have hleave : leaveBatch.run (atMoment ⟨⟨name, counters, .file book⟩, world⟩ now) = _ :=
    run_leaveBatch_file
  rw [Excuse, hchanges, hafter, hleave]
  split
  · next hwrites =>
    match hsave : (saveFile { book with depth := book.depth - 1 }).run
        (⟨⟨name, counters, .file { book with depth := book.depth - 1 }⟩, { world with now }⟩ :
          Session) with
    | (.ok (), s') =>
      obtain ⟨hbacking, hstands'⟩ :=
        @stands_of_saveFile _ _ { book with depth := book.depth - 1 } hmoments hsave
      exact ⟨_, hbacking, rfl, hmoments, fun _ => .inl hstands'⟩
    | (.error e, s') =>
      refine ⟨_, backing_of_saveFile_error hsave, rfl, hmoments, fun hpending => ?_⟩
      exact absurd (hwrites.2.symm.trans hpending) nofun
  · exact ⟨{ book with depth := book.depth - 1 }, rfl, rfl, hmoments, fun hpending =>
      (hstands hpending).imp_right fun hexcuse => .inl ⟨hexcuse, rfl, rfl⟩⟩

/-- **A step honours the records**, or is itself the excuse. -/
theorem after (h : s.Honours p excuse) {m : Move} (hstep : m.IsStep) (hdated : m.Dated) :
    (s.after m).Honours p (s.Excuse m excuse) := by
  cases m with
  | turn t =>
    obtain ⟨now, op⟩ := t
    rcases hstep with hsingle | hop | hop
    · exact h.single hsingle hdated
    · obtain rfl : op = .enterBatch := hop
      exact h.enter now
    · exact h.leave hop
  | close => exact hstep.elim
  | abort e => exact h.leave trivial

end Session.Honours

/-- What has been lost is still lost after a move that changes nothing, and a move may lose something. -/
theorem Session.Excuse.lost {s : Session} {moves : List Move} {m : Move}
    (h : (s.afterAll moves).Excuse m (s.Lost moves)) : s.Lost (moves ++ [m]) := by
  have hafter : s.afterAll (moves ++ [m]) = (s.afterAll moves).after m := afterAll_append s moves [m]
  rcases h with ⟨⟨before, lost, later, hmoves, hloses, hquiet, hdisk⟩, hchanges, hsame⟩ | hloses
  · refine ⟨before, lost, later ++ [m], by rw [hmoves, List.append_assoc]; rfl, hloses, ?_, ?_⟩
    · have hreached : (s.afterAll (before ++ [lost])).afterAll later = s.afterAll moves := by
        rw [← afterAll_append, List.append_assoc, hmoves]
        rfl
      rw [changesAny_append, hquiet, hreached, changesAny, hchanges]
      rfl
    · rw [hafter, hsame, hdisk]
  · exact ⟨moves, m, [], rfl, hloses, rfl, rfl⟩

/-- **A run honours the records**, or has lost a change. -/
theorem Session.Honours.afterAll {s : Session} {p : Path} (h : s.Honours p False) {moves : List Move}
    (hsteps : ∀ m ∈ moves, m.IsStep) (hdated : ∀ m ∈ moves, m.Dated) :
    (s.afterAll moves).Honours p (s.Lost moves) := by
  induction moves using List.reverseRecOn with
  | nil => exact h.imp False.elim
  | append_singleton moves m ih =>
    rw [List.forall_mem_append] at hsteps hdated
    have hhonours := ih hsteps.1 hdated.1
    rw [afterAll_append]
    exact (hhonours.after (hsteps.2 m List.mem_cons_self) (hdated.2 m List.mem_cons_self)).imp
      Session.Excuse.lost

/-- A block that is left without a failure of its write. -/
theorem Move.Leaves.after_of_unhindered {m : Move} (h : m.Leaves) {name : String}
    {counters : Counters} {book : FileBook} {world : World} (hdepth : 0 < book.depth)
    (hunhindered : m.Unhindered ⟨⟨name, counters, .file book⟩, world⟩) :
    ∃ now, leaveBatch.run ⟨⟨name, counters, .file book⟩, { world with now }⟩ =
      (.ok (), Session.after ⟨⟨name, counters, .file book⟩, world⟩ m) := by
  cases m with
  | turn t =>
    obtain ⟨now, op⟩ := t
    obtain rfl : op = .leaveBatch := h
    have hdeep : (leaveBatch.run
        (⟨⟨name, counters, .file book.deeper⟩, { world with now }⟩ : Session)).1 = .ok () :=
      leaveBatch_deeper_ok fun hzero => absurd hzero (Nat.pos_iff_ne_zero.mp hdepth)
    change ((Op.run .leaveBatch).run ⟨⟨name, counters, .file book⟩, { world with now }⟩).1 =
      ((Op.run .leaveBatch).run ⟨⟨name, counters, .file book.deeper⟩, { world with now }⟩).1
      at hunhindered
    rw [Op.run, Act.run_map_fst, Act.run_map_fst, hdeep] at hunhindered
    refine ⟨now, Prod.ext (eq_of_map_eq (fun _ _ _ => rfl) hunhindered) ?_⟩
    exact (Act.run_map_snd (fun _ => Outcome.done) leaveBatch _).symm
  | close => exact h.elim
  | abort e =>
    refine ⟨world.now, Prod.ext hunhindered ?_⟩
    rw [Session.after, run, Act.run_andFinally_snd, Act.run_throw]

/-- Leaving the outermost block without a failure leaves nothing pending. -/
theorem Move.Leaves.settled {m : Move} (h : m.Leaves) {s : Session} {book : FileBook}
    (hbook : s.store.backing = .file book) (hdepth : book.depth = 1) (hunhindered : m.Unhindered s) :
    ∃ left, (s.after m).store.backing = .file left ∧ left.depth = 0 ∧ left.pending = false := by
  obtain ⟨⟨name, counters, backing⟩, world⟩ := s
  obtain rfl : backing = .file book := hbook
  obtain ⟨now, hleave⟩ := h.after_of_unhindered (by omega) hunhindered
  rw [run_leaveBatch_file] at hleave
  split at hleave
  · next hwrites =>
    obtain ⟨-, -, hbacking⟩ := saveFile_ok hleave
    exact ⟨_, hbacking, hwrites.1, rfl⟩
  · next hquiet =>
    have hzero : book.depth - 1 = 0 := by omega
    rw [← (Prod.mk.inj hleave).2]
    refine ⟨{ book with depth := book.depth - 1 }, rfl, hzero, ?_⟩
    exact Bool.eq_false_of_not_eq_true fun hpending => hquiet ⟨hzero, hpending⟩

/-- A store that has just been opened on no file, or on one that can be read. -/
theorem Store.honours_of_openFile {name path : String} {w w' : World} {store : Store}
    (hopen : (openFile name path).run w = (.ok store, w'))
    (hfound : w'.disk.holds (Path.ofString path) = .ok false ∨
      ∃ t, readFile w'.disk (Path.ofString path) = .ok t) :
    Session.Honours ⟨store, w'⟩ (Path.ofString path) False := by
  obtain ⟨records, errors, rfl, -, hstart⟩ := start_of_openFile hopen
  refine ⟨_, rfl, rfl, fun e he => (storable_of_startsWith hstart e he).since, fun _ => .inl ?_⟩
  rcases hfound with hnone | ⟨t, hread⟩
  · rw [startsWith, hnone] at hstart
    exact .inr ⟨hnone, (Except.ok.inj hstart).symm⟩
  · obtain rfl := Except.ok.inj ((startsWith_of_readFile hread).symm.trans hstart)
    exact .inl ⟨t, hread, fun _ => rfl⟩

/-- **When the outermost block is left without a failure, the file stands for the records, or a change
outside all blocks has been lost** and nothing has been changed since. The store was opened on no file
or on one that can be read, and any writes may have failed since. -/
theorem openFile_leave {name path : String} {w w' : World} {store : Store}
    (hopen : (openFile name path).run w = (.ok store, w'))
    (hfound : w'.disk.holds (Path.ofString path) = .ok false ∨
      ∃ t, readFile w'.disk (Path.ofString path) = .ok t)
    {moves : List Move} (hsteps : ∀ m ∈ moves, m.IsStep) (hdated : ∀ m ∈ moves, m.Dated)
    {book : FileBook} (hbook : (Session.afterAll ⟨store, w'⟩ moves).store.backing = .file book)
    (hdepth : book.depth = 1) {last : Move} (hleaves : last.Leaves)
    (hlast : last.Unhindered (Session.afterAll ⟨store, w'⟩ moves)) :
    ∃ left, (Session.afterAll ⟨store, w'⟩ (moves ++ [last])).store.backing = .file left ∧
      left.depth = 0 ∧
      (Stands (Session.afterAll ⟨store, w'⟩ (moves ++ [last])).world.disk (Path.ofString path)
          left.records ∨
        Session.Lost ⟨store, w'⟩ (moves ++ [last])) := by
  have hhonours := ((honours_of_openFile hopen hfound).afterAll hsteps hdated).leave hleaves
  obtain ⟨left', hbacking, -, -, hstands⟩ := hhonours.imp Session.Excuse.lost
  obtain ⟨left, hleft, hzero, hpending⟩ := hleaves.settled hbook hdepth hlast
  obtain rfl := Backing.file.inj (hleft.symm.trans hbacking)
  rw [Session.afterAll_append]
  exact ⟨left, hleft, hzero, hstands hpending⟩

/-! ### Mishaps -/

/-- A file that is missing stands for no records. -/
theorem Store.not_stands_of_missing {d : Disk} {p : Path} {records : Table Text Record}
    (hmissing : d.holds p = .ok false) (hrecords : records ≠ .empty) : ¬Stands d p records := by
  rintro (⟨t, hread, -⟩ | ⟨-, hempty⟩)
  · obtain ⟨bs, hbs, -⟩ := bind_eq_ok_iff.mp hread
    have hthere := Disk.holds_of_read hbs
    rw [hmissing] at hthere
    cases hthere
  · exact hrecords hempty

/-- A write that fails over a mishap that leaves the file alone. -/
theorem Store.run_saveFile_of_mishap {s : Session} {book : FileBook} {place : List String}
    {cause : OsCause} (hfree : s.world.disk.writable book.path = .ok place)
    (hmishap : s.world.disk.mishaps s.world.disk.attempts = some ⟨cause, none⟩) :
    ∃ e s', (saveFile book).run s = (.error e, s') ∧ s'.store.backing = s.store.backing ∧
      s'.world.disk = { s.world.disk with attempts := s.world.disk.attempts + 1 } := by
  have hrun : (saveFile book).run s = (((saveFile book).run s).1, ((saveFile book).run s).2) := rfl
  obtain ⟨written, hwrite, hr, -⟩ := saveFile_run hrun
  simp only [Disk.write, hfree, hmishap, Prod.mk.injEq] at hwrite
  obtain ⟨hdisk, rfl⟩ := hwrite
  exact ⟨_, _, Prod.ext hr rfl, backing_of_saveFile_error (Prod.ext hr rfl), hdisk.symm⟩

/-- A block with nothing in it, outside all others and with nothing pending, does nothing. -/
theorem Session.empty_block {s : Session} {book : FileBook} (hbook : s.store.backing = .file book)
    (hdepth : book.depth = 0) (hpending : book.pending = false) (opened closed : Moment) :
    (s.after (.turn ⟨opened, .enterBatch⟩)).store.backing = .file book.deeper ∧
      ∃ s', (Move.turn ⟨closed, .leaveBatch⟩).run.run (s.after (.turn ⟨opened, .enterBatch⟩)) =
          (.ok .done, s') ∧
        s'.store.backing = .file book ∧ s'.world.disk = s.world.disk := by
  obtain ⟨⟨name, counters, backing⟩, world⟩ := s
  obtain rfl : backing = .file book := hbook
  obtain ⟨path, records, depth, pending⟩ := book
  obtain rfl : depth = 0 := hdepth
  obtain rfl : pending = false := hpending
  exact ⟨rfl, _, rfl, rfl, rfl⟩

/-- **A change outside all blocks whose write meets a mishap** is in the store and not on the disk. -/
theorem Turn.run_mishap {t : Turn} {book : FileBook} {changed : Table Text Record}
    (hsingle : t.op.IsSingle) (hplan : t.op.plan book.records t.now = some changed)
    (hdepth : book.depth = 0) (name : String) (counters : Counters) {world : World}
    {place : List String} {cause : OsCause} (hfree : world.disk.writable book.path = .ok place)
    (hmishap : world.disk.mishaps world.disk.attempts = some ⟨cause, none⟩) :
    ∃ e s', t.run.run ⟨⟨name, counters, .file book⟩, world⟩ = (.error e, s') ∧
      s'.store.backing = .file { book with records := changed } ∧
      s'.world.disk = { world.disk with attempts := world.disk.attempts + 1 } := by
  obtain ⟨r, f, g, hdoes⟩ := Op.exists_does book.records t.now hsingle
  obtain ⟨e, s', hsave, hbacking, hdisk⟩ := @run_saveFile_of_mishap
    ⟨⟨name, counters, .file { book with records := changed }⟩, { world with now := t.now }⟩
    { book with records := changed } place cause hfree hmishap
  refine ⟨e, s', ?_, hbacking, hdisk⟩
  rw [run_outside hdoes name counters world hplan hdepth, hsave]

/-- **What was put off stays pending** when the write at the end of its block meets a mishap. -/
theorem Move.Leaves.after_mishap {m : Move} (h : m.Leaves) {s : Session} {book : FileBook}
    (hbook : s.store.backing = .file book) (hdepth : book.depth = 1) (hpending : book.pending = true)
    {place : List String} {cause : OsCause} (hfree : s.world.disk.writable book.path = .ok place)
    (hmishap : s.world.disk.mishaps s.world.disk.attempts = some ⟨cause, none⟩) :
    (s.after m).store.backing = .file { book with depth := 0 } ∧
      (s.after m).world.disk = { s.world.disk with attempts := s.world.disk.attempts + 1 } := by
  obtain ⟨now, hafter⟩ := h.after s
  obtain ⟨⟨name, counters, backing⟩, world⟩ := s
  obtain rfl : backing = .file book := hbook
  have hzero : book.depth - 1 = 0 := by omega
  obtain ⟨e, s', hsave, hbacking, hdisk⟩ := @run_saveFile_of_mishap
    ⟨⟨name, counters, .file { book with depth := book.depth - 1 }⟩, { world with now }⟩
    { book with depth := book.depth - 1 } place cause hfree hmishap
  have hleave : leaveBatch.run (Session.atMoment ⟨⟨name, counters, .file book⟩, world⟩ now) = _ :=
    run_leaveBatch_file.trans ((if_pos ⟨hzero, hpending⟩).trans hsave)
  rw [hafter, hleave, ← hzero]
  exact ⟨hbacking, hdisk⟩

/-- Nothing hinders a block from being left when what it has put off can be written. -/
theorem Move.Leaves.unhindered_of_writes {m : Move} (h : m.Leaves) {s : Session} {book : FileBook}
    (hbook : s.store.backing = .file book) (hdepth : book.depth = 1) (hpending : book.pending = true)
    {place : List String} (hwrites : Writes s.world.disk book.path book.records place) :
    m.Unhindered s := by
  obtain ⟨⟨name, counters, backing⟩, world⟩ := s
  obtain rfl : backing = .file book := hbook
  refine h.unhindered (fun hzero => by omega) fun now => ?_
  exact congrArg Prod.fst
    (@run_leaveBatch_of_writes book name counters { world with now } place (by omega) hpending hwrites)

/-- A disk like the blank one, but that the first attempt to write finds no room. -/
def Disk.full : Disk :=
  { Disk.blank with mishaps := fun n => if n = 0 then some ⟨.noSpace, none⟩ else none }

/-- The blank world with that disk. -/
def World.full : World := { World.blank with disk := .full }

theorem Disk.holds_full {d : Disk} (hnodes : d.nodes = full.nodes) :
    d.holds (Path.ofString "d.json") = .ok false :=
  (holds_of_nodes (hnodes.trans rfl) _).trans ready_blank.missing

theorem Disk.exists_writable_full {d : Disk} (hnodes : d.nodes = full.nodes) :
    ∃ place, d.writable (Path.ofString "d.json") = .ok place := by
  obtain ⟨place, hplace⟩ := ready_blank.accepts.place
  exact ⟨place, (writable_of_nodes (hnodes.trans rfl) _).trans hplace⟩

theorem run_openFile_full : (openFile "store" "d.json").run .full = (.ok fresh, .full) := by
  refine run_openFile_of_missing (w := .full) "store" ?_ (Disk.holds_full rfl)
  rw [show Path.ofString "d.json" = ⟨0, ["d.json"]⟩ by simp [Path.ofString, Path.split], Path.parent,
    Disk.ensureDirectory, Disk.checkPath_of_notMem (by simp [Path.text])]
  rfl

/-- A dismissal. -/
def dismissing : Turn := ⟨.newYear 2024, .dismiss (Dedup.duplicate "a" 0).key 100 none⟩

/-- The table that it makes of none. -/
def dismissed : Table Text Record :=
  Table.empty.put (Text.ofString (Dedup.duplicate "a" 0).key.render)
    (dismissal none (.newYear 2024) 100 none)

theorem plan_dismissing : dismissing.op.plan .empty dismissing.now = some dismissed := by
  rw [dismissing, Op.plan, if_pos (Dedup.printable_duplicate "a")]
  rfl

theorem plain_dismissed : Plain dismissed :=
  plain_empty.put _ ⟨by decide +kernel, by decide +kernel⟩

/-- The dismissal, and a block. -/
def unnoticed : List Move := [.turn dismissing, .turn ⟨.newYear 2024, .enterBatch⟩]

/-- The dismissal finds no room. The block is left without a failure, and what has been lost is not
written. -/
theorem openFile_leave_lost :
    ∃ store book s', (openFile "store" "d.json").run .full = (.ok store, .full) ∧
      World.full.disk.holds (Path.ofString "d.json") = .ok false ∧
      (Session.afterAll ⟨store, .full⟩ unnoticed).store.backing = .file book ∧ book.depth = 1 ∧
      (Move.turn ⟨.newYear 2024, .leaveBatch⟩).run.run (Session.afterAll ⟨store, .full⟩ unnoticed) =
        (.ok .done, s') ∧
      ∃ left, s'.store.backing = .file left ∧ left.depth = 0 ∧
        ¬Stands s'.world.disk (Path.ofString "d.json") left.records := by
  obtain ⟨place, hfree⟩ := Disk.exists_writable_full rfl
  obtain ⟨e, s, hrun, hbacking, hdisk⟩ := @Turn.run_mishap dismissing
    ⟨Path.ofString "d.json", .empty, 0, false⟩ dismissed trivial plan_dismissing rfl "store" ⟨0, 0, 0⟩
    .full place .noSpace hfree rfl
  obtain ⟨hentered, s', hleave, hleft, hsame⟩ :=
    Session.empty_block hbacking rfl rfl (.newYear 2024) (.newYear 2024)
  have hthere : Session.afterAll ⟨fresh, .full⟩ unnoticed =
      s.after (.turn ⟨.newYear 2024, .enterBatch⟩) :=
    congrArg (Session.after · (.turn ⟨.newYear 2024, .enterBatch⟩)) (congrArg Prod.snd hrun)
  refine ⟨_, FileBook.deeper ⟨Path.ofString "d.json", dismissed, 0, false⟩, s', run_openFile_full,
    Disk.holds_full rfl, hthere ▸ hentered, rfl, hthere ▸ hleave, _, hleft, rfl,
    not_stands_of_missing ?_ fun hempty => ?_⟩
  · rw [hsame, hdisk]
    exact Disk.holds_full rfl
  · cases congrArg Table.entries hempty

/-- The dismissal in a block, and the beginning of another one. -/
def retried : List Move :=
  [.turn ⟨.newYear 2024, .enterBatch⟩, .turn dismissing, .turn ⟨.newYear 2024, .leaveBatch⟩,
    .turn ⟨.newYear 2024, .enterBatch⟩]

/-- The dismissal is still pending in the second block, with one attempt to write gone. -/
theorem pending_retried :
    (Session.afterAll ⟨fresh, .full⟩ retried).store.backing =
        .file ⟨Path.ofString "d.json", dismissed, 1, true⟩ ∧
      (Session.afterAll ⟨fresh, .full⟩ retried).world.disk = { Disk.full with attempts := 1 } := by
  obtain ⟨place, hfree⟩ := Disk.exists_writable_full rfl
  obtain ⟨r, f, g, hdoes⟩ := @Op.exists_does .empty dismissing.now dismissing.op trivial
  have hinside : dismissing.run.run _ = (r, Session.told _ f g) :=
    @Turn.run_inside dismissing ⟨Path.ofString "d.json", .empty, 1, false⟩ r f g hdoes "store"
      ⟨0, 0, 0⟩ { World.full with now := .newYear 2024 } dismissed plan_dismissing Nat.one_pos
  have hfirst : Session.afterAll ⟨fresh, .full⟩
      [.turn ⟨.newYear 2024, .enterBatch⟩, .turn dismissing] = _ := congrArg Prod.snd hinside
  obtain ⟨hbacking, hdisk⟩ := @Move.Leaves.after_mishap (.turn ⟨.newYear 2024, .leaveBatch⟩) rfl
    (Session.afterAll ⟨fresh, .full⟩ [.turn ⟨.newYear 2024, .enterBatch⟩, .turn dismissing])
    ⟨Path.ofString "d.json", dismissed, 1, true⟩ (hfirst ▸ rfl) rfl rfl place .noSpace
    (hfirst ▸ hfree) (hfirst ▸ rfl)
  obtain ⟨hentered, hsame⟩ := Session.after_enter hbacking (.newYear 2024)
  have hthere : Session.afterAll ⟨fresh, .full⟩ retried = Session.after (Session.after _ _) _ :=
    Session.afterAll_append ⟨fresh, .full⟩
      [.turn ⟨.newYear 2024, .enterBatch⟩, .turn dismissing] [_, _]
  rw [hthere, hentered, hsame, hdisk, hfirst]
  exact ⟨rfl, rfl⟩

/-- The first write finds no room there, and the second block writes. -/
theorem openFile_leave_retried :
    ∃ store book, (openFile "store" "d.json").run .full = (.ok store, .full) ∧
      (World.full.disk.holds (Path.ofString "d.json") = .ok false ∨
        ∃ t, readFile World.full.disk (Path.ofString "d.json") = .ok t) ∧
      (∀ m ∈ retried, m.IsStep) ∧ (∀ m ∈ retried, m.Dated) ∧
      (Session.afterAll ⟨store, .full⟩ retried).store.backing = .file book ∧ book.depth = 1 ∧
      (Move.turn ⟨.newYear 2024, .leaveBatch⟩).Unhindered (Session.afterAll ⟨store, .full⟩ retried) ∧
      ∃ left, (Session.afterAll ⟨store, .full⟩
          (retried ++ [.turn ⟨.newYear 2024, .leaveBatch⟩])).store.backing = .file left ∧
        left.depth = 0 ∧
        (Stands (Session.afterAll ⟨store, .full⟩
            (retried ++ [.turn ⟨.newYear 2024, .leaveBatch⟩])).world.disk (Path.ofString "d.json")
            left.records ∨
          Session.Lost ⟨store, .full⟩ (retried ++ [.turn ⟨.newYear 2024, .leaveBatch⟩])) := by
  obtain ⟨hbacking, hdisk⟩ := pending_retried
  obtain ⟨cs, -, hoctets⟩ := plain_dismissed.octets
  obtain ⟨place, hfree⟩ := @Disk.exists_writable_full { Disk.full with attempts := 1 } rfl
  have hwrites : Writes (Session.afterAll ⟨fresh, .full⟩ retried).world.disk
      (Path.ofString "d.json") dismissed place := by
    rw [hdisk]
    exact ⟨congrArg Prod.snd hoctets, hfree, rfl⟩
  have hlast : (Move.turn ⟨.newYear 2024, .leaveBatch⟩).Unhindered
      (Session.afterAll ⟨fresh, .full⟩ retried) :=
    @Move.Leaves.unhindered_of_writes (.turn ⟨.newYear 2024, .leaveBatch⟩) rfl _ _ hbacking rfl rfl _
      hwrites
  have hsteps : ∀ m ∈ retried, m.IsStep := by
    simp [retried, dismissing, Move.IsStep, Op.IsSingle]
  have hdated : ∀ m ∈ retried, m.Dated := by
    simp only [retried, List.forall_mem_cons]
    exact ⟨trivial, given_newYear.storable, trivial, trivial, nofun⟩
  exact ⟨_, _, run_openFile_full, .inl (Disk.holds_full rfl), hsteps, hdated, hbacking, rfl, hlast,
    openFile_leave run_openFile_full (.inl (Disk.holds_full rfl)) hsteps hdated hbacking rfl rfl
      hlast⟩

end IssueDigest
