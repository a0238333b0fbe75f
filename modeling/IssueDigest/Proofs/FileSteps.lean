import IssueDigest.Proofs.Backends
/-!
# What one step does to a file store

An operation on a file store does one of two things. It leaves store and file alone, or it takes over
a changed table and writes it, and nothing can fail after that. Which of the two, and which table,
depends on the records and the clock alone (`Op.plan`) and not on how many blocks are open; what
depends on the blocks is only whether the table is written at once or put off.

The deduplicator does many such steps inside a block of its own. There nothing is written, so its
steps are **inner** ones: they leave the disk alone, copy records that are there, and go the same way
inside one more block.
-/

namespace IssueDigest

open Store

/-! ### Steps that leave the file alone -/

/-- Are the records and the disk what they were? Counters, journal and clock may differ. -/
structure Session.SameFile (s s' : Session) : Prop where
  backing : s'.store.backing = s.store.backing
  disk : s'.world.disk = s.world.disk

namespace Session.SameFile

variable {s s' s'' : Session}

theorem refl (s : Session) : s.SameFile s := ⟨rfl, rfl⟩

theorem trans (h : s.SameFile s') (h' : s'.SameFile s'') : s.SameFile s'' :=
  ⟨h'.backing.trans h.backing, h'.disk.trans h.disk⟩

end Session.SameFile

/-! ### Steps that take a table over -/

/-- Does the action take a table over and write it, so that nothing can fail any more? -/
def Session.TakesOver {α : Type} (s : Session) (x : Action α) (book : FileBook) : Prop :=
  ∃ s₁ rest, s.SameFile s₁ ∧ x.run s = (persist book >>= rest).run s₁ ∧
    ∀ s₂, ∃ a s₃, (rest ()).run s₂ = (.ok a, s₃) ∧ s₂.SameFile s₃

/-- A table that is taken over inside a block is put off. -/
theorem Store.run_persist_inside {book : FileBook} (h : 0 < book.depth) (s : Session) :
    (persist book).run s = (.ok (), s.setBacking (.file { book with pending := true })) := by
  rw [persist, if_pos h]
  rfl

theorem Store.run_persist_outside {book : FileBook} (h : book.depth = 0) (s : Session) :
    (persist book).run s = (saveFile book).run (s.setBacking (.file book)) := by
  rw [persist, if_neg (by omega)]
  rfl

/-- What an operation makes of the records of a file store, if it changes them. -/
def Op.plan (records : Table Text Record) (now : Moment) : Op → Option (Table Text Record)
  | .dismiss key severity moment =>
    if key.Printable then
      some (records.put (Text.ofString key.render)
        (dismissal (records.get? (Text.ofString key.render)) now severity moment))
    else none
  | .undismiss key =>
    if key.Printable ∧ (records.get? (Text.ofString key.render)).isSome then
      some (records.erase (Text.ofString key.render))
    else none
  | .copy source target =>
    if source.Printable ∧ target.Printable then
      (records.get? (Text.ofString source.render)).map fun r =>
        records.put (Text.ofString target.render) r
    else none
  | .clear => some .empty
  | .check _ _ | .get _ | .size | .enterBatch | .leaveBatch | .deduplicate _ => none

/-- Is the operation a single step, and not a block or made of steps? -/
def Op.IsSingle : Op → Prop
  | .enterBatch | .leaveBatch | .deduplicate _ => False
  | _ => True

/-- Takes a changed table over, if there is one. -/
def Store.commit (book : FileBook) : Option (Table Text Record) → Action Unit
  | none => pure ()
  | some records => persist { book with records }

/-- The session when something has been counted and noted. -/
def Session.told (s : Session) (f : Counters → Counters) (g : String → Journal → Journal) : Session :=
  ⟨{ s.store with counters := f s.store.counters },
    { s.world with journal := g s.store.name s.world.journal }⟩

theorem Session.sameFile_told (s : Session) (f : Counters → Counters)
    (g : String → Journal → Journal) : s.SameFile (s.told f g) := ⟨rfl, rfl⟩

/-- Is this what the operation does on such records at such a moment? It takes over the table that is
planned, if there is one, and ends with this result, so much counted and so much noted, unless the
table cannot be written. Where a table is planned nothing else can fail. -/
structure Op.Does (op : Op) (records : Table Text Record) (now : Moment) (r : Except Fault Outcome)
    (f : Counters → Counters) (g : String → Journal → Journal) : Prop where
  sure : ∀ changed, op.plan records now = some changed → ∃ a, r = .ok a
  run : ∀ name counters (book : FileBook) world, book.records = records → world.now = now →
    op.run.run ⟨⟨name, counters, .file book⟩, world⟩ =
      match (commit book (op.plan records now)).run ⟨⟨name, counters, .file book⟩, world⟩ with
      | (.ok (), s) => (r, s.told f g)
      | (.error e, s) => (.error e, s)

namespace Op.Does

variable {α : Type} {op : Op} {records : Table Text Record} {now : Moment}
  {f : Counters → Counters} {g : String → Journal → Journal}

theorem of_none (r : Except Fault α) (make : α → Outcome) (x : Action α)
    (hop : op.run = make <$> x) (hplan : op.plan records now = none)
    (h : ∀ name counters (book : FileBook) world, book.records = records → world.now = now →
      x.run ⟨⟨name, counters, .file book⟩, world⟩ =
        (r, Session.told ⟨⟨name, counters, .file book⟩, world⟩ f g)) :
    op.Does records now (r.map make) f g where
  sure changed hchanged := by
    rw [hplan] at hchanged
    cases hchanged
  run name counters book world hrecords hnow := by
    rw [hop, Act.run_map, h name counters book world hrecords hnow, hplan]
    rfl

theorem of_some {changed : Table Text Record} {a : α} (make : α → Outcome) (x : Action α)
    (rest : Action α) (hop : op.run = make <$> x) (hplan : op.plan records now = some changed)
    (hrest : ∀ s, rest.run s = (.ok a, s.told f g))
    (h : ∀ name counters (book : FileBook) world, book.records = records → world.now = now →
      x.run ⟨⟨name, counters, .file book⟩, world⟩ =
        (persist { book with records := changed } >>= fun _ => rest).run
          ⟨⟨name, counters, .file book⟩, world⟩) :
    op.Does records now (.ok (make a)) f g where
  sure _ _ := ⟨_, rfl⟩
  run name counters book world hrecords hnow := by
    rw [hop, Act.run_map, h name counters book world hrecords hnow, hplan, commit, Act.run_bind]
    match (persist { book with records := changed }).run ⟨⟨name, counters, .file book⟩, world⟩ with
    | (.ok (), s) =>
      dsimp only
      rw [hrest]
      rfl
    | (.error e, s) => rfl

end Op.Does

section Single

variable {name : String} {counters : Counters} {book : FileBook} {world : World} {key : IssueKey}

theorem Store.run_find_file (h : key.Printable) :
    (find key).run ⟨⟨name, counters, .file book⟩, world⟩ =
      (.ok (book.records.get? (Text.ofString key.render)),
        ⟨⟨name, counters, .file book⟩, world⟩) := by
  rw [find, Act.run_get_bind]
  dsimp only
  rw [IssueKey.write_of_printable h]
  rfl

theorem Store.run_find_file_of_not (h : ¬key.Printable) :
    (find key).run ⟨⟨name, counters, .file book⟩, world⟩ =
      (.error (.refused .integerUnwritable), ⟨⟨name, counters, .file book⟩, world⟩) := by
  rw [find, Act.run_get_bind]
  dsimp only
  rw [IssueKey.write_of_not_printable h]
  rfl

theorem Store.run_keep_file (h : key.Printable) (r : Record) :
    (keep key r).run ⟨⟨name, counters, .file book⟩, world⟩ =
      (persist { book with records := book.records.put (Text.ofString key.render) r }).run
        ⟨⟨name, counters, .file book⟩, world⟩ := by
  rw [keep, Act.run_get_bind]
  dsimp only
  rw [IssueKey.write_of_printable h]
  rfl

theorem Store.run_keep_file_of_not (h : ¬key.Printable) (r : Record) :
    (keep key r).run ⟨⟨name, counters, .file book⟩, world⟩ =
      (.error (.refused .integerUnwritable), ⟨⟨name, counters, .file book⟩, world⟩) := by
  rw [keep, Act.run_get_bind]
  dsimp only
  rw [IssueKey.write_of_not_printable h]
  rfl

/-- Without a record there is nothing to copy, only a warning that spells both keys. -/
theorem Store.run_copy_of_none {target : IssueKey} (hkey : key.Printable)
    (htarget : target.Printable) (hr : book.records.get? (Text.ofString key.render) = none) :
    (copy key target).run ⟨⟨name, counters, .file book⟩, world⟩ =
      (.ok (), ⟨⟨name, counters, .file book⟩, world.note .warning "No dismissal data to copy"
        [("backend", .string name), ("from_key", .string key.render),
          ("to_key", .string target.render)]⟩) := by
  rw [copy, Act.run_bind_ok (run_find_file hkey), hr]
  dsimp only
  rw [Act.run_get_bind, IssueKey.write_of_printable hkey, IssueKey.write_of_printable htarget]
  rfl

/-- A copy for an issue that cannot be named fails, whether there is a record or not. -/
theorem Store.run_copy_of_not {target : IssueKey} (h : ¬(key.Printable ∧ target.Printable)) :
    (copy key target).run ⟨⟨name, counters, .file book⟩, world⟩ =
      (.error (.refused .integerUnwritable), ⟨⟨name, counters, .file book⟩, world⟩) := by
  by_cases hkey : key.Printable
  · have htarget : ¬target.Printable := fun htarget => h ⟨hkey, htarget⟩
    rw [copy, Act.run_bind_ok (run_find_file hkey)]
    cases book.records.get? (Text.ofString key.render) with
    | some r =>
      dsimp only
      rw [Act.run_bind_error (run_keep_file_of_not htarget r)]
    | none =>
      dsimp only
      rw [Act.run_get_bind, IssueKey.write_of_printable hkey,
        IssueKey.write_of_not_printable htarget]
      rfl
  · rw [copy, Act.run_bind_error (run_find_file_of_not hkey)]

/-- A question is counted, and answered from the records alone. -/
theorem Store.run_isDismissed_file (records : Table Text Record) (key : IssueKey) (severity : Int) :
    ∃ r : Except Fault Bool, (∀ e, r = .error e → e = .refused .integerUnwritable) ∧
      ∀ name counters (book : FileBook) world, book.records = records →
        (isDismissed key severity).run ⟨⟨name, counters, .file book⟩, world⟩ =
          (r, ⟨⟨name, { counters with checks := counters.checks + 1 }, .file book⟩, world⟩) := by
  by_cases h : key.Printable
  · refine ⟨.ok ((records.get? (Text.ofString key.render)).any fun r => r.covers severity),
      nofun, fun name counters book world hrecords => ?_⟩
    rw [isDismissed, Act.run_modify_bind]
    refine (Act.run_bind_ok (run_find_file h)).trans ?_
    rw [hrecords]
    cases records.get? (Text.ofString key.render) <;> rfl
  · refine ⟨.error (.refused .integerUnwritable), fun e he => (Except.error.inj he).symm,
      fun name counters book world _ => ?_⟩
    rw [isDismissed, Act.run_modify_bind]
    exact Act.run_bind_error (run_find_file_of_not h)

/-- What a dismissal says when its record is kept. -/
def Store.announce (key : IssueKey) (severity : Int) (r : Record) : Action Record := do
  let name := (← get).store.name
  note .debug "Issue dismissed"
    [("backend", .string name), ("issue_key", .string key.render), ("severity_level", .int severity)]
  pure r

/-- The entry of the journal about a dismissal. -/
def Journal.dismissed (key : IssueKey) (severity : Int) (name : String) (j : Journal) : Journal :=
  j.note .debug "Issue dismissed"
    ([("backend", .string name), ("issue_key", .string key.render),
      ("severity_level", .int severity)].map fun c => (Text.ofString c.1, c.2))

theorem Store.run_announce (key : IssueKey) (severity : Int) (r : Record) (s : Session) :
    (announce key severity r).run s = (.ok r, s.told id (Journal.dismissed key severity)) := by
  rw [announce, Act.run_get_bind]
  rfl

theorem Store.run_dismiss_file (h : key.Printable) (severity : Int) (moment : Option Moment) :
    (dismiss key severity moment).run ⟨⟨name, counters, .file book⟩, world⟩ =
      (persist { book with
          records := book.records.put (Text.ofString key.render)
            (dismissal (book.records.get? (Text.ofString key.render)) world.now severity moment) } >>=
        fun _ => announce key severity
          (dismissal (book.records.get? (Text.ofString key.render)) world.now severity moment)).run
        ⟨⟨name, counters, .file book⟩, world⟩ := by
  rw [dismiss, Act.run_bind_ok (run_find_file h), Act.run_get_bind, Act.run_bind, run_keep_file h,
    Act.run_bind, IssueKey.write_of_printable h]
  rfl

theorem Store.run_dismiss_file_of_not (h : ¬key.Printable) (severity : Int)
    (moment : Option Moment) :
    (dismiss key severity moment).run ⟨⟨name, counters, .file book⟩, world⟩ =
      (.error (.refused .integerUnwritable), ⟨⟨name, counters, .file book⟩, world⟩) := by
  rw [dismiss, Act.run_bind_error (run_find_file_of_not h)]

theorem Store.run_drop_file (h : key.Printable)
    (hrecord : (book.records.get? (Text.ofString key.render)).isSome = true) :
    (drop key).run ⟨⟨name, counters, .file book⟩, world⟩ =
      (persist { book with records := book.records.erase (Text.ofString key.render) } >>=
        fun _ => pure true).run ⟨⟨name, counters, .file book⟩, world⟩ := by
  rw [drop, Act.run_get_bind]
  dsimp only
  rw [IssueKey.write_of_printable h, Act.run_bind_ok (Act.run_lift_ok _ _), if_pos hrecord]

theorem Store.run_drop_file_of_none (h : key.Printable)
    (hrecord : ¬(book.records.get? (Text.ofString key.render)).isSome = true) :
    (drop key).run ⟨⟨name, counters, .file book⟩, world⟩ =
      (.ok false, ⟨⟨name, counters, .file book⟩, world⟩) := by
  rw [drop, Act.run_get_bind]
  dsimp only
  rw [IssueKey.write_of_printable h, Act.run_bind_ok (Act.run_lift_ok _ _), if_neg hrecord]
  rfl

theorem Store.run_drop_file_of_not (h : ¬key.Printable) :
    (drop key).run ⟨⟨name, counters, .file book⟩, world⟩ =
      (.error (.refused .integerUnwritable), ⟨⟨name, counters, .file book⟩, world⟩) := by
  rw [drop, Act.run_get_bind]
  dsimp only
  rw [IssueKey.write_of_not_printable h]
  rfl

section Does

variable (records : Table Text Record) (now : Moment)

theorem Op.does_dismiss (key : IssueKey) (severity : Int) (moment : Option Moment) :
    ∃ r f g, (Op.dismiss key severity moment).Does records now r f g := by
  by_cases hkey : key.Printable
  · refine ⟨_, id, Journal.dismissed key severity, .of_some .record (Store.dismiss key severity moment)
      (announce key severity (dismissal (records.get? (Text.ofString key.render)) now severity moment))
      rfl (by rw [plan, if_pos hkey]) (run_announce key severity _)
      fun name counters book world hrecords hnow => ?_⟩
    rw [run_dismiss_file hkey, hrecords, hnow]
  · exact ⟨_, id, fun _ j => j, .of_none (.error (.refused .integerUnwritable)) .record
      (Store.dismiss key severity moment) rfl (by rw [plan, if_neg hkey])
      fun _ _ _ _ _ _ => run_dismiss_file_of_not hkey severity moment⟩

theorem Op.does_undismiss (key : IssueKey) :
    ∃ r f g, (Op.undismiss key).Does records now r f g := by
  by_cases hkey : key.Printable
  · by_cases hrecord : (records.get? (Text.ofString key.render)).isSome = true
    · refine ⟨_, id, fun _ j => j, .of_some .answer (drop key) (pure true) rfl
        (by rw [plan, if_pos ⟨hkey, hrecord⟩]) (fun _ => rfl)
        fun name counters book world hrecords _ => ?_⟩
      subst hrecords
      exact run_drop_file hkey hrecord
    · refine ⟨_, id, fun _ j => j, .of_none (.ok false) .answer (drop key) rfl
        (by rw [plan, if_neg fun h => hrecord h.2]) fun name counters book world hrecords _ => ?_⟩
      subst hrecords
      exact run_drop_file_of_none hkey hrecord
  · exact ⟨_, id, fun _ j => j, .of_none (.error (.refused .integerUnwritable)) .answer (drop key) rfl
      (by rw [plan, if_neg fun h => hkey h.1]) fun _ _ _ _ _ _ => run_drop_file_of_not hkey⟩

theorem Op.does_copy (source target : IssueKey) :
    ∃ r f g, (Op.copy source target).Does records now r f g := by
  by_cases hkeys : source.Printable ∧ target.Printable
  · cases hr : records.get? (Text.ofString source.render) with
    | some r =>
      refine ⟨_, fun c => { c with copies := c.copies + 1 }, fun _ j => j,
        .of_some (fun _ => .done) (Store.copy source target)
          (modify (Session.count · fun c => { c with copies := c.copies + 1 })) rfl
          (by rw [plan, if_pos hkeys, hr, Option.map_some]) (fun _ => rfl)
          fun name counters book world hrecords _ => ?_⟩
      rw [Store.copy, Act.run_bind_ok (run_find_file hkeys.1), hrecords, hr]
      dsimp only
      rw [Act.run_bind, run_keep_file hkeys.2, hrecords, Act.run_bind]
    | none =>
      refine ⟨_, id, fun name j => j.note .warning "No dismissal data to copy"
        ([("backend", .string name), ("from_key", .string source.render),
          ("to_key", .string target.render)].map fun c => (Text.ofString c.1, c.2)),
        .of_none (.ok ()) (fun _ => .done) (Store.copy source target) rfl
          (by rw [plan, if_pos hkeys, hr, Option.map_none])
          fun name counters book world hrecords _ => ?_⟩
      subst hrecords
      exact run_copy_of_none hkeys.1 hkeys.2 hr
  · exact ⟨_, id, fun _ j => j, .of_none (.error (.refused .integerUnwritable)) (fun _ => .done)
      (Store.copy source target) rfl (by rw [plan, if_neg hkeys])
      fun _ _ _ _ _ _ => run_copy_of_not hkeys⟩

/-- **Every single operation does what is planned**, and what else it does depends on the records and
the clock alone. -/
theorem Op.exists_does {op : Op} (hop : op.IsSingle) : ∃ r f g, op.Does records now r f g := by
  cases op with
  | dismiss key severity moment => exact does_dismiss records now key severity moment
  | undismiss key => exact does_undismiss records now key
  | copy source target => exact does_copy records now source target
  | clear =>
    refine ⟨_, id, fun _ j => j, .of_some (fun _ => .done) Store.clear (pure ()) rfl rfl
      (fun _ => rfl) fun name counters book world _ _ => ?_⟩
    rw [Store.clear, Act.run_get_bind, bind_pure_unit]
  | check key severity =>
    obtain ⟨r, -, hrun⟩ := run_isDismissed_file records key severity
    exact ⟨_, fun c => { c with checks := c.checks + 1 }, fun _ j => j,
      .of_none r .answer (isDismissed key severity) rfl rfl
        fun name counters book world hrecords _ => hrun name counters book world hrecords⟩
  | get key =>
    by_cases hkey : key.Printable
    · refine ⟨_, id, fun _ j => j, .of_none (.ok (records.get? (Text.ofString key.render))) .found
        (find key) rfl rfl fun name counters book world hrecords _ => ?_⟩
      subst hrecords
      exact run_find_file hkey
    · exact ⟨_, id, fun _ j => j, .of_none (.error (.refused .integerUnwritable)) .found (find key)
        rfl rfl fun _ _ _ _ _ _ => run_find_file_of_not hkey⟩
  | size =>
    refine ⟨_, id, fun _ j => j, .of_none (.ok records.size) .count Store.size rfl rfl
      fun name counters book world hrecords _ => ?_⟩
    subst hrecords
    rfl
  | enterBatch | leaveBatch | deduplicate => exact hop.elim

end Does

/-- **A change that is planned is taken over.** -/
theorem Op.takesOver_of_plan {op : Op} (hop : op.IsSingle) {records : Table Text Record}
    (h : op.plan book.records world.now = some records) :
    Session.TakesOver ⟨⟨name, counters, .file book⟩, world⟩ op.run { book with records } := by
  obtain ⟨r, f, g, hdoes⟩ := exists_does book.records world.now hop
  obtain ⟨a, rfl⟩ := hdoes.sure records h
  refine ⟨_, fun _ => modify (Session.told · f g) >>= fun _ => pure a, .refl _, ?_,
    fun s => ⟨a, s.told f g, rfl, s.sameFile_told f g⟩⟩
  rw [hdoes.run name counters book world rfl rfl, h, commit, Act.run_bind]
  match (persist { book with records }).run ⟨⟨name, counters, .file book⟩, world⟩ with
  | (.ok (), s) => rfl
  | (.error e, s) => rfl

/-- **Where no change is planned nothing happens to store and file.** -/
theorem Op.sameFile_of_plan {op : Op} (hop : op.IsSingle)
    (h : op.plan book.records world.now = none) :
    Session.SameFile ⟨⟨name, counters, .file book⟩, world⟩
      (op.run.run ⟨⟨name, counters, .file book⟩, world⟩).2 := by
  obtain ⟨r, f, g, hdoes⟩ := exists_does book.records world.now hop
  rw [hdoes.run name counters book world rfl rfl, h]
  exact Session.sameFile_told _ f g

end Single

/-! ### Inner steps -/

/-- Did inner steps lead from one book to the other? -/
structure FileBook.Within (book book' : FileBook) : Prop where
  path : book'.path = book.path
  depth : book'.depth = book.depth
  pending : book'.pending = false → book' = book
  records : ∀ e' ∈ book'.records.entries, ∃ e ∈ book.records.entries, e'.2 = e.2

namespace FileBook

/-- The book when one more block is open. -/
def deeper (book : FileBook) : FileBook := { book with depth := book.depth + 1 }

theorem Within.refl (book : FileBook) : book.Within book :=
  ⟨rfl, rfl, fun _ => rfl, fun e he => ⟨e, he, rfl⟩⟩

theorem Within.trans {book book' book'' : FileBook} (h : book.Within book')
    (h' : book'.Within book'') : book.Within book'' where
  path := h'.path.trans h.path
  depth := h'.depth.trans h.depth
  pending hpending := by
    obtain rfl := h'.pending hpending
    exact h.pending hpending
  records e'' he'' := by
    obtain ⟨e', he', heq'⟩ := h'.records e'' he''
    obtain ⟨e, he, heq⟩ := h.records e' he'
    exact ⟨e, he, heq'.trans heq⟩

end FileBook

/-- Is the action an inner one? Inside a block it leaves the disk alone, copies what is there, fails
only over a key, and goes the same way inside one more block. -/
def Action.Inner {α : Type} (x : Action α) : Prop :=
  ∀ name counters (book : FileBook) world, 0 < book.depth → ∃ r counters' book' journal,
    book.Within book' ∧ (∀ e, r = .error e → e = .refused .integerUnwritable) ∧
      x.run ⟨⟨name, counters, .file book⟩, world⟩ =
        (r, ⟨⟨name, counters', .file book'⟩, { world with journal }⟩) ∧
      x.run ⟨⟨name, counters, .file book.deeper⟩, world⟩ =
        (r, ⟨⟨name, counters', .file book'.deeper⟩, { world with journal }⟩)

namespace Action.Inner

variable {α β : Type}

theorem pure (a : α) : Action.Inner (Pure.pure a) := fun _ counters book world _ =>
  ⟨.ok a, counters, book, world.journal, .refl book, nofun, rfl, rfl⟩

theorem bind {x : Action α} {f : α → Action β} (hx : x.Inner) (hf : ∀ a, (f a).Inner) :
    Action.Inner (x >>= f) := by
  intro name counters book world hdepth
  obtain ⟨r, counters₁, book₁, journal₁, hwithin₁, hfault, hrun, hdeeper⟩ :=
    hx name counters book world hdepth
  cases r with
  | error e =>
    exact ⟨.error e, counters₁, book₁, journal₁, hwithin₁,
      fun e' he' => hfault e' (by rw [Except.error.inj he']), Act.run_bind_error hrun,
      Act.run_bind_error hdeeper⟩
  | ok a =>
    obtain ⟨r, counters₂, book₂, journal₂, hwithin₂, hfault₂, hrun₂, hdeeper₂⟩ :=
      hf a name counters₁ book₁ { world with journal := journal₁ } (hwithin₁.depth ▸ hdepth)
    exact ⟨r, counters₂, book₂, journal₂, hwithin₁.trans hwithin₂, hfault₂,
      (Act.run_bind_ok hrun).trans hrun₂, (Act.run_bind_ok hdeeper).trans hdeeper₂⟩

theorem note (level : Level) (message : Text) (context : List (String × Json)) :
    Action.Inner (Store.note level message context) := fun _ counters book world _ =>
  ⟨.ok (), counters, book, (world.note level message context).journal, .refl book, nofun, rfl, rfl⟩

theorem write (key : IssueKey) : Action.Inner (Act.lift key.write) := by
  intro name counters book world _
  by_cases hkey : key.Printable
  · rw [IssueKey.write_of_printable hkey]
    exact ⟨.ok key.render, counters, book, world.journal, .refl book, nofun, rfl, rfl⟩
  · rw [IssueKey.write_of_not_printable hkey]
    exact ⟨.error (.refused .integerUnwritable), counters, book, world.journal, .refl book,
      fun e he => (Except.error.inj he).symm, rfl, rfl⟩

theorem isDismissed (key : IssueKey) (severity : Int) :
    Action.Inner (Store.isDismissed key severity) := by
  intro name counters book world _
  obtain ⟨r, hfault, hrun⟩ := run_isDismissed_file book.records key severity
  exact ⟨r, _, book, world.journal, .refl book, hfault, hrun name counters book world rfl,
    hrun name counters book.deeper world rfl⟩

theorem copy (source target : IssueKey) : Action.Inner (Store.copy source target) := by
  intro name counters book world hdepth
  by_cases hkeys : source.Printable ∧ target.Printable
  · cases hr : book.records.get? (Text.ofString source.render) with
    | none =>
      exact ⟨.ok (), counters, book, _, .refl book, nofun,
        run_copy_of_none hkeys.1 hkeys.2 hr,
        run_copy_of_none hkeys.1 hkeys.2 hr⟩
    | some r =>
      -- The copy is put off, here as inside one more block.
      have hcopy (book' : FileBook) (hdepth' : 0 < book'.depth)
          (hr' : book'.records.get? (Text.ofString source.render) = some r) :
          (Store.copy source target).run ⟨⟨name, counters, .file book'⟩, world⟩ =
            (.ok (), ⟨⟨name, { counters with copies := counters.copies + 1 },
              .file { book' with
                records := book'.records.put (Text.ofString target.render) r
                pending := true }⟩, world⟩) := by
        have hkeep : (Store.keep target r).run ⟨⟨name, counters, .file book'⟩, world⟩ = (.ok (), _) :=
          (run_keep_file hkeys.2 r).trans (run_persist_inside (by exact hdepth') _)
        rw [Store.copy, Act.run_bind_ok (run_find_file hkeys.1), hr']
        exact Act.run_bind_ok hkeep
      refine ⟨.ok (), { counters with copies := counters.copies + 1 },
        { book with
          records := book.records.put (Text.ofString target.render) r
          pending := true },
        world.journal, ⟨rfl, rfl, nofun, fun e he => ?_⟩, nofun, hcopy book hdepth hr,
        hcopy book.deeper (Nat.succ_pos _) hr⟩
      rcases Entries.mem_put he with rfl | he
      · exact ⟨_, Entries.mem_of_get?_eq_some hr, rfl⟩
      · exact ⟨e, he, rfl⟩
  · exact ⟨.error (.refused .integerUnwritable), counters, book, world.journal, .refl book,
      fun e he => (Except.error.inj he).symm, run_copy_of_not hkeys, run_copy_of_not hkeys⟩

/-- **Aligning is made of inner steps.** -/
theorem closed : Action.Closed @Action.Inner := ⟨pure, bind, write, note, isDismissed, copy⟩

end Action.Inner

end IssueDigest
