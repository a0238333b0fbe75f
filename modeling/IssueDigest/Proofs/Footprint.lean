import IssueDigest.Proofs.Blocks
import IssueDigest.Proofs.Silence
/-!
# What a file store leaves alone

A file store writes to one file. This module says what stays as it was around it, whatever is done with
the store and whatever fails.

* A disk **spares** what is not at a path if every other file is what it was and no directory has gone
  (`Disk.Spares`). Then whatever could be read elsewhere can be read as before, for the way there leads
  through directories alone.
* An action is **confined** if it leaves a store on the same file, spares the rest of the disk, prints
  nothing and leaves the clock alone (`Action.Confined`). Reading, copying and dismissing are confined,
  and so is a whole run of the deduplicator.

A property that all records have is carried along. A copy has it because its source has it; only a
dismissal makes a record of its own, so the property is asked of that one as well.
-/

namespace IssueDigest

open Store

namespace Disk

/-! ### The other files -/

theorem eq_walk_of_descend {d : Disk} {place target : List String} {names : List String}
    (h : d.descend place names = .ok target) : target = names.foldl Path.walk place := by
  induction names generalizing place with
  | nil => exact (Except.ok.inj h).symm
  | cons name rest ih =>
    cases rest with
    | nil =>
      rw [descend] at h
      split at h
      · cases h
      · exact (Except.ok.inj h).symm
    | cons next rest =>
      rw [descend] at h
      · split at h
        · cases h
        · split at h
          · cases h
          · cases h
          · exact ih h
      · simp

/-- A path is looked up at the place that it leads to. -/
theorem eq_place_of_locate {d : Disk} {p : Path} {place : List String} (h : d.locate p = .ok place) :
    place = p.place := by
  unfold locate at h
  split at h
  · cases h
  · exact eq_walk_of_descend h

/-- Is every file but the one at the path what it was, and is no directory gone? -/
structure Spares (d d' : Disk) (p : Path) : Prop where
  directories : ∀ place, d.node? place = some .directory → d'.node? place = some .directory
  files : ∀ place, place ≠ p.place → ∀ content,
    d'.node? place = some (.file content) ↔ d.node? place = some (.file content)

namespace Spares

variable {d d' d'' : Disk} {p q : Path}

theorem refl (d : Disk) (p : Path) : d.Spares d p := ⟨fun _ => id, fun _ _ _ => .rfl⟩

theorem trans (h : d.Spares d' p) (h' : d'.Spares d'' p) : d.Spares d'' p where
  directories place hplace := h'.directories place (h.directories place hplace)
  files place hne content := (h'.files place hne content).trans (h.files place hne content)

theorem of_nodes (p : Path) (h : d'.nodes = d.nodes) : d.Spares d' p := by
  have hnode (place : List String) : d'.node? place = d.node? place := by rw [node?, h, node?]
  exact ⟨fun place hplace => (hnode place).trans hplace, fun place _ content => by rw [hnode]⟩

/-- A directory that is put where nothing was is no file. -/
theorem put_directory {place : List String} (h : d.node? place = none) (p : Path) :
    d.Spares (d.put place .directory) p := by
  refine ⟨fun _ => node?_of_put_directory, fun q _ content => ?_⟩
  rw [node?_of_put (d := d) rfl]
  split
  · next hq =>
    rw [hq.2, h]
    simp
  · rfl

/-- A file that is put at the place of the path is no other file. -/
theorem put_file {place : List String} {content : List UInt8} (h : d.writable p = .ok place)
    (hnodes : d'.nodes = d.nodes.put place (.file content)) : d.Spares d' p := by
  obtain ⟨-, hlocate, hnode⟩ := writable_eq_ok_iff.mp h
  refine ⟨fun q => node?_of_put_file hnodes hnode, fun q hq content' => ?_⟩
  rw [← eq_place_of_locate hlocate] at hq
  rw [node?_of_put hnodes, if_neg fun hput => hq hput.2]

theorem makeDirectory (h : d.makeDirectory q = .ok d') (p : Path) : d.Spares d' p := by
  unfold Disk.makeDirectory at h
  obtain ⟨place, -, h⟩ := bind_eq_ok_iff.mp h
  split at h
  · cases h
  · next hnode =>
    obtain rfl := Except.ok.inj h
    exact put_directory hnode p

theorem makeDirectories (slashes : Nat) (done rest : List String) (d : Disk) (p : Path) :
    d.Spares (d.makeDirectories slashes done rest).1 p := by
  induction rest generalizing d done with
  | nil =>
    rw [Disk.makeDirectories]
    split
    · next hmade => exact makeDirectory hmade p
    · exact .refl d p
  | cons name rest ih =>
    rw [Disk.makeDirectories]
    split
    · next hmade => exact (makeDirectory hmade p).trans (ih _ _)
    · split
      · exact ih _ _
      · exact .refl d p

/-- **Making directories** touches no file. -/
theorem ensureDirectory (d : Disk) (q p : Path) : d.Spares (d.ensureDirectory q).1 p := by
  unfold Disk.ensureDirectory
  split
  · exact .refl d p
  · split
    · next hmade => exact makeDirectory hmade p
    · exact makeDirectories _ _ _ d p
    · exact .refl d p

/-- **Writing a file**, whether it succeeds or not, touches no other. -/
theorem write (d : Disk) (p : Path) (content : List UInt8) : d.Spares (d.write p content).1 p := by
  unfold Disk.write
  split
  · exact .refl d p
  next place hwritable =>
  have hattempt : d.Spares { d with attempts := d.attempts + 1 } p := .of_nodes p (by rfl)
  dsimp only
  split
  · exact put_file hwritable rfl
  · exact hattempt
  · exact put_file hwritable rfl

/-- **What could be read elsewhere** can be read as before. -/
theorem read (h : d.Spares d' p) (hq : q.place ≠ p.place) {bs : List UInt8}
    (hread : d.read q = .ok bs) : d'.read q = .ok bs := by
  obtain ⟨hcheck, place, hlocate, hnode⟩ := read_eq_ok_iff.mp hread
  rw [← eq_place_of_locate hlocate] at hq
  exact read_of_locate hcheck (locate_of_directories h.directories hlocate)
    ((h.files place hq bs).mpr hnode)

/-- And where the way there is the same, nothing else can. -/
theorem read_iff (h : d.Spares d' p) (hq : q.place ≠ p.place) (hlocate : d'.locate q = d.locate q)
    {bs : List UInt8} : d'.read q = .ok bs ↔ d.read q = .ok bs := by
  refine ⟨fun hread => ?_, h.read hq⟩
  obtain ⟨hcheck, place, hplace, hnode⟩ := read_eq_ok_iff.mp hread
  rw [← eq_place_of_locate hplace] at hq
  exact read_of_locate hcheck (hlocate ▸ hplace) ((h.files place hq bs).mp hnode)

end Spares

end Disk

/-! ### Confined actions -/

/-- Is the store one on the file at the path, with records that all have the property, and is the rest
of the world what it was: the other files of the disk, the clock, what was printed and how? -/
structure Session.Confined (P : Record → Prop) (p : Path) (d : Disk) (now : Moment) (t : Text)
    (encodes : Bool) (s : Session) : Prop where
  book : ∃ book, s.store.backing = .file book ∧ book.path = p ∧ ∀ e ∈ book.records.entries, P e.2
  disk : d.Spares s.world.disk p
  now : s.world.now = now
  printed : s.world.printed = t
  encodes : s.world.encodes = encodes

/-- Does the action leave such a store behind, whatever fails? -/
def Action.Confined (P : Record → Prop) (p : Path) (now : Moment) {α : Type} (x : Action α) : Prop :=
  ∀ d t encodes s, Session.Confined P p d now t encodes s →
    Session.Confined P p d now t encodes (x.run s).2

section Confined

variable {P : Record → Prop} {p : Path} {d : Disk} {now : Moment} {t : Text}
  {encodes : Bool} {s s' : Session}

theorem Session.Confined.kind (h : s.Confined P p d now t encodes) : s.kind = .file := by
  obtain ⟨book, hbook, -, -⟩ := h.book
  rw [Session.kind, hbook]

theorem Session.exists_of_file (h : s.kind = .file) :
    ∃ name counters book world, s = ⟨⟨name, counters, .file book⟩, world⟩ := by
  obtain ⟨⟨name, counters, backing⟩, world⟩ := s
  cases backing with
  | memory records => cases h
  | file book => exact ⟨name, counters, book, world, rfl⟩
  | server front => cases h

/-- A store that works goes on doing so while its table and the disk are left alone. -/
theorem Session.SameFile.works (h : s.SameFile s') (hkind : s.kind = .file) (hs : s.Works) :
    s'.Works := by
  obtain ⟨name, counters, book, world, rfl⟩ := exists_of_file hkind
  obtain ⟨⟨name', counters', backing'⟩, world'⟩ := s'
  obtain ⟨rfl, hdisk⟩ : backing' = .file book ∧ world'.disk = world.disk := ⟨h.backing, h.disk⟩
  obtain ⟨haccepts, hplain⟩ := hs
  exact ⟨hdisk ▸ haccepts, hplain⟩

namespace Store

/-- Whatever becomes of a write, it has been to the file of the store. -/
theorem confined_of_saveFile {book : FileBook} {r : Except Fault Unit}
    (hs : s.Confined P p d now t encodes) (hpath : book.path = p)
    (hbook : ∀ e ∈ book.records.entries, P e.2)
    (hrun : (saveFile book).run s = (r, s')) : s'.Confined P p d now t encodes := by
  obtain ⟨written, hwrite, -, -⟩ := saveFile_run hrun
  have hdisk : s.world.disk.Spares s'.world.disk p := by
    have hspares := Disk.Spares.write s.world.disk book.path (octets book.records).1
    rwa [hwrite, hpath] at hspares
  obtain ⟨disk, hsave⟩ | ⟨e, disk, counters, journal, -, hsave⟩ := run_saveFile_cases book s
  · obtain ⟨-, rfl⟩ := Prod.mk.inj (hsave.symm.trans hrun)
    exact ⟨⟨_, rfl, hpath, hbook⟩, hs.disk.trans hdisk, hs.now, hs.printed, hs.encodes⟩
  · obtain ⟨-, rfl⟩ := Prod.mk.inj (hsave.symm.trans hrun)
    exact ⟨hs.book, hs.disk.trans hdisk, hs.now, hs.printed, hs.encodes⟩

theorem confined_of_persist {book : FileBook} {r : Except Fault Unit}
    (hs : s.Confined P p d now t encodes) (hpath : book.path = p)
    (hbook : ∀ e ∈ book.records.entries, P e.2)
    (hrun : (persist book).run s = (r, s')) : s'.Confined P p d now t encodes := by
  have htaken {book' : FileBook} (hpath' : book'.path = p)
      (hbook' : ∀ e ∈ book'.records.entries, P e.2) :
      (s.setBacking (.file book')).Confined P p d now t encodes :=
    ⟨⟨book', rfl, hpath', hbook'⟩, hs.disk, hs.now, hs.printed, hs.encodes⟩
  rcases Nat.eq_zero_or_pos book.depth with hdepth | hdepth
  · rw [run_persist_outside hdepth] at hrun
    exact confined_of_saveFile (htaken hpath hbook) hpath hbook hrun
  · rw [run_persist_inside hdepth] at hrun
    obtain ⟨-, rfl⟩ := Prod.mk.inj hrun
    exact htaken hpath hbook

end Store

/-- **A single operation** is confined, if the record has the property that it may make. -/
theorem Op.confined {op : Op} (hop : op.IsSingle)
    (hnew : ∀ key severity moment, op = .dismiss key severity moment →
      ∀ count, P ⟨moment.getD now, severity, count⟩) :
    Action.Confined P p now op.run := by
  intro d t encodes s hs
  obtain ⟨⟨name, counters, backing⟩, world⟩ := s
  obtain ⟨book, rfl, hpath, hbook⟩ := hs.book
  obtain rfl := hs.now
  obtain ⟨r, f, g, hdoes⟩ := exists_does book.records world.now hop
  rw [hdoes.run name counters book world rfl rfl]
  have htold {s' : Session} (hs' : s'.Confined P p d world.now t encodes) :
      (s'.told f g).Confined P p d world.now t encodes :=
    ⟨hs'.book, hs'.disk, hs'.now, hs'.printed, hs'.encodes⟩
  cases hplan : op.plan book.records world.now with
  | none => exact htold hs
  | some changed =>
    rw [commit]
    have hchanged := forall_of_plan hplan hnew hbook
    cases hpersist : (persist { book with records := changed }).run
        ⟨⟨name, counters, .file book⟩, world⟩ with
    | mk result s' =>
      have hs' : s'.Confined P p d world.now t encodes :=
        confined_of_persist hs (by exact hpath) hchanged hpersist
      cases result with
      | ok => exact htold hs'
      | error e => exact hs'

namespace Action.Confined

variable {α β : Type}

theorem pure (a : α) : Action.Confined P p now (Pure.pure a) := fun _ _ _ _ hs => hs

theorem lift (x : Except Fault α) : Action.Confined P p now (Act.lift x) := by
  intro d t encodes s hs
  cases x with
  | ok a => exact hs
  | error e => exact hs

theorem bind {x : Action α} {f : α → Action β} (hx : Action.Confined P p now x)
    (hf : ∀ a, Action.Confined P p now (f a)) : Action.Confined P p now (x >>= f) := by
  intro d t encodes s hs
  have hs₁ := hx d t encodes s hs
  rw [Act.run_bind]
  split
  · next a s₁ hrun =>
    rw [hrun] at hs₁
    exact hf a d t encodes s₁ hs₁
  · next e s₁ hrun =>
    rw [hrun] at hs₁
    exact hs₁

/-- What an action keeps to does not depend on what is made of its result. -/
theorem of_map {x : Action α} {f : α → β} (h : Action.Confined P p now (f <$> x)) :
    Action.Confined P p now x := fun d t encodes s hs => by
  have hs' := h d t encodes s hs
  rwa [Act.run_map_snd] at hs'

theorem andFinally {body : Action α} {last : Action Unit} (hbody : Action.Confined P p now body)
    (hlast : Action.Confined P p now last) : Action.Confined P p now (Act.andFinally body last) :=
  fun d t encodes s hs => by
    rw [Act.run_andFinally_snd]
    exact hlast d t encodes _ (hbody d t encodes s hs)

theorem note (level : Level) (message : Text) (context : List (String × Json)) :
    Action.Confined P p now (Store.note level message context) :=
  fun _ _ _ _ hs => ⟨hs.book, hs.disk, hs.now, hs.printed, hs.encodes⟩

theorem isDismissed (key : IssueKey) (severity : Int) :
    Action.Confined P p now (Store.isDismissed key severity) :=
  of_map (@Op.confined P p now (.check key severity) trivial nofun)

theorem copy (source target : IssueKey) : Action.Confined P p now (Store.copy source target) :=
  of_map (@Op.confined P p now (.copy source target) trivial nofun)

/-- A dismissal makes a record of the moment. -/
theorem dismiss (key : IssueKey) (severity : Int) (hnew : ∀ count, P ⟨now, severity, count⟩) :
    Action.Confined P p now (Store.dismiss key severity none) := by
  refine of_map (@Op.confined P p now (.dismiss key severity none) trivial ?_)
  intro key' severity' moment heq
  obtain ⟨-, rfl, rfl⟩ := Op.dismiss.inj heq
  exact hnew

theorem closed : Action.Closed (@Action.Confined P p now) :=
  ⟨pure, bind, fun key => lift key.write, note, isDismissed, copy⟩

theorem enterBatch : Action.Confined P p now Store.enterBatch := by
  intro d t encodes s hs
  obtain ⟨⟨name, counters, backing⟩, world⟩ := s
  obtain ⟨book, rfl, hpath, hbook⟩ := hs.book
  exact ⟨⟨_, rfl, hpath, hbook⟩, hs.disk, hs.now, hs.printed, hs.encodes⟩

theorem leaveBatch : Action.Confined P p now Store.leaveBatch := by
  intro d t encodes s hs
  obtain ⟨⟨name, counters, backing⟩, world⟩ := s
  obtain ⟨book, rfl, hpath, hbook⟩ := hs.book
  have hleft : Session.Confined P p d now t encodes
      ⟨⟨name, counters, .file { book with depth := book.depth - 1 }⟩, world⟩ :=
    ⟨⟨_, rfl, hpath, hbook⟩, hs.disk, hs.now, hs.printed, hs.encodes⟩
  rw [run_leaveBatch_file]
  split
  · exact @confined_of_saveFile _ _ _ _ _ _ _ _ { book with depth := book.depth - 1 } _ hleft hpath
      hbook (Act.run_eq_of_fst rfl)
  · exact hleft

theorem batch {body : Action α} (h : Action.Confined P p now body) :
    Action.Confined P p now (Store.batch body) :=
  enterBatch.bind fun _ => h.andFinally leaveBatch

theorem close : Action.Confined P p now Store.close := by
  intro d t encodes s hs
  obtain ⟨book, hbacking, hpath, hbook⟩ := hs.book
  have hclose : Store.close.run s = (saveFile book).run s := by
    rw [Store.close, Act.run_get_bind, hbacking]
  rw [hclose]
  exact confined_of_saveFile hs hpath hbook rfl

/-- **A run of the deduplicator** is confined. -/
theorem dedup (issues : List Issue) : Action.Confined P p now (Dedup.run issues) := by
  refine (note _ _ _).bind fun _ => (batch (closed.align _)).bind fun _ => ?_
  split
  · exact pure issues
  · exact (note _ _ _).bind fun _ => pure _

/-- **Dismissing what is named** is confined. -/
theorem applyDismissals (issues : List Issue) (names : List String)
    (hnew : ∀ severity count, P ⟨now, severity, count⟩) :
    Action.Confined P p now (IssueDigest.applyDismissals issues names) := by
  induction names with
  | nil => exact pure ()
  | cons name names ih =>
    refine (lift _).bind fun key => ?_
    cases issueWithKey? issues key with
    | none => exact (note _ _ _).bind fun _ => ih
    | some i => exact (dismiss key i.severity (hnew i.severity)).bind fun _ => ih

end Action.Confined

end Confined

end IssueDigest
