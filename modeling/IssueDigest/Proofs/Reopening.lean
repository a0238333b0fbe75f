import IssueDigest.Proofs.PageText
/-!
# Opening the dismissal file again

What a file store starts with depends on two things only: the directory of its file is there, and
the file holds what it holds (`startsWith`). A directory that was made once is found again and left
as it is, and a write puts the file where the next look finds it. So a table that was written to the
end is what the next store on the path starts with (`startsWith_of_write`), and whatever a store
starts with can be written again.
-/

namespace IssueDigest

namespace Disk

/-! ### The directory of the file -/

/-- Making a directory leaves those that are there. -/
theorem node?_of_put_directory {d : Disk} {place q : List String}
    (hq : d.node? q = some .directory) : (d.put place .directory).node? q = some .directory := by
  rw [node?_of_put (d := d) rfl]
  split
  · rfl
  · exact hq

theorem locate_of_directories {d d' : Disk}
    (h : ∀ place, d.node? place = some .directory → d'.node? place = some .directory)
    {p : Path} {place : List String} (hp : d.locate p = .ok place) : d'.locate p = .ok place := by
  unfold locate at *
  split at hp
  · cases hp
  · next hlength =>
    rw [if_neg hlength]
    exact descend_of_directories h hp

theorem hasDirectory_iff {d : Disk} {p : Path} :
    d.hasDirectory p = true ↔ ∃ place, d.locate p = .ok place ∧ d.node? place = some .directory := by
  unfold hasDirectory
  split
  · next place hplace => simp [hplace]
  · next hplace => simp [hplace]

theorem hasDirectory_of_directories {d d' : Disk}
    (h : ∀ place, d.node? place = some .directory → d'.node? place = some .directory)
    {p : Path} (hp : d.hasDirectory p = true) : d'.hasDirectory p = true := by
  obtain ⟨place, hlocate, hnode⟩ := hasDirectory_iff.mp hp
  exact hasDirectory_iff.mpr ⟨place, locate_of_directories h hlocate, h place hnode⟩

/-- The directory that was made is there. -/
theorem hasDirectory_of_makeDirectory {d d' : Disk} {p : Path} (h : d.makeDirectory p = .ok d') :
    d'.hasDirectory p = true := by
  unfold makeDirectory at h
  obtain ⟨place, hplace, h⟩ := bind_eq_ok_iff.mp h
  split at h
  · cases h
  · next hnode =>
    obtain rfl := Except.ok.inj h
    refine hasDirectory_iff.mpr
      ⟨place, locate_of_directories (fun _ => node?_of_put_directory) hplace, ?_⟩
    unfold node?
    split
    · rfl
    · rw [put, Table.get?_put, if_pos rfl]

theorem hasDirectory_of_makeDirectories {slashes : Nat} {d d' : Disk} {done rest : List String}
    (h : d.makeDirectories slashes done rest = (d', .ok ())) :
    d'.hasDirectory ⟨slashes, done ++ rest⟩ = true := by
  induction rest generalizing d done with
  | nil =>
    rw [List.append_nil]
    rw [makeDirectories] at h
    split at h
    · next hmade =>
      obtain ⟨rfl, -⟩ := Prod.mk.inj h
      exact hasDirectory_of_makeDirectory hmade
    · obtain ⟨rfl, hthere⟩ := Prod.mk.inj h
      by_contra hnone
      rw [if_neg hnone] at hthere
      cases hthere
  | cons name rest ih =>
    rw [makeDirectories] at h
    rw [List.append_cons]
    split at h
    · exact ih h
    · split at h
      · exact ih h
      · cases (Prod.mk.inj h).2

/-- **What was asked for is there.** -/
theorem hasDirectory_of_ensureDirectory {d d' : Disk} {p : Path}
    (h : d.ensureDirectory p = (d', .ok ())) :
    checkPath p = .ok () ∧ d'.hasDirectory p = true := by
  unfold ensureDirectory at h
  split at h
  · cases (Prod.mk.inj h).2
  · next hcheck =>
    refine ⟨hcheck, ?_⟩
    split at h
    · next hmade =>
      obtain ⟨rfl, -⟩ := Prod.mk.inj h
      exact hasDirectory_of_makeDirectory hmade
    · have hthere := hasDirectory_of_makeDirectories h
      rwa [List.take_append_drop] at hthere
    · obtain ⟨rfl, hthere⟩ := Prod.mk.inj h
      by_contra hnone
      rw [if_neg hnone] at hthere
      cases hthere

/-- A directory that is there is left as it is. -/
theorem ensureDirectory_of_hasDirectory {d : Disk} {p : Path} (hcheck : checkPath p = .ok ())
    (h : d.hasDirectory p = true) : d.ensureDirectory p = (d, .ok ()) := by
  obtain ⟨place, hlocate, hnode⟩ := hasDirectory_iff.mp h
  have hmake : d.makeDirectory p = .error .entryExists := by
    refine bind_eq_error_iff.mpr (.inr ⟨place, hlocate, ?_⟩)
    rw [hnode]
    rfl
  rw [ensureDirectory, hcheck]
  dsimp only
  rw [hmake, h]
  rfl

/-! ### The file -/

/-- What can be read is there. -/
theorem holds_of_read {d : Disk} {p : Path} {bs : List UInt8} (h : d.read p = .ok bs) :
    d.holds p = .ok true := by
  obtain ⟨hcheck, place, hlocate, hnode⟩ := read_eq_ok_iff.mp h
  rw [holds, hcheck]
  dsimp only
  rw [hlocate]
  dsimp only
  rw [hnode]
  rfl

/-- **A file that was put there is found**, and so are the directories that were there before. -/
theorem read_put {d : Disk} {p : Path} {place : List String} (h : d.writable p = .ok place)
    (n : Nat) (content : List UInt8) :
    ({ d with attempts := n }.put place (.file content)).holds p = .ok true ∧
      ({ d with attempts := n }.put place (.file content)).read p = .ok content ∧
      ∀ q, d.node? q = some .directory →
        ({ d with attempts := n }.put place (.file content)).node? q = some .directory := by
  obtain ⟨-, -, hfree⟩ := writable_eq_ok_iff.mp h
  have hagain : ({ d with attempts := n }.put place (.file content)).writable p = .ok place :=
    writable_of_put_file (d := d) rfl h
  obtain ⟨hcheck, hlocate, hnode⟩ := writable_eq_ok_iff.mp hagain
  have hfile : ({ d with attempts := n }.put place (.file content)).node? place =
      some (.file content) := by
    have hstanding : ¬ isStanding place := fun h => hnode (if_pos h)
    rw [node?_of_put (d := d) rfl, if_pos ⟨hstanding, rfl⟩]
  have hread := read_of_locate hcheck hlocate hfile
  exact ⟨holds_of_read hread, hread, fun q => node?_of_put_file rfl hfree⟩

/-- A write that succeeds puts the file there. -/
theorem read_of_write {d d' : Disk} {p : Path} {content : List UInt8}
    (h : d.write p content = (d', .ok ())) :
    d'.holds p = .ok true ∧ d'.read p = .ok content ∧
      ∀ place, d.node? place = some .directory → d'.node? place = some .directory := by
  unfold write at h
  split at h
  · cases (Prod.mk.inj h).2
  next place hwritable =>
  dsimp only at h
  split at h
  · obtain ⟨rfl, -⟩ := Prod.mk.inj h
    exact read_put hwritable _ content
  · cases (Prod.mk.inj h).2
  · cases (Prod.mk.inj h).2

/-- A write that fails leaves the disk alone or cuts the file off. -/
theorem nodes_or_read_of_write_error {d d' : Disk} {p : Path} {content : List UInt8} {e : Fault}
    (h : d.write p content = (d', .error e)) :
    d'.nodes = d.nodes ∨ ∃ n, d'.read p = .ok (content.take n) := by
  unfold write at h
  split at h
  · obtain ⟨rfl, -⟩ := Prod.mk.inj h
    exact .inl rfl
  next place hwritable =>
  dsimp only at h
  split at h
  · cases (Prod.mk.inj h).2
  · obtain ⟨rfl, -⟩ := Prod.mk.inj h
    exact .inl rfl
  · next kept _ =>
    obtain ⟨rfl, -⟩ := Prod.mk.inj h
    exact .inr ⟨kept, (read_put hwritable _ (content.take kept)).2.1⟩

end Disk

namespace Store

/-! ### What a store starts with -/

/-- The records that a store starts with when it is opened on the disk as it is. -/
def startsWith (d : Disk) (p : Path) : Except Fault (Table Text Record) :=
  match d.holds p with
  | .error e => .error e
  | .ok false => .ok .empty
  | .ok true =>
    match readFile d p with
    | .ok records => .ok records
    | .error e => if isForgiven e then .ok .empty else .error e

/-- A file that can be read is what a store starts with. -/
theorem startsWith_of_readFile {d : Disk} {p : Path} {t : Table Text Record}
    (h : readFile d p = .ok t) : startsWith d p = .ok t := by
  obtain ⟨bs, hread, -⟩ := bind_eq_ok_iff.mp h
  simp only [startsWith, Disk.holds_of_read hread, h]

/-- A store starts with nothing where there is no file or a damaged one, else with what is read. -/
theorem startsWith_cases {d : Disk} {p : Path} {records : Table Text Record}
    (h : startsWith d p = .ok records) :
    (d.holds p = .ok false ∧ records = .empty) ∨
      (d.holds p = .ok true ∧ readFile d p = .ok records) ∨
      ∃ e, d.holds p = .ok true ∧ readFile d p = .error e ∧ isForgiven e = true ∧
        records = .empty := by
  unfold startsWith at h
  split at h
  · cases h
  · next hholds => exact .inl ⟨hholds, (Except.ok.inj h).symm⟩
  · next hholds =>
    split at h
    · next hfile => exact .inr (.inl ⟨hholds, hfile.trans h⟩)
    · next e hfile =>
      split at h
      · next hforgiven => exact .inr (.inr ⟨e, hholds, hfile, hforgiven, (Except.ok.inj h).symm⟩)
      · cases h

/-- Over a damaged file a store starts with nothing. -/
theorem startsWith_of_damaged {d : Disk} {p : Path} {bs : List UInt8} {e : Fault}
    (hread : d.read p = .ok bs) (hdocument : readDocument bs = .error e)
    (hforgiven : isForgiven e = true) : startsWith d p = .ok .empty := by
  have hfile : readFile d p = .error e := by
    rw [readFile, hread]
    exact hdocument
  simp only [startsWith, Disk.holds_of_read hread, hfile]
  exact if_pos hforgiven

/-- Can the directory of the file be gone to? -/
structure Housed (d : Disk) (p : Path) : Prop where
  check : Disk.checkPath p.parent = .ok ()
  directory : d.hasDirectory p.parent = true

theorem Housed.of_directories {d d' : Disk} {p : Path} (h : Housed d p)
    (hd : ∀ place, d.node? place = some .directory → d'.node? place = some .directory) :
    Housed d' p :=
  ⟨h.check, Disk.hasDirectory_of_directories hd h.directory⟩

/-- Opening a store makes the directory and starts with what is found then. Of the rest of the world it
changes the journal at most. -/
theorem started_of_openFile {name path : String} {w w' : World} {store : Store}
    (h : (openFile name path).run w = (.ok store, w')) :
    ∃ records errors disk journal, store = onFile name (Path.ofString path) records errors ∧
      w' = { w with disk, journal } ∧
      w.disk.ensureDirectory (Path.ofString path).parent = (disk, .ok ()) ∧
      startsWith disk (Path.ofString path) = .ok records := by
  rw [openFile, Act.run_get_bind] at h
  dsimp only at h
  cases hmade : w.disk.ensureDirectory (Path.ofString path).parent with
  | mk disk made =>
  rw [hmade] at h
  dsimp only at h
  rw [Act.run_set_bind] at h
  cases made with
  | error e => cases (Prod.mk.inj h).1
  | ok =>
  rw [Act.run_bind_ok (Act.run_lift_ok () _)] at h
  cases hholds : disk.holds (Path.ofString path) with
  | error e =>
    rw [hholds] at h
    cases (Prod.mk.inj h).1
  | ok there =>
  rw [hholds, Act.run_bind_ok (Act.run_lift_ok there _)] at h
  cases there with
  | false =>
    obtain ⟨hstore, rfl⟩ := Prod.mk.inj h
    refine ⟨.empty, 0, disk, _, (Except.ok.inj hstore).symm, rfl, rfl, ?_⟩
    simp only [startsWith, hholds]
  | true =>
    rw [if_neg (by simp)] at h
    cases hfile : readFile disk (Path.ofString path) with
    | ok records =>
      rw [hfile] at h
      obtain ⟨hstore, rfl⟩ := Prod.mk.inj h
      refine ⟨records, 0, disk, _, (Except.ok.inj hstore).symm, rfl, rfl, ?_⟩
      simp only [startsWith, hholds, hfile]
    | error e =>
      rw [hfile] at h
      dsimp only at h
      split at h
      · next hforgiven =>
        -- The fault is counted and goes to the journal, and the damaged file stays.
        obtain ⟨hstore, rfl⟩ := Prod.mk.inj h
        refine ⟨.empty, 1, disk, _, (Except.ok.inj hstore).symm, rfl, rfl, ?_⟩
        simp only [startsWith, hholds, hfile]
        exact if_pos hforgiven
      · cases (Prod.mk.inj h).1

/-- A store that is opened sees to its directory and starts with what it finds. -/
theorem start_of_openFile {name path : String} {w w' : World} {store : Store}
    (h : (openFile name path).run w = (.ok store, w')) :
    ∃ records errors, store = onFile name (Path.ofString path) records errors ∧
      Housed w'.disk (Path.ofString path) ∧
      startsWith w'.disk (Path.ofString path) = .ok records := by
  obtain ⟨records, errors, disk, journal, hstore, rfl, hmade, hstart⟩ := started_of_openFile h
  obtain ⟨hcheck, hdirectory⟩ := Disk.hasDirectory_of_ensureDirectory hmade
  exact ⟨records, errors, hstore, ⟨hcheck, hdirectory⟩, hstart⟩

/-- A store can be opened where the directory can be made and there is something to start with. -/
theorem run_openFile_of_made (name : String) {path : String} {w : World} {disk : Disk}
    {records : Table Text Record}
    (hmade : w.disk.ensureDirectory (Path.ofString path).parent = (disk, .ok ()))
    (h : startsWith disk (Path.ofString path) = .ok records) :
    ∃ errors journal, (openFile name path).run w =
      (.ok (onFile name (Path.ofString path) records errors), { w with disk, journal }) := by
  rw [openFile, Act.run_get_bind, hmade]
  dsimp only
  rw [Act.run_set_bind, Act.run_bind_ok (Act.run_lift_ok () _)]
  obtain ⟨hholds, rfl⟩ | ⟨hholds, hfile⟩ | ⟨e, hholds, hfile, hforgiven, rfl⟩ := startsWith_cases h
  · rw [hholds]
    exact ⟨0, _, rfl⟩
  · rw [hholds, Act.run_bind_ok (Act.run_lift_ok true _), if_neg (by simp), hfile]
    exact ⟨0, _, rfl⟩
  · rw [hholds, Act.run_bind_ok (Act.run_lift_ok true _), if_neg (by simp), hfile]
    dsimp only
    rw [if_pos hforgiven]
    exact ⟨1, _, rfl⟩

/-- A store can be opened wherever there is something to start with, and leaves the disk alone. -/
theorem run_openFile_of_startsWith (name : String) {path : String} {w : World}
    {records : Table Text Record} (hhoused : Housed w.disk (Path.ofString path))
    (h : startsWith w.disk (Path.ofString path) = .ok records) :
    ∃ errors w', (openFile name path).run w =
      (.ok (onFile name (Path.ofString path) records errors), w') ∧ w'.disk = w.disk := by
  have hmade := Disk.ensureDirectory_of_hasDirectory hhoused.check hhoused.directory
  obtain ⟨errors, journal, hrun⟩ := run_openFile_of_made name hmade h
  exact ⟨errors, _, hrun, rfl⟩

section Written

variable {d d' : Disk} {p : Path} {records : Table Text Record}
  (hstored : (octets records).2 = .ok ()) (hwrite : d.write p (octets records).1 = (d', .ok ()))

include hstored hwrite

/-- A table that was written can be read. -/
theorem readFile_of_write_of_valid (hmoments : ∀ e ∈ records.entries, e.2.since.IsValid) :
    ∃ t, readFile d' p = .ok t ∧ ∀ k, t.get? k = (records.get? k).map Record.shown := by
  obtain ⟨-, hread, -⟩ := Disk.read_of_write hwrite
  obtain ⟨t, ht, hget⟩ := readDocument_octets_of_valid hstored hmoments
  refine ⟨t, ?_, hget⟩
  rw [readFile, hread]
  exact ht

theorem readFile_of_write (hmoments : ∀ e ∈ records.entries, e.2.since.Storable) :
    ∃ t, readFile d' p = .ok t ∧ ∀ k, t.get? k = records.get? k := by
  obtain ⟨t, ht, hget⟩ := readFile_of_write_of_valid hstored hwrite fun e he => (hmoments e he).valid
  exact ⟨t, ht, fun k => (hget k).trans (map_shown_get? hmoments k)⟩

/-- **What was written is what the next store starts with**, offsets below a second left out. -/
theorem startsWith_of_write_of_valid (hmoments : ∀ e ∈ records.entries, e.2.since.IsValid) :
    ∃ t, startsWith d' p = .ok t ∧ ∀ k, t.get? k = (records.get? k).map Record.shown := by
  obtain ⟨t, ht, hget⟩ := readFile_of_write_of_valid hstored hwrite hmoments
  exact ⟨t, startsWith_of_readFile ht, hget⟩

theorem startsWith_of_write (hmoments : ∀ e ∈ records.entries, e.2.since.Storable) :
    ∃ t, startsWith d' p = .ok t ∧ ∀ k, t.get? k = records.get? k := by
  obtain ⟨t, ht, hget⟩ := readFile_of_write hstored hwrite hmoments
  exact ⟨t, startsWith_of_readFile ht, hget⟩

end Written

/-- **Whatever a store starts with can be written and read back.** -/
theorem storable_of_startsWith {d : Disk} {p : Path} {records : Table Text Record}
    (h : startsWith d p = .ok records) : ∀ e ∈ records.entries, e.2.Storable := by
  obtain ⟨-, rfl⟩ | ⟨-, hfile⟩ | ⟨e, -, -, -, rfl⟩ := startsWith_cases h
  · exact nofun
  · obtain ⟨bs, -, hdocument⟩ := bind_eq_ok_iff.mp hfile
    exact storable_of_readDocument hdocument
  · exact nofun

end Store

end IssueDigest
