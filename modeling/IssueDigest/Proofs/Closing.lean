import IssueDigest.Proofs.Durability
/-!
# What closing leaves in the file

Closing writes the table of a file store over whatever is in the file by then, even if the store was
never told to change a record. So what is in the file afterwards does not depend on what was in it
before, only on what the store **started with**: an entry survives exactly if the store held it all
the time. That covers every entry of a file that could be read when it was opened and that nobody
else has written since. It does not cover the good entries of a file that was damaged, which a store
opens as if it were empty, nor those that others have put there.

The entries of a file are looked at one by one here (`recordAt?`), for the document of a damaged file as
a whole stands for no table.
-/

namespace IssueDigest

open Store

/-! ### Entries of a document -/

/-- The record under a key text of a document, whatever else there is in the document. -/
def Store.recordAt? (bs : List UInt8) (key : Text) : Option Record :=
  match decodeText bs >>= Json.read with
  | .ok (.object fields) => (Entries.get? key fields).bind fun v => (Record.ofJson v).toOption
  | _ => none

/-- The record under a key text of the dismissal file. -/
def Disk.recordAt? (d : Disk) (p : Path) (key : Text) : Option Record :=
  match d.read p with
  | .ok bs => Store.recordAt? bs key
  | .error _ => none

/-- Is every entry of the file still there? -/
def Disk.Keeps (d d' : Disk) (p : Path) : Prop :=
  ∀ key r, d.recordAt? p key = some r → d'.recordAt? p key = some r

theorem Store.keys_of_readRecords {fields : List (Text × Json)} {entries : List (Text × Record)}
    (h : readRecords fields = .ok entries) : entries.map Prod.fst = fields.map Prod.fst := by
  induction fields generalizing entries with
  | nil =>
    obtain rfl := Except.ok.inj h
    rfl
  | cons f fields ih =>
    obtain ⟨r, -, h⟩ := bind_eq_ok_iff.mp h
    obtain ⟨more, hmore, h⟩ := bind_eq_ok_iff.mp h
    obtain rfl := Except.ok.inj h
    rw [List.map_cons, List.map_cons, ih hmore]

theorem Store.get?_of_readRecords {fields : List (Text × Json)} {entries : List (Text × Record)}
    (h : readRecords fields = .ok entries) (key : Text) :
    Entries.get? key entries =
      (Entries.get? key fields).bind fun v => (Record.ofJson v).toOption := by
  induction fields generalizing entries with
  | nil =>
    obtain rfl := Except.ok.inj h
    rfl
  | cons f fields ih =>
    obtain ⟨name, v⟩ := f
    obtain ⟨r, hr, h⟩ := bind_eq_ok_iff.mp h
    obtain ⟨more, hmore, h⟩ := bind_eq_ok_iff.mp h
    obtain rfl := Except.ok.inj h
    rw [Entries.get?, Entries.get?]
    split
    · rw [Option.bind_some, hr]
      rfl
    · exact ih hmore

/-- **The entries of a document that can be read are those of its table.** -/
theorem Store.recordAt?_of_readDocument {bs : List UInt8} {t : Table Text Record}
    (h : readDocument bs = .ok t) (key : Text) : recordAt? bs key = t.get? key := by
  obtain ⟨v, hv, htable⟩ := bind_eq_ok_iff.mp h
  obtain ⟨cs, -, hread⟩ := bind_eq_ok_iff.mp hv
  rw [recordAt?, hv]
  cases v with
  | object fields =>
    obtain ⟨entries, hentries, rfl⟩ := map_eq_ok_iff.mp htable
    obtain ⟨pairs, rfl, -⟩ := Json.fields_of_read hread
    have hnodup : (entries.map Prod.fst).Nodup := by
      rw [keys_of_readRecords hentries]
      exact Table.nodup_ofPairs pairs
    rw [Table.get?, Table.entries_ofPairs, Entries.ofPairs_of_nodup hnodup,
      get?_of_readRecords hentries]
  | _ => cases htable

theorem Disk.recordAt?_of_read {d : Disk} {p : Path} {bs : List UInt8} (h : d.read p = .ok bs)
    (key : Text) : d.recordAt? p key = Store.recordAt? bs key := by
  rw [recordAt?, h]

/-! ### Stores that are not told to change anything -/

/-- What may happen between opening and closing when the store is not told to change a record:
questions, blocks around them, and whatever others do to the disk. -/
inductive Quiet where
  | check (key : IssueKey) (severity : Int)
  | get (key : IssueKey)
  | size
  | stats
  | enter
  | leave
  /-- The innermost block is left because what stands in it failed. -/
  | abort (e : Fault)
  /-- Others leave the disk like this. -/
  | others (disk : Disk)

/-- The step on a store. -/
def Quiet.run : Quiet → Action Unit
  | check key severity => (fun _ => ()) <$> isDismissed key severity
  | get key => (fun _ => ()) <$> find key
  | size => (fun _ => ()) <$> Store.size
  | stats => (fun _ => ()) <$> Store.stats
  | enter => enterBatch
  | leave => leaveBatch
  | abort e => Act.andFinally (throw e) leaveBatch
  | others disk => modify fun s => { s with world := { s.world with disk } }

/-- The session after such steps. -/
def Session.afterQuiet (s : Session) (steps : List Quiet) : Session :=
  steps.foldl (fun s q => (q.run.run s).2) s

/-- Is the store one on the file, with the records and nothing to be written? -/
def Session.Holds (s : Session) (p : Path) (records : Table Text Record) : Prop :=
  ∃ book, s.store.backing = .file book ∧ book.path = p ∧ book.records = records ∧
    book.pending = false

namespace Session.Holds

variable {s : Session} {p : Path} {records : Table Text Record}

theorem of_openFile {name path : String} {w w' : World} {store : Store}
    (h : (openFile name path).run w = (.ok store, w')) :
    ∃ records, startsWith w'.disk (Path.ofString path) = .ok records ∧
      Session.Holds ⟨store, w'⟩ (Path.ofString path) records := by
  obtain ⟨records, errors, rfl, -, hstart⟩ := start_of_openFile h
  exact ⟨records, hstart, _, rfl, rfl, rfl, rfl⟩

theorem leaveBatch (h : s.Holds p records) : (Store.leaveBatch.run s).2.Holds p records := by
  obtain ⟨⟨name, counters, backing⟩, world⟩ := s
  obtain ⟨book, rfl, hpath, hrecords, hpending⟩ := h
  rw [run_leaveBatch_file, if_neg]
  · exact ⟨_, rfl, hpath, hrecords, hpending⟩
  · rintro ⟨-, hwrites⟩
    rw [hpending] at hwrites
    cases hwrites

/-- **No such step changes a record or writes the file.** -/
theorem step (h : s.Holds p records) (q : Quiet) : (q.run.run s).2.Holds p records := by
  have hs := h
  obtain ⟨⟨name, counters, backing⟩, world⟩ := s
  obtain ⟨book, rfl, hpath, hrecords, hpending⟩ := h
  cases q with
  | check key severity =>
    obtain ⟨r, -, hrun⟩ := run_isDismissed_file book.records key severity
    rw [Quiet.run, Act.run_map_snd, hrun _ _ _ _ rfl]
    exact ⟨book, rfl, hpath, hrecords, hpending⟩
  | get key =>
    rw [Quiet.run, Act.run_map_snd]
    by_cases hkey : key.Printable
    · rw [run_find_file hkey]
      exact hs
    · rw [run_find_file_of_not hkey]
      exact hs
  | size => exact hs
  | stats => exact hs
  | enter => exact ⟨book.deeper, rfl, hpath, hrecords, hpending⟩
  | leave => exact hs.leaveBatch
  | abort e =>
    rw [Quiet.run, Act.run_andFinally_snd, Act.run_throw]
    exact hs.leaveBatch
  | others disk => exact ⟨book, rfl, hpath, hrecords, hpending⟩

theorem afterQuiet (h : s.Holds p records) (steps : List Quiet) :
    (s.afterQuiet steps).Holds p records := by
  induction steps generalizing s with
  | nil => exact h
  | cons q steps ih => exact ih (h.step q)

end Session.Holds

/-! ### Closing -/

/-- A table that could not be written to the end has left the file alone or cut it off. -/
theorem Store.saveFile_error {s s' : Session} {book : FileBook} {e : Fault}
    (h : (saveFile book).run s = (.error e, s')) :
    s'.world.disk.nodes = s.world.disk.nodes ∨
      ∃ n, s'.world.disk.read book.path = .ok ((octets book.records).1.take n) := by
  obtain ⟨written, hwrite, hr, -⟩ := saveFile_run h
  obtain rfl | ⟨⟨⟩, rfl, -⟩ := bind_eq_error_iff.mp hr.symm
  · exact Disk.nodes_or_read_of_write_error hwrite
  · refine .inr ⟨(octets book.records).1.length, ?_⟩
    rw [List.take_length]
    exact (Disk.read_of_write hwrite).2.1

section Close

variable {s s' : Session} {p : Path} {records : Table Text Record}

theorem Session.Holds.run_close (h : s.Holds p records) :
    ∃ book : FileBook, book.path = p ∧ book.records = records ∧
      close.run s = (saveFile book).run s := by
  obtain ⟨book, hbacking, hpath, hrecords, -⟩ := h
  refine ⟨book, hpath, hrecords, ?_⟩
  rw [close, Act.run_get_bind, hbacking]

/-- **The file holds what the store held**, and nothing else. -/
theorem Session.Holds.recordAt?_close (h : s.Holds p records)
    (hmoments : ∀ e ∈ records.entries, e.2.since.Storable) (hclose : close.run s = (.ok (), s'))
    (key : Text) : s'.world.disk.recordAt? p key = records.get? key := by
  obtain ⟨book, rfl, rfl, hrun⟩ := h.run_close
  obtain ⟨hstored, hwrite, -⟩ := saveFile_ok (hrun.symm.trans hclose)
  obtain ⟨t, ht, hget⟩ := readDocument_octets hstored hmoments
  rw [Disk.recordAt?_of_read (Disk.read_of_write hwrite).2.1, recordAt?_of_readDocument ht, hget]

/-- So nothing is lost exactly if the store held every entry of the file. -/
theorem Session.Holds.keeps_close_iff (h : s.Holds p records)
    (hmoments : ∀ e ∈ records.entries, e.2.since.Storable) (hclose : close.run s = (.ok (), s')) :
    s.world.disk.Keeps s'.world.disk p ↔
      ∀ key r, s.world.disk.recordAt? p key = some r → records.get? key = some r := by
  unfold Disk.Keeps
  simp only [h.recordAt?_close hmoments hclose]

end Close

/-- Nothing is lost of a file that could be read when it was opened and that nobody has written since. -/
theorem keeps_close_of_readable {name path : String} {w w' : World} {store : Store}
    (hopen : (openFile name path).run w = (.ok store, w')) {found : Table Text Record}
    (hfound : readFile w'.disk (Path.ofString path) = .ok found) {steps : List Quiet}
    (huntouched : (Session.afterQuiet ⟨store, w'⟩ steps).world.disk.read (Path.ofString path) =
      w'.disk.read (Path.ofString path)) {s' : Session}
    (hclose : close.run (Session.afterQuiet ⟨store, w'⟩ steps) = (.ok (), s')) :
    (Session.afterQuiet ⟨store, w'⟩ steps).world.disk.Keeps s'.world.disk (Path.ofString path) := by
  obtain ⟨records, hstart, hholds⟩ := Session.Holds.of_openFile hopen
  have hmoments : ∀ e ∈ records.entries, e.2.since.Storable := fun e he =>
    (storable_of_startsWith hstart e he).since
  refine ((hholds.afterQuiet steps).keeps_close_iff hmoments hclose).mpr fun key r hr => ?_
  obtain ⟨bs, hread, hdocument⟩ := bind_eq_ok_iff.mp hfound
  obtain rfl := Except.ok.inj ((startsWith_of_readFile hfound).symm.trans hstart)
  rw [Disk.recordAt?_of_read (huntouched.trans hread), recordAt?_of_readDocument hdocument] at hr
  exact hr

/-- **Closing puts the table that the store started with in place of the file**, if it comes to its
end: what was there is kept exactly if the store started with it. If it fails, the file is left alone
or cut off somewhere in the new document. -/
theorem close_afterQuiet {name path : String} {w w' : World} {store : Store}
    (hopen : (openFile name path).run w = (.ok store, w')) (steps : List Quiet) :
    ∃ records, startsWith w'.disk (Path.ofString path) = .ok records ∧
      match close.run (Session.afterQuiet ⟨store, w'⟩ steps) with
      | (.ok (), s') =>
        (∀ key, s'.world.disk.recordAt? (Path.ofString path) key = records.get? key) ∧
          ((Session.afterQuiet ⟨store, w'⟩ steps).world.disk.Keeps s'.world.disk
            (Path.ofString path) ↔
            ∀ key r, (Session.afterQuiet ⟨store, w'⟩ steps).world.disk.recordAt?
              (Path.ofString path) key = some r → records.get? key = some r)
      | (.error _, s') =>
        s'.world.disk.nodes = (Session.afterQuiet ⟨store, w'⟩ steps).world.disk.nodes ∨
          ∃ n, s'.world.disk.read (Path.ofString path) = .ok ((octets records).1.take n) := by
  obtain ⟨records, hstart, hholds⟩ := Session.Holds.of_openFile hopen
  have hmoments : ∀ e ∈ records.entries, e.2.since.Storable := fun e he =>
    (storable_of_startsWith hstart e he).since
  have hafter := hholds.afterQuiet steps
  refine ⟨records, hstart, ?_⟩
  match hclose : close.run (Session.afterQuiet ⟨store, w'⟩ steps) with
  | (.ok (), s') =>
    exact ⟨hafter.recordAt?_close hmoments hclose, hafter.keeps_close_iff hmoments hclose⟩
  | (.error e, s') =>
    obtain ⟨book, hpath, rfl, hrun⟩ := hafter.run_close
    rw [← hpath]
    exact saveFile_error (hrun.symm.trans hclose)

/-- Questions in a block, while somebody else puts a file there. -/
def visited : List Quiet :=
  [.enter, .check (Dedup.duplicate "a" 0).key 100,
    .others (Disk.blank.put ["d.json"] (.file (Utf8.encode "{}".toList))), .leave]

/-- A store that is opened on a missing file, and closed when there is one. -/
theorem close_afterQuiet_visited :
    ∃ store, (openFile "store" "d.json").run .blank = (.ok store, .blank) ∧
      ∃ records, startsWith World.blank.disk (Path.ofString "d.json") = .ok records ∧
        match close.run (Session.afterQuiet ⟨store, .blank⟩ visited) with
        | (.ok (), s') =>
          (∀ key, s'.world.disk.recordAt? (Path.ofString "d.json") key = records.get? key) ∧
            ((Session.afterQuiet ⟨store, .blank⟩ visited).world.disk.Keeps s'.world.disk
              (Path.ofString "d.json") ↔
              ∀ key r, (Session.afterQuiet ⟨store, .blank⟩ visited).world.disk.recordAt?
                (Path.ofString "d.json") key = some r → records.get? key = some r)
        | (.error _, s') =>
          s'.world.disk.nodes = (Session.afterQuiet ⟨store, .blank⟩ visited).world.disk.nodes ∨
            ∃ n, s'.world.disk.read (Path.ofString "d.json") =
              .ok ((octets records).1.take n) := by
  have hopen : (openFile "store" "d.json").run .blank =
      (.ok (onFile "store" (Path.ofString "d.json") .empty 0), .blank) :=
    run_openFile "store" ready_blank
  exact ⟨_, hopen, close_afterQuiet hopen visited⟩

/-! ### A damaged file -/

/-- **Opening a damaged file and closing the store empties it**, whatever good entries it has. -/
theorem close_damaged (name : String) {path : String} {w : World} {bs : List UInt8} {e : Fault}
    (hhoused : Housed w.disk (Path.ofString path))
    (hread : w.disk.read (Path.ofString path) = .ok bs) (hdocument : readDocument bs = .error e)
    (hforgiven : isForgiven e = true) (haccepts : w.disk.Accepts (Path.ofString path)) :
    ∃ store w' s', (openFile name path).run w = (.ok store, w') ∧ w'.disk = w.disk ∧
      close.run ⟨store, w'⟩ = (.ok (), s') ∧
      ∀ key, s'.world.disk.recordAt? (Path.ofString path) key = none := by
  have hstart := startsWith_of_damaged hread hdocument hforgiven
  obtain ⟨errors, w', hopen, hdisk⟩ := run_openFile_of_startsWith name hhoused hstart
  have hholds : Session.Holds ⟨onFile name (Path.ofString path) .empty errors, w'⟩
      (Path.ofString path) .empty := ⟨_, rfl, rfl, rfl, rfl⟩
  have hworks : Session.Works ⟨onFile name (Path.ofString path) .empty errors, w'⟩ :=
    ⟨hdisk ▸ haccepts, plain_empty⟩
  obtain ⟨s', hclose, -⟩ := close_yields hworks
  have hnone : ∀ e ∈ (Table.empty : Table Text Record).entries, e.2.since.Storable :=
    fun e he => (List.not_mem_nil he).elim
  exact ⟨_, w', s', hopen, hdisk, hclose, hholds.recordAt?_close hnone hclose⟩

/-- A document with a good entry and a bad one. -/
def damaged : List UInt8 :=
  Utf8.encode ("\x7b\"a\": \x7b\"dismissed_at\": \"2024-01-01\", " ++
    "\"max_severity_at_dismissal\": 1\x7d, \"b\": \x7b\x7d\x7d").toList

/-- A world in which that is the dismissal file. -/
def World.damaged : World :=
  { World.blank with disk := Disk.blank.put ["d.json"] (.file IssueDigest.damaged) }

theorem readDocument_damaged :
    readDocument damaged = .error (.lacks (Text.ofString "dismissed_at")) := by
  have h : (readDocument damaged).map (fun _ => ()) =
      .error (.lacks (Text.ofString "dismissed_at")) := by decide +kernel
  exact map_eq_error_iff.mp h

/-- Opening and closing is enough to lose the good entry. -/
theorem close_discards :
    ∃ store w' s', (openFile "store" "d.json").run .damaged = (.ok store, w') ∧
      close.run ⟨store, w'⟩ = (.ok (), s') ∧
      w'.disk.recordAt? (Path.ofString "d.json") (Text.ofString "a") = some ⟨.newYear 2024, 1, 1⟩ ∧
      s'.world.disk.recordAt? (Path.ofString "d.json") (Text.ofString "a") = none := by
  have hpath : Path.ofString "d.json" = ⟨0, ["d.json"]⟩ := by simp [Path.ofString, Path.split]
  have hcheck : Disk.checkPath ⟨0, ["d.json"]⟩ = .ok () :=
    Disk.checkPath_of_notMem (by simp [Path.text])
  have hlocate : World.damaged.disk.locate ⟨0, ["d.json"]⟩ = .ok ["d.json"] := rfl
  have hread : World.damaged.disk.read (Path.ofString "d.json") = .ok damaged := by
    rw [hpath]
    exact Disk.read_of_locate hcheck hlocate rfl
  have hhoused : Housed World.damaged.disk (Path.ofString "d.json") := by
    rw [hpath]
    exact ⟨Disk.checkPath_of_notMem (by simp [Path.text, Path.parent]), rfl⟩
  have hnode : World.damaged.disk.node? ["d.json"] ≠ some .directory := by
    intro h
    cases h
  have haccepts : World.damaged.disk.Accepts (Path.ofString "d.json") := by
    rw [hpath]
    exact ⟨⟨_, Disk.writable_eq_ok_iff.mpr ⟨hcheck, hlocate, hnode⟩⟩, fun _ _ => rfl⟩
  obtain ⟨store, w', s', hopen, hdisk, hclose, hnone⟩ :=
    close_damaged "store" hhoused hread readDocument_damaged rfl haccepts
  refine ⟨store, w', s', hopen, hclose, ?_, hnone _⟩
  rw [hdisk, Disk.recordAt?_of_read hread]
  decide +kernel

end IssueDigest
