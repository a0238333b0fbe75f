import IssueDigest.Proofs.Requests
import IssueDigest.Proofs.SamePicture
/-!
# What a malformed request leaves

The texts that name issues are read and applied one by one, and each dismissal is kept before the next
text is looked at. So a text that cannot be read comes too late for those in front of it: they have been
carried out, and nothing takes them back (`run_applyDismissals_malformed`). A run of the program reports
the text and ends with status 1, and by closing its store it leaves what was done in the file or on the
server, where the next run finds it.

What is found there is put down as `World.Stores`. On a file it is what a store starts with that is
opened on it, so it can be said of the world in front of a run and of the one behind it alike.
-/

namespace IssueDigest

open Store

/-! ### What is stored -/

/-- Are these the records that a store of the kind finds in the world? On a file they are those that it
starts with, on a server those that the entries can be read as; in memory nothing is to be found. -/
def World.Stores (w : World) (b : Backing) (records : IssueKey → Option Record) : Prop :=
  match b with
  | .memory _ => True
  | .file book => ∃ disk found, w.disk.ensureDirectory book.path.parent = (disk, .ok ()) ∧
      startsWith disk book.path = .ok found ∧
      ∀ key : IssueKey, found.get? (Text.ofString key.render) = records key
  | .server front => ∀ key : IssueKey, ((w.server.entries.get? (front ++ key.render)).bind fun raw =>
      (readHeld raw).toOption) = records key

namespace Store

open Act (Preserves)

/-! ### Opening a store -/

theorem survivesOpening_entries (entries : Table String Held) :
    SurvivesOpening fun w : World => w.server.entries = entries :=
  ⟨fun _ _ hw => hw, fun _ hw => hw, fun _ _ _ _ _ hw => hw⟩

theorem preserves_create (entries : Table String Held) (settings : Settings)
    (request : Option Text) :
    Preserves (fun w : World => w.server.entries = entries) (create settings request) := by
  refine (Preserves.lift _).bind fun wanted => ?_
  generalize wanted :: fallbacks wanted = kinds
  induction kinds with
  | nil => exact .pure _
  | cons kind kinds ih =>
    refine ((survivesOpening_entries entries).tryOpen settings kind).bind fun found => ?_
    cases found with
    | none => exact ih
    | some store =>
      dsimp only
      split
      · exact fun _ hw => hw
      · exact .pure _

variable {settings : Settings} {w w' : World} {store : Store}

/-- **A store that is created** shows what was stored. -/
theorem stores_of_create (h : (create settings none).run w = (.ok store, w')) :
    w.Stores store.backing (Session.record? ⟨store, w'⟩) := by
  obtain ⟨name, counters, backing⟩ := store
  cases backing with
  | memory records => trivial
  | file book =>
    obtain ⟨hpicks, disk, records, hfinds⟩ := finds_of_create h rfl
    obtain ⟨errors, server, journal, hcreate⟩ := run_create_file hpicks hfinds
    obtain ⟨hstore, rfl⟩ := Prod.mk.inj (hcreate.symm.trans h)
    cases hstore
    exact ⟨disk, records, hfinds.made, hfinds.start, fun _ => rfl⟩
  | server front =>
    have hentries : ((create settings none).run w).2.server.entries = w.server.entries :=
      preserves_create _ settings none w rfl
    rw [h] at hentries
    intro key
    rw [← hentries]
    rfl

/-- A file store that is created has the directory of its file, and records that it has read. -/
theorem confined_of_create {book : FileBook} (h : (create settings none).run w = (.ok store, w'))
    (hfile : store.backing = .file book) : Housed w'.disk book.path ∧
      Session.Confined (fun r => r.since.Storable) book.path w'.disk w'.now w'.printed w'.encodes
        ⟨store, w'⟩ := by
  obtain ⟨hpicks, disk, records, hfinds⟩ := finds_of_create h hfile
  obtain ⟨errors, server, journal, hcreate⟩ := run_create_file hpicks hfinds
  obtain ⟨hstore, rfl⟩ := Prod.mk.inj (hcreate.symm.trans h)
  cases hstore
  cases hfile
  obtain ⟨hcheck, hdirectory⟩ := Disk.hasDirectory_of_ensureDirectory hfinds.made
  exact ⟨⟨hcheck, hdirectory⟩, ⟨_, rfl, rfl, fun e he => (storable_of_startsWith hfinds.start e he).since⟩,
    .refl _ _, rfl, rfl, rfl⟩

/-! ### Applying texts to a server store -/

section OnServer

variable {front : String}

/-- A dismissal leaves a server store on its server. -/
theorem preserves_dismiss (key : IssueKey) (severity : Int) (moment : Option Moment) :
    Preserves (fun s : Session => s.store.backing = .server front) (dismiss key severity moment) := by
  have hfind : Preserves (fun s : Session => s.store.backing = .server front) (find key) := by
    intro s hs
    exact (still_of_find (Act.run_eq_of_fst rfl)).backing.trans hs
  have hkeep (r : Record) :
      Preserves (fun s : Session => s.store.backing = .server front) (keep key r) := by
    intro s hs
    obtain ⟨e, s', hrun, hstill⟩ | ⟨-, text, -, hrun⟩ := run_keep_server hs key r
    · rw [hrun]
      exact hstill.backing.trans hs
    · rw [hrun]
      exact hs
  have hget {α : Type} {f : Session → Action α}
      (hf : ∀ s, (f s).Preserves fun s : Session => s.store.backing = .server front) :
      Preserves (fun s : Session => s.store.backing = .server front) (get >>= f) :=
    fun s hs => hf s s hs
  exact hfind.bind fun _ => hget fun _ => (hkeep _).bind fun _ => hget fun _ =>
    (Preserves.lift _).bind fun _ => Preserves.bind (fun _ hs => hs) fun _ => .pure _

theorem preserves_applyDismissals (issues : List Issue) (names : List String) :
    Preserves (fun s : Session => s.store.backing = .server front) (applyDismissals issues names) := by
  induction names with
  | nil => exact .pure ()
  | cons name names ih =>
    refine (Preserves.lift _).bind fun key => ?_
    cases issueWithKey? issues key with
    | none => exact Preserves.bind (fun _ hs => hs) fun _ => ih
    | some i => exact (preserves_dismiss key i.severity none).bind fun _ => ih

theorem preserves_close :
    Preserves (fun s : Session => s.store.backing = .server front) close := by
  intro s hs
  have hclose : close.run s = (call .close).run s := by
    rw [close, Act.run_get_bind, hs]
  obtain hcall | hcall := run_call_cases .close s
  · rw [hclose, hcall]
    exact hs
  · rw [hclose, hcall]
    exact hs

end OnServer

end Store

/-! ### Runs of the program -/

namespace Command

variable {c : Command} {w : World} {issues : List Issue} {s s₁ : Session}

/-- Does a run of the command come to its issues with this session? Then the settings have been read
and announced and nothing is wrong with them, the issue file has been loaded, and a store is created. -/
def Reaches (c : Command) (w : World) (issues : List Issue) (s : Session) : Prop :=
  ∃ settings w₀ w₁ w₂, Settings.found.run w = (.ok settings, w₀) ∧
    (announce (c.adjust settings)).run w₀ = (.ok (), w₁) ∧ (c.adjust settings).problems = [] ∧
    (Listing.load c.file).run w₁ = (.ok issues, w₂) ∧
    (create (c.adjust settings) none).run w₂ = (.ok s.store, s.world)

/-- The session shows what was stored in front of the run. -/
theorem stores_of_reaches (h : c.Reaches w issues s) : w.Stores s.store.backing s.record? := by
  obtain ⟨settings, w₀, w₁, w₂, hsettings, hannounce, -, hload, hcreate⟩ := h
  obtain ⟨environment, rfl⟩ :=
    Settings.exists_of_takeVariables (Settings.run_found_eq_ok_iff.mp hsettings).1
  obtain ⟨journal, rfl⟩ := logs_of_announce hannounce
  obtain ⟨journal', hload'⟩ :=
    Listing.load_reads c.file { w with environment, journal } { w with environment, journal } rfl
  obtain ⟨-, rfl⟩ := Prod.mk.inj (hload'.symm.trans hload)
  -- The run has changed the environment and the journal so far, and nothing is stored there.
  have hstores : World.Stores { w with environment, journal := journal' } s.store.backing s.record? :=
    stores_of_create hcreate
  exact hstores

/-- **A run whose requests are refused** ends with status 1, and what the store held by then is stored. -/
theorem run_of_refusal {e : Fault} (hreaches : c.Reaches w issues s) (hclock : s.world.now.Storable)
    (hrefusal : e.isRefusal = true)
    (happly : (applyDismissals issues c.dismissals).run s = (.error e, s₁)) (hs₁ : s₁.Works) :
    ∃ w', c.run.run w = (.ok 1, w') ∧ w'.Stores s.store.backing s₁.record? := by
  obtain ⟨settings, w₀, w₁, w₂, hsettings, hannounce, hproblems, hload, hcreate⟩ := hreaches
  have hwork : (c.work (c.adjust settings) issues).run s =
      (.ok 1, { s₁ with world := s₁.world.complain (e.message ++ [.char '\n']) }) :=
    run_work_of_refusal hrefusal happly
  have hworks : Session.Works
      { s₁ with world := s₁.world.complain (e.message ++ [.char '\n']) } := hs₁
  obtain ⟨s₂, hclose, -, hledger⟩ := close_yields hworks
  have hrun : c.run.run w = (.ok 1, s₂.world) := by
    rw [run_eq_proceed hsettings hannounce hproblems, run_proceed_of_create hload hcreate, run_runOn,
      Act.run_andFinally hwork, hclose]
  refine ⟨s₂.world, hrun, ?_⟩
  cases hbacking : s.store.backing with
  | memory records => trivial
  | file book =>
    obtain ⟨hhoused, hconfined⟩ := confined_of_create hcreate hbacking
    have hconfined₁ : Session.Confined (fun r => r.since.Storable) book.path s.world.disk s.world.now
        s.world.printed s.world.encodes s₁ := by
      have happlied := Action.Confined.applyDismissals issues c.dismissals (fun _ _ => hclock) _ _ _ _
        hconfined
      rwa [happly] at happlied
    have hconfined₂ : Session.Confined (fun r => r.since.Storable) book.path s.world.disk s.world.now
        s.world.printed s.world.encodes
        { s₁ with world := s₁.world.complain (e.message ++ [.char '\n']) } :=
      ⟨hconfined₁.book, hconfined₁.disk, hconfined₁.now, hconfined₁.printed, hconfined₁.encodes⟩
    obtain ⟨hspares, -, -, records, hstart, -, hrecords⟩ :=
      close_leaves (fun _ => id) hconfined₂ hclose
    obtain ⟨hcheck, hdirectory⟩ := hhoused.of_directories hspares.directories
    exact ⟨_, records, Disk.ensureDirectory_of_hasDirectory hcheck hdirectory, hstart, hrecords⟩
  | server front =>
    have hbacking₁ := preserves_applyDismissals issues c.dismissals s hbacking
    rw [happly] at hbacking₁
    have hbacking₂ := preserves_close
      { s₁ with world := s₁.world.complain (e.message ++ [.char '\n']) } hbacking₁
    rw [hclose] at hbacking₂
    intro key
    have hrecord := congrFun (congrArg Ledger.records hledger) key
    rw [Session.records_ledger, Session.record?, hbacking₂] at hrecord
    exact hrecord

end Command

/-! ### A malformed text among others -/

section Malformed

variable {issues : List Issue} {front : List String} {bad : String} {e : Fault} {s s' : Session}

/-- What stands behind a malformed text is not looked at. -/
theorem run_applyDismissals_malformed (hbad : IssueKey.read bad = .error e) (behind : List String)
    (hfront : (applyDismissals issues front).run s = (.ok (), s')) :
    (applyDismissals issues (front ++ bad :: behind)).run s = (.error e, s') := by
  rw [Request.run_applyDismissals_append _ hfront, applyDismissals, hbad]
  rfl

/-- **Requests change a record** exactly if one of them denotes a listed issue. -/
theorem Request.Leaves.record?_eq_iff {requests : List Request}
    (h : Request.Leaves s issues requests s') : s'.record? = s.record? ↔
      ∀ r ∈ requests, ∀ key, IssueKey.read r.name = .ok key → ∀ i ∈ issues, i.key ≠ key := by
  constructor
  · rintro hsame r hr key hread i hi rfl
    obtain ⟨j, hj⟩ : ∃ j, issueWithKey? issues i.key = some j := by
      cases hfound : issueWithKey? issues i.key with
      | none => exact absurd rfl (issueWithKey?_eq_none hfound i hi)
      | some j => exact ⟨j, rfl⟩
    have hmem : r ∈ denoting requests i.key := List.mem_filter.mpr ⟨hr, decide_eq_true hread⟩
    have htimes := times_of_recordAfter hj (h.record? i.key)
    rw [Session.times, hsame, ← Session.times] at htimes
    have hlength := List.length_pos_of_mem hmem
    omega
  · intro hunknown
    funext key
    rw [h.record?]
    cases hissue : issueWithKey? issues key with
    | none => exact recordAfter_of_unknown hissue
    | some i =>
      obtain ⟨hi, hkey⟩ := issueWithKey?_eq_some hissue
      refine recordAfter_of_nil (List.filter_eq_nil_iff.mpr fun r hr hdenotes => ?_)
      exact hunknown r hr key (of_decide_eq_true hdenotes) i hi hkey

/-- **A malformed text comes too late for those in front of it.** On a store that works they are carried
out, then the text is refused, and those behind it are not looked at. So a record changes exactly if a
text in front denotes a listed issue. A run of the program that comes to such texts ends with status 1,
and stores what they have left. -/
theorem applyDismissals_malformed (hs : s.Works)
    (hfront : ∀ name ∈ front, ∃ key, IssueKey.read name = .ok key)
    (hbad : IssueKey.read bad = .error e) (behind : List String)
    (htakes : Request.TakesAll s issues (front.map (⟨s.world.now, ·⟩))) :
    ∃ s', (applyDismissals issues front).run s = (.ok (), s') ∧
      (applyDismissals issues (front ++ bad :: behind)).run s = (.error e, s') ∧
      (∃ reason, e = .refused reason) ∧
      (s'.record? = s.record? ↔ ∀ name ∈ front, ∀ key, IssueKey.read name = .ok key →
        ∀ i ∈ issues, i.key ≠ key) ∧
      ∀ (c : Command) (w : World), c.Reaches w issues s →
        c.dismissals = front ++ bad :: behind → s.world.now.Storable →
          w.Stores s.store.backing s.record? ∧
            ∃ w', c.run.run w = (.ok 1, w') ∧ w'.Stores s.store.backing s'.record? := by
  obtain ⟨s', happly, hleaves⟩ := Request.applyDismissals_leaves hs hfront htakes
  obtain ⟨reason, rfl⟩ := IssueKey.onlyRefuses_read bad e hbad
  have hmalformed := run_applyDismissals_malformed hbad behind happly
  refine ⟨s', happly, hmalformed, ⟨reason, rfl⟩, ?_, ?_⟩
  · rw [hleaves.record?_eq_iff]
    exact List.forall_mem_map
  · intro c w hreaches hnames hclock
    rw [← hnames] at hmalformed
    exact ⟨Command.stores_of_reaches hreaches,
      Command.run_of_refusal hreaches hclock rfl hmalformed hleaves.works⟩

/-- Dismisses the second of the twins and then mistypes a key, on the file backend. -/
def Command.mistyped : Command := ⟨"d.yaml", some .file, ["s/b", "s"], false, false⟩

/-- In a working directory with nothing but the twins it comes to its issues with a new file store. -/
theorem Command.reaches_mistyped : ∃ s : Session, mistyped.Reaches .twins twins s ∧ s.Works ∧
    s.store.backing = .file ⟨Path.ofString Settings.standard.filePath, .empty, 0, false⟩ ∧
    s.world.now = .newYear 2024 := by
  have hsound : ((announce (mistyped.adjust .standard)).run .twins).1 = .ok () := by decide +kernel
  obtain ⟨journal₁, hannounce⟩ := logs_announce hsound .twins
  obtain ⟨journal₂, hload⟩ := Listing.logs_load journal₁ Listing.load_twins
  obtain ⟨journal₃, hcreate⟩ := Store.create_twins journal₂
  exact ⟨⟨_, _⟩, ⟨_, _, _, _, Settings.run_found_twins, hannounce, by decide +kernel, hload, hcreate⟩,
    ⟨ready_twins.accepts, plain_empty⟩, rfl, rfl⟩

/-- The run ends with status 1, and what is stored is not what was stored before. -/
theorem applyDismissals_malformed_twins : ∃ book before after w',
    Command.mistyped.run.run .twins = (.ok 1, w') ∧ World.twins.Stores (.file book) before ∧
      w'.Stores (.file book) after ∧ after ≠ before := by
  obtain ⟨s, hreaches, hs, hbacking, hnow⟩ := Command.reaches_mistyped
  have hread : IssueKey.read "s/b" = .ok (Dedup.duplicate "b" 0).key := by decide +kernel
  have hfront : ∀ name ∈ ["s/b"], ∃ key, IssueKey.read name = .ok key :=
    List.forall_mem_singleton.mpr ⟨_, hread⟩
  have htimes (key : IssueKey) : s.times key = 0 := by
    rw [Session.times, Session.record?, hbacking]
    rfl
  have htakes : Request.TakesAll s twins (["s/b"].map (⟨s.world.now, ·⟩)) := by
    refine Request.takesAll_singleton fun key i _ hissue => Session.takes_of_storable ?_
    have hseverity : i.severity = 100 :=
      (by decide : ∀ i ∈ twins, i.severity = 100) i (issueWithKey?_eq_some hissue).1
    rw [htimes, hseverity, hnow]
    exact ⟨⟨by decide +kernel, by decide +kernel⟩, given_newYear.storable⟩
  obtain ⟨s', -, -, -, hchanged, hruns⟩ := applyDismissals_malformed hs hfront
    (by decide +kernel : IssueKey.read "s" = .error (.refused (.badKey "s"))) [] htakes
  obtain ⟨hbefore, w', hrun, hafter⟩ := hruns Command.mistyped .twins hreaches rfl
    (hnow ▸ given_newYear.storable)
  rw [hbacking] at hbefore hafter
  refine ⟨_, _, _, w', hrun, hbefore, hafter, fun hsame => ?_⟩
  exact hchanged.mp hsame "s/b" List.mem_cons_self _ hread (Dedup.duplicate "b" 0) (by decide) rfl

end Malformed

/-- On an empty memory store the first text is carried out although the second one is malformed. -/
theorem applyDismissals_partly :
    Session.Works ⟨inMemory "memory", .blank⟩ ∧ ∃ s',
      (applyDismissals [Dedup.duplicate "a" 0] ["s/a", "bad"]).run ⟨inMemory "memory", .blank⟩ =
        (.error (.refused (.badKey "bad")), s') ∧
      Session.record? ⟨inMemory "memory", .blank⟩ (Dedup.duplicate "a" 0).key = none ∧
      s'.record? (Dedup.duplicate "a" 0).key = some ⟨World.blank.now, 100, 1⟩ := by
  have hresult : ((applyDismissals [Dedup.duplicate "a" 0] ["s/a", "bad"]).run
      ⟨inMemory "memory", .blank⟩).1 = .error (.refused (.badKey "bad")) := by decide +kernel
  exact ⟨trivial, _, Act.run_eq_of_fst hresult, by decide +kernel, by decide +kernel⟩

end IssueDigest
