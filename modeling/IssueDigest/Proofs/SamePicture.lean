import IssueDigest.Proofs.Choosing
import IssueDigest.Proofs.Footprint
import IssueDigest.Proofs.Rerun
/-!
# A repeated run shows the same picture

A run on the file backend that ends well leaves its records in the dismissal file. A second run with the
same arguments but no dismissals starts with these records, and prints what the first one printed.

Three facts carry this. Until its page is due the first run is confined to its file, so the second one
finds the same settings and the same issues. Aligning what was aligned changes nothing, so both runs come
to the page with the same records and the same issues left. And what a page shows is **read** off the
records: neither counters nor the order in which the file holds its entries have a part in it
(`Action.Reads`).
-/

namespace IssueDigest

open Store

/-! ### What is read off the records -/

theorem Session.SameFile.record? {s s' : Session} (h : s.SameFile s') (hkind : s.kind = .file) :
    s'.record? = s.record? := by
  obtain ⟨name, counters, book, world, rfl⟩ := exists_of_file hkind
  obtain ⟨⟨name', counters', backing'⟩, world'⟩ := s'
  obtain rfl : backing' = .file book := h.backing
  rfl

namespace Session.Prints

variable {s s' : Session} {t : Text}

theorem refl (s : Session) : s.Prints s [] := ⟨rfl, (World.print_nil _).symm⟩

theorem sameFile (h : s.Prints s' t) : s.SameFile s' := ⟨h.backing, by rw [h.world]; rfl⟩

theorem encodes (h : s.Prints s' t) : s'.world.encodes = s.world.encodes := by
  rw [h.world]
  rfl

theorem confined {P : Record → Prop} {p : Path} {d : Disk} {now : Moment} {before : Text}
    {encodes : Bool} (h : s.Prints s' t) (hs : s.Confined P p d now before encodes) :
    s'.Confined P p d now (before ++ t) encodes where
  book := h.backing ▸ hs.book
  disk := h.sameFile.disk ▸ hs.disk
  now := by rw [h.world, ← hs.now]; rfl
  printed := by rw [h.world, ← hs.printed]; rfl
  encodes := h.encodes.trans hs.encodes

end Session.Prints

/-- Do the records of a file store and the way lines are printed decide how the action ends and what it
prints, and does it change nothing else? -/
def Action.Reads {α : Type} (x : Action α) : Prop :=
  ∀ (records : IssueKey → Option Record) (encodes : Bool), ∃ r t, ∀ s : Session, s.kind = .file →
    s.record? = records → s.world.encodes = encodes → ∃ s', x.run s = (r, s') ∧ s.Prints s' t

namespace Action.Reads

variable {α β : Type}

theorem pure (a : α) : Action.Reads (Pure.pure a) := fun _ _ =>
  ⟨.ok a, [], fun s _ _ _ => ⟨s, rfl, .refl s⟩⟩

theorem lift (x : Except Fault α) : Action.Reads (Act.lift x) := fun _ _ => by
  refine ⟨x, [], fun s _ _ _ => ⟨s, ?_, .refl s⟩⟩
  cases x <;> rfl

theorem bind {x : Action α} {f : α → Action β} (hx : x.Reads) (hf : ∀ a, (f a).Reads) :
    Action.Reads (x >>= f) := by
  intro records encodes
  obtain ⟨r, t, hx⟩ := hx records encodes
  cases r with
  | error e =>
    refine ⟨.error e, t, fun s hkind hrecords hencodes => ?_⟩
    obtain ⟨s', hrun, hprints⟩ := hx s hkind hrecords hencodes
    exact ⟨s', Act.run_bind_error hrun, hprints⟩
  | ok a =>
    obtain ⟨r', t', hf⟩ := hf a records encodes
    refine ⟨r', t ++ t', fun s hkind hrecords hencodes => ?_⟩
    obtain ⟨s₁, hrun, hprints⟩ := hx s hkind hrecords hencodes
    obtain ⟨s₂, hrun', hprints'⟩ := hf s₁ (hprints.kind.trans hkind)
      ((hprints.sameFile.record? hkind).trans hrecords) (hprints.encodes.trans hencodes)
    exact ⟨s₂, (Act.run_bind_ok hrun).trans hrun', hprints.trans hprints'⟩

/-- Whether a line can be printed depends on how lines are printed. -/
theorem printLine (t : Text) : Action.Reads (Action.ofWorld (Act.printLine t)) := by
  intro _ encodes
  cases encodes with
  | false =>
    refine ⟨.ok (), t ++ [.char '\n'], fun s _ _ hencodes => ?_⟩
    rw [Action.run_ofWorld, Act.run_printLine_kept hencodes]
    exact ⟨_, rfl, rfl, rfl⟩
  | true =>
    cases htext : encodeText t with
    | ok bs =>
      refine ⟨.ok (), t ++ [.char '\n'], fun s _ _ hencodes => ?_⟩
      rw [Action.run_ofWorld, Act.run_printLine_encoded hencodes, htext]
      exact ⟨_, rfl, rfl, rfl⟩
    | error e =>
      refine ⟨.error e, [], fun s _ _ hencodes => ?_⟩
      rw [Action.run_ofWorld, Act.run_printLine_encoded hencodes, htext]
      exact ⟨s, rfl, .refl s⟩

/-- A question is answered from the records. -/
theorem isDismissed (key : IssueKey) (severity : Int) :
    Action.Reads (Store.isDismissed key severity) := by
  intro records _
  refine ⟨if key.Printable then .ok ((records key).any fun r => r.covers severity)
    else .error (.refused .integerUnwritable), [], fun s hkind hrecords _ => ?_⟩
  obtain ⟨name, counters, book, world, rfl⟩ := Session.exists_of_file hkind
  refine ⟨⟨⟨name, { counters with checks := counters.checks + 1 }, .file book⟩, world⟩, ?_,
    rfl, (World.print_nil _).symm⟩
  subst hrecords
  rw [Store.isDismissed, Act.run_modify_bind]
  split
  · next hkey =>
    refine (Act.run_bind_ok (run_find_file hkey)).trans ?_
    show _ = (Except.ok ((book.records.get? (Text.ofString key.render)).any _), _)
    cases book.records.get? (Text.ofString key.render) <;> rfl
  · next hkey => exact Act.run_bind_error (run_find_file_of_not hkey)

theorem forM {x : α → Action Unit} (hx : ∀ a, (x a).Reads) (items : List α) :
    Action.Reads (items.forM x) := by
  induction items with
  | nil => exact pure ()
  | cons a rest ih => exact (hx a).bind fun _ => ih

theorem mapM {x : α → Action β} (hx : ∀ a, (x a).Reads) (items : List α) :
    Action.Reads (items.mapM x) := by
  induction items with
  | nil => exact pure []
  | cons a rest ih =>
    rw [List.mapM_cons]
    exact (hx a).bind fun _ => ih.bind fun _ => pure _

/-- **A page is read off the records**, as lines or as objects. -/
theorem present (c : Command) (issues : List Issue) : Action.Reads (c.present issues) := by
  have hrow (i : Issue) : Action.Reads (Command.row i) :=
    (lift _).bind fun _ => (isDismissed _ _).bind fun _ => pure _
  have hline (i : Issue) : Action.Reads (issueLine i) :=
    (isDismissed _ _).bind fun _ => (lift _).bind fun _ => (lift _).bind fun _ => pure _
  rw [Command.present]
  split
  · exact (mapM hrow issues).bind fun _ => (lift _).bind fun page => printLine page
  · exact forM (fun i => (hline i).bind fun t => printLine t) issues

end Action.Reads

/-! ### The work on a store -/

/-- Nothing has changed yet. -/
theorem Session.confined_self {s : Session} (hkind : s.kind = .file) :
    ∃ p, s.Confined (fun _ => True) p s.world.disk s.world.now s.world.printed s.world.encodes := by
  obtain ⟨name, counters, book, world, rfl⟩ := Session.exists_of_file hkind
  exact ⟨book.path, ⟨book, rfl, rfl, fun _ _ => trivial⟩, .refl _ _, rfl, rfl, rfl⟩

namespace Command

variable {c : Command} {settings : Settings} {issues : List Issue} {P : Record → Prop} {p : Path}
  {d : Disk} {now : Moment} {t : Text} {encodes : Bool} {s s' u : Session}

theorem confined_select (c : Command) (settings : Settings) (issues : List Issue) :
    Action.Confined P p now (c.select settings issues) := by
  rw [select]
  split
  · exact .dedup issues
  · exact (Action.Confined.note _ _ _).bind fun _ => .pure issues

/-- **What was selected is selected again** where the records are those that selecting has left. -/
theorem select_again {left : List Issue} (hkeys : (issues.map Issue.key).Nodup)
    (hkind : s.kind = .file) (hrun : (c.select settings issues).run s = (.ok left, s'))
    (hu : u.Works) (hukind : u.kind = .file) (hrecords : u.record? = s'.record?) :
    ∃ u', (c.select settings issues).run u = (.ok left, u') ∧ u'.Works ∧ u'.kind = .file ∧
      u'.record? = u.record? ∧ u'.world.printed = u.world.printed ∧
      u'.world.encodes = u.world.encodes := by
  obtain ⟨path, hconfined⟩ := Session.confined_self hukind
  have hselected := confined_select c settings issues _ _ _ u hconfined
  suffices h : ∃ u', (c.select settings issues).run u = (.ok left, u') ∧ u'.Works ∧
      u'.record? = u.record? by
    obtain ⟨u', hrun', hworks, hsame⟩ := h
    rw [hrun'] at hselected
    exact ⟨u', hrun', hworks, hselected.kind, hsame, hselected.printed, hselected.encodes⟩
  rw [select] at hrun ⊢
  split
  · next hcollapses =>
    rw [if_pos hcollapses] at hrun
    obtain ⟨u', hrun', hevolves, hsame⟩ :=
      Dedup.run_again hkeys hrun hu (hukind.trans hkind.symm) hrecords
    exact ⟨u', hrun', hevolves.works, hsame⟩
  · next hcollapses =>
    rw [if_neg hcollapses] at hrun
    obtain ⟨hleft, -⟩ := Prod.mk.inj hrun
    obtain rfl := Except.ok.inj hleft
    have hnoted : u.SameFile { u with
        world := u.world.note .info "Deduplication disabled; printing all issues" [] } := ⟨rfl, rfl⟩
    exact ⟨_, rfl, hnoted.works hukind hu, hnoted.record? hukind⟩

/-- When everything named is dismissed the rest of the work is to select, to present and to report. -/
theorem run_work_of_apply {s₁ : Session}
    (happly : (applyDismissals issues c.dismissals).run s = (.ok (), s₁)) :
    (c.work settings issues).run s =
      (do
        c.present (← c.select settings issues)
        note .info "Dismissal store stats" (← stats)
        pure 0 : Action Nat).run s₁ := by
  have htry : (try
        applyDismissals issues c.dismissals
        pure none
      catch e =>
        if e.isRefusal then pure (some e.message) else throw e : Action (Option Text)).run s =
      (.ok none, s₁) := Act.run_tryCatch_ok (Act.run_bind_ok happly)
  rw [work, Act.run_bind_ok htry]

/-- What a file store says about itself goes to the journal. -/
theorem run_report (hkind : s.kind = .file) :
    ∃ journal, (do note .info "Dismissal store stats" (← stats); pure 0 : Action Nat).run s =
      (.ok 0, { s with world := { s.world with journal } }) := by
  obtain ⟨name, counters, book, world, rfl⟩ := Session.exists_of_file hkind
  exact ⟨_, rfl⟩

/-- **Work that ends well prints a page**, and prints it again when it is done once more without
dismissals, on any file store that works and holds the records that are left. -/
theorem work_again (hkeys : (issues.map Issue.key).Nodup)
    (hnew : ∀ severity count, P ⟨now, severity, count⟩) (hs : s.Confined P p d now t encodes)
    (h : (c.work settings issues).run s = (.ok 0, s')) :
    ∃ page, s'.Confined P p d now (t ++ page) encodes ∧
      ∀ u : Session, u.Works → u.kind = .file → u.record? = s'.record? →
        u.world.encodes = encodes → ∃ u', (work { c with dismissals := [] } settings issues).run u = (.ok 0, u') ∧ u'.Works ∧
          u'.kind = .file ∧ u'.world.printed = u.world.printed ++ page := by
  obtain ⟨s₁, s₂, s₃, left, happly, hselect, hpresent, hreport⟩ := work_stages h
  have hs₁ := Action.Confined.applyDismissals issues c.dismissals hnew d t encodes s hs
  rw [happly] at hs₁
  have hs₂ := confined_select c settings issues d t encodes s₁ hs₁
  rw [hselect] at hs₂
  obtain ⟨r, page, hreads⟩ := Action.Reads.present c left s₂.record? encodes
  obtain ⟨s₄, hrun, hprints⟩ := hreads s₂ hs₂.kind rfl hs₂.encodes
  obtain ⟨rfl, rfl⟩ := Prod.mk.inj (hrun.symm.trans hpresent)
  have hs₄ := hprints.confined hs₂
  obtain ⟨journal, hjournal⟩ := run_report hs₄.kind
  obtain ⟨-, rfl⟩ := Prod.mk.inj (hjournal.symm.trans hreport)
  refine ⟨page, ⟨hs₄.book, hs₄.disk, hs₄.now, hs₄.printed, hs₄.encodes⟩,
    fun u hu hukind hrecords huencodes => ?_⟩
  have hsame₂ : u.record? = s₂.record? := hrecords.trans (hprints.sameFile.record? hs₂.kind)
  obtain ⟨u₁, hselect', hworks, hkind, hsame, hprinted, hencodes⟩ :=
    select_again hkeys hs₁.kind hselect hu hukind hsame₂
  obtain ⟨u₂, hrun', hprints'⟩ :=
    hreads u₁ hkind (hsame.trans hsame₂) (hencodes.trans huencodes)
  obtain ⟨journal', hjournal'⟩ := run_report (hprints'.kind.trans hkind)
  have hnothing : (applyDismissals issues ({ c with dismissals := [] } : Command).dismissals).run u =
      (.ok (), u) := rfl
  refine ⟨{ u₂ with world := { u₂.world with journal := journal' } }, ?run, ?works,
    hprints'.kind.trans hkind, ?printed⟩
  case run =>
    rw [run_work_of_apply hnothing]
    exact (Act.run_bind_ok hselect').trans ((Act.run_bind_ok hrun').trans hjournal')
  case works => exact (hprints'.sameFile.trans ⟨rfl, rfl⟩).works hkind hworks
  case printed => exact (congrArg World.printed hprints'.world).trans (congrArg (· ++ page) hprinted)

end Command

/-! ### What a run finds -/

/-- A single name is looked up in the same place on every disk. -/
theorem Disk.locate_of_single {p : Path} {name : String} (h : p.names = [name]) (d d' : Disk) :
    d'.locate p = d.locate p := by
  rw [locate, locate, h]
  rfl

/-- Settings depend on the environment and on the file of variables. -/
theorem Settings.load_congr {w w' : World}
    (hread : ∀ bs, w'.disk.read (Path.ofString variablesFile) = .ok bs ↔
      w.disk.read (Path.ofString variablesFile) = .ok bs)
    (environment : List (String × String)) (given : List (Text × Json)) :
    load { w' with environment } given = load { w with environment } given := by
  have hfile : fileVariables { w' with environment } = fileVariables { w with environment } := by
    rw [fileVariables, fileVariables]
    cases hw : w.disk.read (Path.ofString variablesFile) with
    | ok bs => rw [(hread bs).mpr hw]
    | error e =>
      cases hw' : w'.disk.read (Path.ofString variablesFile) with
      | error e' => rfl
      | ok bs => cases hw.symm.trans ((hread bs).mp hw')
  rw [load, load, fields, fields, hfile]
  rfl

/-- So do those that are found, if the file beside the program is the same, too. -/
theorem Settings.found_congr {w w' : World} (henvironment : w'.environment = w.environment)
    (hnearby : w'.nearby = w.nearby)
    (hread : ∀ bs, w'.disk.read (Path.ofString variablesFile) = .ok bs ↔
      w.disk.read (Path.ofString variablesFile) = .ok bs) :
    (found.run w').1 = (found.run w).1 := by
  obtain ⟨r, environment, hrun, hrun'⟩ := takeVariables_congr henvironment hnearby
  cases r with
  | error e => rw [found, Act.run_bind_error hrun, Act.run_bind_error hrun']
  | ok u =>
    have hload : load { w' with environment } [] = load { w with environment } [] :=
      load_congr hread environment []
    rw [found, Act.run_bind_ok hrun, Act.run_bind_ok hrun', Act.run_get_bind, Act.run_get_bind, hload]
    cases load { w with environment } [] <;> rfl

namespace Command

variable {c : Command} {settings : Settings} {issues : List Issue} {w w' : World}

/-- Where the layout can be used the settings are announced, and only the journal changes. -/
theorem logs_announce_of_layout (h : checkLayout settings.layout = .ok ()) (w : World) :
    w.Logs (announce settings) () := by
  have hconfigure : (w.journal.configure settings.level settings.layout).2 = .ok () := by
    rw [Journal.configure, h]
  rw [World.Logs, announce, Act.run_get_bind]
  dsimp only
  rw [Act.run_set_bind, hconfigure]
  exact ⟨_, rfl⟩

/-- Whether a layout can be used does not depend on the journal. -/
theorem logs_announce (h : ((announce settings).run w).1 = .ok ()) (w' : World) :
    w'.Logs (announce settings) () := by
  have hlayout : checkLayout settings.layout = .ok () := by
    have hrun := Act.run_eq_of_fst h
    rw [announce, Act.run_get_bind] at hrun
    dsimp only at hrun
    rw [Act.run_set_bind] at hrun
    obtain ⟨⟨⟩, hconfigured, -⟩ := Act.run_lift_bind_eq_ok hrun
    rw [Journal.configure] at hconfigured
    cases hcheck : checkLayout settings.layout with
    | error e =>
      rw [hcheck] at hconfigured
      cases hconfigured
    | ok => rfl
  exact logs_announce_of_layout hlayout w'

/-- With settings in which nothing is wrong a run is announced and then proceeds. -/
theorem run_eq_proceed {w₀ w₁ : World} (hsettings : Settings.found.run w = (.ok settings, w₀))
    (hannounce : (announce (c.adjust settings)).run w₀ = (.ok (), w₁))
    (hproblems : (c.adjust settings).problems = []) :
    c.run.run w = (c.proceed (c.adjust settings)).run w₁ := by
  rw [run_of_found hsettings, start, Act.run_bind_ok hannounce, hproblems]

/-- **A run that ends well** has found nothing wrong with its settings. -/
theorem run_stages {w₀ : World} (hsettings : Settings.found.run w = (.ok settings, w₀))
    (h : c.run.run w = (.ok 0, w')) :
    ((announce (c.adjust settings)).run w₀).1 = .ok () ∧ (c.adjust settings).problems = [] := by
  rw [run_of_found hsettings] at h
  obtain ⟨⟨⟩, w₁, hannounce, h⟩ := Act.run_bind_eq_ok h
  refine ⟨congrArg Prod.fst hannounce, ?_⟩
  split at h
  · next hproblems => exact hproblems
  · obtain ⟨⟨⟩, w₂, -, h⟩ := Act.run_bind_eq_ok h
    obtain ⟨⟨⟩, w₃, -, h⟩ := Act.run_bind_eq_ok h
    cases Except.ok.inj (Prod.mk.inj h).1

end Command

/-- The file that a run has left is what the next one starts with, and it can be written again. -/
theorem Store.close_leaves {P : Record → Prop} {p : Path} {d : Disk} {now : Moment} {t : Text}
    {encodes : Bool} {s s' : Session} (hP : ∀ r, P r → r.since.Storable)
    (hs : s.Confined P p d now t encodes)
    (h : close.run s = (.ok (), s')) :
    d.Spares s'.world.disk p ∧ s'.world.printed = t ∧
      (∃ place, s'.world.disk.writable p = .ok place) ∧
      ∃ records, startsWith s'.world.disk p = .ok records ∧ Plain records ∧
        ∀ key, records.get? (Text.ofString key.render) = s.record? key := by
  obtain ⟨book, hbook, hpath, hrecords⟩ := hs.book
  have hs' := Action.Confined.close d t encodes s hs
  rw [h] at hs'
  have hsave : (saveFile book).run s = (.ok (), s') := by
    rw [← h, close, Act.run_get_bind, hbook]
  obtain ⟨hstored, hwrite, -⟩ := saveFile_ok hsave
  rw [hpath] at hwrite
  obtain ⟨records, hstart, hget⟩ :=
    startsWith_of_write hstored hwrite fun e he => hP e.2 (hrecords e he)
  refine ⟨hs'.disk, hs'.printed, Disk.writable_after_write hwrite, records, hstart,
    (plain_of_octets hstored).of_get? hget, fun key => ?_⟩
  rw [hget, Session.record?, hbook]

/-- A file store that works meets no mishap any more. -/
theorem Session.Works.calm {s : Session} (h : s.Works) (hkind : s.kind = .file) :
    ∀ n, s.world.disk.attempts ≤ n → s.world.disk.mishaps n = none := by
  obtain ⟨name, counters, book, world, rfl⟩ := Session.exists_of_file hkind
  exact h.1.calm

/-- A store that works can be closed after whatever was done with it. -/
theorem Store.run_andFinally_close {α : Type} {x : Action α} {a : α} {u u' : Session}
    (hrun : x.run u = (.ok a, u')) (hworks : u'.Works) (hkind : u'.kind = .file) :
    ∃ u'', (Act.andFinally x close).run u = (.ok a, u'') ∧ u''.Works ∧ u''.kind = .file ∧
      u''.world.printed = u'.world.printed := by
  obtain ⟨u'', hclose, hevolves, -⟩ := close_yields hworks
  obtain ⟨path, hconfined⟩ := Session.confined_self hkind
  have hclosed := Action.Confined.close _ _ _ u' hconfined
  rw [hclose] at hclosed
  refine ⟨u'', ?_, hevolves.works, hclosed.kind, hclosed.printed⟩
  rw [Act.run_andFinally hrun, hclose]

namespace Command

variable {c : Command} {settings : Settings} {issues : List Issue} {w w' : World}

/-- Where the choice falls on the file a run is its work on a store that starts with what is found. -/
theorem run_proceed_file {disk : Disk} {records : Table Text Record}
    (hpicks : settings.PicksFile w.server) (hfinds : settings.Finds w.disk disk records)
    (hissues : w.Logs (Listing.load c.file) issues) :
    ∃ errors server journal, (c.proceed settings).run w =
      (runOn (onFile "file" (Path.ofString settings.filePath) records errors)
        (Act.andFinally (c.work settings issues) close)).run { w with disk, server, journal } := by
  obtain ⟨journal, hload⟩ := hissues
  obtain ⟨errors, server, journal', hcreate⟩ := run_create_file (w := { w with journal }) hpicks hfinds
  exact ⟨errors, server, journal', run_proceed_of_create hload hcreate⟩

/-- **Proceeding again.** A run on a file that ends well has touched no other file, and a run without
dismissals that goes on from its disk prints the same page. -/
theorem proceed_again {disk : Disk} {records : Table Text Record}
    (hkeys : (issues.map Issue.key).Nodup) (hclock : w.now.Storable)
    (hpicks : settings.PicksFile w.server) (hfinds : settings.Finds w.disk disk records)
    (hissues : w.Logs (Listing.load c.file) issues)
    (h : (c.proceed settings).run w = (.ok 0, w')) :
    ∃ page, w'.printed = w.printed ++ page ∧
      w.disk.Spares w'.disk (Path.ofString settings.filePath) ∧
      ∀ u : World, u.disk = w'.disk → (∀ n, u.disk.attempts ≤ n → u.disk.mishaps n = none) →
        u.encodes = w.encodes → settings.PicksFile u.server →
        u.Logs (Listing.load c.file) issues → ∃ u', (proceed { c with dismissals := [] } settings).run u = (.ok 0, u') ∧
          u'.printed = u.printed ++ page := by
  obtain ⟨errors, server, journal, hproceed⟩ := run_proceed_file (c := c) hpicks hfinds hissues
  rw [hproceed, run_runOn] at h
  obtain ⟨hstatus, rfl⟩ := Prod.mk.inj h
  obtain ⟨s, hwork, hclose⟩ := Act.run_andFinally_eq_ok (Act.run_eq_of_fst hstatus)
  have hopened : Session.Confined (fun r => r.since.Storable) (Path.ofString settings.filePath) disk
      w.now w.printed w.encodes ⟨onFile "file" (Path.ofString settings.filePath) records errors,
        { w with disk, server, journal }⟩ :=
    ⟨⟨_, rfl, rfl, fun e he => (storable_of_startsWith hfinds.start e he).since⟩, .refl _ _, rfl, rfl,
      rfl⟩
  obtain ⟨page, hs, hagain⟩ := work_again hkeys (fun _ _ => hclock) hopened hwork
  obtain ⟨hspares, hprinted, hfree, records', hstart, hplain, hrecords⟩ :=
    close_leaves (fun _ => id) hs hclose
  have hmade := Disk.Spares.ensureDirectory w.disk (Path.ofString settings.filePath).parent
    (Path.ofString settings.filePath)
  rw [hfinds.made] at hmade
  refine ⟨page, hprinted, hmade.trans hspares, fun u hdisk hcalm hencodes hupicks huissues => ?_⟩
  rw [← hdisk] at hspares hfree hstart
  have hufinds : settings.Finds u.disk u.disk records' := hfinds.again hspares.directories hstart
  obtain ⟨errors', server', journal', huproceed⟩ :=
    run_proceed_file (c := { c with dismissals := [] }) hupicks hufinds huissues
  have hworks : Session.Works ⟨onFile "file" (Path.ofString settings.filePath) records' errors',
      { u with server := server', journal := journal' }⟩ := ⟨⟨hfree, hcalm⟩, hplain⟩
  obtain ⟨u₁, hrun, hworks₁, hkind₁, hprinted₁⟩ := hagain _ hworks rfl (funext hrecords) hencodes
  obtain ⟨u₂, hrun₂, -, -, hprinted₂⟩ := run_andFinally_close hrun hworks₁ hkind₁
  refine ⟨u₂.world, ?_, hprinted₂.trans hprinted₁⟩
  rw [huproceed, run_runOn, hrun₂]

end Command

/-! ### The twins on the file backend -/

/-- Dismisses the second of the twins, on the file backend. -/
def Command.parting : Command := ⟨"d.yaml", some .file, ["s/b"], false, false⟩

/-- The first of them takes the dismissal over. -/
def twinsPage : Text := Text.ofString "[100] s/a/0  (dismissed)\n[100] s/c/0 \n"

/-- A new store that works comes to the page. -/
theorem Command.select_parting {s : Session} (hs : s.Works) (hkind : s.kind = .file)
    (hempty : s.ledger = .empty) (hnow : s.world.now = .newYear 2024) :
    ∃ s₁ s₂, (applyDismissals twins parting.dismissals).run s = (.ok (), s₁) ∧
      (parting.select (parting.adjust .standard) twins).run s₁ =
        (.ok (Dedup.survivors twins), s₂) ∧
      s₂.Works ∧ s₂.kind = .file ∧ s₂.world.printed = s.world.printed ∧
      s₂.world.encodes = s.world.encodes ∧ s₂.ledger = (Ledger.empty.set (Dedup.duplicate "b" 0).key
        (some ⟨.newYear 2024, 100, 1⟩)).alignAll ((Dedup.buckets twins).map Prod.snd) := by
  have htakes : s.Takes (dismissal (s.ledger.records (Dedup.duplicate "b" 0).key) s.world.now 100
      none) := by
    rw [hempty, hnow, Session.Takes, hkind]
    exact ⟨by decide +kernel, by decide +kernel⟩
  have hprintable : ∀ i ∈ twins, i.key.Printable := by
    simp only [twins, List.forall_mem_cons]
    exact ⟨Dedup.printable_duplicate _, Dedup.printable_duplicate _, Dedup.printable_duplicate _,
      List.forall_mem_nil _⟩
  obtain ⟨s₁, hdismiss, hevolves, hledger⟩ :=
    dismiss_yields hs (Dedup.printable_duplicate "b") htakes
  rw [hempty, hnow] at hledger
  have happly : (applyDismissals twins parting.dismissals).run s = (.ok (), s₁) := by
    have hread : IssueKey.read "s/b" = .ok (Dedup.duplicate "b" 0).key := by decide
    have hfound : issueWithKey? twins (Dedup.duplicate "b" 0).key = some (Dedup.duplicate "b" 0) := by
      decide
    rw [parting, applyDismissals, hread, Act.run_bind_ok (Act.run_lift_ok _ _), hfound]
    exact Act.run_bind_ok hdismiss
  have hloggable : s₁.ledger.AllLoggable s₁.Names ((Dedup.buckets twins).map Prod.snd) :=
    Dedup.allLoggable_of_printable fun b hb i hi => hprintable i (Dedup.mem_of_mem_buckets hb hi)
  obtain ⟨s₂, hselect, hevolves', hledger'⟩ := Dedup.run_yields hevolves.works hloggable
  obtain ⟨path, hconfined⟩ := Session.confined_self hkind
  have hprinted := Action.Confined.dedup twins _ _ _ _
    (Action.Confined.applyDismissals twins parting.dismissals (fun _ _ => trivial) _ _ _ s hconfined)
  rw [happly] at hprinted
  dsimp only at hprinted
  rw [hselect] at hprinted
  exact ⟨s₁, s₂, happly, hselect, hevolves'.works, hprinted.kind, hprinted.printed, hprinted.encodes,
    hledger'.trans (congrArg (Ledger.alignAll · _) hledger)⟩

/-- It shows the page and can be closed then. -/
theorem Command.work_parting {s : Session} (hs : s.Works) (hkind : s.kind = .file)
    (hempty : s.ledger = .empty) (hnow : s.world.now = .newYear 2024)
    (hencodes : s.world.encodes = false) :
    ∃ s', (parting.work (parting.adjust .standard) twins).run s = (.ok 0, s') ∧ s'.Works ∧
      s'.kind = .file ∧ s'.world.printed = s.world.printed ++ twinsPage := by
  obtain ⟨s₁, s₂, happly, hselect, hworks, hkind₂, hprinted, hencodes₂, hledger⟩ :=
    select_parting hs hkind hempty hnow
  -- In a block nothing is written, so there the page can be computed.
  let u : Session :=
    ⟨⟨"file", ⟨0, 0, 0⟩, .file ⟨Path.ofString "d.json", .empty, 1, false⟩⟩, .blank⟩
  obtain ⟨u₁, u₂, huapply, huselect, -, hukind₂, huprinted, huencodes, huledger⟩ :=
    select_parting (s := u) ⟨ready_blank.accepts, plain_empty⟩ rfl rfl rfl
  let toPage : Action Unit := do
    applyDismissals twins parting.dismissals
    parting.present (← parting.select (parting.adjust .standard) twins)
  have hcomputed : (toPage.run u).1 = .ok () ∧ (toPage.run u).2.world.printed = twinsPage := by
    decide +kernel
  have hrun : toPage.run u = (parting.present (Dedup.survivors twins)).run u₂ :=
    (Act.run_bind_ok huapply).trans (Act.run_bind_ok huselect)
  obtain ⟨r, page, hreads⟩ := Action.Reads.present parting (Dedup.survivors twins) s₂.record? false
  have hrecords : u₂.record? = s₂.record? :=
    congrArg Ledger.records (huledger.trans hledger.symm)
  obtain ⟨u₃, hupresent, huprints⟩ := hreads u₂ hukind₂ hrecords huencodes
  rw [hrun, hupresent] at hcomputed
  obtain ⟨rfl, hshown⟩ := hcomputed
  obtain rfl : page = twinsPage := by
    rw [← hshown, huprints.world, World.print, huprinted]
    rfl
  obtain ⟨s₃, hpresent, hprints⟩ := hreads s₂ hkind₂ rfl (hencodes₂.trans hencodes)
  obtain ⟨journal, hreport⟩ := run_report (hprints.kind.trans hkind₂)
  refine ⟨{ s₃ with world := { s₃.world with journal } }, ?run, ?works,
    hprints.kind.trans hkind₂, ?printed⟩
  case run =>
    rw [run_work_of_apply happly, Act.run_bind_ok hselect, Act.run_bind_ok hpresent]
    exact hreport
  case works => exact (hprints.sameFile.trans ⟨rfl, rfl⟩).works hkind₂ hworks
  case printed => exact (congrArg World.printed hprints.world).trans (congrArg (· ++ twinsPage) hprinted)

/-- A working directory with nothing but the twins takes the dismissal file. -/
theorem ready_twins : World.twins.Ready Settings.standard.filePath
    (World.twins.disk.put [".safetyhub"] .directory) := by
  have hpath : Path.ofString Settings.standard.filePath =
      ⟨0, [".safetyhub", "dismissals.json"]⟩ := by
    simp [Settings.standard, Path.ofString, Path.split]
  have hcheck : Disk.checkPath ⟨0, [".safetyhub", "dismissals.json"]⟩ = .ok () :=
    Disk.checkPath_of_notMem (by simp [Path.text])
  have hlocate : (World.twins.disk.put [".safetyhub"] .directory).locate
      ⟨0, [".safetyhub", "dismissals.json"]⟩ = .ok [".safetyhub", "dismissals.json"] := by
    decide
  constructor
  · rw [hpath, Path.parent, Disk.ensureDirectory, Disk.checkPath_of_notMem (by simp [Path.text])]
    rfl
  · rw [hpath, Disk.holds, hcheck]
    dsimp only
    rw [hlocate]
    rfl
  · rw [hpath]
    have hfree : Disk.writable _ _ = .ok [".safetyhub", "dismissals.json"] :=
      Disk.writable_eq_ok_iff.mpr ⟨hcheck, hlocate, by decide⟩
    exact ⟨⟨_, hfree⟩, fun _ _ => rfl⟩

/-- A store is created on a new file, whatever is in the journal. -/
theorem Store.create_twins (journal : Journal) : ∃ journal',
    (create (Command.parting.adjust .standard) none).run { World.twins with journal } =
      (.ok (onFile "file" (Path.ofString Settings.standard.filePath) .empty 0),
        { World.twins with
          disk := World.twins.disk.put [".safetyhub"] .directory, journal := journal' }) := by
  have hready : World.Ready { World.twins with journal } Settings.standard.filePath
      (World.twins.disk.put [".safetyhub"] .directory) :=
    ⟨ready_twins.directory, ready_twins.missing, ready_twins.accepts⟩
  have hopen : (tryOpen (Command.parting.adjust .standard) .file).run { World.twins with journal } =
      (.ok (some (onFile "file" (Path.ofString Settings.standard.filePath) .empty 0)), _) :=
    Act.run_tryCatch_ok (Act.run_bind_ok (run_openFile "file" hready))
  exact run_openFirst_some .file [.memory] hopen

/-- The whole run comes to its end. -/
theorem Command.run_parting : ∃ w', parting.run.run .twins = (.ok 0, w') ∧ w'.printed = twinsPage ∧
    ∀ n, w'.disk.attempts ≤ n → w'.disk.mishaps n = none := by
  have hsound : ((announce (parting.adjust .standard)).run .twins).1 = .ok () := by decide
  obtain ⟨journal₁, hannounce⟩ := logs_announce hsound .twins
  obtain ⟨journal₂, hload⟩ := Listing.logs_load journal₁ Listing.load_twins
  obtain ⟨journal₃, hcreate⟩ := Store.create_twins journal₂
  have hworks : Session.Works ⟨onFile "file" (Path.ofString Settings.standard.filePath) .empty 0,
      { World.twins with
        disk := World.twins.disk.put [".safetyhub"] .directory, journal := journal₃ }⟩ :=
    ⟨ready_twins.accepts, plain_empty⟩
  obtain ⟨s₁, hwork, hworks₁, hkind₁, hprinted₁⟩ := work_parting hworks rfl rfl rfl rfl
  obtain ⟨s₂, hclosed, hworks₂, hkind₂, hprinted₂⟩ := run_andFinally_close hwork hworks₁ hkind₁
  have hrun := run_eq_proceed (c := parting) Settings.run_found_twins hannounce (by decide)
  have hproceed := run_proceed_of_create (c := parting) hload hcreate
  refine ⟨s₂.world, ?_, hprinted₂.trans hprinted₁, hworks₂.calm hkind₂⟩
  rw [hrun, hproceed, run_runOn, hclosed]

/-! ### A whole run -/

/-- **A repeated run shows the same picture.** Where a run on the file backend ends well, a run with the
same command but without dismissals, on the disk that the first one has left and with what the first one
has started with besides, ends well and prints the same page. The file must be one that can be written,
and neither that of the issues nor that of the variables; a server that is asked for must still be out of
reach. The clock may have moved on. -/
theorem runProgram_again {arguments arguments' : List String} {c : Command} {settings : Settings}
    {issues : List Issue} {store : Store} {book : FileBook} {w w' u : World}
    (hcommand : Command.read arguments = .ok c)
    (hrepeat : Command.read arguments' = .ok { c with dismissals := [] })
    (hsettings : (Settings.found.run w).1 = .ok settings)
    (hstore : ((Store.create (c.adjust settings) none).run w).1 = .ok store)
    (hfile : store.backing = .file book)
    (hlisting : (Path.ofString c.file).place ≠ (Path.ofString settings.filePath).place)
    (hvariables : (Path.ofString Settings.variablesFile).place ≠
      (Path.ofString settings.filePath).place)
    (hissues : ((Listing.load c.file).run w).1 = .ok issues)
    (hkeys : (issues.map Issue.key).Nodup) (hclock : w.now.Given)
    (hrun : (runProgram arguments).run w = (.ok 0, w'))
    (hdisk : u.disk = w'.disk) (henvironment : u.environment = w.environment)
    (hnearby : u.nearby = w.nearby) (hencodes : u.encodes = w.encodes)
    (hcalm : ∀ n, u.disk.attempts ≤ n → u.disk.mishaps n = none)
    (hserver : (c.adjust settings).backend = .server →
      u.server.isUsable settings.serverUrl = false) :
    ∃ page u', w'.printed = w.printed ++ page ∧ (runProgram arguments').run u = (.ok 0, u') ∧
      u'.printed = u.printed ++ page := by
  rw [runProgram, hcommand] at hrun
  dsimp only at hrun
  obtain ⟨environment, hfound⟩ := Settings.exists_of_found hsettings
  obtain ⟨hannounce, hproblems⟩ := Command.run_stages hfound hrun
  obtain ⟨journal, hlogs⟩ := Command.logs_announce hannounce { w with environment }
  obtain ⟨hpicks, disk, records, hfinds⟩ := Store.finds_of_create (Act.run_eq_of_fst hstore) hfile
  have hproceed : (c.proceed (c.adjust settings)).run { w with environment, journal } = (.ok 0, w') :=
    (Command.run_eq_proceed hfound hlogs hproblems).symm.trans hrun
  have hlogs' : World.Logs { w with environment, journal } (Listing.load c.file) issues :=
    Listing.logs_load_of_read (w := w) (fun _ => id) hissues
  obtain ⟨page, hprinted, hspares, hagain⟩ :=
    Command.proceed_again (w := { w with environment, journal }) hkeys hclock.storable hpicks hfinds
      hlogs' hproceed
  -- The second run finds the same settings and the same issues on the disk of the first.
  rw [← hdisk] at hspares
  have husettings : (Settings.found.run u).1 = .ok settings := by
    have hname : Path.ofString Settings.variablesFile = ⟨0, [".env"]⟩ := by
      simp [Settings.variablesFile, Path.ofString, Path.split]
    have hplace : u.disk.locate (Path.ofString Settings.variablesFile) =
        w.disk.locate (Path.ofString Settings.variablesFile) :=
      Disk.locate_of_single (congrArg Path.names hname) _ _
    rw [← hsettings]
    exact Settings.found_congr henvironment hnearby fun _ => hspares.read_iff hvariables hplace
  obtain ⟨uenvironment, hufound⟩ := Settings.exists_of_found husettings
  obtain ⟨ujournal, hulogs⟩ := Command.logs_announce hannounce { u with environment := uenvironment }
  have hupicks : (c.adjust settings).PicksFile u.server :=
    hpicks.imp_right fun h => ⟨h.1, hserver h.1⟩
  have huissues : World.Logs { u with environment := uenvironment, journal := ujournal }
      (Listing.load c.file) issues :=
    Listing.logs_load_of_read (w := w) (fun _ => hspares.read hlisting) hissues
  obtain ⟨u', hproceed', hprinted'⟩ :=
    hagain { u with environment := uenvironment, journal := ujournal } hdisk hcalm hencodes hupicks
      huissues
  refine ⟨page, u', hprinted, ?_, hprinted'⟩
  rw [runProgram, hrepeat]
  dsimp only
  have hrun' := Command.run_eq_proceed (c := { c with dismissals := [] }) hufound hulogs hproblems
  exact hrun'.trans hproceed'

/-- The second run knows the dismissal from the file alone. -/
theorem runProgram_again_twins : ∃ w' u',
    (runProgram ["d.yaml", "--backend", "file", "--dismiss", "s/b"]).run .twins = (.ok 0, w') ∧
      w'.printed = twinsPage ∧
      (runProgram ["d.yaml", "--backend", "file"]).run { World.blank with disk := w'.disk } =
        (.ok 0, u') ∧ u'.printed = twinsPage := by
  have hcommand : Command.read ["d.yaml", "--backend", "file", "--dismiss", "s/b"] =
      .ok .parting := by decide +kernel
  have hrepeat : Command.read ["d.yaml", "--backend", "file"] =
      .ok { Command.parting with dismissals := [] } := by decide +kernel
  obtain ⟨w', hrun, hprinted, hcalm⟩ := Command.run_parting
  have hfirst : (runProgram ["d.yaml", "--backend", "file", "--dismiss", "s/b"]).run .twins =
      (.ok 0, w') := by
    rw [runProgram, hcommand]
    exact hrun
  obtain ⟨journal, hstore⟩ := Store.create_twins World.twins.journal
  obtain ⟨page, u', hpage, hsecond, hprinted'⟩ :=
    runProgram_again (u := { World.blank with disk := w'.disk }) hcommand hrepeat
      (congrArg Prod.fst Settings.run_found_twins) (congrArg Prod.fst hstore) rfl (by decide +kernel) (by decide +kernel)
      Listing.load_twins (by decide +kernel) given_newYear hfirst rfl rfl rfl rfl
      hcalm      (fun hserver => absurd hserver (by decide))
  obtain rfl : twinsPage = page := hprinted.symm.trans hpage
  exact ⟨w', u', hfirst, hprinted, hsecond, hprinted'⟩

end IssueDigest
