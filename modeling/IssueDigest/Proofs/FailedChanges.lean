import IssueDigest.Proofs.FailedWrites
import IssueDigest.Proofs.Outages
/-!
# Changes that fail

What a store answers when a change has failed depends on where it keeps its records. On a server a change
is one call, the last that the operation makes, so if it fails the store answers what it did before. A file
store outside all blocks takes a changed table over and then writes it, and goes on answering from that
table when the write fails: the change has been made for everybody who asks this store, and a dismissal
that is tried again is counted twice.

The answers are those that a store gives while no call fails (`Session.SameAnswers`).
-/

namespace IssueDigest

open Store

/-! ### Dismissals that are tried again -/

namespace Session

/-- How often an issue has been dismissed. -/
def times (s : Session) (key : IssueKey) : Int :=
  match s.record? key with
  | none => 0
  | some r => r.count

/-- Does the store go on, at some other moment and in some other world, with the records it had? -/
structure Resumes (s s' : Session) : Prop where
  backing : s'.store.backing = s.store.backing
  entries : s'.world.server.entries = s.world.server.entries

theorem Resumes.times {s s' : Session} (h : s.Resumes s') (key : IssueKey) :
    s'.times key = s.times key := by
  rw [Session.times, Session.times, record?, record?, h.backing, h.entries]

/-- The record that a dismissal leaves counts one more than the store has counted. -/
theorem dismissal_record? (s : Session) (key : IssueKey) (now : Moment) (severity : Int)
    (moment : Option Moment) :
    dismissal (s.record? key) now severity moment = ⟨moment.getD now, severity, s.times key + 1⟩ := by
  rw [times]
  cases s.record? key <;> rfl

end Session

/-- **A dismissal that succeeds** returns the record that follows from the one there was. -/
theorem Store.eq_of_dismiss {s s' : Session} {key : IssueKey} {severity : Int}
    {moment : Option Moment} {r : Record}
    (hrun : (dismiss key severity moment).run s = (.ok r, s')) :
    r = dismissal (s.record? key) s.world.now severity moment := by
  obtain ⟨found, s₁, hfind, hrest⟩ := Act.run_bind_eq_ok hrun
  obtain ⟨found', calls, hfind', hfound⟩ := run_find key s
  obtain ⟨rfl, rfl⟩ := Prod.mk.inj (hfind'.symm.trans hfind)
  obtain rfl := hfound found rfl
  rw [Act.run_get_bind] at hrest
  obtain ⟨⟨⟩, s₂, -, hrest⟩ := Act.run_bind_eq_ok hrest
  rw [Act.run_get_bind] at hrest
  obtain ⟨text, -, hrest⟩ := Act.run_lift_bind_eq_ok hrest
  exact (Except.ok.inj (Prod.mk.inj hrest).1).symm

/-- After what has happened, is a dismissal that is tried again counted so much higher than the issue was
counted before? When the store works again the dismissal succeeds. -/
structure Session.Raises (s s' : Session) (key : IssueKey) (n : Int) : Prop where
  counts : ∀ s₁ severity moment r s₂, s'.Resumes s₁ →
    (dismiss key severity moment).run s₁ = (.ok r, s₂) → r.count = s.times key + n
  succeeds : ∀ s₁ severity moment, s'.Resumes s₁ → s₁.Works → key.Printable →
    s₁.Takes ⟨moment.getD s₁.world.now, severity, s.times key + n⟩ →
      ∃ r s₂, (dismiss key severity moment).run s₁ = (.ok r, s₂)

/-- A dismissal that is tried again counts from what the store has counted by then. -/
theorem Session.raises_of_times {s s' : Session} {key : IssueKey} {n : Int}
    (h : s'.times key = s.times key + n) : s.Raises s' key (n + 1) := by
  -- What the retry leaves, in any world.
  have hrecord : ∀ s₁ severity moment, s'.Resumes s₁ →
      dismissal (s₁.record? key) s₁.world.now severity moment =
        ⟨moment.getD s₁.world.now, severity, s.times key + (n + 1)⟩ := by
    intro s₁ severity moment hresumes
    rw [dismissal_record?, hresumes.times, h, Int.add_assoc]
  constructor
  case counts =>
    intro s₁ severity moment r s₂ hresumes hrun
    rw [eq_of_dismiss hrun, hrecord s₁ severity moment hresumes]
  case succeeds =>
    intro s₁ severity moment hresumes hworks hkey htakes
    rw [← hrecord s₁ severity moment hresumes] at htakes
    obtain ⟨s₂, hrun, -, -⟩ := dismiss_yields hworks hkey htakes
    exact ⟨_, s₂, hrun⟩

/-! ### What a store answers -/

namespace Session

/-- What a store finds for an issue while no call fails. -/
def lookup (s : Session) (key : IssueKey) : Except Fault (Option Record) :=
  match s.store.backing with
  | .memory records => .ok (records.get? key)
  | .file book => key.write.map fun text => book.records.get? (Text.ofString text)
  | .server front => entryName front key >>= fetch s.world.server

/-- How many records a store lists. -/
def listed (s : Session) : Nat :=
  match s.store.backing with
  | .memory records => records.size
  | .file book => book.records.size
  | .server front => (s.world.server.namesUnder front).length

theorem run_find_healed (s : Session) (key : IssueKey) :
    ((find key).run s.healed).1 = s.lookup key := by
  obtain ⟨⟨name, counters, backing⟩, world⟩ := s
  cases backing with
  | memory records => rfl
  | file book =>
    rw [healed, find, Act.run_get_bind, lookup]
    dsimp only
    cases key.write <;> rfl
  | server front =>
    cases hentry : entryName front key with
    | error e =>
      rw [healed, find, Act.run_get_bind, lookup]
      dsimp only
      rw [hentry]
      rfl
    | ok entry =>
      have hfind := @run_find_server (healed ⟨⟨name, counters, .server front⟩, world⟩) front entry rfl
        key hentry (run_call rfl)
      rw [hfind, lookup]
      dsimp only
      rw [hentry]
      rfl

theorem run_isDismissed_healed (s : Session) (key : IssueKey) (severity : Int) :
    ((isDismissed key severity).run s.healed).1 =
      (s.lookup key).map fun r => r.any fun r => r.covers severity := by
  -- The question is counted before the record is looked up.
  have hfind := run_find_healed (s.count fun c => { c with checks := c.checks + 1 }) key
  change _ = s.lookup key at hfind
  rw [isDismissed, Act.run_modify_bind, ← hfind]
  cases hrun : (find key).run (s.count fun c => { c with checks := c.checks + 1 }).healed with
  | mk found s₁ =>
  cases found with
  | error e => exact congrArg Prod.fst (Act.run_bind_error hrun)
  | ok found =>
    refine (congrArg Prod.fst (Act.run_bind_ok hrun)).trans ?_
    cases found <;> rfl

theorem run_size_healed (s : Session) : (Store.size.run s.healed).1 = .ok s.listed := by
  obtain ⟨⟨name, counters, backing⟩, world⟩ := s
  cases backing with
  | memory records => rfl
  | file book => rfl
  | server front =>
    have hnames := @run_entryNames (healed ⟨⟨name, counters, .server front⟩, world⟩) front rfl
    rw [healed, Store.size, Act.run_get_bind]
    exact congrArg Prod.fst (Act.run_bind_ok hnames)

/-- Does a store answer every question as another one does, while no call fails? A dismissal that is tried
again counts one more than the other store has counted. -/
structure SameAnswers (s s' : Session) : Prop where
  get : ∀ key, ((find key).run s'.healed).1 = ((find key).run s.healed).1
  check : ∀ key severity,
    ((isDismissed key severity).run s'.healed).1 = ((isDismissed key severity).run s.healed).1
  size : (Store.size.run s'.healed).1 = (Store.size.run s.healed).1
  again : ∀ key, s.Raises s' key 1

/-- Stores that hold the same records, look issues up alike and list as many answer alike. -/
theorem sameAnswers_of_lookup {s s' : Session} (hrecords : s'.record? = s.record?)
    (hlookup : s'.lookup = s.lookup) (hlisted : s'.listed = s.listed) : s.SameAnswers s' where
  get key := by rw [run_find_healed, run_find_healed, hlookup]
  check key severity := by rw [run_isDismissed_healed, run_isDismissed_healed, hlookup]
  size := by rw [run_size_healed, run_size_healed, hlisted]
  again key := raises_of_times (n := 0) (by rw [times, times, hrecords, Int.add_zero])

theorem Still.sameAnswers {s s' : Session} (h : s.Still s') : s.SameAnswers s' := by
  have hrecords := h.record?
  obtain ⟨counters, journal, calls, -, rfl⟩ := h
  exact sameAnswers_of_lookup hrecords rfl rfl

/-- A file store answers from its table alone. -/
theorem sameAnswers_of_file {s s' : Session} {book book' : FileBook}
    (hs : s.store.backing = .file book) (hs' : s'.store.backing = .file book')
    (h : book'.records = book.records) : s.SameAnswers s' := by
  refine sameAnswers_of_lookup (funext fun key => ?record) (funext fun key => ?lookup) ?listed
  case record =>
    rw [record?, record?, hs, hs']
    dsimp only
    rw [h]
  case lookup =>
    rw [lookup, lookup, hs, hs']
    dsimp only
    rw [h]
  case listed =>
    rw [listed, listed, hs, hs']
    dsimp only
    rw [h]

end Session

/-! ### Changes on a server -/

/-- Is the operation one that asks for a change of the records? -/
def Op.Changes : Op → Prop
  | .dismiss _ _ _ | .undismiss _ | .copy _ _ | .clear => True
  | _ => False

theorem Op.Changes.isSingle {op : Op} (h : op.Changes) : op.IsSingle := by
  cases op with
  | enterBatch | leaveBatch | deduplicate => exact h.elim
  | _ => trivial

section Server

variable {s s' : Session} {front : String} {key : IssueKey} {e : Fault}

/-- A dismissal reads, writes, and then only tells. -/
theorem Store.still_of_dismiss (hs : s.store.backing = .server front) {severity : Int}
    {moment : Option Moment} (hrun : (dismiss key severity moment).run s = (.error e, s')) :
    s.Still s' := by
  obtain hfind | ⟨found, s₁, hfind, hrest⟩ := Act.run_bind_eq_error hrun
  · exact still_of_find hfind
  have hfound := still_of_find hfind
  rw [Act.run_get_bind] at hrest
  obtain ⟨e', s₂, hkeep, hstill⟩ | ⟨hkey, text, -, hkeep⟩ :=
    run_keep_server (hfound.backing.trans hs) key (dismissal found s₁.world.now severity moment)
  · obtain ⟨-, rfl⟩ := Prod.mk.inj ((Act.run_bind_error hkeep).symm.trans hrest)
    exact hfound.trans hstill
  · -- When the record is kept nothing can fail any more.
    have hlast := (Act.run_bind_ok hkeep).symm.trans hrest
    rw [Act.run_get_bind, IssueKey.write_of_printable hkey] at hlast
    cases (Prod.mk.inj hlast).1

theorem Store.still_of_deleteEntries {names : List String}
    (hrun : (deleteEntries names).run s = (.error e, s')) : s.Still s' := by
  rcases run_call_cases .delete s with hcall | hcall
  · rw [deleteEntries, Act.run_bind_ok hcall] at hrun
    cases (Prod.mk.inj hrun).1
  · rw [deleteEntries, Act.run_bind_error hcall] at hrun
    obtain ⟨-, rfl⟩ := Prod.mk.inj hrun
    exact s.still_called

theorem Store.still_of_entryNames {r : Except Fault (List String)}
    (hrun : (entryNames front).run s = (r, s')) : s.Still s' := by
  rcases run_call_cases .list s with hcall | hcall
  · rw [entryNames, Act.run_bind_ok hcall] at hrun
    obtain ⟨-, rfl⟩ := Prod.mk.inj hrun
    exact s.still_called
  · rw [entryNames, Act.run_bind_error hcall] at hrun
    obtain ⟨-, rfl⟩ := Prod.mk.inj hrun
    exact s.still_called

theorem Store.still_of_drop (hs : s.store.backing = .server front)
    (hrun : (drop key).run s = (.error e, s')) : s.Still s' := by
  rw [drop, Act.run_get_bind, hs] at hrun
  dsimp only at hrun
  cases hname : entryName front key with
  | error e' =>
    rw [hname] at hrun
    obtain ⟨-, rfl⟩ := Prod.mk.inj hrun
    exact .refl s
  | ok name =>
    rw [hname, Act.run_bind_ok (Act.run_lift_ok _ _)] at hrun
    obtain hdelete | ⟨n, s₁, -, hrest⟩ := Act.run_bind_eq_error hrun
    · exact still_of_deleteEntries hdelete
    · cases (Prod.mk.inj hrest).1

/-- Clearing lists the entries and deletes them in one call. -/
theorem Store.still_of_clear (hs : s.store.backing = .server front)
    (hrun : clear.run s = (.error e, s')) : s.Still s' := by
  rw [clear, Act.run_get_bind, hs] at hrun
  dsimp only at hrun
  obtain hnames | ⟨names, s₁, hnames, hrest⟩ := Act.run_bind_eq_error hrun
  · exact still_of_entryNames hnames
  have hlisted := still_of_entryNames hnames
  split at hrest
  · obtain hdelete | ⟨n, s₂, -, hrest⟩ := Act.run_bind_eq_error hrest
    · exact hlisted.trans (still_of_deleteEntries hdelete)
    · cases (Prod.mk.inj hrest).1
  · cases (Prod.mk.inj hrest).1

/-- **A change that fails on a server** has changed nothing but what is counted. -/
theorem Op.Changes.still {op : Op} (hop : op.Changes) (hs : s.store.backing = .server front)
    (hrun : op.run.run s = (.error e, s')) : s.Still s' := by
  have hinside : s.Inside := by
    rw [Session.Inside, Session.depth?, hs]
    intro hnone
    cases hnone
  cases op with
  | dismiss key severity moment => exact still_of_dismiss hs (Act.run_map_eq_error hrun)
  | undismiss key => exact still_of_drop hs (Act.run_map_eq_error hrun)
  | copy source target => exact still_of_copy hinside (Act.run_map_eq_error hrun)
  | clear => exact still_of_clear hs (Act.run_map_eq_error hrun)
  | check | get | size | enterBatch | leaveBatch | deduplicate => exact hop.elim

end Server

/-! ### Changes of a file -/

section File

variable {op : Op} {name : String} {counters : Counters} {book : FileBook} {world : World}
  {s' : Session} {e : Fault}

/-- **A change whose write fails is made all the same**, if no block is open. -/
theorem Op.Changes.taken (hop : op.Changes) {changed : Table Text Record}
    (hplan : op.plan book.records world.now = some changed) (hdepth : book.depth = 0)
    (hrun : op.run.run ⟨⟨name, counters, .file book⟩, world⟩ = (.error e, s')) :
    s'.store.backing = .file { book with records := changed } := by
  obtain ⟨r, f, g, hdoes⟩ := exists_does book.records world.now hop.isSingle
  obtain ⟨a, rfl⟩ := hdoes.sure changed hplan
  have hsteps := hdoes.run name counters book world rfl rfl
  rw [hplan, commit, @run_persist_outside { book with records := changed } hdepth, hrun] at hsteps
  split at hsteps
  · cases (Prod.mk.inj hsteps).1
  · next hsave =>
    obtain ⟨-, rfl⟩ := Prod.mk.inj hsteps
    exact backing_of_saveFile_error hsave

/-- A dismissal that is planned adds one to what the issue has been dismissed. -/
theorem Session.times_of_plan {key : IssueKey} {severity : Int} {moment : Option Moment}
    {changed : Table Text Record} {now : Moment}
    (hplan : (Op.dismiss key severity moment).plan book.records now = some changed)
    (hs' : s'.store.backing = .file { book with records := changed }) :
    s'.times key = times ⟨⟨name, counters, .file book⟩, world⟩ key + 1 := by
  rw [Op.plan] at hplan
  split at hplan
  · obtain rfl := Option.some.inj hplan
    rw [times, record?, hs', times, record?]
    dsimp only
    rw [Table.get?_put, if_pos rfl]
    cases book.records.get? (Text.ofString key.render) <;> rfl
  · cases hplan

end File

/-- **What a store answers after a change has failed.** On a server it answers as before. So does a file
store outside all blocks if nothing was to be written. If something was, the store answers as if the change
had been made, and a dismissal that is tried again counts two more than before. -/
theorem Op.answers_of_failed {op : Op} (hop : op.Changes) {s s' : Session} {e : Fault}
    (hrun : op.run.run s = (.error e, s')) :
    (∀ front, s.store.backing = .server front → s.SameAnswers s') ∧
      ∀ book, s.store.backing = .file book → book.depth = 0 →
        (op.plan book.records s.world.now = none → s.SameAnswers s') ∧
        ∀ changed, op.plan book.records s.world.now = some changed →
          (s.setBacking (.file { book with records := changed })).SameAnswers s' ∧
            ∀ key severity moment, op = .dismiss key severity moment → s.Raises s' key 2 := by
  refine ⟨fun front hs => (hop.still hs hrun).sameAnswers, fun book hs hdepth => ?_⟩
  obtain ⟨⟨name, counters, backing⟩, world⟩ := s
  obtain rfl : backing = .file book := hs
  refine ⟨fun hplan => ?none, fun changed hplan => ?some⟩
  case none =>
    have hsame := @sameFile_of_plan name counters book world op hop.isSingle hplan
    rw [hrun] at hsame
    exact Session.sameAnswers_of_file rfl hsame.backing rfl
  case some =>
    have hbacking := hop.taken hplan hdepth hrun
    refine ⟨Session.sameAnswers_of_file rfl hbacking rfl, fun key severity moment heq => ?_⟩
    subst heq
    exact Session.raises_of_times (Session.times_of_plan hplan hbacking)

/-- Outside all blocks a dismissal that can be written succeeds. -/
theorem Store.run_dismiss_of_writes {name : String} {counters : Counters} {book : FileBook}
    {world : World} {key : IssueKey} (hkey : key.Printable) {severity : Int} {moment : Option Moment}
    {r : Record}
    (hr : dismissal (book.records.get? (Text.ofString key.render)) world.now severity moment = r)
    (hdepth : book.depth = 0) {place : List String}
    (hwrites : Writes world.disk book.path (book.records.put (Text.ofString key.render) r) place) :
    ∃ s', (dismiss key severity moment).run ⟨⟨name, counters, .file book⟩, world⟩ = (.ok r, s') := by
  let changed : FileBook := { book with records := book.records.put (Text.ofString key.render) r }
  have hpersist : (persist changed).run ⟨⟨name, counters, .file book⟩, world⟩ = (.ok (), _) :=
    (@run_persist_outside changed hdepth _).trans (@run_saveFile_of_writes _ changed place hwrites)
  rw [run_dismiss_file hkey, hr, Act.run_bind_ok hpersist]
  exact ⟨_, run_announce _ _ _ _⟩

/-- The first attempt to write finds no room, and the dismissal is in the store all the same. -/
theorem run_dismissing_full :
    ∃ e s', dismissing.op.run.run ⟨fresh, .full⟩ = (.error e, s') ∧
      s'.store.backing = .file ⟨Path.ofString "d.json", dismissed, 0, false⟩ ∧
      s'.world.disk = { Disk.full with attempts := 1 } := by
  obtain ⟨place, hfree⟩ := Disk.exists_writable_full rfl
  obtain ⟨e, s', hrun, hbacking, hdisk⟩ := @Turn.run_mishap dismissing
    ⟨Path.ofString "d.json", .empty, 0, false⟩ dismissed trivial plan_dismissing rfl "store" ⟨0, 0, 0⟩
    .full place .noSpace hfree rfl
  rw [Turn.run, Act.run_modify_bind] at hrun
  exact ⟨e, s', hrun, hbacking, hdisk⟩

/-- A server that is down, and a store that keeps its records there. -/
def unreachable : Session :=
  ⟨onServer "store" "front:",
    { World.blank with server := { Server.blank with outage := fun _ _ => true } }⟩

/-- The same dismissal fails where there is no room and where the server is down. -/
theorem answers_of_failed_dismissing :
    (∃ e s', dismissing.op.run.run ⟨fresh, .full⟩ = (.error e, s') ∧
        (Session.setBacking ⟨fresh, .full⟩
          (.file ⟨Path.ofString "d.json", dismissed, 0, false⟩)).SameAnswers s' ∧
        Session.Raises ⟨fresh, .full⟩ s' (Dedup.duplicate "a" 0).key 2) ∧
      ∃ e s', dismissing.op.run.run unreachable = (.error e, s') ∧ unreachable.SameAnswers s' := by
  constructor
  · obtain ⟨e, s', hrun, -, -⟩ := run_dismissing_full
    obtain ⟨-, hfile⟩ := @Op.answers_of_failed dismissing.op trivial _ _ _ hrun
    obtain ⟨hanswers, hraises⟩ := (hfile ⟨Path.ofString "d.json", .empty, 0, false⟩ rfl rfl).2
      dismissed plan_dismissing
    exact ⟨e, s', hrun, hanswers, hraises _ _ _ rfl⟩
  · have hfails : ((dismissing.op.run.run unreachable).1.map fun _ => ()) =
        .error (.server "down") := by decide +kernel
    have hrun := Act.run_eq_of_fst (map_eq_error_iff.mp hfails)
    obtain ⟨hserver, -⟩ := @Op.answers_of_failed dismissing.op trivial _ _ _ hrun
    exact ⟨_, _, hrun, hserver "front:" rfl⟩

/-- Before the dismissal that finds no room the issue has no record. Afterwards it has one, and when the
dismissal is tried again and succeeds it counts two. -/
theorem not_sameAnswers_dismissing :
    ∃ e s', dismissing.op.run.run ⟨fresh, .full⟩ = (.error e, s') ∧
      ((find (Dedup.duplicate "a" 0).key).run (Session.healed ⟨fresh, .full⟩)).1 = .ok none ∧
      ((find (Dedup.duplicate "a" 0).key).run s'.healed).1 =
        .ok (some (dismissal none (.newYear 2024) 100 none)) ∧
      ∃ r s'', (dismiss (Dedup.duplicate "a" 0).key 100 none).run s' = (.ok r, s'') ∧ r.count = 2 := by
  have hkey := Dedup.printable_duplicate "a"
  obtain ⟨e, s', hrun, hbacking, hdisk⟩ := run_dismissing_full
  obtain ⟨⟨name, counters, backing⟩, world⟩ := s'
  obtain rfl : backing = .file ⟨Path.ofString "d.json", dismissed, 0, false⟩ := hbacking
  have hrecord : dismissed.get? (Text.ofString (Dedup.duplicate "a" 0).key.render) =
      some (dismissal none (.newYear 2024) 100 none) := by
    rw [dismissed, Table.get?_put, if_pos rfl]
  refine ⟨e, _, hrun, ?before, ?after, ?again⟩
  case before =>
    exact congrArg Prod.fst (run_find_file hkey)
  case after =>
    exact (congrArg Prod.fst (run_find_file hkey)).trans (congrArg Except.ok hrecord)
  case again =>
    -- The second attempt finds room.
    obtain ⟨place, hfree⟩ := @Disk.exists_writable_full { Disk.full with attempts := 1 } rfl
    have hseverity : Numeral.isWritable 100 = true := by decide +kernel
    have hcount : Numeral.isWritable 2 = true := by decide +kernel
    have hplain : Plain (dismissed.put (Text.ofString (Dedup.duplicate "a" 0).key.render)
        ⟨world.now, 100, 2⟩) := plain_dismissed.put _ ⟨hseverity, hcount⟩
    obtain ⟨cs, -, hoctets⟩ := hplain.octets
    obtain ⟨s'', hdismiss⟩ := @run_dismiss_of_writes name counters
      ⟨Path.ofString "d.json", dismissed, 0, false⟩ world _ hkey 100 none ⟨world.now, 100, 2⟩
      (by rw [hrecord]; rfl) rfl place ⟨congrArg Prod.snd hoctets, hdisk ▸ hfree, hdisk ▸ rfl⟩
    exact ⟨_, s'', hdismiss, rfl⟩

end IssueDigest
