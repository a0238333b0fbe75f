import IssueDigest.Cli.Request
import IssueDigest.Proofs.SecondRun
/-!
# Which issues a run marks

A run on a memory store dismisses the issues that are named, then aligns the duplicates, and only
then prints. Until then it is **silent**: of the world it changes the journal at most. This module
says which issues are dismissed when the printing starts. Everything named is dismissed at its own
severity, so of each bucket the first issue that is named is the one that leads it.
-/

namespace IssueDigest

open Store

/-! ### Silent actions -/

theorem Session.exists_of_memory {s : Session} (h : s.kind = .memory) :
    ∃ name counters records world, s = ⟨⟨name, counters, .memory records⟩, world⟩ := by
  obtain ⟨⟨name, counters, backing⟩, world⟩ := s
  cases backing with
  | memory records => exact ⟨name, counters, records, world, rfl⟩
  | file book => cases h
  | server front => cases h

/-- A memory store has no blocks to open or to leave. -/
theorem Store.run_batch_memory {α : Type} {body : Action α} {s s' : Session} {r : Except Fault α}
    (hkind : s.kind = .memory) (hrun : body.run s = (r, s')) (hkind' : s'.kind = .memory) :
    (batch body).run s = (r, s') := by
  have henter : enterBatch.run s = (.ok (), s) := by
    obtain ⟨name, counters, records, world, rfl⟩ := Session.exists_of_memory hkind
    rfl
  have hleave : leaveBatch.run s' = (.ok (), s') := by
    obtain ⟨name, counters, records, world, rfl⟩ := Session.exists_of_memory hkind'
    rfl
  rw [batch, Act.run_bind_ok henter, Act.run_andFinally hrun, hleave]

/-- Does the action, on a memory store, leave one and change nothing of the world but the journal? -/
def Action.Silent {α : Type} (x : Action α) : Prop :=
  ∀ name counters records world, ∃ r counters' records' journal,
    x.run ⟨⟨name, counters, .memory records⟩, world⟩ =
      (r, ⟨⟨name, counters', .memory records'⟩, { world with journal }⟩)

namespace Action.Silent

variable {α β : Type}

theorem pure (a : α) : Action.Silent (Pure.pure a) := fun _ counters records world =>
  ⟨.ok a, counters, records, world.journal, rfl⟩

theorem bind {x : Action α} {f : α → Action β} (hx : x.Silent) (hf : ∀ a, (f a).Silent) :
    Action.Silent (x >>= f) := by
  intro name counters records world
  obtain ⟨r, counters₁, records₁, journal₁, hrun⟩ := hx name counters records world
  cases r with
  | error e => exact ⟨.error e, counters₁, records₁, journal₁, Act.run_bind_error hrun⟩
  | ok a =>
    obtain ⟨r, counters₂, records₂, journal₂, hrun₂⟩ :=
      hf a name counters₁ records₁ { world with journal := journal₁ }
    exact ⟨r, counters₂, records₂, journal₂, (Act.run_bind_ok hrun).trans hrun₂⟩

theorem get : Action.Silent (MonadState.get : Action Session) := fun _ counters records world =>
  ⟨_, counters, records, world.journal, rfl⟩

theorem lift (x : Except Fault α) : Action.Silent (Act.lift x : Action α) := by
  intro name counters records world
  cases x with
  | ok a => exact ⟨.ok a, counters, records, world.journal, rfl⟩
  | error e => exact ⟨.error e, counters, records, world.journal, rfl⟩

theorem count (f : Counters → Counters) :
    Action.Silent (modify (Session.count · f)) := fun _ _ records world =>
  ⟨.ok (), _, records, world.journal, rfl⟩

theorem note (level : Level) (message : Text) (context : List (String × Json)) :
    Action.Silent (Store.note level message context) := fun _ counters records world =>
  ⟨.ok (), counters, records, (world.note level message context).journal, rfl⟩

theorem find (key : IssueKey) : Action.Silent (Store.find key) := fun _ counters records world =>
  ⟨_, counters, records, world.journal, rfl⟩

theorem keep (key : IssueKey) (r : Record) : Action.Silent (Store.keep key r) :=
  fun _ counters records world => ⟨_, counters, records.put key r, world.journal, rfl⟩

theorem isDismissed (key : IssueKey) (severity : Int) :
    Action.Silent (Store.isDismissed key severity) := by
  refine (count _).bind fun _ => (find key).bind fun r => ?_
  cases r with
  | none => exact pure false
  | some r => exact pure _

theorem copy (source target : IssueKey) : Action.Silent (Store.copy source target) := by
  refine (find source).bind fun r => ?_
  cases r with
  | none => exact get.bind fun _ => (lift _).bind fun _ => (lift _).bind fun _ => note _ _ _
  | some r => exact (keep target r).bind fun _ => count _

theorem dismiss (key : IssueKey) (severity : Int) (moment : Option Moment) :
    Action.Silent (Store.dismiss key severity moment) :=
  (find key).bind fun _ => get.bind fun _ => (keep key _).bind fun _ => get.bind fun _ =>
    (lift _).bind fun _ => (note _ _ _).bind fun _ => pure _

theorem close : Action.Silent Store.close :=
  fun _ counters records world => ⟨_, counters, records, world.journal, rfl⟩

theorem stats : Action.Silent Store.stats :=
  fun _ counters records world => ⟨_, counters, records, world.journal, rfl⟩

theorem closed : Action.Closed @Action.Silent :=
  ⟨pure, bind, fun key => lift key.write, note, isDismissed, copy⟩

theorem batch {body : Action α} (h : body.Silent) : Action.Silent (Store.batch body) := by
  intro name counters records world
  obtain ⟨r, counters', records', journal, hrun⟩ := h name counters records world
  exact ⟨r, counters', records', journal, Store.run_batch_memory rfl hrun rfl⟩

theorem dedup (issues : List Issue) : Action.Silent (Dedup.run issues) := by
  refine (note _ _ _).bind fun _ => (batch (closed.align _)).bind fun _ => ?_
  split
  · exact pure issues
  · exact (note _ _ _).bind fun _ => pure _

theorem applyDismissals (issues : List Issue) (names : List String) :
    Action.Silent (IssueDigest.applyDismissals issues names) := by
  induction names with
  | nil => exact pure ()
  | cons name names ih =>
    refine (lift _).bind fun key => ?_
    cases issueWithKey? issues key with
    | none => exact (note _ _ _).bind fun _ => ih
    | some i => exact (dismiss key i.severity none).bind fun _ => ih

/-- A silent action prints nothing. -/
theorem printed {x : Action α} (hx : x.Silent) {s s' : Session} {r : Except Fault α}
    (hkind : s.kind = .memory) (h : x.run s = (r, s')) :
    s'.kind = .memory ∧ s'.world.printed = s.world.printed := by
  obtain ⟨name, counters, records, world, rfl⟩ := Session.exists_of_memory hkind
  obtain ⟨r', counters', records', journal, hrun⟩ := hx name counters records world
  obtain ⟨-, rfl⟩ := Prod.mk.inj (hrun.symm.trans h)
  exact ⟨rfl, rfl⟩

end Action.Silent

/-! ### Dismissing what is named -/

/-- Does one of the names read as the key? -/
def namesKey (names : List String) (key : IssueKey) : Bool :=
  names.any fun name => decide (IssueKey.read name = .ok key)

variable {issues : List Issue}

theorem issueWithKey?_eq_some {key : IssueKey} {i : Issue} (h : issueWithKey? issues key = some i) :
    i ∈ issues ∧ i.key = key :=
  ⟨List.mem_reverse.mp (List.mem_of_find?_eq_some h), by simpa using List.find?_some h⟩

theorem issueWithKey?_eq_none {key : IssueKey} (h : issueWithKey? issues key = none) :
    ∀ i ∈ issues, i.key ≠ key := fun i hi => by
  simpa using List.find?_eq_none.mp h i (List.mem_reverse.mpr hi)

/-- A dismissal that comes back has spelled the key. -/
theorem Store.printable_of_dismiss {s s' : Session} {key : IssueKey} {severity : Int}
    {moment : Option Moment} {r : Record}
    (h : (dismiss key severity moment).run s = (.ok r, s')) : key.Printable := by
  obtain ⟨_, s₁, -, h⟩ := Act.run_bind_eq_ok h
  obtain ⟨_, s₂, -, h⟩ := Act.run_bind_eq_ok h
  obtain ⟨_, s₃, -, h⟩ := Act.run_bind_eq_ok h
  obtain ⟨_, s₄, -, h⟩ := Act.run_bind_eq_ok h
  obtain ⟨text, hwrite, -⟩ := Act.run_lift_bind_eq_ok h
  by_contra hkey
  cases (IssueKey.write_of_not_printable hkey).symm.trans hwrite

/-- An issue that is dismissed at its own severity is dismissed, and so are those that were. -/
theorem Store.dismissed_of_dismiss {s s' : Session} (hs : s.Works) (hkind : s.kind = .memory)
    (hkeys : (issues.map Issue.key).Nodup) {i : Issue} (hi : i ∈ issues) {r : Record}
    (h : (dismiss i.key i.severity none).run s = (.ok r, s')) :
    s.Evolves s' ∧ ∀ j ∈ issues,
      s'.ledger.dismissed j = (s.ledger.dismissed j || decide (i.key = j.key)) := by
  have htakes (r : Record) : s.Takes r := by
    rw [Session.Takes, hkind]
    trivial
  obtain ⟨s₁, hrun, hevolves, hledger⟩ := dismiss_yields hs (printable_of_dismiss h) (htakes _)
  obtain ⟨hr, rfl⟩ := Prod.mk.inj (hrun.symm.trans h)
  refine ⟨hevolves, fun j hj => ?_⟩
  rw [hledger]
  by_cases hkey : i.key = j.key
  · obtain rfl := List.inj_on_of_nodup_map hkeys hi hj hkey
    simp [Ledger.dismissed, Ledger.covers, Record.covers, dismissal]
  · have hsame : (s.ledger.set i.key (some r)).records j.key = s.ledger.records j.key := by
      rw [Ledger.records_set, Function.update_of_ne (Ne.symm hkey)]
    rw [Except.ok.inj hr, Ledger.dismissed_congr hsame]
    simp [hkey]

/-- **What is named is dismissed**, and what was dismissed. -/
theorem dismissed_of_applyDismissals {names : List String} {s s' : Session} (hs : s.Works)
    (hkind : s.kind = .memory) (hkeys : (issues.map Issue.key).Nodup)
    (h : (applyDismissals issues names).run s = (.ok (), s')) :
    s.Evolves s' ∧ ∀ i ∈ issues,
      s'.ledger.dismissed i = (s.ledger.dismissed i || namesKey names i.key) := by
  induction names generalizing s with
  | nil =>
    obtain ⟨-, rfl⟩ := Prod.mk.inj h
    exact ⟨.refl hs, fun i _ => by simp [namesKey]⟩
  | cons name names ih =>
    obtain ⟨key, hread, h⟩ := Act.run_lift_bind_eq_ok h
    have hcons (i : Issue) : namesKey (name :: names) i.key =
        (decide (key = i.key) || namesKey names i.key) := by
      have hname : decide (IssueKey.read name = .ok i.key) = decide (key = i.key) := by
        rw [decide_eq_decide, hread, Except.ok.injEq]
      rw [namesKey, List.any_cons, hname, namesKey]
    cases hfound : issueWithKey? issues key with
    | none =>
      rw [hfound] at h
      obtain ⟨⟨⟩, s₁, hnote, h⟩ := Act.run_bind_eq_ok h
      obtain ⟨s₂, hrun, hevolves, hledger⟩ := note_yields hs _ _ _
      obtain rfl : s₂ = s₁ := (Prod.mk.inj (hrun.symm.trans hnote)).2
      obtain ⟨hevolves', hdismissed⟩ := ih hevolves.works (hevolves.kind.trans hkind) h
      refine ⟨hevolves.trans hevolves', fun i hi => ?_⟩
      have hkey : ¬key = i.key := fun heq => issueWithKey?_eq_none hfound i hi heq.symm
      rw [hdismissed i hi, hledger, hcons]
      simp [hkey]
    | some j =>
      rw [hfound] at h
      obtain ⟨hj, rfl⟩ := issueWithKey?_eq_some hfound
      obtain ⟨r, s₁, hdismiss, h⟩ := Act.run_bind_eq_ok h
      obtain ⟨hevolves, hone⟩ := dismissed_of_dismiss hs hkind hkeys hj hdismiss
      obtain ⟨hevolves', hdismissed⟩ := ih hevolves.works (hevolves.kind.trans hkind) h
      refine ⟨hevolves.trans hevolves', fun i hi => ?_⟩
      rw [hdismissed i hi, hone i hi, hcons, Bool.or_assoc]

/-! ### Aligning the duplicates -/

/-- After a run an issue is dismissed if it was, or if it is no more severe than the leader of its
bucket. -/
theorem Dedup.dismissed_settle_iff {l : Ledger} (hkeys : (issues.map Issue.key).Nodup) {i : Issue}
    (hi : i ∈ issues) :
    (settle l issues).dismissed i = true ↔ l.dismissed i = true ∨
      ∃ d leader, i.dedupKey? = some d ∧ l.leader? (bucketOf issues d) = some leader ∧
        i.severity ≤ leader.severity := by
  cases hd : i.dedupKey? with
  | none =>
    have hsame : (settle l issues).records i.key = l.records i.key := by
      refine records_alignAll_buckets_of_notMem fun d j hj heq => ?_
      obtain ⟨hj, hjd⟩ := mem_bucketOf.mp hj
      obtain rfl := List.inj_on_of_nodup_map hkeys hj hi heq
      cases hd.symm.trans hjd
    rw [Ledger.dismissed_congr hsame]
    simp
  | some d =>
    rw [settle, dismissed_alignAll_iff hkeys (mem_bucketOf.mpr ⟨hi, hd⟩)]
    simp

end IssueDigest
