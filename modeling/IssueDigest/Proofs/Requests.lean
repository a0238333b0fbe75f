import IssueDigest.Proofs.Backends
import IssueDigest.Proofs.FailedChanges
import IssueDigest.Proofs.KeyGrammar
/-!
# What requests leave

Issues are dismissed by the texts that a user gives, one after the other. This module says what the
store holds afterwards, for each key by itself: the record of a listed issue counts the texts that
denote it, however each of them is spelled, and shows the moment of the last; a text that denotes no
listed issue is only logged.

Each dismissal looks at the clock, and time goes on between them. So the texts are followed as
**requests**, each with the moment that the clock shows when its turn comes; where the clock stands
still, requests are what `applyDismissals` does with their texts. What carries the induction is
`recordAfter`, to which a request at the end adds one more dismissal.
-/

namespace IssueDigest

open Store

/-- A text that is to name an issue, and the moment that the clock shows when its turn comes. -/
structure Request where
  now : Moment
  name : String
  deriving DecidableEq

namespace Request

/-- Dismisses the issue named while the clock shows the moment. -/
def run (issues : List Issue) (r : Request) : Action Unit := do
  modify (Session.atMoment · r.now)
  applyDismissals issues [r.name]

/-- Each request in its turn. -/
def runAll (issues : List Issue) : List Request → Action Unit
  | [] => pure ()
  | r :: rest => do
    r.run issues
    runAll issues rest

/-- Does the text stand for the key? -/
def denotes (key : IssueKey) (r : Request) : Bool := decide (IssueKey.read r.name = .ok key)

/-- The requests whose texts stand for the key. -/
def denoting (requests : List Request) (key : IssueKey) : List Request :=
  requests.filter (denotes key)

/-- The record of a key once the store has been through the requests. -/
def recordAfter (s : Session) (issues : List Issue) (requests : List Request) (key : IssueKey) :
    Option Record :=
  match issueWithKey? issues key, (denoting requests key).getLast? with
  | some i, some last =>
    some ⟨last.now, i.severity, s.times key + (denoting requests key).length⟩
  | _, _ => s.record? key

variable {issues : List Issue} {requests : List Request} {r : Request} {key : IssueKey}
  {s s' : Session} {i : Issue}

/-! ### One more request -/

theorem denotes_of_read (h : IssueKey.read r.name = .ok key) (key' : IssueKey) :
    denotes key' r = decide (key = key') := by
  rw [denotes, h, decide_eq_decide, Except.ok.injEq]

theorem denoting_snoc (requests : List Request) (r : Request) (key : IssueKey) :
    denoting (requests ++ [r]) key = denoting requests key ++ if denotes key r then [r] else [] := by
  rw [denoting, List.filter_append, denoting, List.filter_singleton]
  cases denotes key r <;> rfl

/-- Without requests for it the record of a key is what it was. -/
theorem recordAfter_of_nil (h : denoting requests key = []) :
    recordAfter s issues requests key = s.record? key := by
  rw [recordAfter, h]
  cases issueWithKey? issues key <;> rfl

theorem recordAfter_of_unknown (h : issueWithKey? issues key = none) :
    recordAfter s issues requests key = s.record? key := by
  rw [recordAfter, h]

theorem recordAfter_of_last {last : Request} (hissue : issueWithKey? issues key = some i)
    (hlast : (denoting requests key).getLast? = some last) :
    recordAfter s issues requests key =
      some ⟨last.now, i.severity, s.times key + (denoting requests key).length⟩ := by
  rw [recordAfter, hissue, hlast]

/-- A listed issue has then been dismissed once more for each request that denotes it. -/
theorem times_of_recordAfter (hissue : issueWithKey? issues key = some i)
    (h : s'.record? key = recordAfter s issues requests key) :
    s'.times key = s.times key + (denoting requests key).length := by
  cases hlast : (denoting requests key).getLast? with
  | none =>
    have hnil := List.getLast?_eq_none_iff.mp hlast
    rw [recordAfter_of_nil hnil] at h
    rw [Session.times, h, Session.times, hnil]
    exact (Int.add_zero _).symm
  | some last =>
    rw [recordAfter_of_last hissue hlast] at h
    rw [Session.times, h]

/-- **One more request** for a listed issue leaves the record that a dismissal leaves. -/
theorem recordAfter_snoc (hissue : issueWithKey? issues key = some i) (hr : denotes key r = true)
    (h : s'.record? key = recordAfter s issues requests key) :
    recordAfter s issues (requests ++ [r]) key =
      some (dismissal (s'.record? key) r.now i.severity none) := by
  have hdenoting : denoting (requests ++ [r]) key = denoting requests key ++ [r] := by
    rw [denoting_snoc, if_pos hr]
  rw [recordAfter_of_last hissue (by rw [hdenoting, List.getLast?_concat]), hdenoting,
    Session.dismissal_record?, times_of_recordAfter hissue h, List.length_append, Int.add_assoc]
  rfl

theorem recordAfter_snoc_of_not (hr : denotes key r = false) :
    recordAfter s issues (requests ++ [r]) key = recordAfter s issues requests key := by
  have hdenoting : denoting (requests ++ [r]) key = denoting requests key := by
    rw [denoting_snoc, hr]
    exact List.append_nil _
  rw [recordAfter, hdenoting, recordAfter]

/-! ### Runs of texts and requests -/

/-- The first text is applied by itself, and the others behind it. -/
theorem run_applyDismissals_cons (name : String) (rest : List String) (s : Session) :
    (applyDismissals issues (name :: rest)).run s =
      (applyDismissals issues [name] >>= fun _ => applyDismissals issues rest).run s := by
  rw [applyDismissals, applyDismissals]
  cases hread : IssueKey.read name with
  | error e => rfl
  | ok key =>
    rw [Act.run_bind, Act.run_bind, Act.run_bind, Act.run_lift_ok]
    dsimp only
    cases issueWithKey? issues key with
    | none => rfl
    | some i =>
      rw [Act.run_bind, Act.run_bind]
      cases (dismiss key i.severity none).run s with
      | mk result s₁ => cases result <;> rfl

/-- More texts are applied after those in front of them. -/
theorem run_applyDismissals_append {s₁ : Session} {names : List String} (rest : List String)
    (h : (applyDismissals issues names).run s = (.ok (), s₁)) :
    (applyDismissals issues (names ++ rest)).run s = (applyDismissals issues rest).run s₁ := by
  induction names generalizing s with
  | nil =>
    obtain ⟨-, rfl⟩ := Prod.mk.inj h
    rfl
  | cons name names ih =>
    rw [run_applyDismissals_cons] at h
    obtain ⟨⟨⟩, s₂, hfirst, hrest⟩ := Act.run_bind_eq_ok h
    rw [List.cons_append, run_applyDismissals_cons, Act.run_bind_ok hfirst, ih hrest]

theorem run_runAll_snoc {s₁ s₂ : Session} (h : (runAll issues requests).run s = (.ok (), s₁))
    (hr : (r.run issues).run s₁ = (.ok (), s₂)) :
    (runAll issues (requests ++ [r])).run s = (.ok (), s₂) := by
  induction requests generalizing s with
  | nil =>
    obtain ⟨-, rfl⟩ := Prod.mk.inj h
    exact Act.run_bind_ok hr
  | cons first requests ih =>
    obtain ⟨⟨⟩, s₃, hfirst, hrest⟩ := Act.run_bind_eq_ok h
    exact (Act.run_bind_ok hfirst).trans (ih hrest)

/-- A text that denotes no listed issue is logged, and that is all. -/
theorem run_applyDismissals_unknown {name : String} (hread : IssueKey.read name = .ok key)
    (hunknown : issueWithKey? issues key = none) (s : Session) :
    (applyDismissals issues [name]).run s = (.ok (), { s with
      world := s.world.note .warning "Cannot dismiss unknown issue" [("issue_key", .string name)] }) := by
  rw [applyDismissals, hread, Act.run_bind_ok (Act.run_lift_ok key s), hunknown]
  rfl

/-- **One text** on a store that works: the issue it denotes, if there is one, is dismissed. -/
theorem run_applyDismissals_known {name : String} (hs : s.Works) (hread : IssueKey.read name = .ok key)
    (hknown : issueWithKey? issues key = some i)
    (htakes : s.Takes (dismissal (s.record? key) s.world.now i.severity none)) :
    s.Yields (applyDismissals issues [name]) ()
      (s.ledger.set key (some (dismissal (s.record? key) s.world.now i.severity none))) := by
  have hdismiss : s.Yields (dismiss key i.severity none) _
      (s.ledger.set key (some (dismissal (s.record? key) s.world.now i.severity none))) :=
    dismiss_yields hs (IssueKey.of_read hread).2.2 htakes
  refine .lift_bind hread ?_
  rw [hknown]
  refine hdismiss.bind fun s₁ hs₁ hl => ?_
  rw [← hl]
  exact .pure hs₁.works ()

/-! ### All requests -/

/-- Can the store keep the record that each dismissal leaves when its turn comes? -/
def TakesAll (s : Session) (issues : List Issue) (requests : List Request) : Prop :=
  ∀ front r back, requests = front ++ r :: back → ∀ key i, IssueKey.read r.name = .ok key →
    issueWithKey? issues key = some i →
      s.Takes ⟨r.now, i.severity, s.times key + (denoting front key).length + 1⟩

theorem TakesAll.init (h : TakesAll s issues (requests ++ [r])) : TakesAll s issues requests := by
  rintro front r' back rfl
  exact h front r' (back ++ [r]) (by rw [List.append_assoc, List.cons_append])

theorem takesAll_singleton (h : ∀ key i, IssueKey.read r.name = .ok key →
    issueWithKey? issues key = some i → s.Takes ⟨r.now, i.severity, s.times key + 1⟩) :
    TakesAll s issues [r] := by
  intro front r' back hsplit key i hread hissue
  obtain ⟨rfl, hsplit⟩ | ⟨front', rfl, hsplit⟩ := List.cons_eq_append_iff.mp hsplit
  · obtain ⟨rfl, -⟩ := List.cons.inj hsplit
    simpa [denoting] using h key i hread hissue
  · cases front' <;> cases hsplit

/-- What a store has become that has been through requests: it works as it did, and every key has the
record that they leave. -/
structure Leaves (s : Session) (issues : List Issue) (requests : List Request) (s' : Session) : Prop
    where
  works : s'.Works
  kind : s'.kind = s.kind
  counters : s'.store.counters = s.store.counters
  record? : ∀ key, s'.record? key = recordAfter s issues requests key

/-- **A request** at the end of others. -/
theorem Leaves.snoc {s₁ : Session} (h : Leaves s issues requests s₁)
    (hread : IssueKey.read r.name = .ok key)
    (htakes : ∀ i, issueWithKey? issues key = some i →
      s.Takes ⟨r.now, i.severity, s.times key + (denoting requests key).length + 1⟩) :
    ∃ s₂, (r.run issues).run s₁ = (.ok (), s₂) ∧ s₂.world.now = r.now ∧
      Leaves s issues (requests ++ [r]) s₂ := by
  have hother {key' : IssueKey} (hne : key' ≠ key) :
      recordAfter s issues (requests ++ [r]) key' = recordAfter s issues requests key' :=
    recordAfter_snoc_of_not ((denotes_of_read hread key').trans (decide_eq_false (Ne.symm hne)))
  cases hissue : issueWithKey? issues key with
  | none =>
    refine ⟨_, run_applyDismissals_unknown hread hissue (s₁.atMoment r.now), rfl,
      h.works.atMoment r.now, h.kind, h.counters, fun key' => ?_⟩
    refine (h.record? key').trans ?_
    by_cases hkey : key' = key
    · subst hkey
      rw [recordAfter_of_unknown hissue, recordAfter_of_unknown hissue]
    · rw [hother hkey]
  | some i =>
    have hrecord : dismissal (s₁.record? key) r.now i.severity none =
        ⟨r.now, i.severity, s.times key + (denoting requests key).length + 1⟩ := by
      rw [Session.dismissal_record?, times_of_recordAfter hissue (h.record? key)]
      rfl
    have hkept : (s₁.atMoment r.now).Takes (dismissal (s₁.record? key) r.now i.severity none) := by
      have hkind : (s₁.atMoment r.now).kind = s.kind := h.kind
      rw [hrecord, Session.Takes, hkind]
      exact htakes i hissue
    obtain ⟨s₂, hrun, hevolves, hl⟩ :=
      run_applyDismissals_known (h.works.atMoment r.now) hread hissue hkept
    refine ⟨s₂, hrun, hevolves.now, hevolves.works, hevolves.kind.trans h.kind, ?_, fun key' => ?_⟩
    · rw [← Session.counters_ledger, hl]
      exact h.counters
    · rw [← Session.records_ledger, hl, Ledger.records_set]
      by_cases hkey : key' = key
      · subst hkey
        rw [Function.update_self, recordAfter_snoc hissue
          ((denotes_of_read hread key').trans (decide_eq_true rfl)) (h.record? key')]
        rfl
      · rw [Function.update_of_ne hkey, hother hkey]
        exact h.record? key'

/-- **The requests are followed** to their end, on a store that works and can keep what they leave.
While the clock stands still that is what is done with their texts. -/
theorem run_runAll_leaves (hs : s.Works) (hread : ∀ r ∈ requests, ∃ key, IssueKey.read r.name = .ok key)
    (htakes : TakesAll s issues requests) :
    ∃ s', (runAll issues requests).run s = (.ok (), s') ∧ Leaves s issues requests s' ∧
      ((∀ r ∈ requests, r.now = s.world.now) → s'.world.now = s.world.now ∧
        (applyDismissals issues (requests.map name)).run s = (.ok (), s')) := by
  induction requests using List.reverseRecOn with
  | nil => exact ⟨s, rfl, ⟨hs, rfl, rfl, fun key => (recordAfter_of_nil rfl).symm⟩, fun _ => ⟨rfl, rfl⟩⟩
  | append_singleton requests r ih =>
    obtain ⟨s₁, hrun, hleaves, hstill⟩ :=
      ih (fun r' hr' => hread r' (List.mem_append_left _ hr')) htakes.init
    obtain ⟨key, hkey⟩ := hread r (List.mem_append_right _ List.mem_cons_self)
    obtain ⟨s₂, hrun₂, hnow₂, hleaves₂⟩ := hleaves.snoc hkey fun i hi =>
      htakes requests r [] rfl key i hkey hi
    refine ⟨s₂, run_runAll_snoc hrun hrun₂, hleaves₂, fun hclock => ?_⟩
    obtain ⟨hnow₁, happly⟩ := hstill fun r' hr' => hclock r' (List.mem_append_left _ hr')
    have hr : r.now = s.world.now := hclock r (List.mem_append_right _ List.mem_cons_self)
    -- The clock is set to what it shows.
    have hsame : s₁.atMoment r.now = s₁ := by
      rw [hr, ← hnow₁]
      rfl
    have hrun₂ : (applyDismissals issues [r.name]).run (s₁.atMoment r.now) = (.ok (), s₂) := hrun₂
    refine ⟨hnow₂.trans hr, ?_⟩
    rw [List.map_append, run_applyDismissals_append _ happly, ← hsame]
    exact hrun₂

/-- **Texts are applied** to their end while the clock stands still. -/
theorem applyDismissals_leaves {names : List String} (hs : s.Works)
    (hread : ∀ name ∈ names, ∃ key, IssueKey.read name = .ok key)
    (htakes : TakesAll s issues (names.map (⟨s.world.now, ·⟩))) :
    ∃ s', (applyDismissals issues names).run s = (.ok (), s') ∧
      Leaves s issues (names.map (⟨s.world.now, ·⟩)) s' := by
  obtain ⟨s', -, hleaves, hstill⟩ := run_runAll_leaves hs (List.forall_mem_map.mpr hread) htakes
  obtain ⟨-, hrun⟩ := hstill (List.forall_mem_map.mpr fun _ _ => rfl)
  have hnames : (names.map (⟨s.world.now, ·⟩ : String → Request)).map name = names := by
    rw [List.map_map]
    exact List.map_id names
  rw [hnames] at hrun
  exact ⟨s', hrun, hleaves⟩

theorem issueWithKey?_of_mem (hkeys : (issues.map Issue.key).Nodup) (hi : i ∈ issues) :
    issueWithKey? issues i.key = some i := by
  cases hfound : issueWithKey? issues i.key with
  | none => exact absurd rfl (issueWithKey?_eq_none hfound i hi)
  | some j =>
    obtain ⟨hj, hkey⟩ := issueWithKey?_eq_some hfound
    rw [List.inj_on_of_nodup_map hkeys hj hi hkey]

theorem issueWithKey?_of_notMem (h : ∀ i ∈ issues, i.key ≠ key) : issueWithKey? issues key = none :=
  List.find?_eq_none.mpr fun i hi => by simpa using h i (List.mem_reverse.mp hi)

/-- **What requests leave**, on a store that works. A listed issue that some of them denote has the
record of the last one, at its own severity, and counts as many dismissals more; every other record is
what it was. A text that denotes no listed issue is logged and nothing else, and the text of a listed
key denotes it. -/
theorem runAll_effect (hs : s.Works) (hkeys : (issues.map Issue.key).Nodup)
    (hids : ∀ i ∈ issues, i.key.source ≠ "" ∧ i.key.issue ≠ "")
    (hread : ∀ r ∈ requests, ∃ key, IssueKey.read r.name = .ok key)
    (htakes : TakesAll s issues requests) :
    ∃ s', (runAll issues requests).run s = (.ok (), s') ∧
      ((∀ r ∈ requests, r.now = s.world.now) →
        (applyDismissals issues (requests.map name)).run s = (.ok (), s')) ∧
      (∀ i ∈ issues, ∀ last, (denoting requests i.key).getLast? = some last → s'.record? i.key =
        some ⟨last.now, i.severity, s.times i.key + (denoting requests i.key).length⟩) ∧
      (∀ key, (∀ i ∈ issues, i.key = key → denoting requests key = []) →
        s'.record? key = s.record? key) ∧
      s'.store.counters = s.store.counters ∧
      (∀ name key, IssueKey.read name = .ok key → (∀ i ∈ issues, i.key ≠ key) → ∀ s₁ : Session,
        ∃ journal, (applyDismissals issues [name]).run s₁ =
          (.ok (), { s₁ with world := { s₁.world with journal } })) ∧
      ∀ i ∈ issues, ∀ text, i.key.write = .ok text → IssueKey.read text = .ok i.key := by
  obtain ⟨s', hrun, hleaves, hstill⟩ := run_runAll_leaves hs hread htakes
  refine ⟨s', hrun, fun hclock => (hstill hclock).2, ?_, ?_, hleaves.counters, ?_, ?_⟩
  · intro i hi last hlast
    rw [hleaves.record?, recordAfter_of_last (issueWithKey?_of_mem hkeys hi) hlast]
  · intro key hkey
    rw [hleaves.record?]
    cases hissue : issueWithKey? issues key with
    | none => exact recordAfter_of_unknown hissue
    | some i =>
      obtain ⟨hi, hsame⟩ := issueWithKey?_eq_some hissue
      exact recordAfter_of_nil (hkey i hi hsame)
  · intro name key hname hunknown s₁
    exact ⟨_, run_applyDismissals_unknown hname (issueWithKey?_of_notMem hunknown) s₁⟩
  · intro i hi text hwrite
    obtain ⟨hsource, hissue⟩ := hids i hi
    have hprintable : i.key.Printable := by
      by_contra hnot
      cases (IssueKey.write_of_not_printable hnot).symm.trans hwrite
    rw [IssueKey.eq_render_of_write hwrite, IssueKey.read_render_of_ids hsource hissue hprintable]

/-- Two issues are listed. -/
def pair : List Issue := [Dedup.duplicate "a" 0, Dedup.duplicate "b" 0]

/-- The first of them is named twice in different spellings, and then an issue that is not listed. -/
def spellings : List Request :=
  [⟨.newYear 2024, "s/a"⟩, ⟨.newYear 2025, "%73/%61/ +٠"⟩, ⟨.newYear 2026, "s/a%2F"⟩]

/-- The issue had been dismissed once, and the clock goes on. -/
theorem runAll_effect_spellings :
    ∃ s', (runAll pair spellings).run (Dedup.holding (Dedup.duplicate "a" 0)) = (.ok (), s') ∧
      s'.record? (Dedup.duplicate "a" 0).key = some ⟨.newYear 2025, 100, 3⟩ ∧
      s'.record? (Dedup.duplicate "b" 0).key = none ∧ s'.record? ⟨"s", "a/", 0⟩ = none := by
  have hread : ∀ r ∈ spellings, ∃ key, IssueKey.read r.name = .ok key := by
    intro r hr
    simp only [spellings, List.mem_cons, List.not_mem_nil, or_false] at hr
    rcases hr with rfl | rfl | rfl
    · exact ⟨⟨"s", "a", 0⟩, by decide +kernel⟩
    · exact ⟨⟨"s", "a", 0⟩, by decide +kernel⟩
    · exact ⟨⟨"s", "a/", 0⟩, by decide +kernel⟩
  have hkeys : (pair.map Issue.key).Nodup := by decide +kernel
  obtain ⟨s', hrun, -, hlisted, hother, -⟩ :=
    runAll_effect (s := Dedup.holding (Dedup.duplicate "a" 0)) trivial hkeys (by decide +kernel) hread
      (fun _ _ _ _ _ _ _ _ => trivial)
  refine ⟨s', hrun, ?_, ?_, ?_⟩
  · rw [hlisted _ List.mem_cons_self ⟨.newYear 2025, "%73/%61/ +٠"⟩ (by decide +kernel)]
    decide +kernel
  · rw [hother _ (by decide +kernel)]
    decide +kernel
  · rw [hother _ (by decide +kernel)]
    decide +kernel

end Request

end IssueDigest
