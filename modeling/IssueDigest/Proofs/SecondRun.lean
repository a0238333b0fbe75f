import IssueDigest.Proofs.Survivors
/-!
# A second run on the same list

A run dismisses issues, so a second run on the whole list may find another leader: an issue in front
of the first leader that the first run has dismissed. It changes nothing all the same. Such a leader
follows the first one and holds its record, and whoever follows it either is the first leader or
followed that one already, so the record that is lent once more is the one that is there
(`leader?_again`).

The same two facts show that a second run spells no key that the first one did not spell, so it comes
back if the first one did. If the first one is cut short, though, it may have moved the leader and not
reached everybody, and then the second run goes on where the first one stopped. What can be said of it
all the same is said of any ledger that is on its way from one to the other (`Midway`).
-/

namespace IssueDigest

namespace Ledger

variable {l l' : Ledger} {bucket : List Issue}

/-- Who follows a follower is the leader or follows the leader, too. -/
theorem follows_trans {leader i j : Issue} (hi : follows leader i = true)
    (hj : follows i j = true) : j.key = leader.key ∨ follows leader j = true := by
  simp only [follows, Bool.and_eq_true, decide_eq_true_eq] at hi hj ⊢
  by_cases hkey : j.key = leader.key
  · exact Or.inl hkey
  · exact Or.inr ⟨hkey, le_trans hj.2 hi.2⟩

/-! ### The leader when more issues are dismissed -/

/-- If none has lost its dismissal the new leader is the old one, or was not dismissed before. -/
theorem leader?_of_kept (hkept : ∀ i ∈ bucket, l.dismissed i = true → l'.dismissed i = true)
    {leader leader' : Issue} (h : l.leader? bucket = some leader)
    (h' : l'.leader? bucket = some leader') : leader' = leader ∨ l.dismissed leader' = false := by
  induction bucket with
  | nil => cases h
  | cons i rest ih =>
    cases hbefore : l.dismissed i with
    | true =>
      have hafter := hkept i List.mem_cons_self hbefore
      rw [leader?_cons_of_dismissed hbefore] at h
      rw [leader?_cons_of_dismissed hafter] at h'
      exact Or.inl ((Option.some.inj h').symm.trans (Option.some.inj h))
    | false =>
      rw [leader?_cons_of_not_dismissed hbefore] at h
      cases hafter : l'.dismissed i with
      | true =>
        rw [leader?_cons_of_dismissed hafter] at h'
        exact Or.inr (Option.some.inj h' ▸ hbefore)
      | false =>
        rw [leader?_cons_of_not_dismissed hafter] at h'
        exact ih (fun j hj => hkept j (List.mem_cons_of_mem _ hj)) h h'

/-- And it is found no later. -/
theorem examined_le_of_kept (hkept : ∀ i ∈ bucket, l.dismissed i = true → l'.dismissed i = true) :
    l'.examined bucket ≤ l.examined bucket := by
  induction bucket with
  | nil => exact Nat.le_refl _
  | cons i rest ih =>
    cases hafter : l'.dismissed i with
    | true =>
      rw [examined_cons_of_dismissed hafter]
      cases hbefore : l.dismissed i with
      | true => rw [examined_cons_of_dismissed hbefore]
      | false => rw [examined_cons_of_not_dismissed hbefore]; exact Nat.le_add_left _ _
    | false =>
      have hbefore : l.dismissed i = false := by
        rw [← Bool.not_eq_true]
        intro hdismissed
        rw [hkept i List.mem_cons_self hdismissed] at hafter
        cases hafter
      rw [examined_cons_of_not_dismissed hafter, examined_cons_of_not_dismissed hbefore]
      exact Nat.add_le_add_right (ih fun j hj => hkept j (List.mem_cons_of_mem _ hj)) 1

end Ledger

namespace Dedup

open Session Ledger

variable {issues : List Issue} {l : Ledger}

/-- What a run leaves of a ledger. -/
def settle (l : Ledger) (issues : List Issue) : Ledger :=
  l.alignAll ((buckets issues).map Prod.snd)

/-- Has each record either stayed as it was or become what a run leaves? -/
def Midway (issues : List Issue) (l l' : Ledger) : Prop :=
  ∀ key, l'.records key = l.records key ∨ l'.records key = (settle l issues).records key

/-- A run that has come to its end is on its way, too. -/
theorem midway_settle (issues : List Issue) (l : Ledger) : Midway issues l (settle l issues) :=
  fun _ => .inr rfl

section Again

variable {l' : Ledger} (hkeys : (issues.map Issue.key).Nodup) {d : DedupKey}

include hkeys

/-- After a run the leader and all who follow it have the record of the leader. -/
theorem records_settle_of_follows {leader i : Issue}
    (h : l.leader? (bucketOf issues d) = some leader) (hi : i ∈ bucketOf issues d)
    (hfollows : i.key = leader.key ∨ follows leader i = true) :
    (settle l issues).records i.key = l.records leader.key := by
  have hrecord := records_alignAll_buckets (l := l) hkeys hi
  rw [h] at hrecord
  rw [settle, hrecord]
  rcases hfollows with hkey | hfollows
  · simp [hkey]
  · simp [hfollows]

/-- A run leaves the record of an issue that follows nobody. -/
theorem records_settle_of_not_follows {i : Issue} (hi : i ∈ bucketOf issues d)
    (h : ∀ leader, l.leader? (bucketOf issues d) = some leader → ¬follows leader i = true) :
    (settle l issues).records i.key = l.records i.key := by
  rw [settle, records_alignAll_buckets hkeys hi]
  cases hleader : l.leader? (bucketOf issues d) with
  | none => rfl
  | some leader => exact if_neg (h leader hleader)

theorem dismissed_of_midway (h : Midway issues l l') {i : Issue} (hi : i ∈ bucketOf issues d)
    (hdismissed : l.dismissed i = true) : l'.dismissed i = true := by
  rcases h i.key with hsame | hsettled
  · rwa [dismissed_congr hsame]
  · rw [dismissed_congr hsettled]
    exact (dismissed_alignAll_iff hkeys hi).mpr (Or.inl hdismissed)

/-- Without a leader the bucket stays as it was, and gets no leader. -/
theorem leader?_of_midway_of_none (h : Midway issues l l')
    (hnone : l.leader? (bucketOf issues d) = none) : l'.leader? (bucketOf issues d) = none := by
  refine (leader?_congr fun i hi => ?_).trans hnone
  have hsettle : (settle l issues).records i.key = l.records i.key :=
    records_settle_of_not_follows hkeys hi fun leader hleader => by
      rw [hnone] at hleader
      cases hleader
  exact (h i.key).elim id fun hsettled => hsettled.trans hsettle

/-- **The leader of a second run** is that of the first or follows it, and has its record. -/
theorem leader?_again (h : Midway issues l l') {leader' : Issue}
    (h' : l'.leader? (bucketOf issues d) = some leader') :
    ∃ leader, l.leader? (bucketOf issues d) = some leader ∧
      (leader' = leader ∨ follows leader leader' = true) ∧
      l'.records leader'.key = l.records leader.key := by
  cases hleader : l.leader? (bucketOf issues d) with
  | none =>
    rw [leader?_of_midway_of_none hkeys h hleader] at h'
    cases h'
  | some leader =>
    refine ⟨leader, rfl, ?_⟩
    have hmem := mem_of_leader? hleader
    have hmem' := mem_of_leader? h'
    rcases leader?_of_kept (fun i hi => dismissed_of_midway hkeys h hi) hleader h' with rfl | hnew
    · have hsettle := records_settle_of_follows hkeys hleader hmem (.inl rfl)
      exact ⟨.inl rfl, (h leader'.key).elim id fun hsettled => hsettled.trans hsettle⟩
    -- It was not dismissed before, so it owes its dismissal to the first leader.
    · have hsettled : l'.records leader'.key = (settle l issues).records leader'.key := by
        refine (h leader'.key).resolve_left fun hsame => ?_
        rw [← dismissed_congr hsame, dismissed_of_leader? h'] at hnew
        cases hnew
      have hfollows : follows leader leader' = true := by
        by_contra hnot
        have hsettle : (settle l issues).records leader'.key = l.records leader'.key :=
          records_settle_of_not_follows hkeys hmem' fun first hfirst => by
            rwa [Option.some.inj (hfirst.symm.trans hleader)]
        rw [← dismissed_congr (hsettled.trans hsettle), dismissed_of_leader? h'] at hnew
        cases hnew
      exact ⟨.inr hfollows,
        hsettled.trans (records_settle_of_follows hkeys hleader hmem' (.inr hfollows))⟩

/-- Whoever follows the leader of a second run has the record that a whole run gives him. -/
theorem records_again_of_follows (h : Midway issues l l') {leader' i : Issue}
    (h' : l'.leader? (bucketOf issues d) = some leader') (hi : i ∈ bucketOf issues d)
    (hfollows : follows leader' i = true) :
    (settle l' issues).records i.key = (settle l issues).records i.key := by
  obtain ⟨leader, hleader, hleads, hrecord⟩ := leader?_again hkeys h h'
  have hreached : i.key = leader.key ∨ follows leader i = true := by
    rcases hleads with rfl | hleads
    · exact .inr hfollows
    · exact follows_trans hleads hfollows
  calc (settle l' issues).records i.key = l'.records leader'.key :=
        records_settle_of_follows hkeys h' hi (.inr hfollows)
    _ = l.records leader.key := hrecord
    _ = (settle l issues).records i.key :=
        (records_settle_of_follows hkeys hleader hi hreached).symm

/-- **Records that a run left, a second one leaves alone.** -/
theorem records_settle_of_settled (h : l'.records = (settle l issues).records) :
    (settle l' issues).records = l'.records := by
  have hmidway : Midway issues l l' := fun key => .inr (congrFun h key)
  funext key
  by_cases hlisted : ∃ d, ∃ i ∈ bucketOf issues d, i.key = key
  · obtain ⟨d, i, hi, rfl⟩ := hlisted
    by_cases hfollows : ∃ leader', l'.leader? (bucketOf issues d) = some leader' ∧
        follows leader' i = true
    · obtain ⟨leader', hleader', hfollows⟩ := hfollows
      rw [records_again_of_follows hkeys hmidway hleader' hi hfollows, h]
    · exact records_settle_of_not_follows hkeys hi fun leader' hleader' hfollows' =>
        hfollows ⟨leader', hleader', hfollows'⟩
  · exact records_alignAll_buckets_of_notMem fun d i hi heq => hlisted ⟨d, i, hi, heq⟩

theorem records_settle_settle :
    (settle (settle l issues) issues).records = (settle l issues).records :=
  records_settle_of_settled hkeys rfl

/-- **A second run spells no other key** than the first. -/
theorem loggable_of_midway (hmidway : Midway issues l l') {names : IssueKey → Prop}
    (h : l.Loggable names (bucketOf issues d)) : l'.Loggable names (bucketOf issues d) where
  examined i hi := h.examined i (List.take_subset_take_left _
    (examined_le_of_kept fun j hj => dismissed_of_midway hkeys hmidway hj) hi)
  lent leader' hleader' i hi hfollows' := by
    obtain ⟨leader, hleader, rfl | hleads, -⟩ := leader?_again hkeys hmidway hleader'
    · exact h.lent leader' hleader i hi hfollows'
    · obtain ⟨hprintable, hprintable'⟩ := h.lent leader hleader leader' (mem_of_leader? hleader') hleads
      refine ⟨hprintable', ?_⟩
      rcases follows_trans hleads hfollows' with hkey | hfollows
      · rw [hkey]
        exact hprintable
      · exact (h.lent leader hleader i hi hfollows).2

theorem loggable_settle {names : IssueKey → Prop} (h : l.Loggable names (bucketOf issues d)) :
    (settle l issues).Loggable names (bucketOf issues d) :=
  loggable_of_midway hkeys (midway_settle issues l) h

end Again

/-! ### Two runs -/

/-- **Of two runs on the same list**, on a store that works, the first comes back exactly if every key
that it has to spell can be spelled. Then the second comes back as well, with the same issues, and
leaves every record as the first has left it. -/
theorem run_twice {s : Session} (hs : s.Works) (hkeys : (issues.map Issue.key).Nodup) :
    ((∃ left s', (run issues).run s = (.ok left, s')) ↔
      ∀ d, s.ledger.Loggable s.Names (bucketOf issues d)) ∧
    ∀ left s', (run issues).run s = (.ok left, s') →
      ∃ s'', (run issues).run s' = (.ok left, s'') ∧ s''.record? = s'.record? := by
  refine ⟨(run_returns_iff hs).trans (allLoggable_buckets_iff hkeys), fun left s' hrun => ?_⟩
  have hloggable := (run_returns_iff hs).mp ⟨left, s', hrun⟩
  obtain ⟨s₁, hrun₁, hevolves, hledger⟩ := run_yields hs hloggable
  obtain ⟨hleft, rfl⟩ := Prod.mk.inj (hrun₁.symm.trans hrun)
  obtain rfl := Except.ok.inj hleft
  have hnames : s₁.Names = s.Names := names_of_kind hevolves.kind
  have hloggable' : s₁.ledger.AllLoggable s₁.Names ((buckets issues).map Prod.snd) := by
    rw [allLoggable_buckets_iff hkeys] at hloggable ⊢
    rw [hledger, hnames]
    exact fun d => loggable_settle hkeys (hloggable d)
  obtain ⟨s₂, hrun₂, -, hledger₂⟩ := run_yields hevolves.works hloggable'
  refine ⟨s₂, hrun₂, ?_⟩
  calc s₂.record? = (settle (settle s.ledger issues) issues).records := by
        rw [settle, settle, ← hledger, ← hledger₂]
        rfl
    _ = (settle s.ledger issues).records := records_settle_settle hkeys
    _ = s₁.record? := by
        rw [settle, ← hledger]
        rfl

/-- An issue of the same bucket that is more severe than the others. -/
def severe (id : String) (user : Int) : Issue := { duplicate id user with severity := 300 }

/-- The second run goes by the first issue, which only the first run has dismissed. -/
theorem run_twice_severe :
    ∃ s' s'', (run [duplicate "a" 0, severe "b" 0, duplicate "c" 0]).run (holding (severe "b" 0)) =
        (.ok [duplicate "a" 0], s') ∧
      (run [duplicate "a" 0, severe "b" 0, duplicate "c" 0]).run s' = (.ok [duplicate "a" 0], s'') ∧
      s''.record? = s'.record? := by
  have hkeys : ([duplicate "a" 0, severe "b" 0, duplicate "c" 0].map Issue.key).Nodup := by
    decide +kernel
  have hprintable : ∀ i ∈ [duplicate "a" 0, severe "b" 0, duplicate "c" 0], i.key.Printable := by
    intro i hi
    simp only [List.mem_cons, List.not_mem_nil, or_false] at hi
    rcases hi with rfl | rfl | rfl
    · exact printable_duplicate _
    · exact printable_duplicate "b"
    · exact printable_duplicate _
  have h := run_twice (s := holding (severe "b" 0)) trivial hkeys
  obtain ⟨left, s', hrun⟩ := h.1.mpr fun d =>
    loggable_of_printable fun i hi => hprintable i (mem_bucketOf.mp hi).1
  obtain ⟨s'', hrun', hrecords⟩ := h.2 left s' hrun
  obtain rfl : left = [duplicate "a" 0] := (eq_survivors_of_run hrun).trans (by decide +kernel)
  exact ⟨s', s'', hrun, hrun', hrecords⟩

/-- Four duplicates, one of them with a user id that has too many digits to be written. -/
def unspellable : List Issue :=
  [duplicate "a" 0, severe "b" (10 ^ digitLimit), duplicate "c" 0, severe "t" 0]

/-- Where the last of them is dismissed no call to the store fails, but the first run is cut short when
it has reached the first issue. The second run goes by that one, comes back, and changes the record of
the third. -/
theorem run_twice_unspellable :
    (holding (severe "t" 0)).Works ∧ (unspellable.map Issue.key).Nodup ∧
      ∃ s' s'', (run unspellable).run (holding (severe "t" 0)) =
          (.error (.refused .integerUnwritable), s') ∧
        (run unspellable).run s' = (.ok [duplicate "a" 0], s'') ∧
        s'.record? (duplicate "c" 0).key = none ∧
        s''.record? (duplicate "c" 0).key = some ⟨.newYear 2024, 300, 1⟩ :=
  ⟨trivial, by decide +kernel, _, _, Act.run_eq_of_fst (by decide +kernel),
    Act.run_eq_of_fst (by decide +kernel), by decide +kernel, by decide +kernel⟩

end Dedup

end IssueDigest
