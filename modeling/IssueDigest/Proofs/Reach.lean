import IssueDigest.Proofs.SecondRun
/-!
# How far a dismissal reaches

A bucket may hold several dismissed issues of different severities, in any order. Only the first of
them lends its record, so the other dismissals reach no farther than that one does: a duplicate that
is more severe than the leader keeps what it has, even if a dismissed duplicate further down is more
severe still.

Whatever is no more severe than the leader is reached, whichever dismissal one starts from. In a
bucket that is sorted by falling severity no dismissed issue is more severe than the leader, so there
every dismissal reaches all duplicates that are no more severe (`run_reaches_sorted`).
-/

namespace IssueDigest

namespace Ledger

variable {l : Ledger} {bucket : List Issue}

/-- A bucket with a dismissed issue has a leader. -/
theorem exists_leader? {d : Issue} (hd : d ∈ bucket) (hdismissed : l.dismissed d = true) :
    ∃ top, l.leader? bucket = some top :=
  Option.isSome_iff_exists.mp (List.find?_isSome.mpr ⟨d, hd, hdismissed⟩)

/-- The leader stands in front of every other dismissed issue, so where severities fall it is the
most severe of them. -/
theorem severity_le_leader? (hsorted : bucket.Pairwise fun i j => j.severity ≤ i.severity)
    {top d : Issue} (htop : l.leader? bucket = some top) (hd : d ∈ bucket)
    (hdismissed : l.dismissed d = true) : d.severity ≤ top.severity := by
  obtain ⟨-, before, after, rfl, hbefore⟩ := List.find?_eq_some_iff_append.mp htop
  rcases List.mem_append.mp hd with hfront | hback
  · have := hbefore d hfront
    rw [hdismissed] at this
    cases this
  · rcases List.mem_cons.mp hback with rfl | hafter
    · exact le_refl _
    · exact (List.pairwise_cons.mp (List.pairwise_append.mp hsorted).2.1).1 d hafter

end Ledger

namespace Dedup

open Session Ledger

variable {issues : List Issue} {k : DedupKey} {s s' : Session} {d top : Issue}

/-- All duplicates up to the severity of the leader are dismissed afterwards. -/
theorem Aligned.dismissed_of_le (h : Aligned issues s s')
    (htop : s.ledger.leader? (bucketOf issues k) = some top) {i : Issue}
    (hi : i ∈ bucketOf issues k) (hle : i.severity ≤ top.severity) :
    s'.ledger.dismissed i = true :=
  (h.dismissed k i hi).mpr (Or.inr ⟨top, htop, hle⟩)

/-- The others are dismissed afterwards if they were before. -/
theorem Aligned.dismissed_iff_of_lt (h : Aligned issues s s')
    (htop : s.ledger.leader? (bucketOf issues k) = some top) {i : Issue}
    (hi : i ∈ bucketOf issues k) (hlt : top.severity < i.severity) :
    s'.ledger.dismissed i = true ↔ s.ledger.dismissed i = true := by
  rw [h.dismissed k i hi, or_iff_left_iff_imp]
  rintro ⟨top', htop', hle⟩
  obtain rfl := Option.some.inj (htop.symm.trans htop')
  exact absurd hle (not_le.mpr hlt)

/-- **A dismissal reaches** all duplicates that are no more severe exactly if those between the leader
and the dismissed issue were dismissed already. -/
theorem Aligned.reaches_iff (h : Aligned issues s s')
    (htop : s.ledger.leader? (bucketOf issues k) = some top) :
    (∀ i ∈ bucketOf issues k, i.severity ≤ d.severity → s'.ledger.dismissed i = true) ↔
      ∀ i ∈ bucketOf issues k, top.severity < i.severity → i.severity ≤ d.severity →
        s.ledger.dismissed i = true := by
  constructor
  · intro hall i hi hlt hle
    exact (h.dismissed_iff_of_lt htop hi hlt).mp (hall i hi hle)
  · intro hbetween i hi hle
    by_cases hlt : top.severity < i.severity
    · exact (h.dismissed_iff_of_lt htop hi hlt).mpr (hbetween i hi hlt hle)
    · exact h.dismissed_of_le htop hi (not_lt.mp hlt)

/-- **In a bucket sorted by falling severity** every dismissal reaches all duplicates that are no more
severe. -/
theorem run_reaches_sorted (hs : s.Works) (hkeys : (issues.map Issue.key).Nodup) {left : List Issue}
    (hrun : (run issues).run s = (.ok left, s'))
    (hsorted : (bucketOf issues k).Pairwise fun i j => j.severity ≤ i.severity)
    (hd : d ∈ bucketOf issues k) (hdismissed : s.ledger.dismissed d = true) :
    ∀ i ∈ bucketOf issues k, i.severity ≤ d.severity → s'.ledger.dismissed i = true := by
  have h := aligned_of_ledger hkeys (ledger_of_run hs hrun)
  obtain ⟨top, htop⟩ := exists_leader? hd hdismissed
  intro i hi hle
  exact h.dismissed_of_le htop hi (le_trans hle (severity_le_leader? hsorted htop hd hdismissed))

/-- **How far the dismissal of an issue reaches.** On a store that works a run whose keys can be
spelled comes back. Of the duplicates of a dismissed issue that are no more severe than it is, those
that are no more severe than the first dismissed one are dismissed afterwards; they are all of them if
the issue itself is no more severe than that one. So are all of them exactly if those that are more
severe than the first dismissed one were dismissed before. -/
theorem run_reaches (hs : s.Works) (hkeys : (issues.map Issue.key).Nodup) :
    ((∀ k, s.ledger.Loggable s.Names (bucketOf issues k)) →
      ∃ left s', (run issues).run s = (.ok left, s')) ∧
    ∀ left s', (run issues).run s = (.ok left, s') →
      ∀ k, ∀ d ∈ bucketOf issues k, s.ledger.dismissed d = true →
        ∃ top, s.ledger.leader? (bucketOf issues k) = some top ∧
          (d.severity ≤ top.severity →
            ∀ i ∈ bucketOf issues k, i.severity ≤ d.severity → s'.ledger.dismissed i = true) ∧
          (∀ i ∈ bucketOf issues k, i.severity ≤ top.severity → s'.ledger.dismissed i = true) ∧
          ((∀ i ∈ bucketOf issues k, i.severity ≤ d.severity → s'.ledger.dismissed i = true) ↔
            ∀ i ∈ bucketOf issues k, top.severity < i.severity → i.severity ≤ d.severity →
              s.ledger.dismissed i = true) := by
  refine ⟨fun hloggable => (run_returns_iff hs).mpr ((allLoggable_buckets_iff hkeys).mpr hloggable),
    fun left s' hrun k d hd hdismissed => ?_⟩
  have h := aligned_of_ledger hkeys (ledger_of_run hs hrun)
  obtain ⟨top, htop⟩ := exists_leader? hd hdismissed
  refine ⟨top, htop, fun hle i hi hi' => ?_, fun i hi => h.dismissed_of_le htop hi,
    h.reaches_iff htop⟩
  exact h.dismissed_of_le htop hi (le_trans hi' hle)

/-- The dismissal of the second of three duplicates reaches the third, which is as severe. -/
theorem run_reaches_third :
    ∃ left s', (run [duplicate "a" 0, severe "b" 0, severe "c" 0]).run (holding (severe "b" 0)) =
        (.ok left, s') ∧
      (holding (severe "b" 0)).ledger.dismissed (severe "c" 0) = false ∧
      s'.ledger.dismissed (severe "c" 0) = true := by
  have hkeys : ([duplicate "a" 0, severe "b" 0, severe "c" 0].map Issue.key).Nodup := by
    decide +kernel
  have h := run_reaches (s := holding (severe "b" 0)) trivial hkeys
  obtain ⟨left, s', hrun⟩ := h.1 fun d => loggable_of_printable fun i hi => by
    have hi := (mem_bucketOf.mp hi).1
    simp only [List.mem_cons, List.not_mem_nil, or_false] at hi
    rcases hi with rfl | rfl | rfl
    · exact printable_duplicate _
    · exact printable_duplicate "b"
    · exact printable_duplicate "c"
  obtain ⟨top, htop, hreached, -⟩ := h.2 left s' hrun ⟨"g", "m"⟩ (severe "b" 0) (by decide +kernel)
    (by decide +kernel)
  obtain rfl : severe "b" 0 = top := Option.some.inj (Eq.trans (by decide +kernel) htop)
  exact ⟨left, s', hrun, by decide +kernel,
    hreached (le_refl _) (severe "c" 0) (by decide +kernel) (le_refl _)⟩

/-- A memory store that holds dismissals of two issues. -/
def holdingBoth (i j : Issue) : Session where
  store := ⟨"memory", ⟨0, 0, 0⟩, .memory ((Table.empty.put i.key ⟨.newYear 2024, i.severity, 1⟩).put
    j.key ⟨.newYear 2024, j.severity, 1⟩)⟩
  world := .blank

/-- Where a less severe dismissed duplicate stands in front, the same dismissal does not reach it. -/
theorem run_not_reaching_third :
    (holdingBoth (duplicate "a" 0) (severe "b" 0)).Works ∧
      ([duplicate "a" 0, severe "b" 0, severe "c" 0].map Issue.key).Nodup ∧
      severe "b" 0 ∈ bucketOf [duplicate "a" 0, severe "b" 0, severe "c" 0] ⟨"g", "m"⟩ ∧
      severe "c" 0 ∈ bucketOf [duplicate "a" 0, severe "b" 0, severe "c" 0] ⟨"g", "m"⟩ ∧
      (severe "c" 0).severity ≤ (severe "b" 0).severity ∧
      (holdingBoth (duplicate "a" 0) (severe "b" 0)).ledger.dismissed (severe "b" 0) = true ∧
      ∃ s', (run [duplicate "a" 0, severe "b" 0, severe "c" 0]).run
          (holdingBoth (duplicate "a" 0) (severe "b" 0)) = (.ok [duplicate "a" 0], s') ∧
        s'.ledger.dismissed (severe "c" 0) = false :=
  ⟨trivial, by decide +kernel, by decide +kernel, by decide +kernel, by decide +kernel,
    by decide +kernel, _, Act.run_eq_of_fst (by decide +kernel), by decide +kernel⟩

end Dedup

end IssueDigest
