import IssueDigest.Proofs.SecondRun
import IssueDigest.Proofs.Survivors
/-!
# The order of the list

A run goes through the buckets in the order in which they first appear in the list. All of them share
one store, but none looks at a record that another one writes, so it is the order within each bucket
that matters and nothing else: two lists of the same issues that agree on it leave the same ledger
(`settle_eq_of_reordered`), counters included, and the same issues survive.

This is said of runs that come to their end. A run that is cut short has aligned the buckets in front
of the place where it stopped, and which these are does depend on the order of the list
(`run_reordered_unspellable`).
-/

namespace IssueDigest.Dedup

open Session Ledger

/-- Do the lists hold the same issues, in the same order within each bucket? -/
structure Reordered (issues issues' : List Issue) : Prop where
  perm : issues'.Perm issues
  buckets : ∀ d, bucketOf issues' d = bucketOf issues d

/-- Two parts of a list that have no deduplication key in common may change places. -/
theorem reordered_append {front back : List Issue}
    (h : Disjoint (dedupKeys front) (dedupKeys back)) : Reordered (front ++ back) (back ++ front) where
  perm := List.perm_append_comm
  buckets d := by
    have hempty : bucketOf front d = [] ∨ bucketOf back d = [] := by
      by_contra hboth
      obtain ⟨hfront, hback⟩ := not_or.mp hboth
      exact Finset.disjoint_left.mp h (bucketOf_ne_nil_iff.mp hfront) (bucketOf_ne_nil_iff.mp hback)
    have happend (xs ys : List Issue) : bucketOf (xs ++ ys) d = bucketOf xs d ++ bucketOf ys d :=
      List.filter_append ..
    rw [happend, happend]
    rcases hempty with hfront | hback
    · rw [hfront, List.append_nil, List.nil_append]
    · rw [hback, List.append_nil, List.nil_append]

variable {issues issues' : List Issue}

section Reordered

variable (h : Reordered issues issues')

include h

theorem dedupKeys_eq_of_reordered : dedupKeys issues' = dedupKeys issues := by
  ext d
  rw [← bucketOf_ne_nil_iff, ← bucketOf_ne_nil_iff, h.buckets]

theorem nodup_keys_of_reordered (hkeys : (issues.map Issue.key).Nodup) :
    (issues'.map Issue.key).Nodup :=
  (h.perm.map Issue.key).nodup_iff.mpr hkeys

/-- The same issues are redundant. -/
theorem isRedundant_eq_of_reordered : isRedundant issues' = isRedundant issues := by
  funext i
  rw [Bool.eq_iff_iff, isRedundant_iff, isRedundant_iff]
  simp only [h.buckets]

/-- **The survivors are the same**, in the order of their own list. -/
theorem perm_survivors_of_reordered : (survivors issues').Perm (survivors issues) := by
  rw [survivors_eq, survivors_eq, isRedundant_eq_of_reordered h]
  exact h.perm.filter _

/-- Each record is decided within its bucket. -/
theorem records_settle_of_reordered (hkeys : (issues.map Issue.key).Nodup) (l : Ledger) :
    (settle l issues').records = (settle l issues).records := by
  have hkeys' := nodup_keys_of_reordered h hkeys
  funext key
  by_cases hlisted : ∃ d, ∃ i ∈ bucketOf issues d, i.key = key
  · obtain ⟨d, i, hi, rfl⟩ := hlisted
    have hi' : i ∈ bucketOf issues' d := by rwa [h.buckets]
    rw [settle, settle, records_alignAll_buckets hkeys hi, records_alignAll_buckets hkeys' hi',
      h.buckets]
  · have hnot : ∀ d, ∀ i ∈ bucketOf issues d, i.key ≠ key := fun d i hi heq => hlisted ⟨d, i, hi, heq⟩
    have hnot' : ∀ d, ∀ i ∈ bucketOf issues' d, i.key ≠ key := by simpa only [h.buckets] using hnot
    rw [settle, settle, records_alignAll_buckets_of_notMem hnot,
      records_alignAll_buckets_of_notMem hnot']

/-- What is counted is a sum over the buckets, whose order does not matter. -/
theorem counters_settle_of_reordered (hkeys : (issues.map Issue.key).Nodup) (l : Ledger) :
    (settle l issues').counters = (settle l issues).counters := by
  have hkeys' := nodup_keys_of_reordered h hkeys
  rw [settle, settle, counters_alignAll (apart_buckets hkeys), counters_alignAll (apart_buckets hkeys')]
  simp only [sum_buckets, dedupKeys_eq_of_reordered h, h.buckets]

/-- **Both lists leave the same ledger.** -/
theorem settle_eq_of_reordered (hkeys : (issues.map Issue.key).Nodup) (l : Ledger) :
    settle l issues' = settle l issues :=
  Ledger.ext (records_settle_of_reordered h hkeys l) (counters_settle_of_reordered h hkeys l)

end Reordered

/-- **Only the order within a bucket matters.** On a store that works a run comes back exactly if every
key that it has to spell can be spelled, and that is the same for both lists. When they come back they
leave the same record for every issue, have counted the same, and bring the same issues in the order of
their own list. -/
theorem run_reordered {s : Session} (hs : s.Works) (hkeys : (issues.map Issue.key).Nodup)
    (h : Reordered issues issues') :
    ((∃ left s', (run issues).run s = (.ok left, s')) ↔
      ∀ d, s.ledger.Loggable s.Names (bucketOf issues d)) ∧
    ((∃ left s', (run issues').run s = (.ok left, s')) ↔
      ∃ left s', (run issues).run s = (.ok left, s')) ∧
    ∀ left s₁ left' s₂, (run issues).run s = (.ok left, s₁) → (run issues').run s = (.ok left', s₂) →
      s₂.record? = s₁.record? ∧ s₂.store.counters = s₁.store.counters ∧ left'.Perm left := by
  have hreturns : (∃ left s', (run issues).run s = (.ok left, s')) ↔
      ∀ d, s.ledger.Loggable s.Names (bucketOf issues d) :=
    (run_returns_iff hs).trans (allLoggable_buckets_iff hkeys)
  have hreturns' : (∃ left s', (run issues').run s = (.ok left, s')) ↔
      ∀ d, s.ledger.Loggable s.Names (bucketOf issues' d) :=
    (run_returns_iff hs).trans (allLoggable_buckets_iff (nodup_keys_of_reordered h hkeys))
  refine ⟨hreturns, ?_, fun left s₁ left' s₂ hrun hrun' => ?_⟩
  · rw [hreturns, hreturns']
    simp only [h.buckets]
  · have hledger : s₂.ledger = s₁.ledger := by
      rw [ledger_of_run hs hrun, ledger_of_run hs hrun']
      exact settle_eq_of_reordered h hkeys s.ledger
    refine ⟨congrArg Ledger.records hledger, congrArg Ledger.counters hledger, ?_⟩
    rw [eq_survivors_of_run hrun, eq_survivors_of_run hrun']
    exact perm_survivors_of_reordered h

/-- The two issues of one bucket. -/
def front : List Issue := [duplicate "a" 0, duplicate "b" 0]

/-- The two issues of another bucket, with the user id of the second. -/
def back (user : Int) : List Issue :=
  [{ duplicate "c" 0 with mark := some "n" }, { duplicate "d" user with mark := some "n" }]

theorem reordered_front_back (user : Int) : Reordered (front ++ back user) (back user ++ front) := by
  refine reordered_append ?_
  have hfront : dedupKeys front = {⟨"g", "m"⟩} := rfl
  have hback : dedupKeys (back user) = {⟨"g", "n"⟩} := rfl
  rw [hfront, hback]
  decide +kernel

theorem nodup_front_back (user : Int) : ((front ++ back user).map Issue.key).Nodup := by
  simp [front, back, duplicate, Issue.key]

/-- A memory store in which the first issue of either bucket is dismissed. -/
def holdingTwo : Session where
  store := ⟨"memory", ⟨0, 0, 0⟩, .memory ((Table.empty.put ⟨"s", "a", 0⟩
    ⟨.newYear 2024, 100, 1⟩).put ⟨"s", "c", 0⟩ ⟨.newYear 2025, 200, 1⟩)⟩
  world := .blank

/-- The two buckets change places. -/
theorem run_reordered_front_back :
    ∃ left s₁ left' s₂, (run (front ++ back 0)).run holdingTwo = (.ok left, s₁) ∧
      (run (back 0 ++ front)).run holdingTwo = (.ok left', s₂) ∧
      s₂.record? = s₁.record? ∧ s₂.store.counters = s₁.store.counters ∧ left'.Perm left ∧
      left.map Issue.id = ["a", "c"] ∧ left'.map Issue.id = ["c", "a"] := by
  have hprintable : ∀ i ∈ front ++ back 0, i.key.Printable := by
    have huser : ∀ i ∈ front ++ back 0, i.user = 0 := by decide +kernel
    intro i hi
    refine Numeral.isWritable_of_natAbs_le_one ?_
    rw [show i.key.user = 0 from huser i hi]
    exact Nat.zero_le 1
  have h := run_reordered (s := holdingTwo) trivial (nodup_front_back 0) (reordered_front_back 0)
  obtain ⟨left, s₁, hrun⟩ := h.1.mpr fun d =>
    loggable_of_printable fun i hi => hprintable i (mem_bucketOf.mp hi).1
  obtain ⟨left', s₂, hrun'⟩ := h.2.1.mpr ⟨left, s₁, hrun⟩
  obtain ⟨hrecords, hcounters, hperm⟩ := h.2.2 left s₁ left' s₂ hrun hrun'
  refine ⟨left, s₁, left', s₂, hrun, hrun', hrecords, hcounters, hperm, ?_, ?_⟩
  · rw [eq_survivors_of_run hrun]
    decide +kernel
  · rw [eq_survivors_of_run hrun']
    decide +kernel

/-- Where the last issue has a user id with too many digits to be written no call to the store fails,
but both runs are cut short when they come to it. The other bucket has been aligned only if it is the
first one. -/
theorem run_reordered_unspellable :
    holdingTwo.Works ∧ ((front ++ back (10 ^ digitLimit)).map Issue.key).Nodup ∧
      Reordered (front ++ back (10 ^ digitLimit)) (back (10 ^ digitLimit) ++ front) ∧
      ∃ s₁ s₂,
        (run (front ++ back (10 ^ digitLimit))).run holdingTwo =
          (.error (.refused .integerUnwritable), s₁) ∧
        (run (back (10 ^ digitLimit) ++ front)).run holdingTwo =
          (.error (.refused .integerUnwritable), s₂) ∧
        s₁.record? ⟨"s", "b", 0⟩ = some ⟨.newYear 2024, 100, 1⟩ ∧
        s₂.record? ⟨"s", "b", 0⟩ = none :=
  ⟨trivial, nodup_front_back _, reordered_front_back _, _, _, Act.run_eq_of_fst (by decide +kernel),
    Act.run_eq_of_fst (by decide +kernel), by decide +kernel, by decide +kernel⟩

end IssueDigest.Dedup
