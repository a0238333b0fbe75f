import IssueDigest.Proofs.Ledger
import IssueDigest.Proofs.Tables
import Mathlib.Algebra.BigOperators.Group.Finset.Basic
/-!
# What is in a bucket

The deduplicator sorts the issues into buckets one by one. Afterwards the bucket of a deduplication
key holds the issues with that key, in the order of the list (`bucketOf`), and there is one for every
key that occurs. The redundant keys are those of all issues but the first of each bucket.

If the issues of a list have different keys, its buckets have no issue in common.
-/

namespace IssueDigest.Dedup

/-- The issues of a list with a deduplication key. -/
def bucketOf (issues : List Issue) (d : DedupKey) : List Issue :=
  issues.filter fun i => i.dedupKey? = some d

/-- The deduplication keys of a list. -/
def dedupKeys (issues : List Issue) : Finset DedupKey := (issues.filterMap Issue.dedupKey?).toFinset

variable {issues : List Issue} {d : DedupKey} {i : Issue}

theorem mem_bucketOf : i ∈ bucketOf issues d ↔ i ∈ issues ∧ i.dedupKey? = some d := by
  simp [bucketOf]

theorem bucketOf_concat (issues : List Issue) (i : Issue) (d : DedupKey) :
    bucketOf (issues ++ [i]) d =
      if i.dedupKey? = some d then bucketOf issues d ++ [i] else bucketOf issues d := by
  by_cases h : i.dedupKey? = some d <;> simp [bucketOf, h]

theorem mem_dedupKeys : d ∈ dedupKeys issues ↔ ∃ i ∈ issues, i.dedupKey? = some d := by
  simp [dedupKeys]

theorem buckets_concat (issues : List Issue) (i : Issue) :
    buckets (issues ++ [i]) = insert (buckets issues) i := by
  simp [buckets]

/-- **The bucket of a deduplication key** holds the issues with that key, if there are any. -/
theorem get?_buckets (issues : List Issue) (d : DedupKey) :
    (buckets issues).get? d = if bucketOf issues d = [] then none else some (bucketOf issues d) := by
  induction issues using List.reverseRecOn with
  | nil => rfl
  | append_singleton issues i ih =>
    rw [buckets_concat, bucketOf_concat, insert]
    cases hkey : i.dedupKey? with
    | none => simp [ih]
    | some d' =>
      dsimp only
      rw [Entries.get?_put]
      by_cases hd : d = d'
      · subst hd
        by_cases hempty : bucketOf issues d = [] <;> simp [ih, hempty]
      · have hne : ¬some d' = some d := fun h => hd (Option.some.inj h).symm
        rw [if_neg hd, if_neg hne, ih]

theorem nodup_buckets (issues : List Issue) : ((buckets issues).map Prod.fst).Nodup := by
  induction issues using List.reverseRecOn with
  | nil => exact List.nodup_nil
  | append_singleton issues i ih =>
    rw [buckets_concat, insert]
    cases i.dedupKey? with
    | none => exact ih
    | some d => exact Entries.nodup_put ih

theorem mem_buckets {b : List Issue} :
    (d, b) ∈ buckets issues ↔ b = bucketOf issues d ∧ b ≠ [] := by
  rw [← Entries.get?_eq_some_iff (nodup_buckets issues), get?_buckets]
  by_cases h : bucketOf issues d = []
  · simp [h]
  · simp only [h, if_false, Option.some.injEq]
    constructor
    · rintro rfl
      exact ⟨rfl, h⟩
    · rintro ⟨rfl, -⟩
      rfl

/-- What is in a bucket is in the list. -/
theorem mem_of_mem_buckets {b : List Issue} (hb : b ∈ (buckets issues).map Prod.snd) (hi : i ∈ b) :
    i ∈ issues := by
  obtain ⟨⟨d, b⟩, hmem, rfl⟩ := List.mem_map.mp hb
  rw [(mem_buckets.mp hmem).1] at hi
  exact (mem_bucketOf.mp hi).1

/-- The redundant keys are those behind the first issue of a bucket. -/
theorem mem_redundant {key : IssueKey} :
    key ∈ redundant (buckets issues) ↔ ∃ d, ∃ j ∈ (bucketOf issues d).drop 1, j.key = key := by
  simp only [redundant, List.mem_flatMap, List.mem_map, Prod.exists]
  constructor
  · rintro ⟨d, b, hb, j, hj, rfl⟩
    obtain ⟨rfl, -⟩ := mem_buckets.mp hb
    exact ⟨d, j, hj, rfl⟩
  · rintro ⟨d, j, hj, rfl⟩
    refine ⟨d, bucketOf issues d, mem_buckets.mpr ⟨rfl, ?_⟩, j, hj, rfl⟩
    intro hempty
    simp [hempty] at hj

theorem bucketOf_ne_nil_iff : bucketOf issues d ≠ [] ↔ d ∈ dedupKeys issues := by
  simp [bucketOf, mem_dedupKeys]

/-- There is a bucket for every deduplication key. -/
theorem toFinset_keys_buckets (issues : List Issue) :
    ((buckets issues).map Prod.fst).toFinset = dedupKeys issues := by
  ext d
  rw [List.mem_toFinset, ← Entries.isSome_get?_iff, get?_buckets, ← bucketOf_ne_nil_iff]
  split <;> simp_all

/-- Sums over the buckets are sums over the deduplication keys. -/
theorem sum_buckets (issues : List Issue) (f : List Issue → Nat) :
    (((buckets issues).map Prod.snd).map f).sum = ∑ d ∈ dedupKeys issues, f (bucketOf issues d) := by
  rw [← toFinset_keys_buckets, List.sum_toFinset _ (nodup_buckets issues), List.map_map,
    List.map_map]
  refine congrArg List.sum (List.map_congr_left fun e he => ?_)
  rw [Function.comp_apply, Function.comp_apply, (mem_buckets.mp he).1]

/-- An issue is counted in the bucket of its deduplication key and nowhere else. -/
theorem sum_countP_bucketOf (issues : List Issue) (p : Issue → Bool) :
    ∑ d ∈ dedupKeys issues, (bucketOf issues d).countP p =
      issues.countP fun i => i.dedupKey?.isSome && p i := by
  -- The induction is on the list, so the keys summed over must not depend on it.
  have hcount (S : Finset DedupKey) (hS : ∀ i ∈ issues, ∀ d, i.dedupKey? = some d → d ∈ S) :
      ∑ d ∈ S, (bucketOf issues d).countP p =
        issues.countP fun i => i.dedupKey?.isSome && p i := by
    induction issues with
    | nil => simp [bucketOf]
    | cons i issues ih =>
      have hcons (d : DedupKey) : (bucketOf (i :: issues) d).countP p =
          (bucketOf issues d).countP p + if i.dedupKey? = some d ∧ p i = true then 1 else 0 := by
        by_cases hd : i.dedupKey? = some d
        · simp [bucketOf, hd, List.countP_cons]
        · simp [bucketOf, hd]
      have hone : (∑ d ∈ S, if i.dedupKey? = some d ∧ p i = true then 1 else 0) =
          if (i.dedupKey?.isSome && p i) = true then 1 else 0 := by
        cases hd : i.dedupKey? with
        | none => simp
        | some d => cases p i <;> simp [hS i List.mem_cons_self d hd]
      rw [Finset.sum_congr rfl fun d _ => hcons d, Finset.sum_add_distrib, hone, List.countP_cons,
        ih fun j hj => hS j (List.mem_cons_of_mem _ hj)]
  exact hcount _ fun i hi d hd => mem_dedupKeys.mpr ⟨i, hi, hd⟩

/-- Issues with different keys are in one bucket each. -/
theorem apart_buckets (hkeys : (issues.map Issue.key).Nodup) :
    Ledger.Apart ((buckets issues).map Prod.snd) := by
  rw [Ledger.Apart, List.pairwise_map]
  have hfirst : (buckets issues).Pairwise fun e e' => e.1 ≠ e'.1 :=
    List.pairwise_map.mp (nodup_buckets issues)
  refine hfirst.imp_of_mem fun {e e'} he he' hne i hi j hj hkey => hne ?_
  rw [(mem_buckets.mp he).1, mem_bucketOf] at hi
  rw [(mem_buckets.mp he').1, mem_bucketOf] at hj
  obtain rfl := List.inj_on_of_nodup_map hkeys hi.1 hj.1 hkey
  exact Option.some.inj (hi.2.symm.trans hj.2)

theorem nodup_keys_bucketOf (hkeys : (issues.map Issue.key).Nodup) (d : DedupKey) :
    ((bucketOf issues d).map Issue.key).Nodup :=
  hkeys.sublist (List.filter_sublist.map _)

end IssueDigest.Dedup
