import IssueDigest.Proofs.Buckets
/-!
# The buckets as a partition

Sorting a list of issues into buckets loses nothing that has a deduplication key and changes no order:
each bucket is the part of the list with its key (`bucketOf`), and the buckets stand in the order in
which their keys first appear (`firstPlace`). Both are kept while the issues are put in one after the
other. The second one goes by the length of the list so far: a key that appears for the first time does
so there, and every key before it has appeared already.

What is redundant is said by places as well. An issue is behind the first one of its bucket exactly if
the list has an issue with the same deduplication key at an earlier place (`Repeats`), whatever the issue
keys of the two are.
-/

namespace IssueDigest.Dedup

variable {issues : List Issue} {d : DedupKey} {i j : Issue}

/-! ### Keys in the order of their first appearance -/

/-- The place of the first issue with a deduplication key; behind the list if there is none. -/
def firstPlace (issues : List Issue) (d : DedupKey) : Nat :=
  issues.findIdx fun i => i.dedupKey? = some d

theorem mem_keys_buckets : d ∈ (buckets issues).map Prod.fst ↔ ∃ i ∈ issues, i.dedupKey? = some d := by
  rw [← mem_dedupKeys, ← toFinset_keys_buckets, List.mem_toFinset]

theorem firstPlace_lt_length_iff :
    firstPlace issues d < issues.length ↔ ∃ i ∈ issues, i.dedupKey? = some d := by
  rw [firstPlace, List.findIdx_lt_length]
  simp

theorem firstPlace_concat_of_mem (i : Issue) (h : d ∈ (buckets issues).map Prod.fst) :
    firstPlace (issues ++ [i]) d = firstPlace issues d := by
  have hlt := firstPlace_lt_length_iff.mpr (mem_keys_buckets.mp h)
  rw [firstPlace] at hlt ⊢
  rw [List.findIdx_append, if_pos hlt, firstPlace]

theorem firstPlace_concat_of_notMem (hd : i.dedupKey? = some d)
    (h : d ∉ (buckets issues).map Prod.fst) : firstPlace (issues ++ [i]) d = issues.length := by
  have hle := mt (firstPlace_lt_length_iff.trans mem_keys_buckets.symm).mp h
  rw [firstPlace] at hle ⊢
  rw [List.findIdx_append, if_neg hle]
  simp [hd]

/-- The buckets stand in the order in which their keys first appear. -/
theorem pairwise_firstPlace (issues : List Issue) :
    ((buckets issues).map Prod.fst).Pairwise fun d d' =>
      firstPlace issues d < firstPlace issues d' := by
  induction issues using List.reverseRecOn with
  | nil => exact List.Pairwise.nil
  | append_singleton issues i ih =>
    -- The issue that comes last moves no first place.
    have hkept : ((buckets issues).map Prod.fst).Pairwise fun d d' =>
        firstPlace (issues ++ [i]) d < firstPlace (issues ++ [i]) d' := by
      refine ih.imp_of_mem fun hd hd' hlt => ?_
      rwa [firstPlace_concat_of_mem i hd, firstPlace_concat_of_mem i hd']
    rw [buckets_concat, insert]
    cases hkey : i.dedupKey? with
    | none => exact hkept
    | some d =>
      dsimp only
      by_cases hd : d ∈ (buckets issues).map Prod.fst
      · rwa [Entries.keys_put_of_mem hd]
      · rw [Entries.put_of_notMem hd, List.map_append, List.pairwise_append]
        refine ⟨hkept, List.pairwise_singleton _ _, fun d' hd' d'' hd'' => ?_⟩
        obtain rfl := List.mem_singleton.mp hd''
        rw [firstPlace_concat_of_mem i hd', firstPlace_concat_of_notMem hkey hd]
        exact firstPlace_lt_length_iff.mpr (mem_keys_buckets.mp hd')

/-! ### Redundant issues by their places -/

/-- Does the issue stand at a place of the list, and another one at an earlier place, both with this
deduplication key? -/
def Repeats (issues : List Issue) (d : DedupKey) (j : Issue) : Prop :=
  ∃ (m n : Nat) (i : Issue), m < n ∧ issues[m]? = some i ∧ issues[n]? = some j ∧
    i.dedupKey? = some d ∧ j.dedupKey? = some d

/-- The issues behind the first of a bucket are those that repeat its key. -/
theorem mem_drop_bucketOf : j ∈ (bucketOf issues d).drop 1 ↔ Repeats issues d j := by
  unfold Repeats
  induction issues with
  | nil => simp [bucketOf]
  | cons i rest ih =>
    by_cases hi : i.dedupKey? = some d
    · have hbucket : (bucketOf (i :: rest) d).drop 1 = bucketOf rest d := by simp [bucketOf, hi]
      rw [hbucket, mem_bucketOf]
      constructor
      · rintro ⟨hj, hkey⟩
        obtain ⟨n, hn⟩ := List.mem_iff_getElem?.mp hj
        exact ⟨0, n + 1, i, n.succ_pos, rfl, hn, hi, hkey⟩
      · rintro ⟨m, n, i', hlt, -, hn, -, hkey⟩
        obtain ⟨n, rfl⟩ := Nat.exists_eq_add_of_lt hlt
        exact ⟨List.mem_of_getElem? hn, hkey⟩
    · have hbucket : bucketOf (i :: rest) d = bucketOf rest d := by simp [bucketOf, hi]
      rw [hbucket, ih]
      constructor
      · rintro ⟨m, n, i', hlt, hm, hn, hkeys⟩
        exact ⟨m + 1, n + 1, i', Nat.succ_lt_succ hlt, hm, hn, hkeys⟩
      · rintro ⟨m, n, i', hlt, hm, hn, hi', hj⟩
        cases m with
        | zero => exact absurd (Option.some.inj hm ▸ hi') hi
        | succ m =>
          obtain ⟨n, rfl⟩ := Nat.exists_eq_add_of_lt hlt
          exact ⟨m, m + 1 + n, i', by omega, hm, hn, hi', hj⟩

theorem mem_redundant_iff_repeats {key : IssueKey} :
    key ∈ redundant (buckets issues) ↔ ∃ d j, Repeats issues d j ∧ j.key = key := by
  simp only [mem_redundant, mem_drop_bucketOf]

/-! ### The partition -/

/-- The issues with a deduplication key, sorted by it without a change of order. -/
structure Partitions (issues : List Issue) (found : Entries DedupKey (List Issue)) : Prop where
  /-- The keys are those that occur. -/
  keys : ∀ d, d ∈ found.map Prod.fst ↔ ∃ i ∈ issues, i.dedupKey? = some d
  /-- They stand in the order in which they first appear, none of them twice. -/
  order : (found.map Prod.fst).Pairwise fun d d' => firstPlace issues d < firstPlace issues d'
  /-- A bucket holds the issues with its key, in the order of the list. -/
  bucket : ∀ d b, (d, b) ∈ found → b = issues.filter fun i => i.dedupKey? = some d
  /-- No bucket is empty. -/
  filled : ∀ d b, (d, b) ∈ found → b ≠ []
  /-- Every issue with a deduplication key is in a bucket, and in one only. -/
  sizes : (found.map fun e => e.2.length).sum = issues.countP fun i => i.dedupKey?.isSome

/-- **The buckets of a list partition it**, whatever the keys of its issues, and the redundant keys are
those of the issues that repeat a deduplication key. -/
theorem buckets_partition (issues : List Issue) :
    Partitions issues (buckets issues) ∧
      ∀ key, key ∈ redundant (buckets issues) ↔ ∃ d j, Repeats issues d j ∧ j.key = key := by
  refine ⟨⟨fun d => mem_keys_buckets, pairwise_firstPlace issues, ?_, ?_, ?_⟩, fun key =>
    mem_redundant_iff_repeats⟩
  · intro d b hb
    exact (mem_buckets.mp hb).1
  · intro d b hb
    exact (mem_buckets.mp hb).2
  · calc ((buckets issues).map fun e => e.2.length).sum
        = (((buckets issues).map Prod.snd).map List.length).sum := by rw [List.map_map]; rfl
      _ = ∑ d ∈ dedupKeys issues, (bucketOf issues d).length := sum_buckets issues List.length
      _ = ∑ d ∈ dedupKeys issues, (bucketOf issues d).countP fun _ => true := by
        simp only [List.countP_true]
      _ = issues.countP fun i => i.dedupKey?.isSome && true :=
        sum_countP_bucketOf issues fun _ => true
      _ = issues.countP fun i => i.dedupKey?.isSome := by simp only [Bool.and_true]

end IssueDigest.Dedup
