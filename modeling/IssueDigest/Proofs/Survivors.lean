import IssueDigest.Proofs.AlignmentEffect
import IssueDigest.Proofs.Listings
/-!
# Who survives a run

The deduplicator leaves out every issue whose key is among the keys of the redundant issues. That is
a filter by key, not by place. If the keys of the list differ it comes to the same: what stays is each
issue without a deduplication key and the first issue of each bucket.

A listing may name the same issue twice, though, and nothing refuses it. The two have one key and one
deduplication key, so the second is redundant, and with its key the first goes as well. The last part
says exactly when that happens: none of the issues that should stay may share its key with a redundant
one.
-/

namespace IssueDigest.Dedup

open Session Ledger

variable {issues : List Issue}

/-- Is the key of the issue that of a redundant one? -/
def isRedundant (issues : List Issue) (i : Issue) : Bool :=
  (redundant (buckets issues)).contains i.key

theorem isRedundant_iff {i : Issue} :
    isRedundant issues i = true ↔ ∃ d, ∃ j ∈ (bucketOf issues d).drop 1, j.key = i.key := by
  rw [isRedundant, List.contains_iff_mem, mem_redundant]

theorem survivors_eq (issues : List Issue) :
    survivors issues = issues.filter fun i => !isRedundant issues i := rfl

/-! ### Lists with different keys -/

/-- Has the issue no group or no mark, or is it the first one with its group and mark? -/
def comesFirst (issues : List Issue) (i : Issue) : Bool :=
  i.source.group = none || i.mark = none ||
    issues.find? (fun j => j.source.group = i.source.group && j.mark = i.mark) = some i

theorem dedupKey?_eq_none_iff {i : Issue} :
    i.dedupKey? = none ↔ i.source.group = none ∨ i.mark = none := by
  unfold Issue.dedupKey?
  cases i.source.group <;> cases i.mark <;> simp

theorem dedupKey?_eq_some_iff {i : Issue} {d : DedupKey} :
    i.dedupKey? = some d ↔ i.source.group = some d.group ∧ i.mark = some d.mark := by
  unfold Issue.dedupKey?
  obtain ⟨group, mark⟩ := d
  cases i.source.group <;> cases i.mark <;> simp

theorem comesFirst_of_dedupKey? {i : Issue} {d : DedupKey} (h : i.dedupKey? = some d) :
    comesFirst issues i = decide ((bucketOf issues d).head? = some i) := by
  obtain ⟨hgroup, hmark⟩ := dedupKey?_eq_some_iff.mp h
  have hsame : (fun j : Issue => decide (j.source.group = i.source.group) && decide (j.mark = i.mark)) =
      fun j => decide (j.dedupKey? = some d) := by
    funext j
    rw [hgroup, hmark, Bool.eq_iff_iff]
    simp [dedupKey?_eq_some_iff]
  rw [comesFirst, hsame, bucketOf, List.head?_filter]
  simp [hgroup, hmark]

/-- With different keys the redundant issues are those behind the first of their bucket. -/
theorem isRedundant_eq_not_comesFirst (hkeys : (issues.map Issue.key).Nodup) {i : Issue}
    (hi : i ∈ issues) : isRedundant issues i = !comesFirst issues i := by
  -- Where keys differ, an issue with the key of a redundant one is that one.
  have hsame {d : DedupKey} {j : Issue} (hj : j ∈ (bucketOf issues d).drop 1)
      (hkey : j.key = i.key) : j = i :=
    List.inj_on_of_nodup_map hkeys (mem_bucketOf.mp (List.mem_of_mem_drop hj)).1 hi hkey
  cases hd : i.dedupKey? with
  | none =>
    have hfirst : comesFirst issues i = true := by
      rcases dedupKey?_eq_none_iff.mp hd with h | h <;> simp [comesFirst, h]
    rw [hfirst, Bool.not_true, ← Bool.not_eq_true, isRedundant_iff]
    rintro ⟨d, j, hj, hkey⟩
    obtain rfl := hsame hj hkey
    cases hd.symm.trans (mem_bucketOf.mp (List.mem_of_mem_drop hj)).2
  | some d =>
    have hmem : i ∈ bucketOf issues d := mem_bucketOf.mpr ⟨hi, hd⟩
    have hnodup : (bucketOf issues d).Nodup := (nodup_keys_bucketOf hkeys d).of_map _
    obtain ⟨first, rest, hbucket⟩ := List.exists_cons_of_ne_nil (List.ne_nil_of_mem hmem)
    rw [hbucket] at hmem hnodup
    have hfirst : comesFirst issues i = decide (first = i) := by
      rw [comesFirst_of_dedupKey? hd, hbucket]
      simp
    rw [hfirst, Bool.eq_iff_iff, isRedundant_iff, Bool.not_eq_true', decide_eq_false_iff_not]
    constructor
    · rintro ⟨d', j, hj, hkey⟩
      obtain rfl := hsame hj hkey
      obtain rfl : d' = d :=
        Option.some.inj ((mem_bucketOf.mp (List.mem_of_mem_drop hj)).2.symm.trans hd)
      rw [hbucket] at hj
      exact fun heq => (List.nodup_cons.mp hnodup).1 (heq ▸ hj)
    · intro hne
      refine ⟨d, i, ?_, rfl⟩
      rw [hbucket]
      exact (List.mem_cons.mp hmem).resolve_left (Ne.symm hne)

/-- **The survivors** of a list with different keys. -/
theorem survivors_eq_filter (hkeys : (issues.map Issue.key).Nodup) :
    survivors issues = issues.filter (comesFirst issues) := by
  rw [survivors_eq]
  refine List.filter_congr fun i hi => ?_
  rw [isRedundant_eq_not_comesFirst hkeys hi, Bool.not_not]

/-- **A run on a list with different keys**, on whatever store, either fails or brings the issues
that come first, in their order; on a store that works it fails only over a key that cannot be
written. -/
theorem run_comesFirst (hkeys : (issues.map Issue.key).Nodup) :
    (∀ s left s', (run issues).run s = (.ok left, s') →
      left = issues.filter (comesFirst issues) ∧ left.Sublist issues ∧ left.Nodup) ∧
    ∀ s : Session, s.Works → ((∃ left s', (run issues).run s = (.ok left, s')) ↔
      ∀ d, s.ledger.Loggable s.Names (bucketOf issues d)) := by
  constructor
  · intro s left s' hrun
    rw [eq_survivors_of_run hrun, survivors_eq_filter hkeys]
    exact ⟨rfl, List.filter_sublist, (hkeys.of_map _).filter _⟩
  · intro s hs
    rw [run_returns_iff hs, allLoggable_buckets_iff hkeys]

/-- The first of two duplicates survives, whichever of them is dismissed. -/
theorem run_comesFirst_two :
    ∃ s', (run [duplicate "a" 0, duplicate "b" 0]).run (holding (duplicate "b" 0)) =
      (.ok [duplicate "a" 0], s') := by
  have hkeys : ([duplicate "a" 0, duplicate "b" 0].map Issue.key).Nodup := by decide +kernel
  have h := run_comesFirst hkeys
  obtain ⟨left, s', hrun⟩ := (h.2 (holding (duplicate "b" 0)) trivial).mpr fun d =>
    loggable_of_printable fun i hi => by
      rcases List.mem_pair.mp (mem_bucketOf.mp hi).1 with rfl | rfl <;> exact printable_duplicate _
  have hleft : [duplicate "a" 0, duplicate "b" 0].filter
      (comesFirst [duplicate "a" 0, duplicate "b" 0]) = [duplicate "a" 0] := by decide +kernel
  refine ⟨s', ?_⟩
  rw [hrun, (h.1 _ left s' hrun).1, hleft]

/-- Over a user id with too many digits the run fails and brings nothing, although no call to the
store does. -/
theorem run_without_survivors_long :
    (holding (duplicate "a" 0)).Works ∧
      ([duplicate "a" 0, duplicate "b" (10 ^ digitLimit)].map Issue.key).Nodup ∧
      ¬∃ s', (run [duplicate "a" 0, duplicate "b" (10 ^ digitLimit)]).run
          (holding (duplicate "a" 0)) =
        (.ok ([duplicate "a" 0, duplicate "b" (10 ^ digitLimit)].filter
          (comesFirst [duplicate "a" 0, duplicate "b" (10 ^ digitLimit)])), s') :=
  ⟨trivial, by simp [duplicate, Issue.key], fun ⟨s', hrun⟩ => not_returns_long _ s' hrun⟩

/-! ### Lists in which keys may repeat -/

/-- Has no issue vanished that should stay? Those without a deduplication key are all there, and of
each bucket there is the first and no other. -/
structure NoneVanished (issues left : List Issue) : Prop where
  unkeyed : (left.filter fun i => i.dedupKey? = none) = issues.filter fun i => i.dedupKey? = none
  first : ∀ d ∈ dedupKeys issues, bucketOf left d = (bucketOf issues d).take 1

/-- Does no issue that should stay share its key with a redundant one? -/
def Unambiguous (issues : List Issue) : Prop :=
  ∀ d, ∀ j ∈ (bucketOf issues d).drop 1, ∀ i ∈ issues,
    (i.dedupKey? = none ∨ ∃ d', (bucketOf issues d').head? = some i) → i.key ≠ j.key

/-- **Exactly the unambiguous lists** lose nothing that should stay. -/
theorem noneVanished_survivors_iff (issues : List Issue) :
    NoneVanished issues (survivors issues) ↔ Unambiguous issues := by
  constructor
  -- An issue that should stay but shares its key with a redundant one is filtered out with it.
  · rintro ⟨hunkeyed, hfirst⟩ d j hj i hi hright hkey
    have hout : i ∉ survivors issues := by
      rw [survivors_eq, List.mem_filter, isRedundant_iff.mpr ⟨d, j, hj, hkey.symm⟩]
      simp
    rcases hright with hnone | ⟨d', hhead⟩
    · have hmem : i ∈ (survivors issues).filter fun i => i.dedupKey? = none := by
        rw [hunkeyed]
        exact List.mem_filter.mpr ⟨hi, by simpa using hnone⟩
      exact hout (List.mem_of_mem_filter hmem)
    · obtain ⟨rest, hbucket⟩ : ∃ rest, bucketOf issues d' = i :: rest := by
        cases hb : bucketOf issues d' with
        | nil => simp [hb] at hhead
        | cons first rest => exact ⟨rest, by simpa [hb] using hhead⟩
      have hd' : d' ∈ dedupKeys issues := bucketOf_ne_nil_iff.mp (by simp [hbucket])
      have hmem : i ∈ bucketOf (survivors issues) d' := by
        rw [hfirst d' hd', hbucket]
        exact List.mem_cons_self
      exact hout (mem_bucketOf.mp hmem).1
  -- Otherwise the filter lets all that should stay pass, and of a bucket nothing else.
  · intro hclear
    have hstays {i : Issue} (hi : i ∈ issues)
        (hright : i.dedupKey? = none ∨ ∃ d', (bucketOf issues d').head? = some i) :
        isRedundant issues i = false := by
      rw [← Bool.not_eq_true, isRedundant_iff]
      rintro ⟨d, j, hj, hkey⟩
      exact hclear d j hj i hi hright hkey.symm
    constructor
    · rw [survivors_eq, List.filter_filter]
      refine List.filter_congr fun i hi => ?_
      by_cases hnone : i.dedupKey? = none
      · simp [hnone, hstays hi (Or.inl hnone)]
      · simp [hnone]
    · intro d hd
      obtain ⟨first, rest, hbucket⟩ := List.exists_cons_of_ne_nil (bucketOf_ne_nil_iff.mpr hd)
      have hfirst : isRedundant issues first = false := by
        have hmem : first ∈ bucketOf issues d := by
          rw [hbucket]
          exact List.mem_cons_self
        exact hstays (mem_bucketOf.mp hmem).1 (Or.inr ⟨d, by rw [hbucket]; rfl⟩)
      have hrest : ∀ j ∈ rest, isRedundant issues j = true := fun j hj =>
        isRedundant_iff.mpr ⟨d, j, by rw [hbucket]; exact hj, rfl⟩
      have hout : rest.filter (fun i => !isRedundant issues i) = [] :=
        List.filter_eq_nil_iff.mpr fun j hj => by simp [hrest j hj]
      have hcomm : bucketOf (survivors issues) d =
          (bucketOf issues d).filter fun i => !isRedundant issues i := by
        rw [survivors_eq, bucketOf, bucketOf, List.filter_comm]
      rw [hcomm, hbucket, List.filter_cons_of_pos (by simp [hfirst]), hout]
      rfl

/-- A list with different keys is unambiguous. -/
theorem unambiguous_of_nodup (hkeys : (issues.map Issue.key).Nodup) : Unambiguous issues := by
  intro d j hj i hi hright hkey
  have hjd := mem_bucketOf.mp (List.mem_of_mem_drop hj)
  obtain rfl := List.inj_on_of_nodup_map hkeys hi hjd.1 hkey
  rcases hright with hnone | ⟨d', hhead⟩
  · cases hnone.symm.trans hjd.2
  · have hi' := mem_bucketOf.mp (List.mem_of_mem_head? hhead)
    obtain rfl : d' = d := Option.some.inj (hi'.2.symm.trans hjd.2)
    have hnodup : (bucketOf issues d').Nodup := (nodup_keys_bucketOf hkeys d').of_map _
    obtain ⟨rest, hbucket⟩ := List.head?_eq_some_iff.mp hhead
    rw [hbucket] at hj hnodup
    exact (List.nodup_cons.mp hnodup).1 hj

/-! ### Lists that are read -/

/-- A listing without a flaw names listed sources only, so each of its issues finds its source. -/
theorem joined_of_flaw? {l : Listing} (h : l.flaw? = none) : ∃ issues, l.joined = .ok issues := by
  obtain ⟨hnodup, hknown⟩ := Listing.flaw?_eq_none_iff.mp h
  have hjoin : ∀ entry ∈ l.issues, ∃ i, l.join entry = .ok i ∧ True := by
    intro entry hentry
    obtain ⟨s, -, -, hjoin⟩ := Listing.join_of_known hnodup (hknown entry hentry)
    exact ⟨_, hjoin, trivial⟩
  obtain ⟨issues, hissues, -⟩ := Listing.joined_forall₂ hjoin
  exact ⟨issues, hissues⟩

/-- Every document that is accepted gives a list of issues. -/
theorem joined_of_ofEntries {entries : List (Value × Value)} {l : Listing}
    (h : Listing.ofEntries entries = .ok l) : ∃ issues, l.joined = .ok issues := by
  refine joined_of_flaw? ?_
  unfold Listing.ofEntries at h
  split at h
  · cases h
  · obtain ⟨outcome, -, h⟩ := bind_eq_ok_iff.mp h
    split at h
    · cases h
    · split at h
      · cases h
      · next hflaw => exact Except.ok.inj h ▸ hflaw

/-- **Of a document that is accepted** a run loses nothing that should stay, exactly if none of that
shares its key with a redundant issue. On a store that works the run comes back exactly if the list is
loggable. -/
theorem run_noneVanished {entries : List (Value × Value)} {l : Listing}
    (h : Listing.ofEntries entries = .ok l) :
    ∃ issues, l.joined = .ok issues ∧
      (∀ s left s', (run issues).run s = (.ok left, s') →
        (NoneVanished issues left ↔ Unambiguous issues)) ∧
      ∀ s : Session, s.Works → ((∃ left s', (run issues).run s = (.ok left, s')) ↔
        s.ledger.AllLoggable s.Names ((buckets issues).map Prod.snd)) := by
  obtain ⟨issues, hjoined⟩ := joined_of_ofEntries h
  refine ⟨issues, hjoined, fun s left s' hrun => ?_, fun s hs => run_returns_iff hs⟩
  rw [eq_survivors_of_run hrun]
  exact noneVanished_survivors_iff issues

/-- The document of two issues of one bucket with these ids. -/
def document (first second : String) : List (Value × Value) :=
  [(.text "sources", .list [.map [(.text "id", .text "s"), (.text "deduplication_group", .text "g")]]),
    (.text "issues", .list ([first, second].map fun id => .map
      [(.text "source_id", .text "s"), (.text "id", .text id), (.text "deduplication_id", .text "m")]))]

/-- Its listing. -/
def listing (first second : String) : Listing where
  sources := [⟨"s", 2, some "g"⟩]
  issues := [first, second].map fun id => ⟨"s", id, 100, [], some "m", 0⟩

/-- Two duplicates with different ids leave the first. -/
theorem run_noneVanished_two :
    ∃ left s', (run [duplicate "a" 0, duplicate "b" 0]).run (holding (duplicate "b" 0)) =
        (.ok left, s') ∧ NoneVanished [duplicate "a" 0, duplicate "b" 0] left := by
  have haccepted : Listing.ofEntries (document "a" "b") = .ok (listing "a" "b") := by
    decide +kernel
  obtain ⟨issues, hjoined, hleft, hreturns⟩ := run_noneVanished haccepted
  obtain rfl : [duplicate "a" 0, duplicate "b" 0] = issues :=
    Except.ok.inj (Eq.trans (by decide +kernel) hjoined)
  obtain ⟨left, s', hrun⟩ := (hreturns (holding (duplicate "b" 0)) trivial).mpr
    (allLoggable_of_printable fun b hb i hi => by
      rcases List.mem_pair.mp (mem_of_mem_buckets hb hi) with rfl | rfl <;> exact printable_duplicate _)
  exact ⟨left, s', hrun, (hleft _ left s' hrun).mpr (unambiguous_of_nodup (by decide +kernel))⟩

/-- An issue that is listed twice is accepted, and both of it vanish. -/
theorem run_vanished_twice :
    Listing.ofEntries (document "a" "a") = .ok (listing "a" "a") ∧
      (listing "a" "a").joined = .ok [duplicate "a" 0, duplicate "a" 0] ∧
      (holding (duplicate "b" 0)).Works ∧
      (∃ s', (run [duplicate "a" 0, duplicate "a" 0]).run (holding (duplicate "b" 0)) =
        (.ok [], s')) ∧
      ¬NoneVanished [duplicate "a" 0, duplicate "a" 0] [] := by
  have hnone : survivors [duplicate "a" 0, duplicate "a" 0] = [] := by decide +kernel
  refine ⟨by decide +kernel, by decide +kernel, trivial, ?_, fun h => ?_⟩
  · have hkeys : ∀ b ∈ (buckets [duplicate "a" 0, duplicate "a" 0]).map Prod.snd, ∀ i ∈ b,
        i.key.Printable := by
      intro b hb i hi
      rcases List.mem_pair.mp (mem_of_mem_buckets hb hi) with rfl | rfl <;> exact printable_duplicate _
    obtain ⟨s', hrun, -, -⟩ := run_yields (s := holding (duplicate "b" 0)) trivial
      (allLoggable_of_printable hkeys)
    exact ⟨s', by rw [hrun, hnone]⟩
  · have hfirst := h.first ⟨"g", "m"⟩ (by decide +kernel)
    revert hfirst
    decide +kernel

end IssueDigest.Dedup
