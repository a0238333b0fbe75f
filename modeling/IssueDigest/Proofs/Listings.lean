import IssueDigest.Document.Listing
import Mathlib.Data.List.Nodup
import Mathlib.Data.String.Basic
/-!
# Listings and their references

The entries of a document may refer to one another: the ids of the sources must differ, and every issue
must name one of them. This module says when a listing passes that check (`flaw?_eq_none_iff`), which ids
it is refused for otherwise (`AreUnknown`), and that the issues of a listing that passes find their source.

The check goes by lists of ids, and the join looks each source up. That they agree rests on the ids of the
sources being different, so that there is one source to find, and one only.
-/

namespace IssueDigest.Listing

/-! ### The order of texts -/

theorem before_ofChars (cs ds : List Char) :
    Text.before (Text.ofChars cs) (Text.ofChars ds) = true ↔ cs < ds := by
  induction cs generalizing ds with
  | nil => cases ds <;> simp [Text.ofChars, Text.before]
  | cons c cs ih =>
    cases ds with
    | nil => simp [Text.ofChars, Text.before]
    | cons d ds =>
      have hstep : Text.before (Text.ofChars (c :: cs)) (Text.ofChars (d :: ds))
          = (decide (c.toNat < d.toNat) || c.toNat == d.toNat
            && Text.before (Text.ofChars cs) (Text.ofChars ds)) := rfl
      rw [hstep, Bool.or_eq_true, Bool.and_eq_true, ih, List.cons_lt_cons_iff, decide_eq_true_eq,
        beq_iff_eq, Char.toNat_inj]
      rfl

/-- What is sorted by texts is in the order of their characters. -/
theorem pairwise_sortedBy {α : Type} (text : α → List Char) (items : List α) :
    (items.mergeSort fun a b => !Text.before (Text.ofChars (text b)) (Text.ofChars (text a))).Pairwise
      fun a b => text a ≤ text b := by
  have hle (a b : α) :
      (!Text.before (Text.ofChars (text b)) (Text.ofChars (text a))) = true ↔ text a ≤ text b := by
    rw [Bool.not_eq_true', ← Bool.not_eq_true, before_ofChars, not_lt]
  refine (List.pairwise_mergeSort (fun a b c hab hbc => ?_) (fun a b => ?_) items).imp (hle _ _).mp
  · exact (hle a c).mpr (((hle a b).mp hab).trans ((hle b c).mp hbc))
  · rw [Bool.or_eq_true, hle, hle]
    exact le_total _ _

/-- Are these the ids that issues name and no source has: each of them, once, and sorted? -/
structure AreUnknown (l : Listing) (ids : List String) : Prop where
  mem_iff : ∀ id, id ∈ ids ↔ (∃ i ∈ l.issues, i.sourceId = id) ∧ id ∉ l.sourceIds
  sorted : ids.Pairwise (· < ·)

/-- What is left without duplicates has none. -/
theorem nodup_eraseDups (as : List String) : as.eraseDups.Nodup := by
  cases as with
  | nil => exact List.nodup_nil
  | cons a as =>
    rw [List.eraseDups_cons, List.nodup_cons, List.mem_eraseDups, List.mem_filter]
    refine ⟨?_, nodup_eraseDups (as.filter fun b => !b == a)⟩
    rintro ⟨-, hne⟩
    simp at hne
termination_by as.length
decreasing_by exact Nat.lt_succ_of_le (List.length_filter_le _ _)

theorem areUnknown (l : Listing) : l.AreUnknown l.unknownIds := by
  constructor
  · intro id
    rw [unknownIds, List.mem_mergeSort, List.mem_eraseDups, List.mem_filter, List.mem_map]
    simp
  · have hsorted : l.unknownIds.Pairwise fun a b : String => a.toList ≤ b.toList :=
      pairwise_sortedBy String.toList _
    have hnodup : l.unknownIds.Nodup :=
      (List.mergeSort_perm _ _).nodup_iff.mpr (nodup_eraseDups _)
    refine (hsorted.and hnodup).imp ?_
    rintro a b ⟨hab, hne⟩
    exact lt_of_le_of_ne (String.le_iff_toList_le.mpr hab) hne

/-! ### Which listings pass -/

section References

variable {l : Listing}

theorem flaw?_of_not_nodup (h : ¬l.sourceIds.Nodup) :
    l.flaw? = some (.refused "source ids must be unique") := by
  rw [flaw?, if_pos (by simpa using h)]

/-- Some id is unknown exactly if some issue names no listed source. -/
theorem unknownIds_eq_nil_iff : l.unknownIds = [] ↔ ∀ i ∈ l.issues, i.sourceId ∈ l.sourceIds := by
  rw [List.eq_nil_iff_forall_not_mem]
  constructor
  · intro h i hi
    by_contra hunknown
    exact h i.sourceId ((areUnknown l).mem_iff _ |>.mpr ⟨⟨i, hi, rfl⟩, hunknown⟩)
  · intro h id hid
    obtain ⟨⟨i, hi, rfl⟩, hunknown⟩ := ((areUnknown l).mem_iff id).mp hid
    exact hunknown (h i hi)

/-- **Which references are fine.** -/
theorem flaw?_eq_none_iff :
    l.flaw? = none ↔ l.sourceIds.Nodup ∧ ∀ i ∈ l.issues, i.sourceId ∈ l.sourceIds := by
  rw [← unknownIds_eq_nil_iff, flaw?]
  by_cases hnodup : l.sourceIds.Nodup
  · rw [if_neg (by simpa using hnodup)]
    cases l.unknownIds <;> simp [hnodup]
  · rw [if_pos (by simpa using hnodup)]
    simp [hnodup]

theorem flaw?_of_unknown (hnodup : l.sourceIds.Nodup) (h : l.unknownIds ≠ []) :
    l.flaw? = some (.refused ("issues reference unknown sources: "
      ++ Text.quotedList (l.unknownIds.map Text.ofString))) := by
  rw [flaw?, if_neg (by simpa using hnodup), if_neg (by simpa using h)]

/-! ### What the issues become -/

/-- There is one source of an id that is listed. -/
theorem filter_sources (hnodup : l.sourceIds.Nodup) {s : Source} (hs : s ∈ l.sources) :
    (l.sources.filter fun s' => s'.id = s.id) = [s] := by
  have hsame : (l.sources.filter fun s' => s'.id = s.id) = l.sources.filter (· = s) := by
    refine List.filter_congr fun s' hs' => decide_eq_decide.mpr ⟨fun hid => ?_, congrArg Source.id⟩
    exact List.inj_on_of_nodup_map hnodup hs' hs hid
  rw [hsame, List.filter_eq, List.count_eq_one_of_mem (hnodup.of_map _) hs]
  rfl

theorem source?_of_mem (hnodup : l.sourceIds.Nodup) {s : Source} (hs : s ∈ l.sources) :
    l.source? s.id = some s := by
  rw [source?, ← List.head?_filter, List.filter_reverse, filter_sources hnodup hs]
  rfl

/-- **An issue that names a listed source** finds it. -/
theorem join_of_known {entry : ListedIssue} (hnodup : l.sourceIds.Nodup)
    (hknown : entry.sourceId ∈ l.sourceIds) : ∃ s ∈ l.sources, s.id = entry.sourceId ∧
      l.join entry = .ok ⟨s, entry.id, entry.severity, entry.title, entry.mark, entry.user⟩ := by
  obtain ⟨s, hs, hid⟩ := List.mem_map.mp hknown
  refine ⟨s, hs, hid, ?_⟩
  rw [join, ← hid, source?_of_mem hnodup hs]

/-- What holds of every entry and its issue holds along the lists. -/
theorem joined_forall₂ {r : ListedIssue → Issue → Prop}
    (h : ∀ entry ∈ l.issues, ∃ i, l.join entry = .ok i ∧ r entry i) :
    ∃ issues, l.joined = .ok issues ∧ List.Forall₂ r l.issues issues := by
  rw [joined]
  generalize l.issues = entries at h ⊢
  induction entries with
  | nil => exact ⟨[], rfl, .nil⟩
  | cons entry entries ih =>
    obtain ⟨i, hi, hr⟩ := h entry List.mem_cons_self
    obtain ⟨issues, hissues, hrs⟩ := ih fun entry' hmem => h entry' (List.mem_cons_of_mem _ hmem)
    exact ⟨i :: issues, by rw [List.mapM_cons, hi, hissues]; rfl, .cons hr hrs⟩

end References

end IssueDigest.Listing
