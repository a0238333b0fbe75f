import IssueDigest.Table
import Mathlib.Data.Set.Card
/-!
# Tables as finite maps

A table is used only through what it holds for each key. This module gives that view of every
operation: one lemma on `get?` for each of `put` and `erase`, one that ties `get?` to membership of
the pairs, and one that counts the entries by their keys. Nothing after this module looks at the
order of the entries.
-/

namespace IssueDigest

namespace Entries

variable {κ α : Type} [DecidableEq κ]

@[simp] theorem get?_nil (k : κ) : get? k ([] : Entries κ α) = none := rfl

@[simp] theorem get?_put (key k : κ) (value : α) (entries : Entries κ α) :
    get? k (entries.put key value) = if k = key then some value else get? k entries := by
  induction entries with
  | nil => simp only [put, get?, eq_comm]
  | cons e rest ih =>
    obtain ⟨k', v'⟩ := e
    by_cases hk : k' = key
    · subst hk
      by_cases h : k' = k
      · subst h; simp [put, get?]
      · simp [put, get?, h, Ne.symm h]
    · simp only [put, if_neg hk, get?, ih]
      by_cases h : k' = k
      · subst h; simp [hk]
      · simp [h]

@[simp] theorem get?_erase (key k : κ) (entries : Entries κ α) :
    get? k (entries.erase key) = if k = key then none else get? k entries := by
  induction entries with
  | nil => simp [erase]
  | cons e rest ih =>
    obtain ⟨k', v'⟩ := e
    by_cases hk : k' = key
    · subst hk
      rw [erase, List.filter_cons_of_neg (by simp)]
      refine ih.trans ?_
      by_cases h : k = k'
      · simp [h]
      · simp [get?, h, Ne.symm h]
    · rw [erase, List.filter_cons_of_pos (by simpa using hk), get?, get?]
      by_cases h : k' = k
      · subst h; simp [hk]
      · rw [if_neg h, if_neg h]; exact ih

theorem isSome_get?_iff {k : κ} {entries : Entries κ α} :
    (get? k entries).isSome ↔ k ∈ entries.map Prod.fst := by
  induction entries with
  | nil => simp
  | cons e rest ih =>
    obtain ⟨k', v'⟩ := e
    by_cases h : k' = k
    · simp [get?, h]
    · simp [get?, h, ih, Ne.symm h]

theorem mem_of_get?_eq_some {k : κ} {v : α} {entries : Entries κ α}
    (h : get? k entries = some v) : (k, v) ∈ entries := by
  induction entries with
  | nil => simp at h
  | cons e rest ih =>
    obtain ⟨k', v'⟩ := e
    rw [get?] at h
    by_cases hk : k' = k
    · rw [if_pos hk] at h
      obtain rfl : v' = v := by simpa using h
      simp [hk]
    · rw [if_neg hk] at h
      exact List.mem_cons_of_mem _ (ih h)

/-- If no key occurs twice the pairs say what is held for each key. -/
theorem get?_eq_some_iff {k : κ} {v : α} {entries : Entries κ α}
    (h : (entries.map Prod.fst).Nodup) : get? k entries = some v ↔ (k, v) ∈ entries := by
  refine ⟨mem_of_get?_eq_some, fun hmem => ?_⟩
  obtain ⟨w, hw⟩ := Option.isSome_iff_exists.mp
    (isSome_get?_iff.mpr (List.mem_map_of_mem (f := Prod.fst) hmem))
  have heq := List.inj_on_of_nodup_map h (mem_of_get?_eq_some hw) hmem rfl
  rw [hw, (Prod.mk.inj heq).2]

/-- Entries whose values are changed one by one hold the changed values. -/
theorem get?_map_values {β : Type} (f : α → β) (k : κ) (entries : Entries κ α) :
    get? k (entries.map fun e => (e.1, f e.2) : Entries κ β) = (get? k entries).map f := by
  induction entries with
  | nil => rfl
  | cons e rest ih =>
    rw [List.map_cons, get?, get?, ih]
    split <;> rfl

/-- Every pair that is written is the new one or was there before. -/
theorem mem_put {e : κ × α} {key : κ} {value : α} {entries : Entries κ α}
    (h : e ∈ entries.put key value) : e = (key, value) ∨ e ∈ entries := by
  induction entries with
  | nil => exact Or.inl (by simpa [put] using h)
  | cons e' rest ih =>
    obtain ⟨k', v'⟩ := e'
    by_cases hk : k' = key
    · rw [put, if_pos hk] at h
      rcases List.mem_cons.mp h with h | h
      · exact Or.inl h
      · exact Or.inr (List.mem_cons_of_mem _ h)
    · rw [put, if_neg hk] at h
      rcases List.mem_cons.mp h with h | h
      · exact Or.inr (h ▸ List.mem_cons_self)
      · exact (ih h).imp id (List.mem_cons_of_mem _)

theorem mem_foldl_put {e : κ × α} {pairs : List (κ × α)} {entries : Entries κ α}
    (h : e ∈ pairs.foldl (fun entries p => entries.put p.1 p.2) entries) :
    e ∈ entries ∨ e ∈ pairs := by
  induction pairs generalizing entries with
  | nil => exact Or.inl h
  | cons p pairs ih =>
    rcases ih h with h | h
    · rcases mem_put h with rfl | h
      · exact Or.inr List.mem_cons_self
      · exact Or.inl h
    · exact Or.inr (List.mem_cons_of_mem _ h)

/-- Of two values for a key the later one counts. -/
theorem put_put (key : κ) (value value' : α) (entries : Entries κ α) :
    (entries.put key value).put key value' = entries.put key value' := by
  induction entries with
  | nil => simp [put]
  | cons e rest ih =>
    obtain ⟨k, v⟩ := e
    by_cases h : k = key
    · simp [put, h]
    · simp [put, h, ih]

/-- A key that is there stays where it is, and so do the others. -/
theorem keys_put_of_mem {key : κ} {value : α} {entries : Entries κ α}
    (h : key ∈ entries.map Prod.fst) : (entries.put key value).map Prod.fst = entries.map Prod.fst := by
  induction entries with
  | nil => cases h
  | cons e rest ih =>
    obtain ⟨k, v⟩ := e
    by_cases hk : k = key
    · rw [put, if_pos hk, List.map_cons, List.map_cons, hk]
    · have hrest : key ∈ rest.map Prod.fst := (List.mem_cons.mp h).resolve_left (Ne.symm hk)
      rw [put, if_neg hk, List.map_cons, List.map_cons, ih hrest]

/-- A new key goes to the end. -/
theorem put_of_notMem {key : κ} {value : α} {entries : Entries κ α}
    (h : key ∉ entries.map Prod.fst) : entries.put key value = entries ++ [(key, value)] := by
  induction entries with
  | nil => rfl
  | cons e rest ih =>
    obtain ⟨k, v⟩ := e
    rw [List.map_cons, List.mem_cons, not_or] at h
    rw [put, if_neg (Ne.symm h.1), ih h.2, List.cons_append]

theorem foldl_put_of_nodup (entries : Entries κ α) {pairs : List (κ × α)}
    (h : ((entries ++ pairs).map Prod.fst).Nodup) :
    pairs.foldl (fun entries p => entries.put p.1 p.2) entries = entries ++ pairs := by
  induction pairs generalizing entries with
  | nil => exact (List.append_nil _).symm
  | cons p pairs ih =>
    have hsplit : entries ++ p :: pairs = (entries ++ [p]) ++ pairs := List.append_cons _ _ _
    have hnew : p.1 ∉ entries.map Prod.fst := by
      rw [List.map_append, List.nodup_append] at h
      exact fun hmem => h.2.2 _ hmem _ List.mem_cons_self rfl
    rw [List.foldl_cons, put_of_notMem hnew, ih _ (hsplit ▸ h), hsplit]

/-- Pairs in which no key occurs twice stay as they are. -/
theorem ofPairs_of_nodup {pairs : List (κ × α)} (h : (pairs.map Prod.fst).Nodup) :
    ofPairs pairs = pairs :=
  foldl_put_of_nodup [] h

/-- The order of the pairs makes no difference to what is held. -/
theorem get?_perm {entries entries' : Entries κ α} (hperm : entries.Perm entries')
    (h : (entries.map Prod.fst).Nodup) (k : κ) : get? k entries = get? k entries' := by
  have h' : (entries'.map Prod.fst).Nodup := (hperm.map Prod.fst).nodup_iff.mp h
  refine Option.ext fun v => ?_
  rw [get?_eq_some_iff h, get?_eq_some_iff h', hperm.mem_iff]

theorem mem_of_mem_ofPairs {e : κ × α} {pairs : List (κ × α)} (h : e ∈ ofPairs pairs) :
    e ∈ pairs :=
  (mem_foldl_put h).resolve_left (List.not_mem_nil)

end Entries

namespace Table

variable {κ α : Type}

/-- The keys of a table, in order of arrival. -/
def keys (t : Table κ α) : List κ := t.entries.map Prod.fst

theorem length_keys (t : Table κ α) : t.keys.length = t.size := List.length_map _

variable [DecidableEq κ]

@[simp] theorem get?_empty (k : κ) : (empty : Table κ α).get? k = none := rfl

@[simp] theorem get?_put (t : Table κ α) (key k : κ) (value : α) :
    (t.put key value).get? k = if k = key then some value else t.get? k :=
  Entries.get?_put key k value t.entries

@[simp] theorem get?_erase (t : Table κ α) (key k : κ) :
    (t.erase key).get? k = if k = key then none else t.get? k :=
  Entries.get?_erase key k t.entries

theorem put_put (t : Table κ α) (key : κ) (value value' : α) :
    (t.put key value).put key value' = t.put key value' := by
  simp only [put, Entries.put_put]

theorem entries_ofPairs (pairs : List (κ × α)) :
    (ofPairs pairs : Table κ α).entries = Entries.ofPairs pairs := by
  have hfoldl (t : Table κ α) : (pairs.foldl (fun t p => t.put p.1 p.2) t).entries =
      pairs.foldl (fun entries p => entries.put p.1 p.2) t.entries := by
    induction pairs generalizing t with
    | nil => rfl
    | cons p pairs ih => exact ih (t.put p.1 p.2)
  exact hfoldl empty

theorem nodup_ofPairs (pairs : List (κ × α)) : ((Entries.ofPairs pairs).map Prod.fst).Nodup :=
  entries_ofPairs pairs ▸ (ofPairs pairs).nodup

theorem get?_foldl_erase (names : List κ) (t : Table κ α) (k : κ) :
    (names.foldl (fun t name => t.erase name) t).get? k =
      if k ∈ names then none else t.get? k := by
  induction names generalizing t with
  | nil => simp
  | cons name names ih =>
    rw [List.foldl_cons, ih, get?_erase]
    by_cases hk : k = name
    · simp [hk]
    · simp [hk]

theorem mem_keys_iff {t : Table κ α} {k : κ} : k ∈ t.keys ↔ (t.get? k).isSome :=
  Entries.isSome_get?_iff.symm

theorem mem_keys_put {t : Table κ α} {key k : κ} {value : α} :
    k ∈ (t.put key value).keys ↔ k = key ∨ k ∈ t.keys := Entries.mem_keys_put

theorem mem_keys_erase {t : Table κ α} {key k : κ} :
    k ∈ (t.erase key).keys ↔ k ≠ key ∧ k ∈ t.keys := by
  rw [mem_keys_iff, mem_keys_iff, get?_erase]
  by_cases h : k = key <;> simp [h]

/-- **Counting by an index.** If the names of a duplicate-free list are those that an injection
gives to the members of a set, the list is as long as the set is large. -/
theorem length_eq_ncard {ι : Type} {name : ι → κ} (hname : Function.Injective name)
    {names : List κ} (hnodup : names.Nodup) {s : Set ι}
    (hs : ∀ i, i ∈ s ↔ name i ∈ names) (hall : ∀ n ∈ names, ∃ i, n = name i) :
    names.length = s.ncard := by
  have himage : name '' s = ↑names.toFinset := by
    ext n
    simp only [Set.mem_image, List.coe_toFinset, Set.mem_ofPred_eq]
    constructor
    · rintro ⟨i, hi, rfl⟩
      exact (hs i).mp hi
    · intro hn
      obtain ⟨i, rfl⟩ := hall n hn
      exact ⟨i, (hs i).mpr hn, rfl⟩
  rw [← Set.ncard_image_of_injective s hname, himage, Set.ncard_coe_finset,
    List.toFinset_card_of_nodup hnodup]

end Table

end IssueDigest
