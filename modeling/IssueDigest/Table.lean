/-!
# Tables

Two layers. `Entries` are plain lists of pairs with the operations of a table: `put` replaces the
value of a key where the key stands, or appends the pair, so that keys keep the order in which they
first arrived. A `Table` is such a list in which no key occurs twice.

Data values that nest (objects of a data file) are built from `Entries`; stores hold `Table`s.
-/

namespace IssueDigest

/-- Pairs of keys and values, in order of arrival. -/
abbrev Entries (κ α : Type) := List (κ × α)

namespace Entries

variable {κ α : Type} [DecidableEq κ]

/-- The value of a key. -/
def get? (key : κ) : Entries κ α → Option α
  | [] => none
  | (k, v) :: rest => if k = key then some v else get? key rest

/-- Writes a value for a key: in its place if the key is present, else at the end. -/
def put (key : κ) (value : α) : Entries κ α → Entries κ α
  | [] => [(key, value)]
  | (k, v) :: rest => if k = key then (key, value) :: rest else (k, v) :: put key value rest

/-- The entries but that of a key. -/
def erase (key : κ) (entries : Entries κ α) : Entries κ α := entries.filter fun e => e.1 ≠ key

/-- The entries of pairs written one after another: the last value of a key counts. -/
def ofPairs (pairs : List (κ × α)) : Entries κ α :=
  pairs.foldl (fun entries p => entries.put p.1 p.2) []

theorem mem_keys_put {key k : κ} {value : α} {entries : Entries κ α} :
    k ∈ (entries.put key value).map Prod.fst ↔ k = key ∨ k ∈ entries.map Prod.fst := by
  induction entries with
  | nil => simp [put]
  | cons e rest ih =>
    obtain ⟨k', v'⟩ := e
    by_cases h : k' = key
    · subst h; simp [put]
    · simp only [put, if_neg h, List.map_cons, List.mem_cons, ih]
      grind

theorem nodup_put {key : κ} {value : α} {entries : Entries κ α}
    (h : (entries.map Prod.fst).Nodup) : ((entries.put key value).map Prod.fst).Nodup := by
  induction entries with
  | nil => simp [put]
  | cons e rest ih =>
    obtain ⟨k', v'⟩ := e
    simp only [List.map_cons, List.nodup_cons] at h
    by_cases hk : k' = key
    · subst hk; simpa [put] using h
    · simp only [put, if_neg hk, List.map_cons, List.nodup_cons, mem_keys_put]
      exact ⟨by simp [hk, h.1], ih h.2⟩

theorem nodup_erase {key : κ} {entries : Entries κ α}
    (h : (entries.map Prod.fst).Nodup) : ((entries.erase key).map Prod.fst).Nodup :=
  h.sublist ((List.filter_sublist).map Prod.fst)

end Entries

/-- A table: entries in which no key occurs twice. -/
structure Table (κ α : Type) where
  /-- The pairs, in order of arrival. -/
  entries : Entries κ α
  /-- No key occurs twice. -/
  nodup : (entries.map Prod.fst).Nodup

namespace Table

variable {κ α : Type} [DecidableEq κ]

/-- The table without entries. -/
def empty : Table κ α := ⟨[], List.nodup_nil⟩

instance : Inhabited (Table κ α) := ⟨empty⟩

/-- The value of a key. -/
def get? (t : Table κ α) (key : κ) : Option α := t.entries.get? key

/-- Writes a value for a key. -/
def put (t : Table κ α) (key : κ) (value : α) : Table κ α :=
  ⟨t.entries.put key value, Entries.nodup_put t.nodup⟩

/-- The table without a key. -/
def erase (t : Table κ α) (key : κ) : Table κ α :=
  ⟨t.entries.erase key, Entries.nodup_erase t.nodup⟩

/-- How many entries there are. -/
def size (t : Table κ α) : Nat := t.entries.length

/-- The table of pairs written one after another. -/
def ofPairs (pairs : List (κ × α)) : Table κ α :=
  pairs.foldl (fun t p => t.put p.1 p.2) empty

end Table

end IssueDigest
