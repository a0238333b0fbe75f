import IssueDigest.Proofs.Attempts
import IssueDigest.Proofs.Listings
import IssueDigest.Proofs.Opening
/-!
# The dismissal file has one form

What a store writes depends on nothing but which records it holds for which keys: not on the order in which
they came, nor on the file they were read from. The page is made of rows, one for each key, sorted by the
code points of the keys (`Store.Canonical`). A sorted list without repetitions is determined by its members,
and the text of a record by the record; so there is one such page for a table, and stores with the same
records write the same octets.

Opening a store on such a page and closing it again brings back the records, and so the page.
-/

namespace IssueDigest

namespace Store

/-! ### The page of a table -/

/-- A row of the page: a key, and the text of its record. -/
def rowText (row : List Char × Record) : List Char :=
  Json.quoted row.1 ++ ':' :: ' ' :: row.2.pageText

/-- The row of an entry whose key can be stored. -/
def rowOf (e : Text × Record) : List Char × Record := (e.1.filterMap CodePoint.char?, e.2)

/-- Are these the octets of the page of the table: a row for each of its keys, the keys strictly increasing
by code point? -/
def Canonical (records : Table Text Record) (bs : List UInt8) : Prop :=
  ∃ rows : List (List Char × Record), rows.Pairwise (fun a b => a.1 < b.1) ∧
    (∀ key r, records.get? key = some r ↔ ∃ cs, key = Text.ofChars cs ∧ (cs, r) ∈ rows) ∧
    bs = Utf8.encode (Json.braced 0 (rows.map rowText))

theorem ofChars_injective : Function.Injective Text.ofChars :=
  List.map_injective_iff.mpr fun _ _ h => CodePoint.char.inj h

/-- **There is one page** for what a table holds. -/
theorem Canonical.unique {records records' : Table Text Record} {bs bs' : List UInt8}
    (h : Canonical records bs) (h' : Canonical records' bs')
    (hsame : ∀ k, records.get? k = records'.get? k) : bs = bs' := by
  obtain ⟨rows, hsorted, hrows, rfl⟩ := h
  obtain ⟨rows', hsorted', hrows', rfl⟩ := h'
  have hmem {records : Table Text Record} {rows : List (List Char × Record)}
      (hrows : ∀ key r, records.get? key = some r ↔ ∃ cs, key = Text.ofChars cs ∧ (cs, r) ∈ rows)
      (row : List Char × Record) : row ∈ rows ↔ records.get? (Text.ofChars row.1) = some row.2 := by
    rw [hrows]
    constructor
    · exact fun h => ⟨row.1, rfl, h⟩
    · rintro ⟨cs, hcs, h⟩
      rwa [← ofChars_injective hcs] at h
  have hnodup {rows : List (List Char × Record)} (h : rows.Pairwise fun a b => a.1 < b.1) : rows.Nodup :=
    h.imp fun hlt heq => (heq ▸ hlt).false
  have hperm : rows.Perm rows' := by
    refine (List.perm_ext_iff_of_nodup (hnodup hsorted) (hnodup hsorted')).mpr fun row => ?_
    rw [hmem hrows, hmem hrows', hsame]
  have heq : rows = rows' :=
    List.Perm.eq_of_pairwise (fun a b _ _ hab hba => absurd hba hab.asymm) hsorted hsorted' hperm
  rw [heq]

/-- **What is written to the end is the page** of the table. -/
theorem canonical_of_octets {records : Table Text Record} (h : (octets records).2 = .ok ()) :
    Canonical records (octets records).1 := by
  have hplain : Plain records := plain_of_octets h
  obtain ⟨entries, hsort, hperm⟩ := Json.Field.sort_map entryOnPage records.entries
  have hrow {e : Text × Record} (he : e ∈ entries) : e = (Text.ofChars (rowOf e).1, (rowOf e).2) := by
    obtain ⟨cs, hcs⟩ := (hplain e (hperm.mem_iff.mp he)).1
    obtain ⟨key, r⟩ := e
    obtain rfl : key = Text.ofChars cs := hcs
    rw [rowOf, Json.filterMap_char?_ofChars]
  refine ⟨entries.map rowOf, ?_, fun key r => ?_, ?_⟩
  · have hsorted : (Json.Field.sort (records.entries.map entryOnPage)).Pairwise
        fun f g => f.name ≤ g.name := Listing.pairwise_sortedBy Json.Field.name _
    have hnames : ((Json.Field.sort (records.entries.map entryOnPage)).map Json.Field.name).Nodup :=
      ((Json.Field.sort_perm _).map Json.Field.name).nodup_iff.mpr (nodup_entryOnPage hplain)
    rw [hsort] at hsorted hnames
    rw [List.pairwise_map] at hsorted ⊢
    rw [List.map_map] at hnames
    exact (hsorted.and (List.pairwise_map.mp hnames)).imp fun hle => lt_of_le_of_ne hle.1 hle.2
  · rw [Table.get?, Entries.get?_eq_some_iff records.nodup, ← hperm.mem_iff]
    constructor
    · intro he
      have heq := Prod.mk.inj (hrow he)
      exact ⟨(rowOf (key, r)).1, heq.1, List.mem_map.mpr ⟨_, he, Prod.ext rfl heq.2.symm⟩⟩
    · rintro ⟨cs, rfl, hmem⟩
      obtain ⟨e, he, heq⟩ := List.mem_map.mp hmem
      have hmember := he
      rw [hrow he, heq] at hmember
      exact hmember
  · have hpage : page records = Json.braced 0 ((entries.map rowOf).map rowText) := by
      rw [page, hsort, List.map_map, List.map_map]
      rfl
    rw [← hpage]
    exact congrArg Prod.fst (octets_of_plain hplain).1

/-- Tables that hold the same are written as the same octets. -/
theorem octets_of_same {records records' : Table Text Record} (h : (octets records).2 = .ok ())
    (hsame : ∀ k, records'.get? k = records.get? k) : octets records' = octets records := by
  have hplain' : Plain records' := (plain_of_octets h).of_get? hsame
  have hstored : (octets records').2 = .ok () := congrArg Prod.snd (octets_of_plain hplain').1
  refine Prod.ext ?_ (hstored.trans h.symm)
  exact (canonical_of_octets hstored).unique (canonical_of_octets h) hsame

end Store

open Store

/-! ### Two stores -/

/-- Has the move of a store on the file written it, with these records? Its write has succeeded if it comes
back; an aborted block passes its error on, so there it is leaving the block that has to come back. -/
structure Move.Saves (m : Move) (s s' : Session) (p : Path) (records : Table Text Record) : Prop where
  book : ∃ book, s.store.backing = .file book ∧ book.path = p
  through : (∃ o, m.run.run s = (.ok o, s')) ∨ ∃ e, m = .abort e ∧ leaveBatch.run s = (.ok (), s')
  wrote : s.world.disk.attempts < s'.world.disk.attempts
  holds : ∃ book, s'.store.backing = .file book ∧ book.records = records

/-- What has tried to write and has not failed has written the page of its records. -/
theorem Session.TriesOnce.canonical {α : Type} {p : Path} {s s' : Session} {a : α} {book : FileBook}
    (h : s.TriesOnce p s' (.ok a)) (hwrote : s.world.disk.attempts < s'.world.disk.attempts)
    (hbook : s'.store.backing = .file book) :
    ∃ bs, s'.world.disk.read p = .ok bs ∧ Canonical book.records bs := by
  rcases h with hrests | ⟨outcome, ⟨book', written, hbook', -, hwrite, rfl⟩, hfails⟩
  · rw [hrests.disk] at hwrote
    exact absurd hwrote (Nat.lt_irrefl _)
  · obtain rfl : book = book' := Backing.file.inj (hbook.symm.trans hbook')
    cases houtcome : written >>= fun _ => (octets book.records).2 with
    | error e => cases hfails e houtcome
    | ok =>
      obtain ⟨⟨⟩, rfl, hstored⟩ := bind_eq_ok_iff.mp houtcome
      exact ⟨_, (Disk.read_of_write hwrite).2.1, canonical_of_octets hstored⟩

/-- **A move that writes leaves the page of the records.** -/
theorem Move.Saves.canonical {m : Move} {s s' : Session} {p : Path} {records : Table Text Record}
    (h : m.Saves s s' p records) : ∃ bs, s'.world.disk.read p = .ok bs ∧ Canonical records bs := by
  obtain ⟨⟨book, hbook, rfl⟩, hthrough, hwrote, book', hbook', rfl⟩ := h
  rcases hthrough with ⟨o, hrun⟩ | ⟨e, -, hleave⟩
  · exact (m.triesOnce hbook hrun).canonical hwrote hbook'
  · obtain ⟨⟨name, counters, backing⟩, world⟩ := s
    obtain rfl : backing = .file book := hbook
    exact (triesOnce_of_leaveBatch hleave).canonical hwrote hbook'

/-- A store whose table can be written saves it when it is closed. -/
theorem Move.saves_close {s : Session} {book : FileBook} {place : List String}
    (hbook : s.store.backing = .file book) (h : Writes s.world.disk book.path book.records place) :
    ∃ s', Store.close.run s = (.ok (), s') ∧ Move.close.Saves s s' book.path book.records := by
  have hclose : Store.close.run s = (saveFile book).run s := by
    rw [Store.close, Act.run_get_bind, hbook]
  have hclose := hclose.trans (run_saveFile_of_writes h)
  refine ⟨_, hclose, ⟨_, hbook, rfl⟩, .inl ⟨.done, ?_⟩, Nat.lt_succ_self _,
    { book with pending := false }, rfl, rfl⟩
  rw [Move.run, Act.run_map, hclose]
  rfl

/-! ### Opening and closing -/

section Close

variable {name path : String} {w w' : World} {store : Store} {s : Session}

/-- A store that is opened and closed writes what it started with. -/
theorem Store.saved_of_openFile (hopen : (openFile name path).run w = (.ok store, w'))
    (hclose : close.run ⟨store, w'⟩ = (.ok (), s)) :
    ∃ records, startsWith w'.disk (Path.ofString path) = .ok records ∧ (octets records).2 = .ok () ∧
      w'.disk.write (Path.ofString path) (octets records).1 = (s.world.disk, .ok ()) := by
  obtain ⟨records, hstart, hholds⟩ := Session.Holds.of_openFile hopen
  obtain ⟨book, hpath, rfl, hrun⟩ := hholds.run_close
  obtain ⟨hstored, hwrite, -⟩ := saveFile_ok (hrun.symm.trans hclose)
  exact ⟨book.records, hstart, hstored, hpath ▸ hwrite⟩

/-- **The file is what it was** when a store is opened on it and closed once more. That store can be opened,
and if the disk does not fail it can be closed. -/
theorem Store.reopened_of_close (hopen : (openFile name path).run w = (.ok store, w'))
    (hclose : close.run ⟨store, w'⟩ = (.ok (), s)) (name₂ : String) :
    ∃ store₂ w₂, (openFile name₂ path).run s.world = (.ok store₂, w₂) ∧
      (∀ s₂, close.run ⟨store₂, w₂⟩ = (.ok (), s₂) →
        s₂.world.disk.read (Path.ofString path) = s.world.disk.read (Path.ofString path)) ∧
      (s.world.disk.mishaps s.world.disk.attempts = none →
        ∃ s₂, close.run ⟨store₂, w₂⟩ = (.ok (), s₂)) := by
  obtain ⟨-, -, -, hhoused, -⟩ := start_of_openFile hopen
  obtain ⟨records, hstart, hstored, hwrite⟩ := saved_of_openFile hopen hclose
  obtain ⟨-, hread, hdirectories⟩ := Disk.read_of_write hwrite
  obtain ⟨t, ht, hget⟩ :=
    startsWith_of_write hstored hwrite fun e he => (storable_of_startsWith hstart e he).since
  have hsame : octets t = octets records := octets_of_same hstored hget
  obtain ⟨errors, w₂, hopen₂, hdisk⟩ :=
    run_openFile_of_startsWith name₂ (hhoused.of_directories hdirectories) ht
  refine ⟨_, w₂, hopen₂, fun s₂ hclose₂ => ?_, fun hcalm => ?_⟩
  · obtain ⟨t₂, ht₂, -, hwrite₂⟩ := saved_of_openFile hopen₂ hclose₂
    rw [hdisk, ht] at ht₂
    obtain rfl := Except.ok.inj ht₂
    rw [(Disk.read_of_write hwrite₂).2.1, hread, hsame]
  · obtain ⟨place, hplace⟩ := Disk.writable_after_write hwrite
    rw [← hdisk] at hplace hcalm
    have hwrites : Writes w₂.disk (Path.ofString path) t place :=
      ⟨(congrArg Prod.snd hsame).trans hstored, hplace, hcalm⟩
    obtain ⟨s₂, hclose₂, -⟩ := Move.saves_close
      (s := ⟨onFile name₂ (Path.ofString path) t errors, w₂⟩) rfl hwrites
    exact ⟨s₂, hclose₂⟩

end Close

/-- **The dismissal file is canonical.** Two stores that hold the same records, whatever has happened to
them, write the same octets, and these are the page with the keys in increasing order. Opening a store on a
file and closing it rewrites the file to the page of what the store started with, and doing so again leaves
it as it is. -/
theorem file_canonical :
    (∀ (m₁ m₂ : Move) (s₁ s₁' s₂ s₂' : Session) (p₁ p₂ : Path) (r₁ r₂ : Table Text Record),
      m₁.Saves s₁ s₁' p₁ r₁ → m₂.Saves s₂ s₂' p₂ r₂ → (∀ key, r₁.get? key = r₂.get? key) →
      ∃ bs, s₁'.world.disk.read p₁ = .ok bs ∧ s₂'.world.disk.read p₂ = .ok bs ∧ Canonical r₁ bs) ∧
    ∀ (name path : String) (w w' : World) (store : Store) (s : Session),
      (openFile name path).run w = (.ok store, w') → close.run ⟨store, w'⟩ = (.ok (), s) →
      ∃ records bs, startsWith w'.disk (Path.ofString path) = .ok records ∧ Canonical records bs ∧
        s.world.disk.read (Path.ofString path) = .ok bs ∧
        ∀ name₂, ∃ store₂ w₂, (openFile name₂ path).run s.world = (.ok store₂, w₂) ∧
          (∀ s₂, close.run ⟨store₂, w₂⟩ = (.ok (), s₂) →
            s₂.world.disk.read (Path.ofString path) = .ok bs) ∧
          (s.world.disk.mishaps s.world.disk.attempts = none →
            ∃ s₂, close.run ⟨store₂, w₂⟩ = (.ok (), s₂)) := by
  refine ⟨fun m₁ m₂ s₁ s₁' s₂ s₂' p₁ p₂ r₁ r₂ h₁ h₂ hsame => ?_,
    fun name path w w' store s hopen hclose => ?_⟩
  · obtain ⟨bs₁, hread₁, hpage₁⟩ := h₁.canonical
    obtain ⟨bs₂, hread₂, hpage₂⟩ := h₂.canonical
    exact ⟨bs₁, hread₁, hpage₁.unique hpage₂ hsame ▸ hread₂, hpage₁⟩
  · obtain ⟨records, hstart, hstored, hwrite⟩ := saved_of_openFile hopen hclose
    have hread := (Disk.read_of_write hwrite).2.1
    refine ⟨records, _, hstart, canonical_of_octets hstored, hread, fun name₂ => ?_⟩
    rw [← hread]
    exact reopened_of_close hopen hclose name₂

/-- Dismissals under these keys, one after another. -/
def dismissals (keys : List Char) : Table Text Record :=
  keys.foldl (fun t c => t.put (Text.ofChars [c]) ⟨.newYear 2024, 100, 1⟩) .empty

theorem plain_dismissals (keys : List Char) : Plain (dismissals keys) := by
  have hplain {t : Table Text Record} (ht : Plain t) :
      Plain (keys.foldl (fun t c => t.put (Text.ofChars [c]) ⟨.newYear 2024, 100, 1⟩) t) := by
    induction keys generalizing t with
    | nil => exact ht
    | cons c keys ih => exact ih (ht.put _ ⟨by decide +kernel, by decide +kernel⟩)
  exact hplain plain_empty

/-- A store with these dismissals can be closed in an empty working directory. -/
theorem saves_dismissals (keys : List Char) :
    ∃ s, close.run ⟨onFile "store" (Path.ofString "d.json") (dismissals keys) 0, .blank⟩ = (.ok (), s) ∧
      Move.close.Saves ⟨onFile "store" (Path.ofString "d.json") (dismissals keys) 0, .blank⟩ s
        (Path.ofString "d.json") (dismissals keys) := by
  obtain ⟨place, hplace⟩ := ready_blank.accepts.place
  exact Move.saves_close (s := ⟨onFile "store" _ (dismissals keys) 0, .blank⟩) rfl
    ⟨congrArg Prod.snd (octets_of_plain (plain_dismissals keys)).1, hplace, rfl⟩

/-- Two stores that were filled in a different order, and one that is opened on no file. -/
theorem file_canonical_in_either_order :
    (∃ s s' bs,
      Move.close.Saves ⟨onFile "store" (Path.ofString "d.json") (dismissals ['a', 'b']) 0, .blank⟩ s
        (Path.ofString "d.json") (dismissals ['a', 'b']) ∧
      Move.close.Saves ⟨onFile "store" (Path.ofString "d.json") (dismissals ['b', 'a']) 0, .blank⟩ s'
        (Path.ofString "d.json") (dismissals ['b', 'a']) ∧
      s.world.disk.read (Path.ofString "d.json") = .ok bs ∧
      s'.world.disk.read (Path.ofString "d.json") = .ok bs) ∧
    ∃ store s bs store₂ w₂, (openFile "store" "d.json").run .blank = (.ok store, .blank) ∧
      close.run ⟨store, .blank⟩ = (.ok (), s) ∧ s.world.disk.read (Path.ofString "d.json") = .ok bs ∧
      (openFile "again" "d.json").run s.world = (.ok store₂, w₂) ∧
      ∀ s₂, close.run ⟨store₂, w₂⟩ = (.ok (), s₂) →
        s₂.world.disk.read (Path.ofString "d.json") = .ok bs := by
  constructor
  · obtain ⟨s, -, hsaves⟩ := saves_dismissals ['a', 'b']
    obtain ⟨s', -, hsaves'⟩ := saves_dismissals ['b', 'a']
    have hsame (key : Text) : (dismissals ['a', 'b']).get? key = (dismissals ['b', 'a']).get? key := by
      simp only [dismissals, List.foldl_cons, List.foldl_nil, Table.get?_put]
      split <;> simp_all
    obtain ⟨bs, hread, hread', -⟩ := file_canonical.1 _ _ _ _ _ _ _ _ _ _ hsaves hsaves' hsame
    exact ⟨s, s', bs, hsaves, hsaves', hread, hread'⟩
  · obtain ⟨s, hclose, -⟩ := saves_dismissals []
    have hopen := run_openFile "store" ready_blank
    obtain ⟨-, bs, -, -, hread, hagain⟩ := file_canonical.2 _ _ _ _ _ _ hopen hclose
    obtain ⟨store₂, w₂, hopen₂, hleaves, -⟩ := hagain "again"
    exact ⟨_, s, bs, store₂, w₂, hopen, hclose, hread, hopen₂, hleaves⟩

end IssueDigest
