import IssueDigest.Proofs.Documents
import IssueDigest.Proofs.Listings
/-!
# Documents and their references

The fields of a document are checked one by one, and then its references. `Listings` says what becomes of
a listing; this module goes on from there to whole documents whose fields are fine: which of them are
accepted, what the others are refused for, and what the issues of an accepted one are (`Carries`), in
their order, each with its own fields and with the one source of its id.

That ids are not empty is a matter of the fields. It is carried through the check by `Ensures`: what a
check is put together from gives what its result has.
-/

namespace IssueDigest

/-! ### What the fields give -/

/-- Does whatever the check accepts satisfy the predicate? -/
def Checked.Ensures {α : Type} (p : α → Prop) (a : Checked α) : Prop := ∀ x, a = .ok (.ok x) → p x

namespace Checked

variable {α β : Type} {p : α → Prop} {q : β → Prop}

theorem Ensures.mono {p' : α → Prop} {a : Checked α} (h : a.Ensures p) (himp : ∀ x, p x → p' x) :
    a.Ensures p' :=
  fun x hx => himp x (h x hx)

theorem ensures_true (a : Checked α) : a.Ensures fun _ => True := fun _ _ => trivial

theorem ensures_refused (complaints : List Complaint) :
    Ensures p (.ok (.error complaints)) := by
  intro x hx
  cases hx

theorem ensures_nil : Ensures (fun xs => ∀ x ∈ xs, p x) (.ok (.ok [])) := by
  intro xs hxs
  cases hxs
  exact List.forall_mem_nil p

theorem Ensures.map {a : Checked α} {f : α → β} (h : a.Ensures fun x => q (f x)) :
    (a.map f).Ensures q := by
  rintro y hy
  obtain ⟨outcome, houtcome, hy⟩ := map_eq_ok_iff.mp hy
  obtain ⟨x, rfl, rfl⟩ := map_eq_ok_iff.mp hy
  exact h x houtcome

theorem Ensures.both {a : Checked α} {b : Checked β} (ha : a.Ensures p) (hb : b.Ensures q) :
    (a.both b).Ensures fun x => p x.1 ∧ q x.2 := by
  rintro ⟨x, y⟩ hxy
  cases a with
  | error e => cases hxy
  | ok outcome =>
    obtain ⟨outcome', rfl, hmerge⟩ := map_eq_ok_iff.mp hxy
    unfold merge at hmerge
    split at hmerge
    · cases hmerge
      exact ⟨ha x rfl, hb y rfl⟩
    all_goals cases hmerge

/-- What every item gives, every member of the list has. -/
theorem Ensures.items {check : Nat → Value → Checked α} (h : ∀ i v, (check i v).Ensures p) (i : Nat)
    (vs : List Value) : (items check i vs).Ensures fun xs => ∀ x ∈ xs, p x := by
  induction vs generalizing i with
  | nil => exact ensures_nil
  | cons v vs ih =>
    refine Ensures.map (((h i v).both (ih (i + 1))).mono ?_)
    rintro ⟨x, xs⟩ ⟨hx, hxs⟩
    exact List.forall_mem_cons.mpr ⟨hx, hxs⟩

theorem Ensures.entryList {name kind : String} {check : List Step → List (Value × Value) → Checked α}
    (h : ∀ path fields, (check path fields).Ensures p) (entries : List (Value × Value)) :
    (entryList name kind check entries).Ensures fun xs => ∀ x ∈ xs, p x := by
  unfold Checked.entryList
  extract_lets entry
  have hentry (i : Nat) (v : Value) : (entry i v).Ensures p := by
    cases v with
    | map fields => exact h _ fields
    | _ => exact ensures_refused _
  split
  · exact ensures_nil
  · exact Ensures.items hentry 0 _
  · exact Ensures.items hentry 0 _
  · exact ensures_refused _

theorem Ensures.required {path : List Step} {name : String} {check : ValueCheck α}
    (h : ∀ v x, check v = .ok (.ok x) → p x) (entries : List (Value × Value)) :
    (required path name check entries).Ensures p := by
  intro x hx
  rw [Checked.required] at hx
  split at hx
  · next v _ =>
    obtain ⟨outcome, houtcome, hplace⟩ := map_eq_ok_iff.mp hx
    cases outcome with
    | ok x' =>
      cases hplace
      exact h v x houtcome
    | error flaw => cases hplace
  · cases hx

end Checked

theorem Text.eq_nil_of_string? {t : Text} (h : t.string? = some "") : t = [] := by
  obtain ⟨cs, hcs, hempty⟩ := Option.map_eq_some_iff.mp h
  obtain rfl := String.ofList_eq_empty_iff.mp hempty
  cases t with
  | nil => rfl
  | cons c t => simp [chars?, List.mapM_cons, Option.bind_eq_some_iff] at hcs

/-- A name has a character. -/
theorem ValueCheck.ne_empty_of_name {v : Value} {s : String} (h : name v = .ok (.ok s)) : s ≠ "" := by
  obtain ⟨outcome, -, hs⟩ := map_eq_ok_iff.mp h
  split at hs
  · cases hs
  next t =>
  split at hs
  · cases hs
  next s' hs' =>
  split at hs
  · cases hs
  next hne =>
  cases hs
  rintro rfl
  rw [Text.eq_nil_of_string? hs'] at hne
  exact hne rfl

open Checked

theorem Source.ensures_check (path : List Step) (fields : List (Value × Value)) :
    (Source.check path fields).Ensures fun s => s.id ≠ "" := by
  refine Ensures.map (Ensures.mono (Ensures.both
    (Ensures.required (fun _ _ => ValueCheck.ne_empty_of_name) fields) (ensures_true _)) ?_)
  rintro x ⟨hid, -⟩
  exact hid

theorem ListedIssue.ensures_check (path : List Step) (fields : List (Value × Value)) :
    (ListedIssue.check path fields).Ensures fun i => i.id ≠ "" := by
  refine Ensures.map (Ensures.mono (Ensures.both (ensures_true _) (Ensures.both
    (Ensures.required (fun _ _ => ValueCheck.ne_empty_of_name) fields) (ensures_true _))) ?_)
  rintro x ⟨-, hid, -⟩
  exact hid

namespace Listing

/-- **No id is empty** in a document whose fields are fine. -/
theorem ids_of_checkFields {entries : List (Value × Value)} {l : Listing}
    (h : checkFields entries = .ok (.ok l)) :
    (∀ s ∈ l.sources, s.id ≠ "") ∧ ∀ i ∈ l.issues, i.id ≠ "" := by
  refine Ensures.map (q := fun l : Listing => (∀ s ∈ l.sources, s.id ≠ "") ∧ ∀ i ∈ l.issues, i.id ≠ "")
    (Ensures.both (Ensures.entryList Source.ensures_check entries)
      (Ensures.entryList ListedIssue.ensures_check entries)) l h

/-! ### What the issues become -/

/-- Is this the issue of the entry: its fields, those of the one source that it names, and ids that
are not empty? -/
structure Carries (l : Listing) (entry : ListedIssue) (i : Issue) : Prop where
  id : i.id = entry.id
  severity : i.severity = entry.severity
  title : i.title = entry.title
  mark : i.mark = entry.mark
  user : i.user = entry.user
  source : (l.sources.filter fun s => s.id = entry.sourceId) = [i.source]
  key : i.key.source ≠ "" ∧ i.key.issue ≠ ""

/-- **The issues of a listing**: one for each entry, in order. -/
theorem joined_of_references {l : Listing} (hnodup : l.sourceIds.Nodup)
    (hknown : ∀ i ∈ l.issues, i.sourceId ∈ l.sourceIds) (hsources : ∀ s ∈ l.sources, s.id ≠ "")
    (hissues : ∀ i ∈ l.issues, i.id ≠ "") :
    ∃ issues, l.joined = .ok issues ∧ List.Forall₂ l.Carries l.issues issues := by
  refine joined_forall₂ fun entry hentry => ?_
  obtain ⟨s, hs, hid, hjoin⟩ := join_of_known hnodup (hknown entry hentry)
  exact ⟨_, hjoin, rfl, rfl, rfl, rfl, rfl, hid ▸ filter_sources hnodup hs, hsources s hs,
    hissues entry hentry⟩

/-- Where the fields are fine, the references decide. -/
theorem ofEntries_of_fields {entries : List (Value × Value)} {l : Listing}
    (hkeys : Value.hasTextKeys entries = true) (hfields : checkFields entries = .ok (.ok l)) :
    ofEntries entries =
      match l.flaw? with
      | some flaw => refuse [⟨[], flaw⟩]
      | none => .ok l := by
  rw [ofEntries, hkeys, hfields]
  cases h : l.flaw? with
  | none => simp [h, bind, Except.bind]; rfl
  | some flaw => simp [h, bind, Except.bind]

/-- **Which documents are accepted**, of those whose fields are fine: the ids of the sources must
differ and every issue name one of them. Ids that repeat are reported first, and then all unknown ones
together, sorted. The issues of an accepted document are there, one for each entry and in order, with
the fields of the entry and of the one source that it names. -/
theorem ofEntries_references {entries : List (Value × Value)} {l : Listing}
    (hkeys : Value.hasTextKeys entries = true) (hfields : checkFields entries = .ok (.ok l)) :
    (ofEntries entries = .ok l ↔
        l.sourceIds.Nodup ∧ ∀ i ∈ l.issues, i.sourceId ∈ l.sourceIds) ∧
      (¬l.sourceIds.Nodup →
        ofEntries entries = refuse [⟨[], .refused "source ids must be unique"⟩]) ∧
      (l.sourceIds.Nodup → (∃ i ∈ l.issues, i.sourceId ∉ l.sourceIds) →
        ∃ ids, l.AreUnknown ids ∧ ofEntries entries = refuse [⟨[], .refused
          ("issues reference unknown sources: " ++ Text.quotedList (ids.map Text.ofString))⟩]) ∧
      (ofEntries entries = .ok l →
        ∃ issues, l.joined = .ok issues ∧ List.Forall₂ l.Carries l.issues issues) := by
  have haccepted : ofEntries entries = .ok l ↔
      l.sourceIds.Nodup ∧ ∀ i ∈ l.issues, i.sourceId ∈ l.sourceIds := by
    rw [← flaw?_eq_none_iff, ofEntries_of_fields hkeys hfields]
    cases l.flaw? <;> simp [refuse]
  refine ⟨haccepted, ?_, ?_, ?_⟩
  · intro hrepeated
    rw [ofEntries_of_fields hkeys hfields, flaw?_of_not_nodup hrepeated]
  · rintro hnodup ⟨i, hi, hunknown⟩
    have hne : l.unknownIds ≠ [] := fun hnil => hunknown (unknownIds_eq_nil_iff.mp hnil i hi)
    refine ⟨l.unknownIds, areUnknown l, ?_⟩
    rw [ofEntries_of_fields hkeys hfields, flaw?_of_unknown hnodup hne]
  · intro hok
    obtain ⟨hnodup, hknown⟩ := haccepted.mp hok
    obtain ⟨hsources, hissues⟩ := ids_of_checkFields hfields
    exact joined_of_references hnodup hknown hsources hissues

/-- A document of sources with these ids, and of issues that name these. -/
def naming (ids named : List String) : List (Value × Value) :=
  [(.text "sources", .list (ids.map fun id => .map [(.text "id", .text id)])),
    (.text "issues", .list (named.map fun id =>
      .map [(.text "source_id", .text id), (.text "id", .text "i")]))]

/-- Its listing. -/
def listingOf (ids named : List String) : Listing :=
  ⟨ids.map fun id => ⟨id, 2, none⟩, named.map fun id => ⟨id, "i", 100, [], none, 0⟩⟩

/-- Two sources, the second of which has two of three issues; and the two ids that nobody has, in
another document. -/
theorem ofEntries_references_two :
    (∃ issues, (listingOf ["s", "t"] ["t", "s", "t"]).joined = .ok issues ∧
        List.Forall₂ (listingOf ["s", "t"] ["t", "s", "t"]).Carries
          (listingOf ["s", "t"] ["t", "s", "t"]).issues issues) ∧
      ∃ ids, (listingOf ["s"] ["u", "s", "p", "u"]).AreUnknown ids ∧
        ofEntries (naming ["s"] ["u", "s", "p", "u"]) = refuse [⟨[], .refused
          ("issues reference unknown sources: " ++ Text.quotedList (ids.map Text.ofString))⟩] := by
  have hfine : checkFields (naming ["s", "t"] ["t", "s", "t"])
      = .ok (.ok (listingOf ["s", "t"] ["t", "s", "t"])) := by decide +kernel
  have hunknown : checkFields (naming ["s"] ["u", "s", "p", "u"])
      = .ok (.ok (listingOf ["s"] ["u", "s", "p", "u"])) := by decide +kernel
  obtain ⟨haccepted, -, -, hjoined⟩ := ofEntries_references (by decide +kernel) hfine
  obtain ⟨-, -, hrefused, -⟩ := ofEntries_references (by decide +kernel) hunknown
  exact ⟨hjoined (haccepted.mpr (by decide +kernel)), hrefused (by decide +kernel) (by decide +kernel)⟩

end Listing

end IssueDigest
