import IssueDigest.Proofs.Actions
import IssueDigest.Proofs.QuotedText
import IssueDigest.Proofs.RecordText
import IssueDigest.Proofs.Tables
/-!
# Writing the dismissal file

Two things can keep a file store from writing its table: the disk refuses the file, or a piece of the
document cannot be stored. This module names what rules each of them out for good.

* A disk **accepts** a path if a file can be put there and no mishap is to come. Putting a file there
  keeps it so: the directories on the way are directories, the file's own place is none, so the new
  file stands in nobody's way.
* A table is **plain** if its keys are whole texts and the integers of its records can be written.
  Its document is then written to the end, because nothing else is in it; and only then.
-/

namespace IssueDigest

namespace Disk

/-! ### A disk that takes a file again and again -/

/-- Can a file be written at the path, now and from now on? -/
structure Accepts (d : Disk) (p : Path) : Prop where
  place : ∃ place, d.writable p = .ok place
  calm : ∀ n, d.attempts ≤ n → d.mishaps n = none

/-- Going through directories only needs them to be there. -/
theorem descend_of_directories {d d' : Disk}
    (h : ∀ place, d.node? place = some .directory → d'.node? place = some .directory)
    {names place target : List String} (hd : d.descend place names = .ok target) :
    d'.descend place names = .ok target := by
  induction names generalizing place with
  | nil => exact hd
  | cons name rest ih =>
    cases rest with
    | nil => exact hd
    | cons next rest =>
      rw [descend] at hd ⊢
      -- Only the case in which a directory stands on the way gets any further.
      · split at hd
        · cases hd
        · next hlength =>
          rw [if_neg hlength]
          split at hd
          · cases hd
          · cases hd
          · next hnode =>
            rw [h _ hnode]
            exact ih hd
      · simp
      · simp

theorem node?_of_put {d d' : Disk} {place : List String} {n : Node}
    (hnodes : d'.nodes = d.nodes.put place n) (q : List String) :
    d'.node? q = if ¬ isStanding q ∧ q = place then some n else d.node? q := by
  rw [node?, node?, hnodes, Table.get?_put]
  by_cases hstanding : isStanding q
  · rw [if_pos hstanding, if_neg fun h => h.1 hstanding, if_pos hstanding]
  · rw [if_neg hstanding, if_neg hstanding]
    exact if_congr (and_iff_right hstanding).symm rfl rfl

theorem node?_of_put_file {d d' : Disk} {place : List String} {content : List UInt8}
    (hnodes : d'.nodes = d.nodes.put place (.file content))
    (h : d.node? place ≠ some .directory) {q : List String}
    (hq : d.node? q = some .directory) : d'.node? q = some .directory := by
  have hne : q ≠ place := fun heq => h (heq ▸ hq)
  rw [node?_of_put hnodes, if_neg fun hput => hne hput.2, hq]

theorem checkPath_of_notMem {p : Path} (h : '\x00' ∉ p.text.toList) : checkPath p = .ok () := by
  have hnone : p.text.any (· == '\x00') = false := by
    refine String.contains_bool_eq.trans (List.any_eq_false.mpr fun c hc hnul => h ?_)
    rwa [← eq_of_beq hnul]
  rw [checkPath, hnone]
  rfl

theorem read_of_locate {d : Disk} {p : Path} {place : List String} {content : List UInt8}
    (hcheck : checkPath p = .ok ()) (hlocate : d.locate p = .ok place)
    (hnode : d.node? place = some (.file content)) : d.read p = .ok content := by
  refine bind_eq_ok_iff.mpr ⟨(), hcheck, ?_⟩
  rw [hlocate]
  dsimp only
  rw [hnode]
  rfl

/-- Only the file at the place of the path is read. -/
theorem read_eq_ok_iff {d : Disk} {p : Path} {content : List UInt8} :
    d.read p = .ok content ↔ checkPath p = .ok () ∧
      ∃ place, d.locate p = .ok place ∧ d.node? place = some (.file content) := by
  refine ⟨fun h => ?_, fun ⟨hcheck, _, hlocate, hnode⟩ => read_of_locate hcheck hlocate hnode⟩
  obtain ⟨⟨⟩, hcheck, h⟩ := bind_eq_ok_iff.mp h
  refine ⟨hcheck, ?_⟩
  split at h
  · cases h
  · next place hlocate =>
    split at h
    · cases h
    · cases h
    · next hnode =>
      obtain rfl := Except.ok.inj h
      exact ⟨place, hlocate, hnode⟩

theorem writable_eq_ok_iff {d : Disk} {p : Path} {place : List String} :
    d.writable p = .ok place ↔
      checkPath p = .ok () ∧ d.locate p = .ok place ∧ d.node? place ≠ some .directory := by
  constructor
  · intro h
    obtain ⟨_, hcheck, h⟩ := bind_eq_ok_iff.mp h
    refine ⟨hcheck, ?_⟩
    split at h
    · cases h
    · next place' hlocate =>
      split at h
      · cases h
      · next hnode =>
        obtain rfl := Except.ok.inj h
        exact ⟨hlocate, hnode⟩
  · rintro ⟨hcheck, hlocate, hnode⟩
    refine bind_eq_ok_iff.mpr ⟨(), hcheck, ?_⟩
    rw [hlocate]
    dsimp only
    split
    · next hdirectory => exact absurd hdirectory hnode
    · rfl

/-- The file that was put there does not keep the next one away. -/
theorem writable_of_put_file {d d' : Disk} {p : Path} {place : List String} {content : List UInt8}
    (hnodes : d'.nodes = d.nodes.put place (.file content))
    (h : d.writable p = .ok place) : d'.writable p = .ok place := by
  obtain ⟨hcheck, hlocate, hnode⟩ := writable_eq_ok_iff.mp h
  refine writable_eq_ok_iff.mpr ⟨hcheck, ?_, ?_⟩
  · unfold locate at *
    split at hlocate
    · cases hlocate
    · next hlength =>
      rw [if_neg hlength]
      exact descend_of_directories (fun _ => node?_of_put_file hnodes hnode) hlocate
  · unfold node? at *
    split at hnode
    · exact absurd rfl hnode
    · next hstanding =>
      rw [if_neg hstanding, hnodes, Table.get?_put, if_pos rfl]
      simp

/-- **A disk that accepts a path takes the file and goes on accepting it.** -/
theorem Accepts.write {d : Disk} {p : Path} (h : d.Accepts p) (content : List UInt8) :
    ∃ d', d.write p content = (d', .ok ()) ∧ d'.Accepts p := by
  obtain ⟨⟨place, hplace⟩, hcalm⟩ := h
  refine ⟨{ d with attempts := d.attempts + 1 }.put place (.file content), ?_, ?_, ?_⟩
  · simp only [Disk.write, hplace, hcalm d.attempts (Nat.le_refl _)]
  · exact ⟨place, writable_of_put_file (d := d) rfl hplace⟩
  · exact fun n hn => hcalm n (Nat.le_of_succ_le hn)

/-- A disk that does not take a file says so: the path is none, or the file system refuses. -/
theorem write_error {d : Disk} {p : Path} {content : List UInt8} {e : Fault}
    (h : (d.write p content).2 = .error e) : e = .refused .nulInPath ∨ e.isOs = true := by
  unfold write at h
  split at h
  · next e' hwritable =>
    obtain rfl : e' = e := Except.error.inj h
    obtain hcheck | ⟨⟨⟩, -, hwritable⟩ := bind_eq_error_iff.mp hwritable
    · rw [checkPath] at hcheck
      split at hcheck
      · exact .inl (Except.error.inj hcheck).symm
      · cases hcheck
    · refine .inr ?_
      split at hwritable
      · exact (Except.error.inj hwritable) ▸ rfl
      · split at hwritable
        · exact (Except.error.inj hwritable) ▸ rfl
        · cases hwritable
  · dsimp only at h
    split at h
    · cases h
    · exact .inr ((Except.error.inj h) ▸ rfl)
    · exact .inr ((Except.error.inj h) ▸ rfl)

end Disk

/-! ### Texts that can be encoded -/

theorem eq_ofChars_of_chars? {t : Text} {cs : List Char} (h : t.chars? = some cs) :
    t = Text.ofChars cs := by
  induction t generalizing cs with
  | nil =>
    obtain rfl : [] = cs := Option.some.inj h
    rfl
  | cons c t ih =>
    rw [Text.chars?, List.mapM_cons] at h
    obtain ⟨x, hx, h⟩ := Option.bind_eq_some_iff.mp h
    obtain ⟨xs, hxs, h⟩ := Option.bind_eq_some_iff.mp h
    obtain rfl := Option.some.inj h
    cases c with
    | char y =>
      obtain rfl : y = x := Option.some.inj hx
      rw [ih hxs, Text.ofChars, Text.ofChars, List.map_cons]
    | half offset => cases hx

theorem encodeText_ofChars (cs : List Char) :
    encodeText (Text.ofChars cs) = .ok (Utf8.encode cs) := by
  rw [encodeText, Iso.chars?_ofChars]
  rfl

/-- Only a text without halves can be stored. -/
theorem encodeText_eq_ok_iff {t : Text} {bs : List UInt8} :
    encodeText t = .ok bs ↔ ∃ cs, t = Text.ofChars cs ∧ Utf8.encode cs = bs := by
  constructor
  · intro h
    rw [encodeText] at h
    split at h
    · next cs hcs => exact ⟨cs, eq_ofChars_of_chars? hcs, Except.ok.inj h⟩
    · cases h
  · rintro ⟨cs, rfl, rfl⟩
    exact encodeText_ofChars cs

/-- It says where the first halves of another one are. -/
theorem unstorable_of_encodeText {t : Text} {e : Fault} (h : encodeText t = .error e) :
    ∃ position run, e = .refused (.unstorable position run) := by
  rw [encodeText] at h
  split at h
  · cases h
  · exact ⟨_, _, (Except.error.inj h).symm⟩

namespace Text

/-- Does the text hold no halves? -/
def Whole (t : Text) : Prop := ∀ c ∈ t, ∃ x, c = .char x

theorem whole_ofChars (cs : List Char) : Whole (Text.ofChars cs) := by
  intro c hc
  obtain ⟨x, -, rfl⟩ := List.mem_map.mp hc
  exact ⟨x, rfl⟩

theorem whole_append {t t' : Text} : Whole (t ++ t') ↔ Whole t ∧ Whole t' := List.forall_mem_append

theorem whole_flatMap {α : Type} {items : List α} {f : α → Text} (h : ∀ a ∈ items, Whole (f a)) :
    Whole (items.flatMap f) := by
  intro c hc
  obtain ⟨a, ha, hc⟩ := List.mem_flatMap.mp hc
  exact h a ha c hc

theorem exists_of_whole {t : Text} (h : Whole t) : ∃ cs, t = Text.ofChars cs := by
  induction t with
  | nil => exact ⟨[], rfl⟩
  | cons c t ih =>
    obtain ⟨⟨x, rfl⟩, ht⟩ := List.forall_mem_cons.mp h
    obtain ⟨cs, rfl⟩ := ih ht
    exact ⟨x :: cs, rfl⟩

end Text

/-- Such a text can be encoded. -/
theorem not_whole_of_encodeText {t : Text} {e : Fault} (h : encodeText t = .error e) : ¬t.Whole := by
  intro hwhole
  obtain ⟨cs, rfl⟩ := Text.exists_of_whole hwhole
  cases (encodeText_ofChars cs).symm.trans h

/-! ### A table that can be written -/

namespace Store

/-- Are the keys whole texts, and can the records be written? -/
def Plain (records : Table Text Record) : Prop :=
  ∀ e ∈ records.entries, (∃ cs, e.1 = Text.ofChars cs) ∧ e.2.Printable

theorem Plain.put {records : Table Text Record} (h : Plain records) (cs : List Char) {r : Record}
    (hr : r.Printable) : Plain (records.put (Text.ofChars cs) r) := by
  intro e he
  rcases Entries.mem_put he with rfl | he
  · exact ⟨⟨cs, rfl⟩, hr⟩
  · exact h e he

theorem Plain.erase {records : Table Text Record} (h : Plain records) (key : Text) :
    Plain (records.erase key) :=
  fun e he => h e (List.mem_of_mem_filter he)

/-- The order of the entries makes no difference. -/
theorem Plain.of_get? {records records' : Table Text Record} (h : Plain records)
    (hget : ∀ k, records'.get? k = records.get? k) : Plain records' := by
  intro e he
  have hfound : records'.get? e.1 = some e.2 := (Entries.get?_eq_some_iff records'.nodup).mpr he
  exact h (e.1, e.2) (Entries.mem_of_get?_eq_some ((hget e.1).symm.trans hfound))

theorem plain_empty : Plain .empty := fun _ he => nomatch he

/-- The record of a key can be written. -/
theorem Plain.printable {records : Table Text Record} (h : Plain records) {key : Text} {r : Record}
    (hr : records.get? key = some r) : r.Printable :=
  (h _ (Entries.mem_of_get?_eq_some hr)).2

/-- Can the token be stored? -/
def Storable (token : Json.Token) : Prop := ∃ bs, octetsOf token = .ok bs

theorem octetsOf_of_render {token : Json.Token} (hcheck : token.check = .ok ()) {cs : List Char}
    (hcs : token.render false = Text.ofChars cs) : octetsOf token = .ok (Utf8.encode cs) :=
  bind_eq_ok_iff.mpr ⟨(), hcheck, encodeText_eq_ok_iff.mpr ⟨cs, hcs, rfl⟩⟩

theorem storable_iff {token : Json.Token} : Storable token ↔
    token.check = .ok () ∧ ∃ cs, token.render false = Text.ofChars cs := by
  constructor
  · rintro ⟨bs, h⟩
    obtain ⟨_, hcheck, h⟩ := bind_eq_ok_iff.mp h
    obtain ⟨cs, hcs, -⟩ := encodeText_eq_ok_iff.mp h
    exact ⟨hcheck, cs, hcs⟩
  · rintro ⟨hcheck, cs, hcs⟩
    exact ⟨Utf8.encode cs, octetsOf_of_render hcheck hcs⟩

/-- Tokens that can be stored one by one can be stored one after another. -/
theorem octetsUpTo_of_storable {tokens : List Json.Token} (h : ∀ t ∈ tokens, Storable t) :
    ∃ cs, tokens.flatMap (Json.Token.render false) = Text.ofChars cs ∧
      octetsUpTo tokens = (Utf8.encode cs, .ok ()) := by
  induction tokens with
  | nil => exact ⟨[], rfl, rfl⟩
  | cons t tokens ih =>
    obtain ⟨hcheck, front, hfront⟩ := storable_iff.mp (h t List.mem_cons_self)
    obtain ⟨back, hback, hoctets⟩ := ih fun t' ht' => h t' (List.mem_cons_of_mem _ ht')
    refine ⟨front ++ back, ?_, ?_⟩
    · rw [List.flatMap_cons, hfront, hback]
      exact List.map_append.symm
    · rw [octetsUpTo, octetsOf_of_render hcheck hfront, hoctets, Utf8.encode, Utf8.encode,
        Utf8.encode, List.flatMap_append]

/-- What is stored to the end is stored piece by piece. -/
theorem storable_of_octetsUpTo {tokens : List Json.Token}
    (h : (octetsUpTo tokens).2 = .ok ()) : ∀ t ∈ tokens, Storable t := by
  induction tokens with
  | nil => exact nofun
  | cons t tokens ih =>
    rw [octetsUpTo] at h
    split at h
    · cases h
    · next bs hbs => exact List.forall_mem_cons.mpr ⟨⟨bs, hbs⟩, ih h⟩

theorem storable_mark (s : String) : Storable (.mark s) := storable_iff.mpr ⟨rfl, _, rfl⟩

theorem storable_int_iff {n : Int} : Storable (.int n) ↔ Numeral.isWritable n = true := by
  rw [storable_iff, Json.Token.check]
  constructor
  · rintro ⟨hcheck, -⟩
    by_contra hn
    rw [if_neg hn] at hcheck
    cases hcheck
  · intro hn
    exact ⟨if_pos hn, _, IssueKey.ofInt_eq_decimal n⟩

/-- Escapes are whole, and so is a quoted text if the text is. -/
theorem storable_text (cs : List Char) : Storable (.text (Text.ofChars cs)) :=
  storable_iff.mpr ⟨rfl, _, Json.quote_eq cs⟩

/-- A half is written as it is, and cannot be stored. -/
theorem whole_of_storable_text {t : Text} (h : Storable (.text t)) :
    ∃ cs, t = Text.ofChars cs := by
  obtain ⟨-, ds, hds⟩ := storable_iff.mp h
  have hwhole : ∀ c ∈ t, ∃ x, c = CodePoint.char x := by
    intro c hc
    cases c with
    | char x => exact ⟨x, rfl⟩
    | half offset =>
      have hescape : Json.escape false (.half offset) = [.half offset] := by
        have hcode : (CodePoint.half offset).toNat = 0xD800 + offset.val := rfl
        simp only [Json.escape, hcode, reduceCtorEq, if_false, Bool.false_and, Bool.false_eq_true]
        rw [if_neg (by omega), if_neg (by omega), if_neg (by omega)]
      have hmem : CodePoint.half offset ∈ Text.ofChars ds := by
        rw [← hds, Json.Token.render, Json.quote]
        simp only [List.cons_append, List.mem_cons, List.mem_append, List.mem_flatMap]
        exact .inr (.inl ⟨_, hc, by rw [hescape]; exact List.mem_singleton.mpr rfl⟩)
      simp [Text.ofChars] at hmem
  refine ⟨t.filterMap CodePoint.char?, ?_⟩
  clear h hds
  induction t with
  | nil => rfl
  | cons c t ih =>
    obtain ⟨x, rfl⟩ := hwhole c List.mem_cons_self
    have ht := ih fun c hc => hwhole c (List.mem_cons_of_mem _ hc)
    exact congrArg (CodePoint.char x :: ·) ht

theorem mem_intercalate {α : Type} {sep : List α} {items : List (List α)} {a : α}
    (h : a ∈ List.intercalate sep items) : a ∈ sep ∨ ∃ item ∈ items, a ∈ item := by
  induction items with
  | nil => cases h
  | cons item items ih =>
    cases items with
    | nil => exact Or.inr ⟨item, List.mem_cons_self, by simpa using h⟩
    | cons next items =>
      rw [List.intercalate_cons_cons, List.append_assoc, List.mem_append, List.mem_append] at h
      rcases h with h | h | h
      · exact Or.inr ⟨item, List.mem_cons_self, h⟩
      · exact Or.inl h
      · obtain h | ⟨item', hitem', h⟩ := ih h
        · exact Or.inl h
        · exact Or.inr ⟨item', List.mem_cons_of_mem _ hitem', h⟩

theorem mem_intercalate_of_mem {α : Type} {sep : List α} {items : List (List α)} {item : List α}
    {a : α} (hitem : item ∈ items) (ha : a ∈ item) : a ∈ List.intercalate sep items := by
  induction items with
  | nil => cases hitem
  | cons first items ih =>
    cases items with
    | nil =>
      obtain rfl := List.mem_singleton.mp hitem
      simpa using ha
    | cons next items =>
      rw [List.intercalate_cons_cons, List.append_assoc]
      rcases List.mem_cons.mp hitem with rfl | hitem
      · exact List.mem_append_left _ ha
      · exact List.mem_append_right _ (List.mem_append_right _ (ih hitem))

/-- What brackets and commas add to items are marks. -/
theorem mem_enclose {l : Json.Layout} {level : Nat} {opening closing : String}
    {items : List (List Json.Token)} {token : Json.Token}
    (h : token ∈ l.enclose level opening closing items) :
    (∃ s, token = .mark s) ∨ ∃ item ∈ items, token ∈ item := by
  have hbreak {level' : Nat} (h : token ∈ l.break level') : ∃ s, token = .mark s := by
    unfold Json.Layout.break at h
    split at h
    · cases h
    · exact ⟨_, List.mem_singleton.mp h⟩
  have hbetween {level' : Nat} (h : token ∈ l.between level') : ∃ s, token = .mark s := by
    unfold Json.Layout.between at h
    split at h
    · exact ⟨_, List.mem_singleton.mp h⟩
    · rcases List.mem_cons.mp h with rfl | h
      · exact ⟨_, rfl⟩
      · exact hbreak h
  unfold Json.Layout.enclose at h
  split at h
  · exact Or.inl ⟨_, List.mem_singleton.mp h⟩
  · simp only [List.cons_append, List.append_assoc, List.mem_cons, List.mem_append,
      List.not_mem_nil, or_false] at h
    rcases h with rfl | h | h | h | rfl
    · exact Or.inl ⟨_, rfl⟩
    · exact Or.inl (hbreak h)
    · exact (mem_intercalate h).imp_left hbetween
    · exact Or.inl (hbreak h)
    · exact Or.inl ⟨_, rfl⟩

theorem tokensOfFields_eq_map (l : Json.Layout) (level : Nat) (fields : List (Text × Json)) :
    Json.tokensOfFields l level fields =
      fields.map fun f => (f.1, .text f.1 :: .mark ": " :: Json.tokensAt l level f.2) := by
  induction fields with
  | nil => rw [Json.tokensOfFields, List.map_nil]
  | cons f fields ih => rw [Json.tokensOfFields, ih, List.map_cons]

/-- The fields of an object, in the order in which they are written. -/
theorem mem_items_iff (l : Json.Layout) (level : Nat) {fields : List (Text × Json)}
    {item : List Json.Token} :
    item ∈ ((if l.sorted then
        (Json.tokensOfFields l level fields).mergeSort fun a b => !Text.before b.1 a.1
      else Json.tokensOfFields l level fields).map Prod.snd) ↔
      ∃ f ∈ fields, item = .text f.1 :: .mark ": " :: Json.tokensAt l level f.2 := by
  have hmem : (∃ named ∈ Json.tokensOfFields l level fields, named.2 = item) ↔
      ∃ f ∈ fields, item = .text f.1 :: .mark ": " :: Json.tokensAt l level f.2 := by
    simp [tokensOfFields_eq_map, eq_comm]
  rw [List.mem_map, ← hmem]
  split
  · simp only [List.mem_mergeSort]
  · rfl

/-- Every token of an object is a mark, the name of a field or a token of its value. -/
theorem mem_tokensAt_object {l : Json.Layout} {level : Nat} {fields : List (Text × Json)}
    {token : Json.Token} (h : token ∈ Json.tokensAt l level (.object fields)) :
    (∃ s, token = .mark s) ∨
      ∃ f ∈ fields, token = .text f.1 ∨ token ∈ Json.tokensAt l (level + 1) f.2 := by
  rw [Json.tokensAt] at h
  obtain h | ⟨item, hitem, h⟩ := mem_enclose h
  · exact Or.inl h
  · obtain ⟨f, hf, rfl⟩ := (mem_items_iff _ _).mp hitem
    rcases List.mem_cons.mp h with rfl | h
    · exact Or.inr ⟨f, hf, Or.inl rfl⟩
    · rcases List.mem_cons.mp h with rfl | h
      · exact Or.inl ⟨_, rfl⟩
      · exact Or.inr ⟨f, hf, Or.inr h⟩

/-- Every field of an object is written, its name and its value. -/
theorem mem_tokensAt_object_of_mem {l : Json.Layout} {level : Nat} {fields : List (Text × Json)}
    {f : Text × Json} (hf : f ∈ fields) {token : Json.Token}
    (h : token = .text f.1 ∨ token ∈ Json.tokensAt l (level + 1) f.2) :
    token ∈ Json.tokensAt l level (.object fields) := by
  rw [Json.tokensAt]
  have hitem := (mem_items_iff l (level + 1)).mpr ⟨f, hf, rfl⟩
  have hmem : token ∈ .text f.1 :: .mark ": " :: Json.tokensAt l (level + 1) f.2 := by
    rcases h with rfl | h
    · exact List.mem_cons_self
    · exact List.mem_cons_of_mem _ (List.mem_cons_of_mem _ h)
  generalize List.map Prod.snd _ = items at hitem ⊢
  have hne : items.isEmpty = false := by
    cases items with
    | nil => cases hitem
    | cons => rfl
  rw [Json.Layout.enclose, hne, if_neg Bool.false_ne_true]
  simp only [List.cons_append, List.mem_cons, List.mem_append]
  exact .inr (.inl (.inl (.inr (mem_intercalate_of_mem hitem hmem))))

theorem storable_of_mem_toJson {l : Json.Layout} {r : Record} (h : r.Printable) {level : Nat}
    {token : Json.Token} (ht : token ∈ Json.tokensAt l level r.toJson) : Storable token := by
  have hfields : ∀ f ∈ r.fields, Storable (.text f.1) ∧
      ∀ token ∈ Json.tokensAt l (level + 1) f.2, Storable token := by
    simp only [Record.fields, List.forall_mem_cons, Json.tokensAt, List.mem_singleton, forall_eq]
    exact ⟨⟨storable_text _, storable_text _⟩, ⟨storable_text _, storable_int_iff.mpr h.severity⟩,
      storable_text _, storable_int_iff.mpr h.count⟩
  rw [Record.toJson_eq] at ht
  obtain ⟨s, rfl⟩ | ⟨f, hf, hf'⟩ := mem_tokensAt_object ht
  · exact storable_mark s
  · rcases hf' with rfl | hf'
    · exact (hfields f hf).1
    · exact (hfields f hf).2 _ hf'

/-- **A plain table is written to the end.** -/
theorem Plain.octets {records : Table Text Record} (h : Plain records) :
    ∃ cs, (documentOf records).render Json.sortedPage = Text.ofChars cs ∧
      octets records = (Utf8.encode cs, .ok ()) := by
  refine octetsUpTo_of_storable fun token ht => ?_
  obtain ⟨s, rfl⟩ | ⟨f, hf, hf'⟩ := mem_tokensAt_object ht
  · exact storable_mark s
  · obtain ⟨⟨key, r⟩, he, rfl⟩ := List.mem_map.mp hf
    obtain ⟨⟨cs, rfl⟩, hr⟩ := h _ he
    rcases hf' with rfl | hf'
    · exact storable_text cs
    · exact storable_of_mem_toJson hr hf'

theorem printable_of_storable {l : Json.Layout} {level : Nat} {r : Record}
    (h : ∀ token ∈ Json.tokensAt l level r.toJson, Storable token) : r.Printable := by
  have hint {name : Text} {n : Int} (hn : (name, Json.int n) ∈ r.fields) :
      Numeral.isWritable n = true := by
    refine storable_int_iff.mp (h _ (mem_tokensAt_object_of_mem hn (.inr ?_)))
    rw [Json.tokensAt]
    exact List.mem_singleton.mpr rfl
  exact ⟨hint (List.mem_cons_of_mem _ List.mem_cons_self),
    hint (List.mem_cons_of_mem _ (List.mem_cons_of_mem _ List.mem_cons_self))⟩

theorem octetsUpTo_error {tokens : List Json.Token} {e : Fault}
    (h : (octetsUpTo tokens).2 = .error e) : ∃ token ∈ tokens, octetsOf token = .error e := by
  induction tokens with
  | nil => cases h
  | cons t tokens ih =>
    rw [octetsUpTo] at h
    split at h
    · next e' he' =>
      obtain rfl : e' = e := Except.error.inj h
      exact ⟨t, List.mem_cons_self, he'⟩
    · obtain ⟨token, ht, he⟩ := ih h
      exact ⟨token, List.mem_cons_of_mem _ ht, he⟩

/-- Only a number fails for being too long. -/
theorem octetsOf_ne_unwritable {token : Json.Token} (h : token.check = .ok ()) :
    octetsOf token ≠ .error (.refused .integerUnwritable) := by
  intro herror
  obtain hcheck | ⟨⟨⟩, -, hrender⟩ := bind_eq_error_iff.mp herror
  · cases h.symm.trans hcheck
  · obtain ⟨position, run, he⟩ := unstorable_of_encodeText hrender
    cases he

/-- **Where all records can be written no number is too long**, whatever else keeps the table from
being written. -/
theorem octets_ne_unwritable {records : Table Text Record}
    (h : ∀ e ∈ records.entries, e.2.Printable) :
    (octets records).2 ≠ .error (.refused .integerUnwritable) := by
  intro herror
  obtain ⟨token, ht, htoken⟩ := octetsUpTo_error herror
  refine octetsOf_ne_unwritable ?_ htoken
  obtain ⟨s, rfl⟩ | ⟨f, hf, hf'⟩ := mem_tokensAt_object ht
  · rfl
  · obtain ⟨⟨key, r⟩, he, rfl⟩ := List.mem_map.mp hf
    rcases hf' with rfl | hf'
    · rfl
    · exact (storable_iff.mp (storable_of_mem_toJson (h _ he) hf')).1

/-- **Only a plain table is written to the end.** -/
theorem plain_of_octets {records : Table Text Record} (h : (octets records).2 = .ok ()) :
    Plain records := by
  intro e he
  have hfield {token : Json.Token} (ht : token = .text e.1 ∨
      token ∈ Json.tokensAt Json.sortedPage 1 e.2.toJson) : Storable token :=
    storable_of_octetsUpTo h token (mem_tokensAt_object_of_mem (List.mem_map.mpr ⟨e, he, rfl⟩) ht)
  exact ⟨whole_of_storable_text (hfield (.inl rfl)),
    printable_of_storable fun _ ht => hfield (.inr ht)⟩

end Store

end IssueDigest
