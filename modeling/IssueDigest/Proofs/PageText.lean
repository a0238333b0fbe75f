import IssueDigest.Dismissal.Open
import IssueDigest.Proofs.FileWriting
/-!
# The page of a table read back

The dismissal file is one object of objects: a record for each key, on lines of their own, the names
at both levels in order. This module follows the page from the inside out. `OnPage` says of a value
which characters stand for it and what they are read as, and has one lemma for each kind of value
that a record holds. An object is read with its fields in the order of the page, not in that of the
table, so what is read is another object; what a table holds for a key does not depend on the order,
and the table comes back (`readDocument_octets`).
-/

namespace IssueDigest

namespace Json

/-! ### Lines and braces -/

/-- The end of a line and the indent of the next one. -/
def lineBreak (level : Nat) : List Char := '\n' :: List.replicate (level * 2) ' '

theorem isBlank_of_mem_lineBreak {level : Nat} {c : Char} (h : c ∈ lineBreak level) :
    isBlank c = true := by
  rcases List.mem_cons.mp h with rfl | h
  · rfl
  · rw [List.eq_of_mem_replicate h]
    rfl

/-- Items between braces, each on a line of its own. -/
def braced (level : Nat) (items : List (List Char)) : List Char :=
  if items.isEmpty then ['\x7b', '\x7d']
  else
    '\x7b' :: (lineBreak (level + 1) ++
      List.intercalate (',' :: lineBreak (level + 1)) items ++ (lineBreak level ++ ['\x7d']))

theorem flatMap_intercalate {α β : Type} (f : α → List β) (sep : List α) (items : List (List α)) :
    (List.intercalate sep items).flatMap f =
      List.intercalate (sep.flatMap f) (items.map (List.flatMap f)) := by
  induction items with
  | nil => rfl
  | cons item items ih =>
    cases items with
    | nil => simp
    | cons next items =>
      rw [List.intercalate_cons_cons, List.flatMap_append, List.flatMap_append, ih]
      exact List.intercalate_cons_cons.symm

theorem ofChars_intercalate (sep : List Char) (items : List (List Char)) :
    Text.ofChars (List.intercalate sep items) =
      List.intercalate (Text.ofChars sep) (items.map Text.ofChars) := by
  have hflat : Text.ofChars = List.flatMap fun c => [.char c] := funext fun _ => List.map_eq_flatMap
  rw [hflat]
  exact flatMap_intercalate _ sep items

theorem render_break (level : Nat) :
    (sortedPage.break level).flatMap (Token.render false) = Text.ofChars (lineBreak level) := by
  have hmark : Text.ofString (String.ofList (lineBreak level)) = Text.ofChars (lineBreak level) := by
    rw [Text.ofString, String.toList_ofList]
  exact (List.append_nil _).trans hmark

theorem render_enclose {level : Nat} {items : List (List Token)} {texts : List (List Char)}
    (h : items.map (List.flatMap (Token.render false)) = texts.map Text.ofChars) :
    (sortedPage.enclose level "\x7b" "\x7d" items).flatMap (Token.render false) =
      Text.ofChars (braced level texts) := by
  have hempty : items.isEmpty = texts.isEmpty := by
    have hlength := congrArg List.length h
    rw [List.length_map, List.length_map] at hlength
    rw [Bool.eq_iff_iff, List.isEmpty_iff_length_eq_zero, List.isEmpty_iff_length_eq_zero, hlength]
  unfold Layout.enclose braced
  rw [hempty]
  split
  · rfl
  · have hbetween : (sortedPage.between (level + 1)).flatMap (Token.render false) =
        Text.ofChars (',' :: lineBreak (level + 1)) := by
      have hcomma : sortedPage.between (level + 1) = .mark "," :: sortedPage.break (level + 1) := rfl
      rw [hcomma, List.flatMap_cons, render_break]
      rfl
    have hitems : (List.intercalate (sortedPage.between (level + 1)) items).flatMap
        (Token.render false) =
        Text.ofChars (List.intercalate (',' :: lineBreak (level + 1)) texts) := by
      rw [flatMap_intercalate, hbetween, h, ofChars_intercalate]
    have hopen : Token.render false (.mark "\x7b") = Text.ofChars ['\x7b'] := rfl
    have hclose : Token.render false (.mark "\x7d") = Text.ofChars ['\x7d'] := rfl
    rw [List.cons_append, List.cons_append, List.cons_append, List.flatMap_cons,
      List.flatMap_append, List.flatMap_append, List.flatMap_append, render_break, hitems,
      render_break, List.flatMap_singleton, hopen, hclose]
    simp [Text.ofChars]

/-! ### Values -/

/-- Stands the text for a value at a level of a page, and is it read as another value with so much
fuel? -/
structure OnPage (fuel level : Nat) (v : Json) (text : List Char) (back : Json) : Prop where
  rendered : (tokensAt sortedPage level v).flatMap (Token.render false) = Text.ofChars text
  starts : ∀ rest, skipBlanks (text ++ rest) = text ++ rest
  reads : ∀ n, fuel ≤ n → ∀ c rest, EndsNumber c →
    readValue n (text ++ c :: rest) = .ok (back, c :: rest)
  noReturn : '\r' ∉ text

theorem onPage_text (level : Nat) (cs : List Char) :
    OnPage 1 level (.text (Text.ofChars cs)) (quoted cs) (.text (Text.ofChars cs)) where
  rendered := by
    rw [tokensAt, List.flatMap_singleton]
    exact quote_eq cs
  starts _ := rfl
  reads n hn c rest _ := by
    obtain ⟨n, rfl⟩ := Nat.exists_eq_add_of_le' hn
    have htext : quoted cs ++ c :: rest = '"' :: (cs.flatMap escaped ++ '"' :: c :: rest) := by
      simp [quoted]
    rw [htext, readValue, readText_quoted]
    rfl
  noReturn := return_notMem_quoted cs

theorem onPage_int (level : Nat) {n : Int} (h : Numeral.isWritable n = true) :
    OnPage 1 level (.int n) (IssueKey.decimal n) (.int n) where
  rendered := by
    rw [tokensAt, List.flatMap_singleton]
    exact IssueKey.ofInt_eq_decimal n
  starts := skipBlanks_decimal n
  reads m hm c rest hc := by
    obtain ⟨m, rfl⟩ := Nat.exists_eq_add_of_le' hm
    exact readValue_int h hc m rest
  noReturn := by
    intro hmem
    by_cases hneg : n < 0
    · rw [IssueKey.decimal_of_neg hneg] at hmem
      rcases List.mem_cons.mp hmem with h | h
      · cases h
      · exact absurd (Numeral.isDigit_of_mem_toDigits h) (by decide)
    · obtain ⟨m, rfl⟩ : ∃ m : Nat, n = m := ⟨n.toNat, by omega⟩
      exact absurd (Numeral.isDigit_of_mem_toDigits hmem) (by decide)

/-! ### Objects -/

/-- A field of an object on a page: its name, its value, the text of the value, and what the text is
read as. -/
structure Field where
  name : List Char
  value : Json
  text : List Char
  back : Json

namespace Field

/-- What stands for the field. -/
def written (f : Field) : List Char := quoted f.name ++ ':' :: ' ' :: f.text

/-- The field as it is written. -/
def given (f : Field) : Text × Json := (Text.ofChars f.name, f.value)

/-- The field as it is read. -/
def found (f : Field) : Text × Json := (Text.ofChars f.name, f.back)

/-- Fields in the order of their names. -/
def sort (fields : List Field) : List Field :=
  fields.mergeSort fun f g => !Text.before (Text.ofChars g.name) (Text.ofChars f.name)

theorem sort_perm (fields : List Field) : (sort fields).Perm fields := List.mergeSort_perm _ _

/-- Sorting the fields of some items is sorting the items. -/
theorem sort_map {α : Type} (field : α → Field) (items : List α) :
    ∃ sorted : List α, sort (items.map field) = sorted.map field ∧ sorted.Perm items :=
  ⟨items.mergeSort fun a b =>
      !Text.before (Text.ofChars (field b).name) (Text.ofChars (field a).name),
    (List.map_mergeSort (f := field) fun _ _ _ _ => rfl).symm, List.mergeSort_perm _ _⟩

theorem nodup_found {fields : List Field} (h : (fields.map Field.name).Nodup) :
    ((fields.map found).map Prod.fst).Nodup := by
  have hinjective : Function.Injective Text.ofChars :=
    List.map_injective_iff.mpr fun _ _ h => CodePoint.char.inj h
  have hnames := h.map hinjective
  rwa [List.map_map] at hnames ⊢

end Field

section Object

variable {fuel level : Nat} {fields : List Field}
  (h : ∀ f ∈ fields, OnPage fuel level f.value f.text f.back)

include h

theorem render_fields :
    (((tokensOfFields sortedPage level (fields.map Field.given)).mergeSort
        fun a b => !Text.before b.1 a.1).map Prod.snd).map (List.flatMap (Token.render false)) =
      ((Field.sort fields).map Field.written).map Text.ofChars := by
  have hsort : (tokensOfFields sortedPage level (fields.map Field.given)).mergeSort
        (fun a b => !Text.before b.1 a.1) =
      (Field.sort fields).map fun f =>
        (Text.ofChars f.name, .text (Text.ofChars f.name) :: .mark ": " ::
          tokensAt sortedPage level f.value) := by
    rw [Store.tokensOfFields_eq_map, List.map_map, Field.sort]
    refine Eq.symm (List.map_mergeSort (f := fun f : Field => (Text.ofChars f.name,
      Token.text (Text.ofChars f.name) :: .mark ": " :: tokensAt sortedPage level f.value)) ?_)
    exact fun _ _ _ _ => rfl
  rw [hsort, List.map_map, List.map_map, List.map_map]
  refine List.map_congr_left fun f hf => ?_
  have hvalue := (h f ((Field.sort_perm fields).mem_iff.mp hf)).rendered
  have hcolon : Token.render false (.mark ": ") = Text.ofChars [':', ' '] := rfl
  have hname : Token.render false (.text (Text.ofChars f.name)) = Text.ofChars (quoted f.name) :=
    quote_eq f.name
  simp only [Function.comp_apply, List.flatMap_cons, hname, hcolon, hvalue, Field.written]
  simp [Text.ofChars]

/-- The fields of an object are read one after another, whatever their order. -/
theorem readFields_written (hne : fields ≠ []) {n : Nat} (hn : fuel + fields.length ≤ n)
    (outer : Nat) (rest : List Char) :
    readFields n (List.intercalate (',' :: lineBreak level) (fields.map Field.written) ++
        (lineBreak outer ++ '\x7d' :: rest)) = .ok (fields.map Field.found, rest) := by
  induction fields generalizing n with
  | nil => exact absurd rfl hne
  | cons f fields ih =>
    obtain ⟨n, rfl⟩ : ∃ m, n = m + 1 := ⟨n - 1, by rw [List.length_cons] at hn; omega⟩
    have hf := h f List.mem_cons_self
    have hlength : fuel ≤ n := by rw [List.length_cons] at hn; omega
    -- The value of the last field ends with its line, that of any other one with a comma.
    cases fields with
    | nil =>
      have hvalue := hf.reads n hlength '\n' (List.replicate (outer * 2) ' ' ++ '\x7d' :: rest)
        (.inr (.inr rfl))
      have hend : skipBlanks (lineBreak outer ++ '\x7d' :: rest) = '\x7d' :: rest :=
        skipBlanks_append (fun _ hc => isBlank_of_mem_lineBreak hc) _
      simpa [Field.written, Field.found, quoted, lineBreak] using
        readFields_last (readText_quoted f.name) (hf.starts _) hvalue hend
    | cons g fields =>
      have hvalue := hf.reads n hlength ',' (lineBreak level ++
        (List.intercalate (',' :: lineBreak level) ((g :: fields).map Field.written) ++
          (lineBreak outer ++ '\x7d' :: rest))) (.inl rfl)
      have hmore := ih (fun f hf => h f (List.mem_cons_of_mem _ hf)) (List.cons_ne_nil _ _)
        (n := n) (by rw [List.length_cons] at hn; omega)
      have hquote : skipBlanks (List.intercalate (',' :: lineBreak level)
          ((g :: fields).map Field.written) ++ (lineBreak outer ++ '\x7d' :: rest)) =
          List.intercalate (',' :: lineBreak level) ((g :: fields).map Field.written) ++
            (lineBreak outer ++ '\x7d' :: rest) := by
        cases fields <;> rfl
      have hread := readFields_cons (readText_quoted f.name) (hf.starts _) hvalue
        (fun _ hc => isBlank_of_mem_lineBreak hc) rfl hmore hquote
      simpa [Field.written, Field.found, quoted, List.intercalate_cons_cons] using hread

/-- **An object reads back**, whatever stands behind it. -/
theorem readValue_braced {n outer : Nat} (hlevel : level = outer + 1)
    (hn : fuel + fields.length + 1 ≤ n) (rest : List Char) :
    readValue n (braced outer (fields.map Field.written) ++ rest) =
      .ok (.object (Entries.ofPairs (fields.map Field.found)), rest) := by
  obtain ⟨n, rfl⟩ : ∃ m, n = m + 1 := ⟨n - 1, by omega⟩
  subst hlevel
  cases fields with
  | nil => rfl
  | cons f fields =>
    have hfields := readFields_written h (List.cons_ne_nil _ _) (n := n) (by omega)
      outer rest
    have hbraced : braced outer ((f :: fields).map Field.written) ++ rest =
        '\x7b' :: (lineBreak (outer + 1) ++
          (List.intercalate (',' :: lineBreak (outer + 1)) ((f :: fields).map Field.written) ++
            (lineBreak outer ++ '\x7d' :: rest))) := by
      simp [braced]
    obtain ⟨tail, hstart⟩ : ∃ tail, List.intercalate (',' :: lineBreak (outer + 1))
        ((f :: fields).map Field.written) ++ (lineBreak outer ++ '\x7d' :: rest) = '"' :: tail := by
      cases fields <;> exact ⟨_, rfl⟩
    have hskip : skipBlanks (lineBreak (outer + 1) ++ '"' :: tail) = '"' :: tail :=
      skipBlanks_append (fun _ hc => isBlank_of_mem_lineBreak hc) _
    rw [hstart] at hfields hbraced
    rw [hbraced, readValue, hskip]
    split
    · next heq => exact absurd (List.cons.inj heq).1 (by decide)
    · rw [hfields]
      rfl

theorem return_notMem_braced {outer : Nat} : '\r' ∉ braced outer (fields.map Field.written) := by
  have hbreak (level : Nat) : '\r' ∉ lineBreak level := by simp [lineBreak]
  unfold braced
  split
  · decide
  · simp only [List.mem_cons, List.mem_append, not_or]
    refine ⟨by decide, ⟨hbreak _, fun hmem => ?_⟩, hbreak _, by decide, by simp⟩
    obtain hmem | ⟨item, hitem, hmem⟩ := Store.mem_intercalate hmem
    · exact (List.mem_cons.mp hmem).elim (by decide) (hbreak _)
    · obtain ⟨f, hf, rfl⟩ := List.mem_map.mp hitem
      simp only [Field.written, List.mem_append, List.mem_cons] at hmem
      rcases hmem with hmem | hmem | hmem | hmem
      · exact return_notMem_quoted _ hmem
      · exact absurd hmem (by decide)
      · exact absurd hmem (by decide)
      · exact (h f hf).noReturn hmem

end Object

theorem starts_braced (level : Nat) (items : List (List Char)) (rest : List Char) :
    skipBlanks (braced level items ++ rest) = braced level items ++ rest := by
  unfold braced
  split <;> rfl

/-- **An object on a page**, from its fields. -/
theorem onPage_object {fuel level : Nat} {fields : List Field}
    (hnames : (fields.map Field.name).Nodup)
    (h : ∀ f ∈ fields, OnPage fuel (level + 1) f.value f.text f.back) :
    OnPage (fuel + fields.length + 1) level (.object (fields.map Field.given))
      (braced level ((Field.sort fields).map Field.written))
      (.object ((Field.sort fields).map Field.found)) := by
  have hperm := Field.sort_perm fields
  have hsorted : ∀ f ∈ Field.sort fields, OnPage fuel (level + 1) f.value f.text f.back :=
    fun f hf => h f (hperm.mem_iff.mp hf)
  have hnodup := Field.nodup_found ((hperm.map Field.name).nodup_iff.mpr hnames)
  refine ⟨?_, starts_braced _ _, fun n hn c rest _ => ?_, return_notMem_braced hsorted⟩
  · rw [tokensAt]
    exact render_enclose (render_fields h)
  · have hread := readValue_braced hsorted rfl (n := n) (by rw [hperm.length_eq]; exact hn)
      (c :: rest)
    rwa [Entries.ofPairs_of_nodup hnodup] at hread

/-! ### The whole text -/

theorem length_le_length_intercalate {α : Type} (a : α) (sep : List α) (items : List (List α)) :
    items.length ≤ (List.intercalate (a :: sep) items).length + 1 := by
  induction items with
  | nil => exact Nat.zero_le _
  | cons item items ih =>
    cases items with
    | nil => exact Nat.le_add_left _ _
    | cons next items =>
      rw [List.intercalate_cons_cons]
      simp only [List.length_append, List.length_cons] at ih ⊢
      omega

/-- Every item takes some characters, so there is fuel for all of them. -/
theorem length_le_length_braced (items : List (List Char)) :
    items.length + 2 ≤ (braced 0 items).length ∧
      (items ≠ [] → items.length + 5 ≤ (braced 0 items).length) := by
  cases items with
  | nil => exact ⟨Nat.le_refl _, fun h => absurd rfl h⟩
  | cons item items =>
    have hlength := length_le_length_intercalate ',' (lineBreak 1) (item :: items)
    have hbraced : (braced 0 (item :: items)).length =
        (List.intercalate (',' :: lineBreak 1) (item :: items)).length + 6 := by
      simp [braced, lineBreak]
    rw [hbraced]
    exact ⟨by omega, fun _ => by omega⟩

/-- **A page reads back.** -/
theorem read_braced {fields : List Field} (h : ∀ f ∈ fields, OnPage 5 1 f.value f.text f.back) :
    read (braced 0 (fields.map Field.written)) =
      .ok (.object (Entries.ofPairs (fields.map Field.found))) := by
  -- The reader has fuel for two steps per character, and a field takes more than one character.
  have hfuel : 5 + fields.length + 1 ≤ 2 * (braced 0 (fields.map Field.written)).length + 2 := by
    obtain ⟨hshort, hlong⟩ := length_le_length_braced (fields.map Field.written)
    cases fields with
    | nil => exact Nat.le_refl _
    | cons f fields =>
      have hlong := hlong (List.cons_ne_nil _ _)
      rw [List.length_map] at hlong
      omega
  have hvalue := readValue_braced h rfl hfuel []
  have hstart := starts_braced 0 (fields.map Field.written) []
  rw [List.append_nil] at hvalue hstart
  obtain ⟨tail, htail⟩ : ∃ tail, braced 0 (fields.map Field.written) = '\x7b' :: tail := by
    unfold braced
    split <;> exact ⟨_, rfl⟩
  unfold read
  split
  · next heq => exact absurd (List.cons.inj (htail.symm.trans heq)).1 (by decide)
  · rw [hstart, hvalue]
    rfl

end Json

/-! ### Records and tables -/

namespace Record

/-- The fields of a record on the page. -/
def onPage (r : Record) : List Json.Field :=
  [⟨"dismissed_at".toList, .text (.ofChars r.since.write), Json.quoted r.since.write,
      .text (.ofChars r.since.write)⟩,
    ⟨"max_severity_at_dismissal".toList, .int r.severity, IssueKey.decimal r.severity,
      .int r.severity⟩,
    ⟨"dismiss_count".toList, .int r.count, IssueKey.decimal r.count, .int r.count⟩]

theorem toJson_eq_onPage (r : Record) : r.toJson = .object (r.onPage.map Json.Field.given) := rfl

theorem found_onPage (r : Record) :
    r.onPage.map Json.Field.found = r.onPage.map Json.Field.given := rfl

theorem nodup_onPage (r : Record) : (r.onPage.map Json.Field.name).Nodup := by
  have hnames : r.onPage.map Json.Field.name = ["dismissed_at".toList,
      "max_severity_at_dismissal".toList, "dismiss_count".toList] := rfl
  rw [hnames]
  decide +kernel

/-- The text of a record on the page. -/
def pageText (r : Record) : List Char :=
  Json.braced 1 ((Json.Field.sort r.onPage).map Json.Field.written)

/-- What the text of a record is read as. -/
def pageValue (r : Record) : Json := .object ((Json.Field.sort r.onPage).map Json.Field.found)

theorem onPage_toJson {r : Record} (h : r.Printable) :
    Json.OnPage 5 1 r.toJson r.pageText r.pageValue := by
  have hfields : ∀ f ∈ r.onPage, Json.OnPage 1 2 f.value f.text f.back := by
    refine List.forall_mem_cons.mpr ⟨Json.onPage_text 2 _, List.forall_mem_cons.mpr
      ⟨Json.onPage_int 2 h.severity, List.forall_mem_singleton.mpr (Json.onPage_int 2 h.count)⟩⟩
  exact Json.onPage_object r.nodup_onPage hfields

/-- A record is found in its fields, in whatever order they come. -/
theorem ofJson_perm {fields fields' : List (Text × Json)} (hperm : fields.Perm fields')
    (h : (fields.map Prod.fst).Nodup) : ofJson (.object fields) = ofJson (.object fields') := by
  simp only [ofJson, Json.need, Json.field?, Entries.get?_perm hperm h]

theorem ofJson_pageValue {r : Record} (h : r.since.IsValid) : ofJson r.pageValue = .ok r.shown := by
  have hperm := Json.Field.sort_perm r.onPage
  have hnodup := Json.Field.nodup_found ((hperm.map Json.Field.name).nodup_iff.mpr r.nodup_onPage)
  rw [pageValue, ofJson_perm (hperm.map Json.Field.found) hnodup, found_onPage,
    ← toJson_eq_onPage, ofJson_toJson_of_valid h]

end Record

theorem unifyLines_of_notMem {cs : List Char} (h : '\r' ∉ cs) : unifyLines cs = cs := by
  induction cs with
  | nil => rfl
  | cons c cs ih =>
    rw [List.mem_cons, not_or] at h
    rw [unifyLines, ih h.2]
    · exact fun _ hc => absurd hc.symm h.1
    · exact fun hc => absurd hc.symm h.1

namespace Store

/-- The entry of a table on the page. -/
def entryOnPage (e : Text × Record) : Json.Field :=
  ⟨e.1.filterMap CodePoint.char?, e.2.toJson, e.2.pageText, e.2.pageValue⟩

theorem given_entryOnPage {e : Text × Record} (h : ∃ cs, e.1 = Text.ofChars cs) :
    (entryOnPage e).given = (e.1, e.2.toJson) := by
  obtain ⟨⟨key, r⟩, cs, rfl⟩ := e, h
  rw [entryOnPage, Json.Field.given, Json.filterMap_char?_ofChars]

theorem found_entryOnPage {e : Text × Record} (h : ∃ cs, e.1 = Text.ofChars cs) :
    (entryOnPage e).found = (e.1, e.2.pageValue) := by
  obtain ⟨⟨key, r⟩, cs, rfl⟩ := e, h
  rw [entryOnPage, Json.Field.found, Json.filterMap_char?_ofChars]

theorem readRecords_of_forall {entries : List (Text × Record)}
    (h : ∀ e ∈ entries, e.2.since.IsValid) :
    readRecords (entries.map fun e => (e.1, e.2.pageValue)) =
      .ok (entries.map fun e => (e.1, e.2.shown)) := by
  induction entries with
  | nil => rfl
  | cons e entries ih =>
    have hrest := ih fun e he => h e (List.mem_cons_of_mem _ he)
    rw [List.map_cons, readRecords, Record.ofJson_pageValue (h e List.mem_cons_self), hrest]
    rfl

/-- Whatever a document is read as is storable. -/
theorem storable_of_readRecords {fields : List (Text × Json)} (hshort : ∀ f ∈ fields, f.2.Short)
    {entries : List (Text × Record)} (h : readRecords fields = .ok entries) :
    ∀ e ∈ entries, e.2.Storable := by
  induction fields generalizing entries with
  | nil =>
    obtain rfl : [] = entries := Except.ok.inj h
    exact nofun
  | cons f fields ih =>
    obtain ⟨r, hr, h⟩ := bind_eq_ok_iff.mp h
    obtain ⟨more, hmore, h⟩ := bind_eq_ok_iff.mp h
    obtain rfl := Except.ok.inj h
    have hrest := ih (fun f hf => hshort f (List.mem_cons_of_mem _ hf)) hmore
    exact List.forall_mem_cons.mpr
      ⟨Record.storable_of_ofJson (hshort f List.mem_cons_self) hr, hrest⟩

theorem storable_of_readDocument {bs : List UInt8} {t : Table Text Record}
    (h : readDocument bs = .ok t) : ∀ e ∈ t.entries, e.2.Storable := by
  obtain ⟨v, hv, htable⟩ := bind_eq_ok_iff.mp h
  obtain ⟨cs, -, hread⟩ := bind_eq_ok_iff.mp hv
  cases v with
  | object fields =>
    obtain ⟨entries, hentries, rfl⟩ := map_eq_ok_iff.mp htable
    obtain ⟨pairs, rfl, hshort⟩ := Json.fields_of_read hread
    rw [Table.entries_ofPairs]
    intro e he
    exact storable_of_readRecords (fun f hf => hshort f (Entries.mem_of_mem_ofPairs hf)) hentries e
      (Entries.mem_of_mem_ofPairs he)
  | _ => cases htable

/-- The page of a table: its entries, sorted by their keys. -/
def page (records : Table Text Record) : List Char :=
  Json.braced 0 ((Json.Field.sort (records.entries.map entryOnPage)).map Json.Field.written)

section Page

variable {records : Table Text Record} (hplain : Plain records)

include hplain

theorem onPage_of_plain :
    ∀ f ∈ records.entries.map entryOnPage, Json.OnPage 5 1 f.value f.text f.back := by
  intro f hf
  obtain ⟨e, he, rfl⟩ := List.mem_map.mp hf
  exact Record.onPage_toJson (hplain e he).2

theorem nodup_entryOnPage : ((records.entries.map entryOnPage).map Json.Field.name).Nodup := by
  refine List.Nodup.of_map Text.ofChars ?_
  have hkeys : ((records.entries.map entryOnPage).map Json.Field.name).map Text.ofChars =
      records.entries.map Prod.fst := by
    rw [List.map_map, List.map_map]
    exact List.map_congr_left fun e he => congrArg Prod.fst (given_entryOnPage (hplain e he).1)
  rw [hkeys]
  exact records.nodup

/-- **A plain table is written as its page.** -/
theorem octets_of_plain :
    octets records = (Utf8.encode (page records), .ok ()) ∧ '\r' ∉ page records := by
  have hgiven :
      documentOf records = .object ((records.entries.map entryOnPage).map Json.Field.given) := by
    rw [documentOf, List.map_map]
    exact congrArg _ (List.map_congr_left fun e he => (given_entryOnPage (hplain e he).1).symm)
  have hpage := Json.onPage_object (nodup_entryOnPage hplain) (onPage_of_plain hplain)
  obtain ⟨cs, hrender, hoctets⟩ := hplain.octets
  have hchars : Text.ofChars cs = Text.ofChars (page records) :=
    hrender.symm.trans ((congrArg (Json.render Json.sortedPage) hgiven).trans hpage.rendered)
  obtain rfl : cs = page records :=
    List.map_injective_iff.mpr (fun _ _ h => CodePoint.char.inj h) hchars
  exact ⟨hoctets, hpage.noReturn⟩

/-- The page reads back as the entries, in their order on the page. -/
theorem read_page {entries : List (Text × Record)} (hperm : entries.Perm records.entries)
    (hsorted : Json.Field.sort (records.entries.map entryOnPage) = entries.map entryOnPage) :
    Json.read (page records) = .ok (.object (entries.map fun e => (e.1, e.2.pageValue))) := by
  have hfound : (entries.map entryOnPage).map Json.Field.found =
      entries.map fun e => (e.1, e.2.pageValue) := by
    rw [List.map_map]
    exact List.map_congr_left fun e he => found_entryOnPage (hplain e (hperm.mem_iff.mp he)).1
  have hkeys : ((entries.map fun e => (e.1, e.2.pageValue)).map Prod.fst).Nodup := by
    rw [List.map_map]
    exact (hperm.map Prod.fst).nodup_iff.mpr records.nodup
  have hread := Json.read_braced fun f hf =>
    onPage_of_plain hplain f ((Json.Field.sort_perm _).mem_iff.mp hf)
  rwa [hsorted, hfound, Entries.ofPairs_of_nodup hkeys, ← hsorted] at hread

end Page

/-- A table whose moments can be stored is shown as it is. -/
theorem map_shown_get? {records : Table Text Record}
    (h : ∀ e ∈ records.entries, e.2.since.Storable) (k : Text) :
    (records.get? k).map Record.shown = records.get? k := by
  cases hr : records.get? k with
  | none => rfl
  | some r =>
    have hstorable := h (k, r) (Entries.mem_of_get?_eq_some hr)
    exact congrArg some (Record.shown_eq_self hstorable)

/-- **What is written to the end reads back**: the octets of a table stand for a table that holds
the same, offsets below a second left out. -/
theorem readDocument_octets_of_valid {records : Table Text Record} (h : (octets records).2 = .ok ())
    (hmoments : ∀ e ∈ records.entries, e.2.since.IsValid) :
    ∃ t, readDocument (octets records).1 = .ok t ∧
      ∀ k, t.get? k = (records.get? k).map Record.shown := by
  have hplain : Plain records := plain_of_octets h
  obtain ⟨hoctets, hreturn⟩ := octets_of_plain hplain
  obtain ⟨entries, hsorted, hperm⟩ := Json.Field.sort_map entryOnPage records.entries
  have hkeys : (entries.map Prod.fst).Nodup := (hperm.map Prod.fst).nodup_iff.mpr records.nodup
  have hshown : ((entries.map fun e => (e.1, e.2.shown)).map Prod.fst).Nodup := by
    rwa [List.map_map]
  refine ⟨Table.ofPairs (entries.map fun e => (e.1, e.2.shown)), ?_, fun k => ?_⟩
  · have hdecode : decodeText (Utf8.encode (page records)) = .ok (page records) := by
      rw [decodeText, Utf8.decode_encode]
      exact congrArg _ (unifyLines_of_notMem hreturn)
    have hrecords := readRecords_of_forall fun e he => hmoments e (hperm.mem_iff.mp he)
    rw [hoctets, readDocument, hdecode]
    change (Json.read _ >>= tableOf) = _
    rw [read_page hplain hperm hsorted]
    change Table.ofPairs <$> readRecords _ = _
    rw [hrecords]
    rfl
  · rw [Table.get?, Table.entries_ofPairs, Entries.ofPairs_of_nodup hshown, Entries.get?_map_values,
      Entries.get?_perm hperm hkeys]
    rfl

/-- Moments that can be stored come back as they are. -/
theorem readDocument_octets {records : Table Text Record} (h : (octets records).2 = .ok ())
    (hmoments : ∀ e ∈ records.entries, e.2.since.Storable) :
    ∃ t, readDocument (octets records).1 = .ok t ∧ ∀ k, t.get? k = records.get? k := by
  obtain ⟨t, ht, hget⟩ := readDocument_octets_of_valid h fun e he => (hmoments e he).valid
  exact ⟨t, ht, fun k => (hget k).trans (map_shown_get? hmoments k)⟩

end Store

end IssueDigest
