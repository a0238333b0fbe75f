import IssueDigest.Proofs.PageText
/-!
# Records in every layout

A record is read from many forms: its date may be that of a calendar or of a week, with a time and an
offset or without, and its numbers may come as text, as truth values or with a fraction. It is
printed in one form only, and what that form is read as is the record itself
(`Record.ofJson_printed`).

The text in between makes no difference, whichever layout it has. A field of a record is written the
same way in all of them (`Field.Steady`), so that two layouts differ only in the order of the fields
and in the blanks around them, and the reader minds neither.
-/

namespace IssueDigest

namespace Json

/-! ### Blanks -/

namespace Layout

/-- The characters of a break. -/
def gap (l : Layout) (level : Nat) : List Char :=
  match l.indent with
  | none => []
  | some width => '\n' :: List.replicate (level * width) ' '

/-- What stands behind a comma. -/
def afterComma (l : Layout) (level : Nat) : List Char :=
  if l.indent.isNone then [' '] else l.gap level

theorem isBlank_of_mem_gap {l : Layout} {level : Nat} {c : Char} (h : c ∈ l.gap level) :
    isBlank c = true := by
  unfold gap at h
  split at h
  · cases h
  · rcases List.mem_cons.mp h with rfl | h
    · rfl
    · rw [List.eq_of_mem_replicate h]
      rfl

theorem isBlank_of_mem_afterComma {l : Layout} {level : Nat} {c : Char}
    (h : c ∈ l.afterComma level) : isBlank c = true := by
  unfold afterComma at h
  split at h
  · rw [List.mem_singleton.mp h]
    rfl
  · exact isBlank_of_mem_gap h

theorem render_break (l : Layout) (level : Nat) :
    (l.break level).flatMap (Token.render l.ascii) = Text.ofChars (l.gap level) := by
  unfold Layout.break gap
  cases l.indent with
  | none => rfl
  | some width =>
    rw [List.flatMap_singleton, Token.render, Text.ofString, String.toList_ofList]

theorem render_between (l : Layout) (level : Nat) :
    (l.between level).flatMap (Token.render l.ascii) =
      Text.ofChars (',' :: l.afterComma level) := by
  unfold between afterComma
  split
  · rfl
  · rw [List.flatMap_cons, render_break]
    rfl

/-- Items between braces. -/
def braced (l : Layout) (items : List (List Char)) : List Char :=
  '\x7b' :: (l.gap 1 ++ List.intercalate (',' :: l.afterComma 1) items ++ (l.gap 0 ++ ['\x7d']))

theorem render_enclose {l : Layout} {items : List (List Token)} {texts : List (List Char)}
    (hne : texts ≠ [])
    (h : items.map (List.flatMap (Token.render l.ascii)) = texts.map Text.ofChars) :
    (l.enclose 0 "\x7b" "\x7d" items).flatMap (Token.render l.ascii) =
      Text.ofChars (l.braced texts) := by
  have hitems : items.isEmpty = false := by
    cases items with
    | nil => exact absurd (List.map_eq_nil_iff.mp h.symm) hne
    | cons => rfl
  have hjoined : (List.intercalate (l.between 1) items).flatMap (Token.render l.ascii) =
      Text.ofChars (List.intercalate (',' :: l.afterComma 1) texts) := by
    rw [flatMap_intercalate, render_between, h, ofChars_intercalate]
  have hopen : Token.render l.ascii (.mark "\x7b") = Text.ofChars ['\x7b'] := rfl
  have hclose : Token.render l.ascii (.mark "\x7d") = Text.ofChars ['\x7d'] := rfl
  rw [enclose, hitems, if_neg Bool.false_ne_true, List.cons_append, List.cons_append,
    List.cons_append, List.flatMap_cons, List.flatMap_append, List.flatMap_append,
    List.flatMap_append, render_break, hjoined, render_break, List.flatMap_singleton, hopen, hclose]
  simp [braced, Text.ofChars]

end Layout

/-! ### Fields -/

theorem quoted_of_isPlain {cs : List Char} (h : ∀ c ∈ cs, IsPlain c) :
    quoted cs = '"' :: cs ++ ['"'] := by
  refine List.map_injective_iff.mpr (fun _ _ hc => CodePoint.char.inj hc) ?_
  exact (quote_eq cs).symm.trans (quote_of_isPlain h)

namespace Field

/-- Is the field written the same way in every layout, and read as it is? -/
structure Steady (f : Field) : Prop where
  name : ∀ c ∈ f.name, IsPlain c
  rendered : ∀ (l : Layout) (level : Nat),
    (tokensAt l level f.value).flatMap (Token.render l.ascii) = Text.ofChars f.text
  starts : ∀ rest, skipBlanks (f.text ++ rest) = f.text ++ rest
  reads : ∀ n c rest, EndsNumber c →
    readValue (n + 1) (f.text ++ c :: rest) = .ok (f.value, c :: rest)

theorem Steady.text {name cs : List Char} (hname : ∀ c ∈ name, IsPlain c)
    (hcs : ∀ c ∈ cs, IsPlain c) :
    Steady ⟨name, .text (Text.ofChars cs), quoted cs, .text (Text.ofChars cs)⟩ where
  name := hname
  rendered l level := by
    rw [tokensAt, List.flatMap_singleton, quoted_of_isPlain hcs]
    exact quote_of_isPlain hcs
  starts := (onPage_text 0 cs).starts
  reads n := (onPage_text 0 cs).reads (n + 1) (Nat.le_add_left _ _)

theorem Steady.int {name : List Char} (hname : ∀ c ∈ name, IsPlain c) {n : Int}
    (h : Numeral.isWritable n = true) : Steady ⟨name, .int n, IssueKey.decimal n, .int n⟩ where
  name := hname
  rendered l level := by
    rw [tokensAt, List.flatMap_singleton]
    exact IssueKey.ofInt_eq_decimal n
  starts := (onPage_int 0 h).starts
  reads n := (onPage_int 0 h).reads (n + 1) (Nat.le_add_left _ _)

theorem Steady.render_written {f : Field} (h : f.Steady) (l : Layout) (level : Nat) :
    (Token.text (Text.ofChars f.name) :: .mark ": " :: tokensAt l level f.value).flatMap
      (Token.render l.ascii) = Text.ofChars f.written := by
  have hname : Token.render l.ascii (.text (Text.ofChars f.name)) =
      Text.ofChars (quoted f.name) := by
    rw [quoted_of_isPlain h.name]
    exact quote_of_isPlain h.name
  have hcolon : Token.render l.ascii (.mark ": ") = Text.ofChars [':', ' '] := rfl
  rw [List.flatMap_cons, List.flatMap_cons, hname, hcolon, h.rendered, written]
  simp [Text.ofChars]

end Field

/-- The fields of an object in the order of a layout. -/
def Layout.arrange (l : Layout) (fields : List Field) : List Field :=
  if l.sorted then Field.sort fields else fields

theorem Layout.arrange_perm (l : Layout) (fields : List Field) :
    (l.arrange fields).Perm fields := by
  unfold Layout.arrange
  split
  · exact Field.sort_perm fields
  · exact .refl _

section Object

variable {l : Layout} {fields : List Field} (h : ∀ f ∈ fields, f.Steady)

include h

/-- **An object in a layout**, from its fields. -/
theorem render_object (hne : fields ≠ []) :
    (Json.object (fields.map Field.given)).render l =
      Text.ofChars (l.braced ((l.arrange fields).map Field.written)) := by
  have hitems : (if l.sorted then
        (tokensOfFields l 1 (fields.map Field.given)).mergeSort fun a b => !Text.before b.1 a.1
      else tokensOfFields l 1 (fields.map Field.given)) = (l.arrange fields).map fun f =>
        (Text.ofChars f.name, .text (Text.ofChars f.name) :: .mark ": " ::
          tokensAt l 1 f.value) := by
    rw [Store.tokensOfFields_eq_map, List.map_map, Layout.arrange]
    split
    · refine Eq.symm (List.map_mergeSort (f := fun f : Field => (Text.ofChars f.name,
        Token.text (Text.ofChars f.name) :: .mark ": " :: tokensAt l 1 f.value)) ?_)
      exact fun _ _ _ _ => rfl
    · rfl
  have hperm := l.arrange_perm fields
  have hsome : (l.arrange fields).map Field.written ≠ [] := fun hnil =>
    hne (List.map_eq_nil_iff.mp hnil ▸ hperm).nil_eq.symm
  rw [render, tokens, tokensAt, hitems]
  refine Layout.render_enclose hsome ?_
  rw [List.map_map, List.map_map, List.map_map]
  exact List.map_congr_left fun f hf => (h f (hperm.mem_iff.mp hf)).render_written l 1

/-- The fields of an object are read one after another, whatever their order. -/
theorem readFields_steady (hne : fields ≠ []) {n : Nat} (hn : fields.length < n)
    (rest : List Char) :
    readFields n (List.intercalate (',' :: l.afterComma 1) (fields.map Field.written) ++
        (l.gap 0 ++ '\x7d' :: rest)) = .ok (fields.map Field.given, rest) := by
  induction fields generalizing n with
  | nil => exact absurd rfl hne
  | cons f fields ih =>
    obtain ⟨n, rfl⟩ : ∃ m, n = m + 2 := ⟨n - 2, by rw [List.length_cons] at hn; omega⟩
    have hf := h f List.mem_cons_self
    -- The value of the last field ends with its line or at the brace, that of any other one with a
    -- comma.
    cases fields with
    | nil =>
      obtain ⟨c, tail, htail, hc⟩ : ∃ c tail, l.gap 0 ++ '\x7d' :: rest = c :: tail ∧
          EndsNumber c := by
        unfold Layout.gap
        split
        · exact ⟨_, _, rfl, .inr (.inl rfl)⟩
        · exact ⟨_, _, rfl, .inr (.inr rfl)⟩
      have hend : skipBlanks (c :: tail) = '\x7d' :: rest := by
        rw [← htail]
        exact skipBlanks_append (fun _ hb => Layout.isBlank_of_mem_gap hb) _
      rw [htail]
      simpa [Field.written, Field.given, quoted] using
        readFields_last (readText_quoted f.name) (hf.starts _) (hf.reads n c tail hc) hend
    | cons g fields =>
      have hvalue := hf.reads n ',' (l.afterComma 1 ++
        (List.intercalate (',' :: l.afterComma 1) ((g :: fields).map Field.written) ++
          (l.gap 0 ++ '\x7d' :: rest))) (.inl rfl)
      have hmore := ih (fun f hf => h f (List.mem_cons_of_mem _ hf)) (List.cons_ne_nil _ _)
        (n := n + 1) (by rw [List.length_cons] at hn; omega)
      have hquote : skipBlanks (List.intercalate (',' :: l.afterComma 1)
          ((g :: fields).map Field.written) ++ (l.gap 0 ++ '\x7d' :: rest)) =
          List.intercalate (',' :: l.afterComma 1) ((g :: fields).map Field.written) ++
            (l.gap 0 ++ '\x7d' :: rest) := by
        cases fields <;> rfl
      have hread := readFields_cons (readText_quoted f.name) (hf.starts _) hvalue
        (fun _ hb => Layout.isBlank_of_mem_afterComma hb) rfl hmore hquote
      simpa [Field.written, Field.given, quoted, List.intercalate_cons_cons] using hread

/-- **The text of an object reads back**, its fields in the order of the text. -/
theorem read_layout (hne : fields ≠ []) :
    read (l.braced (fields.map Field.written)) =
      .ok (.object (Entries.ofPairs (fields.map Field.given))) := by
  obtain ⟨f, more, rfl⟩ := List.exists_cons_of_ne_nil hne
  have hbraced : l.braced ((f :: more).map Field.written) = '\x7b' :: (l.gap 1 ++
      (List.intercalate (',' :: l.afterComma 1) ((f :: more).map Field.written) ++
        (l.gap 0 ++ ['\x7d']))) := by
    simp [Layout.braced]
  -- The reader has fuel for two steps per character, and a field takes at least one.
  obtain ⟨n, hfuel, hn⟩ : ∃ n,
      2 * (l.braced ((f :: more).map Field.written)).length + 2 = n + 1 ∧
        (f :: more).length < n := by
    have hlength := length_le_length_intercalate ',' (l.afterComma 1) ((f :: more).map Field.written)
    rw [List.length_map] at hlength
    refine ⟨_, rfl, ?_⟩
    rw [hbraced]
    simp only [List.length_cons, List.length_append] at hlength ⊢
    omega
  obtain ⟨tail, hstart⟩ : ∃ tail, List.intercalate (',' :: l.afterComma 1)
      ((f :: more).map Field.written) ++ (l.gap 0 ++ ['\x7d']) = '"' :: tail := by
    cases more <;> exact ⟨_, rfl⟩
  have hskip : skipBlanks (l.gap 1 ++ '"' :: tail) = '"' :: tail :=
    skipBlanks_append (fun _ hb => Layout.isBlank_of_mem_gap hb) _
  have hfields := readFields_steady (l := l) h (List.cons_ne_nil _ _) hn []
  have hvalue : readValue (n + 1) ('\x7b' :: (l.gap 1 ++ '"' :: tail)) =
      .ok (.object (Entries.ofPairs ((f :: more).map Field.given)), []) := by
    rw [readValue, hskip]
    split
    · next heq => exact absurd (List.cons.inj heq).1 (by decide)
    · rw [← hstart, hfields]
      rfl
  have hblank : skipBlanks ('\x7b' :: (l.gap 1 ++ '"' :: tail)) =
      '\x7b' :: (l.gap 1 ++ '"' :: tail) := rfl
  unfold read
  split
  · next heq => exact absurd (List.cons.inj (hbraced.symm.trans heq)).1 (by decide)
  · rw [hfuel, hbraced, hstart, hblank, hvalue]
    rfl

end Object

/-- A value can be written exactly if each of its tokens can. -/
theorem write_eq_ok_iff {l : Layout} {v : Json} {t : Text} :
    v.write l = .ok t ↔ t = v.render l ∧ ∀ token ∈ v.tokens l, token.check = .ok () := by
  have hcheck (tokens : List Token) : tokens.forM Token.check = .ok () ↔
      ∀ token ∈ tokens, token.check = .ok () := by
    induction tokens with
    | nil => exact ⟨fun _ => List.forall_mem_nil _, fun _ => rfl⟩
    | cons token tokens ih =>
      rw [List.forall_mem_cons, ← ih]
      change (token.check >>= fun _ => tokens.forM Token.check) = .ok () ↔ _
      exact bind_eq_ok_iff.trans ⟨fun ⟨_, h, hrest⟩ => ⟨h, hrest⟩, fun ⟨h, hrest⟩ => ⟨_, h, hrest⟩⟩
  rw [write, bind_eq_ok_iff, ← hcheck]
  constructor
  · rintro ⟨_, h, hpure⟩
    exact ⟨(Except.ok.inj hpure).symm, h⟩
  · rintro ⟨rfl, h⟩
    exact ⟨_, h, rfl⟩

end Json

/-! ### Records -/

namespace Record

theorem steady_onPage {r : Record} (h : r.Printable) : ∀ f ∈ r.onPage, f.Steady := by
  have hname : ∀ f ∈ r.onPage, ∀ c ∈ f.name, Json.IsPlain c := by
    simp [onPage, Json.IsPlain]
  simp only [onPage, List.forall_mem_cons] at hname ⊢
  obtain ⟨hsince, hseverity, hcount, -⟩ := hname
  exact ⟨.text hsince fun _ hc => Moment.isPlain_of_mem_write hc, .int hseverity h.severity,
    .int hcount h.count, List.forall_mem_nil _⟩

/-- A record can be written in a layout exactly if its integers can. -/
theorem exists_write_iff (r : Record) (l : Json.Layout) :
    (∃ t, r.toJson.write l = .ok t) ↔ r.Printable := by
  constructor
  · rintro ⟨t, h⟩
    have hint {name : Text} {n : Int} (hn : (name, Json.int n) ∈ r.fields) :
        Numeral.isWritable n = true := by
      have htoken : Json.Token.int n ∈ r.toJson.tokens l := by
        refine Store.mem_tokensAt_object_of_mem hn (.inr ?_)
        rw [Json.tokensAt]
        exact List.mem_singleton.mpr rfl
      have hcheck := (Json.write_eq_ok_iff.mp h).2 _ htoken
      by_contra hlong
      rw [Json.Token.check, if_neg hlong] at hcheck
      cases hcheck
    exact ⟨hint (List.mem_cons_of_mem _ List.mem_cons_self),
      hint (List.mem_cons_of_mem _ (List.mem_cons_of_mem _ List.mem_cons_self))⟩
  · intro h
    refine ⟨_, Json.write_eq_ok_iff.mpr ⟨rfl, fun token ht => ?_⟩⟩
    exact (Store.storable_iff.mp (Store.storable_of_mem_toJson h ht)).1

/-- **A record reads back from its text** in every layout. -/
theorem read_of_write {r : Record} (hsince : r.since.Storable) {l : Json.Layout} {t : Text}
    (h : r.toJson.write l = .ok t) :
    ∃ cs, t = Text.ofChars cs ∧ (Json.read cs >>= ofJson) = .ok r := by
  have hsteady := steady_onPage ((r.exists_write_iff l).mp ⟨t, h⟩)
  have hperm := l.arrange_perm r.onPage
  have hne : r.onPage ≠ [] := List.cons_ne_nil _ _
  have harranged : ∀ f ∈ l.arrange r.onPage, f.Steady := fun f hf =>
    hsteady f (hperm.mem_iff.mp hf)
  have hnodup : (((l.arrange r.onPage).map Json.Field.given).map Prod.fst).Nodup := by
    have hfound : ((r.onPage.map Json.Field.found).map Prod.fst).Nodup :=
      Json.Field.nodup_found r.nodup_onPage
    rw [found_onPage] at hfound
    exact ((hperm.map Json.Field.given).map Prod.fst).nodup_iff.mpr hfound
  obtain ⟨rfl, -⟩ := Json.write_eq_ok_iff.mp h
  refine ⟨_, Json.render_object hsteady hne, ?_⟩
  rw [Json.read_layout harranged fun hnil => hne (hnil ▸ hperm).nil_eq.symm,
    Entries.ofPairs_of_nodup hnodup]
  change ofJson (.object _) = .ok r
  rw [ofJson_perm (hperm.map Json.Field.given) hnodup, ← toJson_eq_onPage, ofJson_toJson hsince]

/-- **Whatever is read as a record is printed in a form that is read as the same record**, and
printing what was read a second time changes nothing. The form can be written, in any one layout,
exactly if both integers can, and the text that is written is read as the same record again. -/
theorem ofJson_printed {v : Json} {r : Record} (h : ofJson v = .ok r) :
    ofJson r.toJson = .ok r ∧ toJson <$> ofJson r.toJson = .ok r.toJson ∧
      ∀ l : Json.Layout, ((∃ t, r.toJson.write l = .ok t) ↔ r.Printable) ∧
        ∀ t, r.toJson.write l = .ok t →
          ∃ cs, t = Text.ofChars cs ∧ (Json.read cs >>= ofJson) = .ok r := by
  have hsince := since_storable_of_ofJson h
  have hback := ofJson_toJson hsince
  refine ⟨hback, ?_, fun l => ⟨r.exists_write_iff l, fun t ht => read_of_write hsince ht⟩⟩
  rw [hback]
  rfl

/-- A dismissal by the day of a week, its offset down to microseconds and its numbers a text and a
truth value. -/
def weekly : Json :=
  .record [("dismissed_at", .string "2024-W05-3T07:08:09,1234567+05:30:15.000042"),
    ("max_severity_at_dismissal", .string " 1_00 "), ("dismiss_count", .bool true)]

/-- The same dismissal as it is kept. -/
def weeklyKept : Record where
  since := ⟨⟨2024, 1, 31⟩, ⟨7, 8, 9, 123456⟩, some 19815000042⟩
  severity := 100
  count := 1

theorem ofJson_printed_weekly :
    ofJson weekly = .ok weeklyKept ∧ ofJson weeklyKept.toJson = .ok weeklyKept ∧
      ∃ cs, weeklyKept.toJson.write Json.sortedPage = .ok (Text.ofChars cs) ∧
        (Json.read cs >>= ofJson) = .ok weeklyKept := by
  have hread : ofJson weekly = .ok weeklyKept := by decide +kernel
  obtain ⟨hback, -, hlayouts⟩ := ofJson_printed hread
  obtain ⟨hwritten, htext⟩ := hlayouts Json.sortedPage
  obtain ⟨t, ht⟩ := hwritten.mpr ⟨by decide +kernel, by decide +kernel⟩
  obtain ⟨cs, rfl, hcs⟩ := htext t ht
  exact ⟨hread, hback, cs, ht, hcs⟩

end Record

end IssueDigest
