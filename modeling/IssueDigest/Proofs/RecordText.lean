import IssueDigest.Dismissal.Store
import IssueDigest.Proofs.KeyText
import IssueDigest.Proofs.Moments
import IssueDigest.Proofs.Tables
/-!
# The text of a record

A server keeps a record as one line of text, and a store takes the line apart again on every look at
the record. A record survives this exactly if it is **storable**: its moment can be written and read
back and its two integers are short enough to be written. Whatever a line is read as is storable
again, so the records of a server never leave that set.

The line is built of three fields whose names and texts stand for themselves inside quotes, so the
reader is followed field by field: a text up to its closing quote, an integer up to the comma or the
brace behind it, and then the list of fields.
-/

namespace IssueDigest

namespace Json

/-! ### Characters that stand for themselves -/

/-- Does the character stand for itself inside quotes, whatever the layout? -/
def IsPlain (c : Char) : Prop := c ≠ '"' ∧ c ≠ '\\' ∧ 32 ≤ c.toNat ∧ c.toNat ≤ 126

instance (c : Char) : Decidable (IsPlain c) := inferInstanceAs (Decidable (_ ∧ _))

theorem isPlain_of_isDigit {c : Char} (h : c.isDigit = true) : IsPlain c := by
  refine ⟨Iso.ne_of_isDigit h (by decide), Iso.ne_of_isDigit h (by decide), ?_⟩
  simp only [Char.isDigit, Bool.and_eq_true, decide_eq_true_eq, UInt32.le_iff_toNat_le] at h
  have hlow : 48 ≤ c.toNat := h.1
  have hhigh : c.toNat ≤ 57 := h.2
  omega

theorem escape_of_isPlain {ascii : Bool} {c : Char} (h : IsPlain c) :
    escape ascii (.char c) = [.char c] := by
  obtain ⟨hquote, hslash, hlow, hhigh⟩ := h
  have hne {x : Char} (hx : x.toNat < 32) : CodePoint.char c ≠ .char x := by
    rintro ⟨⟩
    omega
  have hnat : (CodePoint.char c).toNat = c.toNat := rfl
  simp only [escape, CodePoint.char.injEq, hquote, hslash, if_false, hnat]
  rw [if_neg (by rintro rfl; exact absurd hlow (by decide)),
    if_neg (by rintro rfl; exact absurd hlow (by decide)),
    if_neg (by rintro rfl; exact absurd hlow (by decide)), if_neg (by omega), if_neg (by omega),
    if_neg (by omega), if_neg (by simp; omega)]

theorem quote_of_isPlain {ascii : Bool} {cs : List Char} (h : ∀ c ∈ cs, IsPlain c) :
    quote ascii (Text.ofChars cs) = Text.ofChars ('"' :: cs ++ ['"']) := by
  have hbody : (Text.ofChars cs).flatMap (escape ascii) = Text.ofChars cs := by
    induction cs with
    | nil => rfl
    | cons c cs ih =>
      rw [Text.ofChars, List.map_cons, List.flatMap_cons,
        escape_of_isPlain (h c List.mem_cons_self)]
      exact congrArg _ (ih fun d hd => h d (List.mem_cons_of_mem _ hd))
  rw [quote, hbody]
  simp [Text.ofChars]

/-- A text of such characters is read up to the quote behind it. -/
theorem readText_of_isPlain {cs : List Char} (h : ∀ c ∈ cs, IsPlain c) (start : Nat)
    (rest : List Char) :
    readText start 0 (cs ++ '"' :: rest) = .ok (Text.ofChars cs, rest) := by
  induction cs with
  | nil => rfl
  | cons c cs ih =>
    obtain ⟨hquote, hslash, hlow, -⟩ := h c List.mem_cons_self
    rw [List.cons_append, readText, if_neg (by omega),
      ih fun d hd => h d (List.mem_cons_of_mem _ hd)]
    · rfl
    all_goals simp_all

/-! ### Integers -/

/-- The digits of a number are all that is taken of it, if no digit follows. -/
theorem wholePart_toDigits (n : Nat) {c : Char} (hc : c.isDigit = false) (rest : List Char) :
    wholePart (Nat.toDigits 10 n ++ c :: rest) = Nat.toDigits 10 n := by
  cases hdigits : Nat.toDigits 10 n with
  | nil => exact absurd hdigits Nat.toDigits_ne_nil
  | cons d ds =>
    by_cases hd : d = '0'
    · subst hd
      obtain rfl := Numeral.eq_zero_of_toDigits_eq_zero_cons hdigits
      obtain rfl : ds = [] := (List.cons.inj hdigits).2.symm
      rfl
    · have hall : ∀ x ∈ d :: ds, x.isDigit = true := fun x hx =>
        Numeral.isDigit_of_mem_toDigits (hdigits ▸ hx)
      rw [List.cons_append, wholePart, ← List.cons_append, List.takeWhile_append_of_pos hall,
        List.takeWhile_cons_of_neg (by simp [hc]), List.append_nil]
      simpa using hd

/-- Does the character end a number? On a page the last number of an object ends with its line. -/
def EndsNumber (c : Char) : Prop := c = ',' ∨ c = '\x7d' ∨ c = '\n'

/-- **A written integer reads back**, up to what ends it. -/
theorem readNumber_decimal {n : Int} (h : Numeral.isWritable n = true) {c : Char}
    (hc : EndsNumber c) (rest : List Char) :
    readNumber (IssueKey.decimal n ++ c :: rest) = .ok (.int n, c :: rest) := by
  have hlength := Numeral.length_toDigits_natAbs_le h
  have hdigit : c.isDigit = false := by rcases hc with rfl | rfl | rfl <;> rfl
  have hfraction : fraction (c :: rest) = [] := by rcases hc with rfl | rfl | rfl <;> rfl
  have hexponent : Numeral.exponent? (c :: rest) = none := by rcases hc with rfl | rfl | rfl <;> rfl
  have hwhole := wholePart_toDigits n.natAbs hdigit rest
  have hne : (Nat.toDigits 10 n.natAbs).isEmpty = false := by
    simp [Nat.toDigits_ne_nil]
  have hvalue := Numeral.value_toDigits n.natAbs
  by_cases hneg : n < 0
  · have hn : -|n| = n := by rw [abs_of_neg hneg, neg_neg]
    simp [IssueKey.decimal_of_neg hneg, readNumber, hwhole, hne, hfraction, hexponent,
      Nat.not_lt.mpr hlength, hvalue, hn]
  · obtain ⟨m, rfl⟩ : ∃ m : Nat, n = m := ⟨n.toNat, by omega⟩
    rw [Int.natAbs_natCast] at hlength hwhole hne hvalue
    obtain ⟨d, ds, hdigits⟩ := List.exists_cons_of_ne_nil (Nat.toDigits_ne_nil (b := 10) (n := m))
    have hminus : d ≠ '-' := by
      rintro rfl
      exact IssueKey.toDigits_ne_minus_cons m ds hdigits
    rw [hdigits] at hlength hwhole hne hvalue
    rw [List.cons_append] at hwhole
    simpa [IssueKey.decimal_ofNat, hdigits, readNumber, hminus, hwhole, hfraction, hexponent,
      hvalue] using hlength

/-! ### Values and fields -/

theorem readValue_text {cs : List Char} (h : ∀ c ∈ cs, IsPlain c) (fuel : Nat) (rest : List Char) :
    readValue (fuel + 1) ('"' :: cs ++ '"' :: rest) = .ok (.text (Text.ofChars cs), rest) := by
  rw [List.cons_append, readValue, readText_of_isPlain h]
  rfl

/-- No word of the notation starts like an integer. -/
theorem find?_words_of_isDigit {d : Char} (h : d.isDigit = true) (ds : List Char) :
    words.find? (fun w => w.1.isPrefixOf (d :: ds)) = none ∧
      words.find? (fun w => w.1.isPrefixOf ('-' :: d :: ds)) = none := by
  have hne {x : Char} (hx : x.isDigit = false) : x ≠ d := (Iso.ne_of_isDigit h hx).symm
  constructor
  · simp [words, hne (x := 'n') rfl, hne (x := 't') rfl, hne (x := 'f') rfl, hne (x := 'N') rfl,
      hne (x := 'I') rfl, hne (x := '-') rfl]
  · simp [words, hne (x := 'I') rfl]

/-- The first character of an integer starts nothing else. -/
theorem readValue_int {n : Int} (h : Numeral.isWritable n = true) {c : Char} (hc : EndsNumber c)
    (fuel : Nat) (rest : List Char) :
    readValue (fuel + 1) (IssueKey.decimal n ++ c :: rest) = .ok (.int n, c :: rest) := by
  have hread := readNumber_decimal h hc rest
  obtain ⟨d, ds, hdigits⟩ :=
    List.exists_cons_of_ne_nil (Nat.toDigits_ne_nil (b := 10) (n := n.natAbs))
  have hd : d.isDigit = true := Numeral.isDigit_of_mem_toDigits (hdigits ▸ List.mem_cons_self)
  obtain ⟨hword, hminusWord⟩ := find?_words_of_isDigit hd (ds ++ c :: rest)
  by_cases hneg : n < 0
  · rw [IssueKey.decimal_of_neg hneg, hdigits] at hread ⊢
    simp only [List.cons_append] at hread ⊢
    simp [readValue, hminusWord, hread]
  · obtain ⟨m, rfl⟩ : ∃ m : Nat, n = m := ⟨n.toNat, by omega⟩
    rw [Int.natAbs_natCast] at hdigits
    rw [IssueKey.decimal_ofNat, hdigits] at hread ⊢
    simp only [List.cons_append] at hread ⊢
    have hquote : d ≠ '"' := Iso.ne_of_isDigit hd (by decide)
    have hbracket : d ≠ '[' := Iso.ne_of_isDigit hd (by decide)
    have hbrace : d ≠ '\x7b' := Iso.ne_of_isDigit hd (by decide)
    simp [readValue, hquote, hbracket, hbrace, hword, hread]

/-- Blanks in front make no difference. -/
theorem skipBlanks_append {blanks : List Char} (h : ∀ c ∈ blanks, isBlank c = true)
    (cs : List Char) : skipBlanks (blanks ++ cs) = skipBlanks cs :=
  List.dropWhile_append_of_pos h

theorem skipBlanks_decimal (n : Int) (rest : List Char) :
    skipBlanks (IssueKey.decimal n ++ rest) = IssueKey.decimal n ++ rest := by
  obtain ⟨d, ds, hdigits⟩ :=
    List.exists_cons_of_ne_nil (Nat.toDigits_ne_nil (b := 10) (n := n.natAbs))
  have hd : d.isDigit = true := Numeral.isDigit_of_mem_toDigits (hdigits ▸ List.mem_cons_self)
  by_cases hneg : n < 0
  · rw [IssueKey.decimal_of_neg hneg]
    rfl
  · obtain ⟨m, rfl⟩ : ∃ m : Nat, n = m := ⟨n.toNat, by omega⟩
    rw [Int.natAbs_natCast] at hdigits
    have hblank : isBlank d = false := by
      simp [isBlank, Iso.ne_of_isDigit hd (x := ' ') rfl, Iso.ne_of_isDigit hd (x := '\t') rfl,
        Iso.ne_of_isDigit hd (x := '\n') rfl, Iso.ne_of_isDigit hd (x := '\r') rfl]
    rw [IssueKey.decimal_ofNat, hdigits, List.cons_append, skipBlanks,
      List.dropWhile_cons_of_neg (by simp [hblank])]

section Fields

variable {name : List Char} {t : Text} {fuel : Nat} {cs tail rest : List Char} {v : Json}
  (hname : ∀ start rest, readText start 0 (name ++ '"' :: rest) = .ok (t, rest))
  (hcs : skipBlanks cs = cs) (hv : readValue fuel cs = .ok (v, tail))

include hname hcs hv

/-- A field whose value a brace follows. -/
theorem readFields_last (htail : skipBlanks tail = '\x7d' :: rest) :
    readFields (fuel + 1) ('"' :: name ++ '"' :: ':' :: ' ' :: cs) = .ok ([(t, v)], rest) := by
  have hcolon : skipBlanks (':' :: ' ' :: cs) = ':' :: ' ' :: cs := rfl
  have hspace : skipBlanks (' ' :: cs) = cs := hcs
  rw [List.cons_append, readFields, hname]
  simp [hcolon, hspace, hv, htail, bind, Except.bind, pure, Except.pure]

/-- A field whose value a comma follows, and the fields behind it. -/
theorem readFields_cons {blanks next : List Char} {fields : List (Text × Json)}
    (hblanks : ∀ c ∈ blanks, isBlank c = true)
    (htail : skipBlanks tail = ',' :: (blanks ++ next))
    (hfields : readFields fuel next = .ok (fields, rest)) (hnext : skipBlanks next = next) :
    readFields (fuel + 1) ('"' :: name ++ '"' :: ':' :: ' ' :: cs) =
      .ok ((t, v) :: fields, rest) := by
  have hcolon : skipBlanks (':' :: ' ' :: cs) = ':' :: ' ' :: cs := rfl
  have hspace : skipBlanks (' ' :: cs) = cs := hcs
  have hskip : skipBlanks (blanks ++ next) = next := (skipBlanks_append hblanks next).trans hnext
  rw [List.cons_append, readFields, hname]
  simp [hcolon, hspace, hv, htail, hskip, hfields, bind, Except.bind, pure, Except.pure]

end Fields

end Json

/-! ### A record and its line -/

namespace Iso

theorem isPlain_of_mem_padded {width n : Nat} {c : Char} (h : c ∈ padded width n) :
    Json.IsPlain c := Json.isPlain_of_isDigit (isDigit_of_mem_padded h)

theorem isPlain_of_mem_writeFraction {micro : Nat} {c : Char} (h : c ∈ writeFraction micro) :
    Json.IsPlain c := by
  unfold writeFraction at h
  split at h
  · cases h
  · rcases List.mem_cons.mp h with rfl | h
    · decide
    · exact isPlain_of_mem_padded h

theorem isPlain_of_mem_writeOffset {total : Int} {c : Char} (h : c ∈ writeOffset total) :
    Json.IsPlain c := by
  simp only [writeOffset, List.cons_append, List.mem_cons, List.mem_append, List.append_assoc] at h
  rcases h with rfl | h | rfl | h | h
  · split <;> decide
  · exact isPlain_of_mem_padded h
  · decide
  · exact isPlain_of_mem_padded h
  · split at h
    · cases h
    · simp only [List.mem_cons, List.mem_append] at h
      rcases h with rfl | h | h
      · decide
      · exact isPlain_of_mem_padded h
      · exact isPlain_of_mem_writeFraction h

end Iso

/-- The text of a moment stands for itself inside quotes. -/
theorem Moment.isPlain_of_mem_write {m : Moment} {c : Char} (h : c ∈ m.write) :
    Json.IsPlain c := by
  simp only [write, List.cons_append, List.mem_cons, List.mem_append, List.append_assoc] at h
  rcases h with h | rfl | h | rfl | h | rfl | h | rfl | h | rfl | h | h | h
  · exact Iso.isPlain_of_mem_padded h
  · decide
  · exact Iso.isPlain_of_mem_padded h
  · decide
  · exact Iso.isPlain_of_mem_padded h
  · decide
  · exact Iso.isPlain_of_mem_padded h
  · decide
  · exact Iso.isPlain_of_mem_padded h
  · decide
  · exact Iso.isPlain_of_mem_padded h
  · exact Iso.isPlain_of_mem_writeFraction h
  · cases ho : m.offset with
    | none => simp [ho] at h
    | some o => exact Iso.isPlain_of_mem_writeOffset (by simpa [ho] using h)

namespace Record

/-- Are both integers of the record short enough to be written? -/
structure Printable (r : Record) : Prop where
  severity : Numeral.isWritable r.severity = true
  count : Numeral.isWritable r.count = true

/-- Can the record be written and read back? -/
structure Storable (r : Record) : Prop extends Printable r where
  since : r.since.Storable

/-- The record as it is read, an offset of its moment below a second left out. -/
def shown (r : Record) : Record := { r with since := r.since.shown }

theorem shown_eq_self {r : Record} (h : r.since.Storable) : r.shown = r := by
  rw [shown, h.shown_eq_self]

/-- The fields of the object that stands for the record. -/
def fields (r : Record) : List (Text × Json) :=
  [(Text.ofString "dismissed_at", .text (.ofChars r.since.write)),
    (Text.ofString "max_severity_at_dismissal", .int r.severity),
    (Text.ofString "dismiss_count", .int r.count)]

theorem toJson_eq (r : Record) : r.toJson = .object r.fields := rfl

/-- The line that is written for the record. -/
def line (r : Record) : List Char :=
  '\x7b' :: '"' :: "dismissed_at".toList ++ '"' :: ':' :: ' ' :: '"' :: r.since.write ++
    '"' :: ',' :: ' ' :: '"' :: "max_severity_at_dismissal".toList ++ '"' :: ':' :: ' ' ::
    IssueKey.decimal r.severity ++ ',' :: ' ' :: '"' :: "dismiss_count".toList ++
    '"' :: ':' :: ' ' :: IssueKey.decimal r.count ++ ['\x7d']

theorem tokens_toJson (r : Record) : r.toJson.tokens Json.asciiLine =
    [.mark "\x7b", .text (Text.ofString "dismissed_at"), .mark ": ",
      .text (Text.ofChars r.since.write), .mark ", ",
      .text (Text.ofString "max_severity_at_dismissal"), .mark ": ", .int r.severity, .mark ", ",
      .text (Text.ofString "dismiss_count"), .mark ": ", .int r.count, .mark "\x7d"] := rfl

theorem render_toJson (r : Record) : r.toJson.render Json.asciiLine = Text.ofChars r.line := by
  have hsince : Json.quote true (Text.ofChars r.since.write) =
      Text.ofChars ('"' :: r.since.write ++ ['"']) :=
    Json.quote_of_isPlain fun c hc => Moment.isPlain_of_mem_write hc
  have hname (s : String) (hs : ∀ c ∈ s.toList, Json.IsPlain c) :
      Json.quote true (Text.ofString s) = Text.ofChars ('"' :: s.toList ++ ['"']) :=
    Json.quote_of_isPlain hs
  have hcolon : Text.ofString ": " = Text.ofChars [':', ' '] := rfl
  have hcomma : Text.ofString ", " = Text.ofChars [',', ' '] := rfl
  have hopen : Text.ofString "\x7b" = Text.ofChars ['\x7b'] := rfl
  have hclose : Text.ofString "\x7d" = Text.ofChars ['\x7d'] := rfl
  have hascii : Json.asciiLine.ascii = true := rfl
  have h₁ := hname "dismissed_at" (by simp [Json.IsPlain])
  have h₂ := hname "max_severity_at_dismissal" (by simp [Json.IsPlain])
  have h₃ := hname "dismiss_count" (by simp [Json.IsPlain])
  rw [Json.render, tokens_toJson, hascii, line]
  simp only [List.flatMap_cons, List.flatMap_nil, Json.Token.render, h₁, h₂, h₃, hsince,
    hcolon, hcomma, hopen, hclose, IssueKey.ofInt_eq_decimal]
  generalize "dismissed_at".toList = since, "max_severity_at_dismissal".toList = severity,
    "dismiss_count".toList = count
  simp [Text.ofChars]

/-- The fields of a line, one after another. -/
theorem read_line {r : Record} (h : r.Printable) : Json.read r.line = .ok r.toJson := by
  -- From the last field to the first: a field is read if what is behind it is.
  have hcount (fuel : Nat) : Json.readFields (fuel + 2)
      ('"' :: "dismiss_count".toList ++ '"' :: ':' :: ' ' :: (IssueKey.decimal r.count ++ ['\x7d']))
      = .ok ([(Text.ofString "dismiss_count", .int r.count)], []) :=
    Json.readFields_last (Json.readText_of_isPlain (by simp [Json.IsPlain]))
      (Json.skipBlanks_decimal _ _) (Json.readValue_int h.count (.inr (.inl rfl)) fuel []) rfl
  have hname {s : String} (hs : ∀ c ∈ s.toList, Json.IsPlain c) (start : Nat) (rest : List Char) :
      Json.readText start 0 (s.toList ++ '"' :: rest) = .ok (Text.ofString s, rest) :=
    Json.readText_of_isPlain hs start rest
  have hblank : ∀ c ∈ [' '], Json.isBlank c = true := fun c hc => List.mem_singleton.mp hc ▸ rfl
  have hseverity (fuel : Nat) := Json.readFields_cons
    (hname (s := "max_severity_at_dismissal") (by simp [Json.IsPlain]))
    (Json.skipBlanks_decimal _ _)
    (Json.readValue_int h.severity (.inl rfl) (fuel + 1) ([' '] ++ _)) hblank rfl (hcount fuel) rfl
  have hsince (fuel : Nat) := Json.readFields_cons
    (hname (s := "dismissed_at") (by simp [Json.IsPlain])) rfl
    (Json.readValue_text (fun c hc => Moment.isPlain_of_mem_write (m := r.since) hc) (fuel + 2)
      (',' :: ([' '] ++ _))) hblank rfl (hseverity fuel) rfl
  obtain ⟨tail, hline, htail⟩ : ∃ tail, r.line = '\x7b' :: '"' :: tail ∧
      ∀ fuel, Json.readFields (fuel + 4) ('"' :: tail) =
        .ok ([(Text.ofString "dismissed_at", .text (.ofChars r.since.write)),
          (Text.ofString "max_severity_at_dismissal", .int r.severity),
          (Text.ofString "dismiss_count", .int r.count)], []) := by
    refine ⟨_, ?_, hsince⟩
    simp only [line, List.cons_append, List.append_assoc]
    rfl
  have hvalue (fuel : Nat) : Json.readValue (fuel + 5) r.line = .ok (r.toJson, []) := by
    have hquote : Json.skipBlanks ('"' :: tail) = '"' :: tail := rfl
    rw [hline, Json.readValue, hquote]
    split
    · next heq => exact absurd (List.cons.inj heq).1 (by decide)
    · rw [htail]
      rfl
  have hblank : Json.skipBlanks r.line = r.line := by rw [hline]; rfl
  obtain ⟨fuel, hfuel⟩ : ∃ fuel, 2 * r.line.length + 2 = fuel + 5 :=
    ⟨2 * tail.length + 1, by rw [hline]; simp only [List.length_cons]; omega⟩
  unfold Json.read
  split
  · next heq => exact absurd (List.cons.inj (hline.symm.trans heq)).1 (by decide)
  · rw [hblank, hfuel, hvalue]
    rfl

/-- Of the object of a record only the moment is read again; the integers are as they were. -/
theorem ofJson_toJson_eq (r : Record) :
    ofJson r.toJson =
      (Moment.read (Text.ofChars r.since.write)).map fun since => ⟨since, r.severity, r.count⟩ := by
  have hseverity : Text.ofString "dismissed_at" ≠ Text.ofString "max_severity_at_dismissal" := by
    decide +kernel
  have hcount : Text.ofString "dismissed_at" ≠ Text.ofString "dismiss_count" ∧
      Text.ofString "max_severity_at_dismissal" ≠ Text.ofString "dismiss_count" := by
    decide +kernel
  cases hsince : Moment.read (Text.ofChars r.since.write) <;>
    simp [ofJson, toJson, Json.record, Json.need, Json.field?, Entries.get?, hseverity, hcount,
      Json.toMoment, Json.toInt, hsince, bind, Except.bind, pure, Except.pure, Except.map]

theorem ofJson_toJson_of_valid {r : Record} (h : r.since.IsValid) : ofJson r.toJson = .ok r.shown := by
  rw [ofJson_toJson_eq, Moment.read_write_of_valid h]
  rfl

theorem ofJson_toJson {r : Record} (h : r.since.Storable) : ofJson r.toJson = .ok r := by
  rw [ofJson_toJson_of_valid h.valid, shown_eq_self h]

end Record

namespace Store

/-- The record that the text of an entry stands for. -/
def readLine (cs : List Char) : Except Fault Record := Json.read cs >>= Record.ofJson

/-- A line is read as what the object of its record is read as. -/
theorem readLine_of_printable {r : Record} (h : r.Printable) :
    readLine r.line = Record.ofJson r.toJson := by
  rw [readLine, Record.read_line h]
  rfl

/-- **A record reads back from its line**, an offset below a second left out. -/
theorem readLine_line_of_valid {r : Record} (h : r.Printable) (hsince : r.since.IsValid) :
    readLine r.line = .ok r.shown := by
  rw [readLine_of_printable h, Record.ofJson_toJson_of_valid hsince]

/-- **A storable record reads back from its line.** -/
theorem readLine_line {r : Record} (h : r.Storable) : readLine r.line = .ok r := by
  rw [readLine_line_of_valid h.toPrintable h.since.valid, Record.shown_eq_self h.since]

theorem writeEntry_of_printable {r : Record} (h : r.Printable) :
    writeEntry r = .ok (Text.ofChars r.line) := by
  have hcheck : (r.toJson.tokens Json.asciiLine).forM Json.Token.check = .ok () := by
    rw [Record.tokens_toJson]
    simp [Json.Token.check, h.severity, h.count, bind, Except.bind, pure, Except.pure]
  rw [writeEntry, Json.write, hcheck, Record.render_toJson]
  rfl

theorem asString_ofChars (cs : List Char) : asString (Text.ofChars cs) = String.ofList cs := by
  rw [asString, Text.ofChars, List.filterMap_map]
  exact congrArg _ List.filterMap_some

/-- The record that what is held under a name stands for. -/
def readHeld (raw : Held) : Except Fault Record := readEntry (.octets raw.octets)

/-- Where a text is held it is the record of the text. -/
theorem readHeld_encode (cs : List Char) : readHeld ⟨Utf8.encode cs⟩ = readLine cs := by
  rw [readHeld, readEntry, charsOf, Utf8.decode_encode]
  rfl

/-- What is handed over for an entry stands for what is held, whether it comes as text or as octets. -/
theorem readEntry_of_answer {server : Server} {name : String} {answer : Answer}
    (h : server.answer? name = some answer) :
    ∃ raw, server.entries.get? name = some raw ∧ readEntry answer = readHeld raw := by
  rw [Server.answer?, Option.map_eq_some_iff] at h
  obtain ⟨raw, hraw, rfl⟩ := h
  refine ⟨raw, hraw, ?_⟩
  cases server.inOctets with
  | true => rfl
  | false =>
    rw [if_neg Bool.false_ne_true, Held.asText]
    cases hdecode : Utf8.decode raw.octets with
    | error defect => rfl
    | ok cs => rw [readHeld, readEntry, readEntry, charsOf, charsOf, hdecode, String.toList_ofList]

end Store

/-! ### What is read is storable -/

namespace Json

/-- Can the value be written if it is an integer, and so can each of its fields? -/
def Short : Json → Prop
  | .int n => Numeral.isWritable n = true
  | .object fields => ∀ f ∈ fields, ∀ n, f.2 = .int n → Numeral.isWritable n = true
  | _ => True

theorem Short.int {v : Json} (h : v.Short) {n : Int} (hv : v = .int n) :
    Numeral.isWritable n = true := by
  subst hv
  exact h

theorem isDigit_of_mem_wholePart {cs : List Char} {c : Char} (h : c ∈ wholePart cs) :
    c.isDigit = true := by
  unfold wholePart at h
  split at h
  · rw [List.mem_singleton.mp h]; rfl
  · exact List.mem_takeWhile_imp h

/-- What reading a number comes to behind its sign. -/
inductive ReadsNumber (body : List Char) : Except Stop (Json × List Char) → Prop
  /-- There are no digits. -/
  | nothing (place : Nat) : ReadsNumber body (.error (.syntaxAt "Expecting value" place))
  /-- The digits of an integer are more than are read. -/
  | tooLong (count : Nat) : ReadsNumber body (.error (.fault (.refused (.integerTooLong count))))
  | int (negative : Bool) (hlength : (wholePart body).length ≤ digitLimit) :
      ReadsNumber body (.ok (.int (if negative then -(Numeral.value 10 0 (wholePart body) : Int)
        else Numeral.value 10 0 (wholePart body)), body.drop (wholePart body).length))
  | fraction (x : Float) (h : ¬ (fraction (body.drop (wholePart body).length)).isEmpty = true) :
      ReadsNumber body (.ok (.float x, (body.drop (wholePart body).length).drop
        ((fraction (body.drop (wholePart body).length)).length + 1)))
  /-- An exponent may follow a fraction or the digits in front of one. -/
  | exponent {down : Bool} {digits rest : List Char} (x : Float)
      (h : Numeral.exponent? (if (fraction (body.drop (wholePart body).length)).isEmpty then
          body.drop (wholePart body).length
        else (body.drop (wholePart body).length).drop
          ((fraction (body.drop (wholePart body).length)).length + 1)) = some (down, digits, rest)) :
      ReadsNumber body (.ok (.float x, rest))

theorem exists_readsNumber (cs : List Char) :
    ∃ body, (cs = body ∨ cs = '-' :: body) ∧ ReadsNumber body (readNumber cs) := by
  unfold readNumber
  dsimp only
  split
  case' h_1 => refine ⟨_, .inr rfl, ?_⟩
  case' h_2 => refine ⟨_, .inl rfl, ?_⟩
  -- With a sign in front and without one, the digits go the same way.
  all_goals
    dsimp only
    split
    · exact .nothing _
    split
    · next hexponent => exact .exponent _ hexponent
    split
    · split
      · exact .tooLong _
      · next hlength => exact .int _ (Nat.not_lt.mp hlength)
    · next hfraction => exact .fraction _ hfraction

/-- Without a fraction and an exponent a number is an integer of as many digits as may be read. -/
theorem readNumber_cases {cs rest : List Char} {v : Json} (h : readNumber cs = .ok (v, rest)) :
    (∃ n, v = .int n ∧ Numeral.isWritable n = true) ∨ ∃ x, v = .float x := by
  obtain ⟨body, -, hread⟩ := exists_readsNumber cs
  rw [h] at hread
  cases hread with
  | int negative hlength =>
    refine .inl ⟨_, rfl, Numeral.isWritable_of_digits (fun c hc => ?_) hlength negative⟩
    exact Numeral.isDigitOf_of_isDigit (isDigit_of_mem_wholePart hc)
  | fraction x _ => exact .inr ⟨x, rfl⟩
  | exponent x _ => exact .inr ⟨x, rfl⟩

theorem short_readNumber {cs rest : List Char} {v : Json} (h : readNumber cs = .ok (v, rest)) :
    v.Short := by
  obtain ⟨n, rfl, hn⟩ | ⟨x, rfl⟩ := readNumber_cases h
  · exact hn
  · trivial

theorem short_of_mem_words {w : List Char × Json} (h : w ∈ words) : w.2.Short := by
  simp only [words, List.mem_cons, List.not_mem_nil, or_false] at h
  rcases h with rfl | rfl | rfl | rfl | rfl | rfl <;> trivial

/-- What a value is that is read. -/
theorem readValue_cases {fuel : Nat} {cs rest : List Char} {v : Json}
    (h : readValue (fuel + 1) cs = .ok (v, rest)) :
    (∃ t, v = .text t) ∨ (∃ items, v = .list items) ∨
      (∃ pairs, v = .object (Entries.ofPairs pairs) ∧
        (pairs = [] ∨ ∃ cs' rest', readFields fuel cs' = .ok (pairs, rest'))) ∨
      (∃ w ∈ words, v = w.2) ∨ readNumber cs = .ok (v, rest) := by
  rw [readValue.eq_def] at h
  dsimp only at h
  split at h
  · obtain ⟨_, -, hv⟩ := map_eq_ok_iff.mp h
    cases hv
    exact .inl ⟨_, rfl⟩
  · split at h
    · cases h
      exact .inr (.inl ⟨_, rfl⟩)
    · obtain ⟨_, -, hv⟩ := map_eq_ok_iff.mp h
      cases hv
      exact .inr (.inl ⟨_, rfl⟩)
  · split at h
    · cases h
      exact .inr (.inr (.inl ⟨[], rfl, .inl rfl⟩))
    · obtain ⟨⟨pairs, rest'⟩, hpairs, hv⟩ := map_eq_ok_iff.mp h
      cases hv
      exact .inr (.inr (.inl ⟨pairs, rfl, .inr ⟨_, rest', hpairs⟩⟩))
  · split at h
    · next hword =>
      cases h
      exact .inr (.inr (.inr (.inl ⟨_, List.mem_of_find?_eq_some hword, rfl⟩)))
    · exact .inr (.inr (.inr (.inr h)))

/-- Fields are one and perhaps more. -/
theorem readFields_cases {fuel : Nat} {cs rest : List Char} {fields : List (Text × Json)}
    (h : readFields (fuel + 1) cs = .ok (fields, rest)) :
    ∃ f more, fields = f :: more ∧ (∃ cs' rest', readValue fuel cs' = .ok (f.2, rest')) ∧
      (more = [] ∨ ∃ cs' rest', readFields fuel cs' = .ok (more, rest')) := by
  rw [readFields.eq_def] at h
  dsimp only at h
  split at h
  · obtain ⟨⟨name, rest₁⟩, -, h⟩ := bind_eq_ok_iff.mp h
    split at h
    · obtain ⟨⟨v, rest₂⟩, hv, h⟩ := bind_eq_ok_iff.mp h
      split at h
      · cases h
        exact ⟨(name, v), [], rfl, ⟨_, rest₂, hv⟩, .inl rfl⟩
      · obtain ⟨⟨more, rest₃⟩, hmore, h⟩ := bind_eq_ok_iff.mp h
        cases h
        exact ⟨(name, v), more, rfl, ⟨_, rest₂, hv⟩, .inr ⟨_, rest₃, hmore⟩⟩
      · cases h
    · cases h
  · cases h

/-- A value takes its fields, and fields take their values, from reading with less fuel. -/
theorem short_readFuel (fuel : Nat) :
    (∀ {cs rest v}, readValue fuel cs = .ok (v, rest) → v.Short) ∧
      ∀ {cs rest fields}, readFields fuel cs = .ok (fields, rest) → (object fields).Short := by
  induction fuel with
  | zero => exact ⟨nofun, nofun⟩
  | succ fuel ih =>
    obtain ⟨ihValue, ihFields⟩ := ih
    constructor
    · intro cs rest v h
      obtain ⟨t, rfl⟩ | ⟨items, rfl⟩ | ⟨pairs, rfl, hpairs⟩ | ⟨w, hw, rfl⟩ | h := readValue_cases h
      · trivial
      · trivial
      · obtain rfl | ⟨_, _, hfields⟩ := hpairs
        · exact List.forall_mem_nil _
        · exact fun f hf => ihFields hfields f (Entries.mem_of_mem_ofPairs hf)
      · exact short_of_mem_words hw
      · exact short_readNumber h
    · intro cs rest fields h
      obtain ⟨f, more, rfl, ⟨_, _, hf⟩, hmore⟩ := readFields_cases h
      refine List.forall_mem_cons.mpr ⟨fun n hn => (ihValue hf).int hn, ?_⟩
      obtain rfl | ⟨_, _, hmore⟩ := hmore
      · exact List.forall_mem_nil _
      · exact ihFields hmore

theorem short_read {cs : List Char} {v : Json} (h : read cs = .ok v) : v.Short := by
  unfold read at h
  split at h
  · cases h
  split at h
  · cases h
  next hv =>
  split at h
  · obtain rfl := Except.ok.inj h
    exact (short_readFuel _).1 hv
  · cases h

/-- The values of the fields of an object are short, too. -/
theorem short_of_mem_readFields {fuel : Nat} {cs rest : List Char} {fields : List (Text × Json)}
    (h : readFields fuel cs = .ok (fields, rest)) : ∀ f ∈ fields, f.2.Short := by
  induction fuel generalizing cs rest fields with
  | zero => cases h
  | succ fuel ih =>
    obtain ⟨f, more, rfl, ⟨_, _, hf⟩, hmore⟩ := readFields_cases h
    refine List.forall_mem_cons.mpr ⟨(short_readFuel fuel).1 hf, ?_⟩
    obtain rfl | ⟨_, _, hmore⟩ := hmore
    · exact List.forall_mem_nil _
    · exact ih hmore

/-- An object that is read is put together from fields with short values. -/
theorem fields_of_read {cs : List Char} {fields : List (Text × Json)}
    (h : read cs = .ok (.object fields)) :
    ∃ pairs, fields = Entries.ofPairs pairs ∧ ∀ f ∈ pairs, f.2.Short := by
  unfold read at h
  split at h
  · cases h
  split at h
  · cases h
  next v rest hv =>
  split at h
  · obtain rfl := Except.ok.inj h
    obtain ⟨t, ht⟩ | ⟨items, hitems⟩ | ⟨pairs, hfields, hpairs⟩ | ⟨w, hw, hword⟩ | hv :=
      readValue_cases hv
    · cases ht
    · cases hitems
    · refine ⟨pairs, Json.object.inj hfields, ?_⟩
      obtain rfl | ⟨_, _, hpairs⟩ := hpairs
      · exact List.forall_mem_nil _
      · exact short_of_mem_readFields hpairs
    · simp only [words, List.mem_cons, List.not_mem_nil, or_false] at hw
      rcases hw with rfl | rfl | rfl | rfl | rfl | rfl <;> cases hword
    · obtain ⟨n, hn, -⟩ | ⟨x, hx⟩ := readNumber_cases hv
      · cases hn
      · cases hx
  · cases h

theorem Short.field {v x : Json} (h : v.Short) {name : String} (hx : v.field? name = some x)
    {n : Int} (hn : x = .int n) : Numeral.isWritable n = true := by
  cases v with
  | object fields => exact h _ (Entries.mem_of_get?_eq_some hx) n hn
  | _ => cases hx

theorem isWritable_of_toInt {v : Json} (hv : ∀ n, v = .int n → Numeral.isWritable n = true)
    {n : Int} (h : v.toInt = .ok n) : Numeral.isWritable n = true := by
  cases v with
  | int m => exact Except.ok.inj h ▸ hv m rfl
  | bool b =>
    obtain rfl := Except.ok.inj h
    exact Numeral.isWritable_of_natAbs_le_one (by cases b <;> decide)
  | text t => exact Numeral.isWritable_of_read h
  | float x => exact Numeral.isWritable_of_ofFloat h
  | null => cases h
  | list items => cases h
  | object fields => cases h

theorem field?_of_need {v x : Json} {name : String} (h : v.need name = .ok x) :
    v.field? name = some x := by
  cases v with
  | object fields =>
    rw [need] at h
    split at h
    · next hx => exact Except.ok.inj h ▸ hx
    · cases h
  | _ => cases h

end Json

/-- The moment of a record that is read can be written and read back. -/
theorem Record.since_storable_of_ofJson {v : Json} {r : Record} (h : ofJson v = .ok r) :
    r.since.Storable := by
  obtain ⟨since, hsince, h⟩ := bind_eq_ok_iff.mp h
  obtain ⟨severity, -, h⟩ := bind_eq_ok_iff.mp h
  obtain ⟨count, -, h⟩ := bind_eq_ok_iff.mp h
  obtain rfl := Except.ok.inj h
  obtain ⟨moment, -, hsince⟩ := bind_eq_ok_iff.mp hsince
  cases moment with
  | text t => exact Moment.storable_of_read hsince
  | _ => cases hsince

/-- The record of an object is storable if its integers are short. -/
theorem Record.storable_of_ofJson {v : Json} (hshort : v.Short) {r : Record}
    (h : ofJson v = .ok r) : r.Storable := by
  have hmoment := since_storable_of_ofJson h
  obtain ⟨since, -, h⟩ := bind_eq_ok_iff.mp h
  obtain ⟨severity, hseverity, h⟩ := bind_eq_ok_iff.mp h
  obtain ⟨count, hcount, h⟩ := bind_eq_ok_iff.mp h
  obtain rfl := Except.ok.inj h
  obtain ⟨level, hlevel, hseverity⟩ := bind_eq_ok_iff.mp hseverity
  refine ⟨⟨?_, ?_⟩, hmoment⟩
  · exact Json.isWritable_of_toInt (fun n hn => hshort.field (Json.field?_of_need hlevel) hn)
      hseverity
  · refine Json.isWritable_of_toInt (fun n hn => ?_) hcount
    cases hfield : v.field? "dismiss_count" with
    | none =>
      obtain rfl : 1 = n := by simpa [hfield] using hn
      exact Numeral.isWritable_of_natAbs_le_one (by decide)
    | some x => exact hshort.field hfield (by simpa [hfield] using hn)

/-- **Whatever is read from what is held is storable.** -/
theorem Store.storable_of_readHeld {raw : Held} {r : Record} (h : readHeld raw = .ok r) :
    r.Storable := by
  obtain ⟨v, hv, h⟩ := bind_eq_ok_iff.mp h
  obtain ⟨cs, -, hv⟩ := bind_eq_ok_iff.mp hv
  exact Record.storable_of_ofJson (Json.short_read hv) h

end IssueDigest
