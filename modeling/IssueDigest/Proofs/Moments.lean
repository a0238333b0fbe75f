import IssueDigest.Proofs.Actions
import IssueDigest.Proofs.Digits
import IssueDigest.Proofs.Octets
import Mathlib.Data.List.Basic
import Mathlib.Data.List.TakeWhile
/-!
# Moments read back

The text of a moment is read back as the same moment, its offset and its microseconds included, for
exactly the moments that reading can yield. These are the **storable** ones: every part is in range,
and an offset is nought or at least a second long, because the reader takes a shorter one for nought.

The proof goes part by part, in the order of the text: date, clock, offset. Each part has a lemma
that reads what was written with whatever may follow it. The other direction, that whatever is read
is storable, bounds each part by the digits it was read from.
-/

namespace IssueDigest

/-- Can the moment be written and read back? -/
structure Moment.Storable (m : Moment) : Prop where
  /-- Every part is in range. -/
  valid : m.IsValid
  /-- The reader takes an offset below a second for nought. -/
  offset : ∀ o, m.offset = some o → o = 0 ∨ 1000000 ≤ o.natAbs

namespace Iso

/-! ### Two and four digits, letter by letter

The readers look at single characters around the digits, so these lemmas spell the digits out. -/

theorem padded_two {n : Nat} (h : n < 100) :
    ∃ a b, padded 2 n = [a, b] ∧ a.isDigit = true ∧ b.isDigit = true ∧
      ∀ rest, digits? 2 0 (a :: b :: rest) = some (n, rest) := by
  have hlength : (padded 2 n).length = 2 := length_padded (by decide) h
  have hdigit {c : Char} (hc : c ∈ padded 2 n) : c.isDigit = true := isDigit_of_mem_padded hc
  have hread (rest : List Char) : digits? 2 0 (padded 2 n ++ rest) = some (n, rest) :=
    digits?_padded (by decide) h rest
  obtain ⟨a, b, hab⟩ := List.length_eq_two.mp hlength
  rw [hab] at hdigit hread
  exact ⟨a, b, hab, hdigit (by simp), hdigit (by simp), hread⟩

theorem padded_four {n : Nat} (h : n < 10000) :
    ∃ a b c d, padded 4 n = [a, b, c, d] ∧
      ∀ rest, digits? 4 0 (a :: b :: c :: d :: rest) = some (n, rest) := by
  have hlength : (padded 4 n).length = 4 := length_padded (by decide) h
  have hread (rest : List Char) : digits? 4 0 (padded 4 n ++ rest) = some (n, rest) :=
    digits?_padded (by decide) h rest
  obtain ⟨a, b, c, d, habcd⟩ := List.length_eq_four.mp hlength
  rw [habcd] at hread
  exact ⟨a, b, c, d, habcd, hread⟩

theorem ne_of_isDigit {c x : Char} (h : c.isDigit = true) (hx : x.isDigit = false) : c ≠ x := by
  rintro rfl
  rw [h] at hx
  exact absurd hx (by decide)

/-! ### The date -/

theorem readDateParts_written {d : Date} (hy : d.year < 10000) (hm : d.month < 100)
    (hd : d.day < 100) :
    readDateParts (padded 4 d.year ++ '-' :: padded 2 d.month ++ '-' :: padded 2 d.day) =
      some (.day d) := by
  obtain ⟨y₁, y₂, y₃, y₄, hyear, hreadYear⟩ := padded_four hy
  obtain ⟨m₁, m₂, hmonth, hm₁, -, hreadMonth⟩ := padded_two hm
  obtain ⟨d₁, d₂, hday, -, -, hreadDay⟩ := padded_two hd
  have hweek : m₁ ≠ 'W' := ne_of_isDigit hm₁ (by decide)
  simp only [hyear, hmonth, hday, List.cons_append, List.nil_append, readDateParts, hreadYear,
    Option.bind_eq_bind, Option.bind_some]
  split
  · next heq => exact absurd (List.cons.inj heq).1 hweek
  · simp [hreadMonth, hreadDay]

/-! ### The clock -/

/-- A clock without a fraction, hours and minutes only. -/
theorem readClock_short {hour minute : Nat} (hh : hour < 100) (hm : minute < 100) (follow : Char) :
    readClock (padded 2 hour ++ ':' :: padded 2 minute) follow =
      some ⟨⟨hour, minute, 0, 0⟩, follow != '\x00'⟩ := by
  obtain ⟨h₁, h₂, hhour, -, -, hreadHour⟩ := padded_two hh
  obtain ⟨m₁, m₂, hminute, -, -, hreadMinute⟩ := padded_two hm
  simp only [hhour, hminute, List.cons_append, List.nil_append, readClock, hreadHour,
    Option.bind_eq_bind, Option.bind_some, front, List.headD_cons, beq_self_eq_true, joint,
    Bool.and_self, if_true, hreadMinute]
  rfl

theorem readFraction_written (hour minute second : Nat) {micro : Nat} (h : micro < 1000000)
    (follow : Char) :
    readFraction hour minute second follow (padded 6 micro) =
      some ⟨⟨hour, minute, second, micro⟩, follow != '\x00'⟩ := by
  have hlength : (padded 6 micro).length = 6 := length_padded (by decide) h
  have hread : digits? 6 0 (padded 6 micro ++ []) = some (micro, []) :=
    digits?_padded (by decide) h []
  rw [List.append_nil] at hread
  simp [readFraction, hlength, hread, front]

/-- A clock down to seconds, with the fraction that is written for its microseconds. -/
theorem readClock_long {hour minute second micro : Nat} (hh : hour < 100) (hm : minute < 100)
    (hs : second < 100) (hmicro : micro < 1000000) (follow : Char) :
    readClock (padded 2 hour ++ ':' :: padded 2 minute ++ ':' :: padded 2 second
        ++ writeFraction micro) follow =
      some ⟨⟨hour, minute, second, micro⟩, follow != '\x00'⟩ := by
  obtain ⟨h₁, h₂, hhour, -, -, hreadHour⟩ := padded_two hh
  obtain ⟨m₁, m₂, hminute, -, -, hreadMinute⟩ := padded_two hm
  obtain ⟨s₁, s₂, hsecond, -, -, hreadSecond⟩ := padded_two hs
  simp only [hhour, hminute, hsecond, List.cons_append, List.nil_append, readClock, hreadHour,
    Option.bind_eq_bind, Option.bind_some, front, List.headD_cons, beq_self_eq_true, joint,
    Bool.and_self, if_true, hreadMinute, hreadSecond]
  by_cases hzero : micro = 0
  · simp [writeFraction, hzero]
  · have hfraction := readFraction_written hour minute second hmicro follow
    have hlength : (padded 6 micro).length = 6 := length_padded (by decide) hmicro
    obtain ⟨f, fs, hf⟩ :=
      List.exists_cons_of_length_pos (show 0 < (padded 6 micro).length by omega)
    rw [hf] at hfraction
    simp [writeFraction, hzero, hf, hfraction]

/-- The text of a clock is made of digits, colons and a point. -/
theorem mem_clock {hour minute second micro : Nat} {c : Char}
    (h : c ∈ padded 2 hour ++ ':' :: padded 2 minute ++ ':' :: padded 2 second
      ++ writeFraction micro) : c.isDigit = true ∨ c = ':' ∨ c = '.' := by
  simp only [List.append_assoc, List.cons_append, List.mem_append, List.mem_cons] at h
  rcases h with h | rfl | h | rfl | h | h
  · exact .inl (isDigit_of_mem_padded h)
  · exact .inr (.inl rfl)
  · exact .inl (isDigit_of_mem_padded h)
  · exact .inr (.inl rfl)
  · exact .inl (isDigit_of_mem_padded h)
  · unfold writeFraction at h
    split at h
    · cases h
    · rcases List.mem_cons.mp h with rfl | h
      · exact .inr (.inr rfl)
      · exact .inl (isDigit_of_mem_padded h)

/-- None of these starts an offset. -/
theorem not_startsOffset_of_mem {hour minute second micro : Nat} {c : Char}
    (h : c ∈ padded 2 hour ++ ':' :: padded 2 minute ++ ':' :: padded 2 second
      ++ writeFraction micro) : startsOffset c = false := by
  rcases mem_clock h with hdigit | rfl | rfl
  · simp [startsOffset, ne_of_isDigit hdigit (x := '+') (by decide),
      ne_of_isDigit hdigit (x := '-') (by decide), ne_of_isDigit hdigit (x := 'Z') (by decide)]
  · rfl
  · rfl

/-! ### The offset -/

/-- What is written behind the sign of an offset is read as a clock that shows it. -/
theorem readClock_offset {total : Int} (h : total.natAbs < microsecondsPerDay) :
    ∃ tail, writeOffset total = (if total < 0 then '-' else '+') :: tail ∧
      readClock tail '\x00' =
        some ⟨⟨total.natAbs / 1000000 / 3600, total.natAbs / 1000000 / 60 % 60,
          total.natAbs / 1000000 % 60, total.natAbs % 1000000⟩, false⟩ := by
  rw [microsecondsPerDay] at h
  refine ⟨_, rfl, ?_⟩
  by_cases hshort : total.natAbs % 60000000 = 0
  · have hclock := readClock_short (show total.natAbs / 1000000 / 3600 < 100 by omega)
      (show total.natAbs / 1000000 / 60 % 60 < 100 by omega) '\x00'
    have hsecond : total.natAbs / 1000000 % 60 = 0 := by omega
    have hmicro : total.natAbs % 1000000 = 0 := by omega
    simpa [hshort, hsecond, hmicro] using hclock
  · have hlong := readClock_long (show total.natAbs / 1000000 / 3600 < 100 by omega)
      (show total.natAbs / 1000000 / 60 % 60 < 100 by omega)
      (show total.natAbs / 1000000 % 60 < 100 by omega)
      (show total.natAbs % 1000000 < 1000000 by omega) '\x00'
    simpa [hshort] using hlong

/-- What an offset is read as: one below a second counts as none. -/
def shown (total : Int) : Int := if total.natAbs < 1000000 then 0 else total

/-- Hours, minutes, seconds and microseconds of an offset add up to what it is read as. -/
theorem offsetOf_parts (total : Int) :
    offsetOf (decide (total < 0))
        ⟨total.natAbs / 1000000 / 3600, total.natAbs / 1000000 / 60 % 60,
          total.natAbs / 1000000 % 60, total.natAbs % 1000000⟩ = shown total := by
  have hhours : total.natAbs / 1000000 / 60 / 60 = total.natAbs / 1000000 / 3600 :=
    Nat.div_div_eq_div_mul _ _ _
  unfold offsetOf shown
  simp only [beq_iff_eq, decide_eq_true_eq]
  by_cases hshort : total.natAbs < 1000000
  · rw [if_pos hshort, if_pos (by omega)]
  · rw [if_neg hshort, if_neg (by omega)]
    split <;> omega

theorem shown_eq_self {total : Int} (h : total = 0 ∨ 1000000 ≤ total.natAbs) : shown total = total := by
  unfold shown
  split <;> omega

theorem natAbs_shown_le (total : Int) : (shown total).natAbs ≤ total.natAbs := by
  unfold shown
  split <;> omega

/-- **A time reads back**, with what its offset is read as. -/
theorem readTime_written {t : TimeOfDay} (hh : t.hour < 100) (hm : t.minute < 100)
    (hs : t.second < 100) (hmicro : t.microsecond < 1000000) {offset : Option Int}
    (hday : ∀ o, offset = some o → o.natAbs < microsecondsPerDay) :
    readTime (padded 2 t.hour ++ ':' :: padded 2 t.minute ++ ':' :: padded 2 t.second
        ++ writeFraction t.microsecond ++ (offset.map writeOffset).getD []) =
      some (t, offset.map shown) := by
  have hbody : ∀ c ∈ padded 2 t.hour ++ ':' :: padded 2 t.minute ++ ':' :: padded 2 t.second
      ++ writeFraction t.microsecond, (!startsOffset c) = true :=
    fun c hc => by rw [not_startsOffset_of_mem hc]; rfl
  have hclock := readClock_long hh hm hs hmicro
  generalize padded 2 t.hour ++ ':' :: padded 2 t.minute ++ ':' :: padded 2 t.second
    ++ writeFraction t.microsecond = body at hbody hclock ⊢
  cases offset with
  | none =>
    have htake : body.takeWhile (fun c => !startsOffset c) = body :=
      List.takeWhile_eq_self_iff.mpr hbody
    have hdrop : body.dropWhile (fun c => !startsOffset c) = [] :=
      List.dropWhile_eq_nil_iff.mpr hbody
    simp [readTime, htake, hdrop, hclock, front]
  | some o =>
    obtain ⟨tail, hwritten, hread⟩ := readClock_offset (hday o rfl)
    have hsign : startsOffset (if o < 0 then '-' else '+') = true := by split <;> rfl
    have hZ : (if o < 0 then '-' else '+') ≠ 'Z' := by split <;> decide
    have hnul : ((if o < 0 then '-' else '+') != '\x00') = true := by split <;> rfl
    have hminus : ((if o < 0 then '-' else '+') == '-') = decide (o < 0) := by
      by_cases ho : o < 0 <;> simp [ho]
    rw [Option.map_some, Option.getD_some, hwritten]
    generalize (if o < 0 then '-' else '+') = sign at hsign hZ hnul hminus
    have htake : (body ++ sign :: tail).takeWhile (fun c => !startsOffset c) = body := by
      rw [List.takeWhile_append_of_pos hbody, List.takeWhile_cons_of_neg (by simp [hsign]),
        List.append_nil]
    have hdrop : (body ++ sign :: tail).dropWhile (fun c => !startsOffset c) = sign :: tail := by
      rw [List.dropWhile_append_of_pos hbody, List.dropWhile_cons_of_neg (by simp [hsign])]
    simp only [readTime, htake, hdrop, hclock, front, List.headD_cons, hnul, Option.bind_eq_bind,
      Option.bind_some]
    simp [hread, hminus, offsetOf_parts]

/-! ### Octets

The reader goes by the octets of a text, and whatever is written has one for each character. -/

theorem octets_of_ascii {cs : List Char} (h : ∀ c ∈ cs, c.toNat < 0x80) : octets cs = cs := by
  induction cs with
  | nil => rfl
  | cons c cs ih =>
    have hc : c.toNat < 0x80 := h c List.mem_cons_self
    have hrest : octets cs = cs := ih fun c' hc' => h c' (List.mem_cons_of_mem _ hc')
    have hchar : Utf8.encodeChar c = [c.toNat.toUInt8] := by rw [Utf8.encodeChar, if_pos hc]
    have hback : Char.ofNat c.toNat.toUInt8.toNat = c := by
      rw [Utf8.toNat_toUInt8 (by omega), Char.ofNat_toNat]
    rw [octets, Utf8.encode] at hrest ⊢
    rw [List.flatMap_cons, hchar, List.singleton_append, List.map_cons, hback, hrest]

theorem toNat_lt_of_isDigit {c : Char} (h : c.isDigit = true) : c.toNat < 0x80 := by
  simp only [Char.isDigit, Bool.and_eq_true, decide_eq_true_eq, UInt32.le_iff_toNat_le] at h
  have : c.toNat ≤ 57 := h.2
  omega

theorem toNat_lt_of_mem_padded {width n : Nat} {c : Char} (h : c ∈ padded width n) :
    c.toNat < 0x80 :=
  toNat_lt_of_isDigit (isDigit_of_mem_padded h)

theorem toNat_lt_of_mem_clock {hour minute second micro : Nat} {c : Char}
    (h : c ∈ padded 2 hour ++ ':' :: padded 2 minute ++ ':' :: padded 2 second
      ++ writeFraction micro) : c.toNat < 0x80 := by
  rcases mem_clock h with hdigit | rfl | rfl
  · exact toNat_lt_of_isDigit hdigit
  · decide
  · decide

/-- The tail of an offset is a clock, or the hours and minutes of one. -/
theorem toNat_lt_of_mem_offset {total : Int} {c : Char} (h : c ∈ writeOffset total) :
    c.toNat < 0x80 := by
  simp only [writeOffset, List.cons_append, List.append_assoc, List.mem_cons] at h
  generalize total.natAbs = micro at h
  obtain rfl | h := h
  · split <;> decide
  by_cases hshort : (micro % 60000000 == 0) = true
  · rw [if_pos hshort, List.append_nil, List.mem_append, List.mem_cons] at h
    rcases h with h | rfl | h
    · exact toNat_lt_of_mem_padded h
    · decide
    · exact toNat_lt_of_mem_padded h
  · rw [if_neg hshort] at h
    exact toNat_lt_of_mem_clock (by simpa only [List.append_assoc, List.cons_append] using h)

/-! ### The whole text -/

theorem chars?_ofChars (cs : List Char) : (Text.ofChars cs).chars? = some cs := by
  induction cs with
  | nil => rfl
  | cons c cs ih =>
    simp only [Text.ofChars, Text.chars?, List.map_cons, List.mapM_cons] at ih ⊢
    simp [CodePoint.char?, ih]

/-- Where there are no halves none is taken for the separator. -/
theorem plainSeparator_ofChars (cs : List Char) :
    plainSeparator (Text.ofChars cs) = Text.ofChars cs := by
  unfold plainSeparator
  dsimp only
  rw [List.find?_eq_none.mpr]
  intro i _
  rw [Text.ofChars, List.getElem?_map]
  cases cs[i]? <;> simp

/-- The date ends behind ten characters, and what follows its separator is the time. -/
theorem readParts_written {d : Date} (hy : d.year < 10000) (hm : d.month < 100) (hd : d.day < 100)
    {rest : List Char} {t : TimeOfDay} {offset : Option Int}
    (hascii : ∀ c ∈ rest, c.toNat < 0x80) (hrest : readTime rest = some (t, offset)) :
    readParts (Text.ofChars (padded 4 d.year ++ '-' :: padded 2 d.month ++ '-' :: padded 2 d.day
      ++ 'T' :: rest)) = some (.day d, d, t, offset) := by
  have hdate := readDateParts_written hy hm hd
  have hoctets : octets (padded 4 d.year ++ '-' :: padded 2 d.month ++ '-' :: padded 2 d.day
      ++ 'T' :: rest) = padded 4 d.year ++ '-' :: padded 2 d.month ++ '-' :: padded 2 d.day
      ++ 'T' :: rest := by
    refine octets_of_ascii fun c hc => ?_
    simp only [List.append_assoc, List.cons_append, List.mem_append, List.mem_cons] at hc
    rcases hc with hc | rfl | hc | rfl | hc | rfl | hc
    · exact toNat_lt_of_mem_padded hc
    · decide
    · exact toNat_lt_of_mem_padded hc
    · decide
    · exact toNat_lt_of_mem_padded hc
    · decide
    · exact hascii c hc
  obtain ⟨y₁, y₂, y₃, y₄, hyear, -⟩ := padded_four hy
  obtain ⟨m₁, m₂, hmonth, hm₁, -, -⟩ := padded_two hm
  obtain ⟨d₁, d₂, hday, -, -, -⟩ := padded_two hd
  have hweek : m₁ ≠ 'W' := ne_of_isDigit hm₁ (by decide)
  simp only [hyear, hmonth, hday, List.cons_append, List.nil_append] at hdate hoctets ⊢
  rw [readParts, plainSeparator_ofChars, chars?_ofChars, Option.map_eq_map, Option.map_some, hoctets]
  simp [Text.ofChars, dateEnd, hweek, hdate, DateParts.date?, tailLength, hrest]

end Iso

namespace Date

theorem check_eq_ok_iff {d : Date} : d.check = .ok () ↔
    (1 ≤ d.year ∧ d.year ≤ 9999) ∧ (1 ≤ d.month ∧ d.month ≤ 12) ∧
      1 ≤ d.day ∧ d.day ≤ daysInMonth d.year d.month := by
  unfold check
  simp only [Bool.or_eq_true, decide_eq_true_eq]
  split
  · simp; omega
  · split
    · simp; omega
    · split
      · simp; omega
      · simp; omega

theorem daysInMonth_le (year month : Nat) : daysInMonth year month ≤ 31 := by
  unfold daysInMonth
  split
  · split <;> omega
  · split <;> omega

end Date

theorem TimeOfDay.check_eq_ok_iff {t : TimeOfDay} :
    t.check = .ok () ↔ t.hour ≤ 23 ∧ t.minute ≤ 59 ∧ t.second ≤ 59 := by
  unfold check
  split
  · simp; omega
  · split
    · simp; omega
    · split
      · simp; omega
      · simp; omega

theorem checkOffset_eq_ok_iff {total : Int} :
    checkOffset total = .ok () ↔ total.natAbs < microsecondsPerDay := by
  unfold checkOffset
  split <;> simp_all

namespace Moment

/-- The moment as it is read, an offset below a second left out. -/
def shown (m : Moment) : Moment := { m with offset := m.offset.map Iso.shown }

theorem Storable.shown_eq_self {m : Moment} (h : m.Storable) : m.shown = m := by
  have hoffset : m.offset.map Iso.shown = m.offset := by
    cases ho : m.offset with
    | none => rfl
    | some o => exact congrArg some (Iso.shown_eq_self (h.offset o ho))
  rw [shown, hoffset]

/-- **The text of any moment reads back**, an offset below a second left out. -/
theorem read_write_of_valid {m : Moment} (h : m.IsValid) :
    read (Text.ofChars m.write) = .ok m.shown := by
  obtain ⟨hdate, htime, hmicro, hday⟩ := h
  obtain ⟨hyear, hmonth, hd⟩ := Date.check_eq_ok_iff.mp hdate
  obtain ⟨hhour, hminute, hsecond⟩ := TimeOfDay.check_eq_ok_iff.mp htime
  -- The readers want every part to fit its digits; the day does because months are short.
  have hdaysInMonth := Date.daysInMonth_le m.date.year m.date.month
  have hclock := Iso.readTime_written (t := m.time) (by omega) (by omega)
    (by omega) hmicro (fun o ho => checkOffset_eq_ok_iff.mp (hday o ho))
  have hascii : ∀ c ∈ Iso.padded 2 m.time.hour ++ ':' :: Iso.padded 2 m.time.minute
      ++ ':' :: Iso.padded 2 m.time.second ++ Iso.writeFraction m.time.microsecond
      ++ (m.offset.map Iso.writeOffset).getD [], c.toNat < 0x80 := by
    intro c hc
    obtain hc | hc := List.mem_append.mp hc
    · exact Iso.toNat_lt_of_mem_clock hc
    · cases ho : m.offset with
      | none => rw [ho] at hc; cases hc
      | some o => rw [ho] at hc; exact Iso.toNat_lt_of_mem_offset hc
  have hparts := Iso.readParts_written (d := m.date) (by omega) (by omega) (by omega) hascii hclock
  rw [read, write]
  simp only [List.append_assoc, List.cons_append] at hparts ⊢
  rw [hparts, shown]
  cases ho : m.offset with
  | none => simp [Iso.DateParts.check, hdate, htime, bind, Except.bind, pure, Except.pure]
  | some o =>
    have hshown : checkOffset (Iso.shown o) = .ok () :=
      checkOffset_eq_ok_iff.mpr ((Iso.natAbs_shown_le o).trans_lt (checkOffset_eq_ok_iff.mp (hday o ho)))
    simp [Iso.DateParts.check, hdate, htime, hshown, bind, Except.bind, pure, Except.pure]

/-- **A storable moment reads back from its text.** -/
theorem read_write {m : Moment} (h : m.Storable) : read (Text.ofChars m.write) = .ok m := by
  rw [read_write_of_valid h.valid, h.shown_eq_self]

end Moment

/-! ### What is read is storable -/

namespace Iso

/-- So many digits make a number below that power of ten. -/
theorem lt_of_digits? {width n k : Nat} {cs rest : List Char}
    (h : digits? width n cs = some (k, rest)) : k < (n + 1) * 10 ^ width := by
  induction width generalizing n cs with
  | zero =>
    obtain ⟨rfl, -⟩ := Prod.mk.inj (Option.some.inj h)
    omega
  | succ width ih =>
    cases cs with
    | nil => cases h
    | cons c cs =>
      rw [digits?] at h
      split at h
      · next hc =>
        have hlt := ih h
        have hc : c.toNat - 48 < 10 := by
          simp only [Char.isDigit, Bool.and_eq_true, decide_eq_true_eq, UInt32.le_iff_toNat_le]
            at hc
          have : c.toNat ≤ 57 := hc.2
          omega
        calc k < (n * 10 + (c.toNat - 48) + 1) * 10 ^ width := hlt
          _ ≤ ((n + 1) * 10) * 10 ^ width := Nat.mul_le_mul_right _ (by omega)
          _ = (n + 1) * 10 ^ (width + 1) := by rw [Nat.pow_succ]; ring
      · cases h

theorem microsecond_readFraction {hour minute second : Nat} {follow : Char} {cs : List Char}
    {clock : Clock} (h : readFraction hour minute second follow cs = some clock) :
    clock.time.microsecond < 1000000 := by
  simp only [readFraction, Option.bind_eq_bind, Option.bind_eq_some_iff, Prod.exists] at h
  obtain ⟨n, rest, hread, h⟩ := h
  obtain rfl := Option.some.inj h
  have hn := lt_of_digits? hread
  have hwidth : min 6 cs.length ≤ 6 := Nat.min_le_left _ _
  generalize min 6 cs.length = width at hn hwidth
  change n * 10 ^ (6 - width) < 1000000
  calc n * 10 ^ (6 - width)
      < (0 + 1) * 10 ^ width * 10 ^ (6 - width) := Nat.mul_lt_mul_of_pos_right hn (by positivity)
    _ = 10 ^ (width + (6 - width)) := by rw [Nat.pow_add]; ring
    _ = 1000000 := by rw [Nat.add_sub_cancel' hwidth]; rfl

theorem microsecond_readClock {follow : Char} {cs : List Char} {clock : Clock}
    (h : readClock cs follow = some clock) : clock.time.microsecond < 1000000 := by
  simp only [readClock, Option.bind_eq_bind, Option.bind_eq_some_iff, Prod.exists] at h
  obtain ⟨hour, rest, -, h⟩ := h
  split at h
  · obtain rfl := Option.some.inj h; exact Nat.succ_pos _
  · exact microsecond_readFraction h
  · cases h
  simp only [Option.bind_eq_some_iff, Prod.exists] at h
  obtain ⟨minute, rest, -, h⟩ := h
  split at h
  · obtain rfl := Option.some.inj h; exact Nat.succ_pos _
  · exact microsecond_readFraction h
  · cases h
  simp only [Option.bind_eq_some_iff, Prod.exists] at h
  obtain ⟨second, rest, -, h⟩ := h
  split at h
  · obtain rfl := Option.some.inj h; exact Nat.succ_pos _
  · exact microsecond_readFraction h
  · cases h
  · exact microsecond_readFraction h

/-- An offset that is read is nought or at least a second long. -/
theorem offsetOf_bound (negative : Bool) (t : TimeOfDay) :
    offsetOf negative t = 0 ∨ 1000000 ≤ (offsetOf negative t).natAbs := by
  unfold offsetOf
  simp only [beq_iff_eq]
  split
  · exact Or.inl rfl
  · split <;> omega

theorem bounds_readTime {cs : List Char} {t : TimeOfDay} {offset : Option Int}
    (h : readTime cs = some (t, offset)) :
    t.microsecond < 1000000 ∧ ∀ o, offset = some o → o = 0 ∨ 1000000 ≤ o.natAbs := by
  simp only [readTime, Option.bind_eq_bind, Option.bind_eq_some_iff] at h
  obtain ⟨clock, hclock, h⟩ := h
  have hmicro := microsecond_readClock hclock
  split at h
  · split at h
    · cases h
    · obtain ⟨rfl, rfl⟩ := Prod.mk.inj (Option.some.inj h)
      exact ⟨hmicro, nofun⟩
  · split at h
    · obtain ⟨rfl, rfl⟩ := Prod.mk.inj (Option.some.inj h)
      exact ⟨hmicro, fun o ho => Or.inl (Option.some.inj ho).symm⟩
    · cases h
  · simp only [Option.bind_eq_some_iff] at h
    obtain ⟨shift, -, h⟩ := h
    split at h
    · cases h
    · obtain ⟨rfl, rfl⟩ := Prod.mk.inj (Option.some.inj h)
      refine ⟨hmicro, fun o ho => ?_⟩
      obtain rfl := Option.some.inj ho
      exact offsetOf_bound _ _

theorem bounds_readParts {text : Text} {parts : DateParts} {d : Date} {t : TimeOfDay}
    {offset : Option Int} (h : readParts text = some (parts, d, t, offset)) :
    t.microsecond < 1000000 ∧ ∀ o, offset = some o → o = 0 ∨ 1000000 ≤ o.natAbs := by
  unfold readParts at h
  split at h
  · cases h
  simp only [Option.bind_eq_bind, Option.bind_eq_some_iff] at h
  obtain ⟨cs, -, parts', -, d', -, h⟩ := h
  split at h
  · simp only [pure, Option.some.injEq, Prod.mk.injEq] at h
    obtain ⟨-, -, rfl, rfl⟩ := h
    exact ⟨by decide, nofun⟩
  · simp only [Option.bind_eq_some_iff, Prod.exists] at h
    obtain ⟨t', offset', htime, h⟩ := h
    simp only [pure, Option.some.injEq, Prod.mk.injEq] at h
    obtain ⟨-, -, rfl, rfl⟩ := h
    exact bounds_readTime htime

theorem DateParts.check_eq_ok {parts : DateParts} {d : Date} (h : parts.check d = .ok ()) :
    d.check = .ok () := by
  cases parts with
  | day => exact h
  | week year week weekday =>
    rw [DateParts.check] at h
    split at h
    · cases h
    · exact h

end Iso

/-- **Whatever is read can be written and read back.** -/
theorem Moment.storable_of_read {t : Text} {m : Moment} (h : read t = .ok m) : m.Storable := by
  unfold read at h
  split at h
  · cases h
  next parts date time offset hparts =>
  obtain ⟨hmicro, hoffset⟩ := Iso.bounds_readParts hparts
  have hday : ∀ o, offset = some o → checkOffset o = .ok () := by
    rintro o rfl
    exact (bind_eq_ok_iff.mp h).choose_spec.1
  have hrest : (do parts.check date; time.check; pure ⟨date, time, offset⟩ : Except Fault Moment) =
      .ok m := by
    cases offset with
    | none => exact h
    | some o =>
      obtain ⟨_, -, h⟩ := bind_eq_ok_iff.mp h
      exact h
  obtain ⟨_, hdate, hrest⟩ := bind_eq_ok_iff.mp hrest
  obtain ⟨_, htime, hrest⟩ := bind_eq_ok_iff.mp hrest
  obtain rfl := Except.ok.inj hrest
  exact ⟨⟨Iso.DateParts.check_eq_ok hdate, htime, hmicro, hday⟩, hoffset⟩

end IssueDigest
