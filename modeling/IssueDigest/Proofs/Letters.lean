import IssueDigest.Proofs.KeyReading
import IssueDigest.Text.Case
/-!
# Plain letters and digits

The tables of capital and small letters cover all of the character database, and words and numbers make use
of little of it: a word that the library knows is made of plain letters, and a decimal form of plain digits
and a sign. Such a word may be given in letters of either case (`lower_of_letters`), and blanks and case have
no part in a decimal form (`trim_upper_ofInt`).
-/

namespace IssueDigest

theorem CodePoint.ofNat?_toNat (c : CodePoint) : ofNat? c.toNat = some c := by
  cases c with
  | char c =>
    have hvalid : c.toNat.isValidChar := c.valid
    rw [toNat, ofNat?, dif_pos hvalid]
    rfl
  | half offset =>
    have hlow : 0xD800 ≤ 0xD800 + offset.val := by omega
    have hinvalid : ¬ (0xD800 + offset.val).isValidChar := by
      rw [Nat.isValidChar]
      omega
    rw [toNat, ofNat?, dif_neg hinvalid, if_pos hlow]
    simp

namespace Text

/-! ### Words -/

/-- Are the letters the same, but that the first may be a capital? The second one is a small letter. -/
def SameLetter (c d : CodePoint) : Prop :=
  97 ≤ d.toNat ∧ d.toNat ≤ 122 ∧ (c.toNat = d.toNat ∨ c.toNat + 32 = d.toNat)

instance : DecidableRel SameLetter := fun c d =>
  inferInstanceAs (Decidable
    (97 ≤ d.toNat ∧ d.toNat ≤ 122 ∧ (c.toNat = d.toNat ∨ c.toNat + 32 = d.toNat)))

theorem mapCase_of_sameLetter {c d : CodePoint} (h : SameLetter c d) :
    mapCase lowerRuns lowerExpansions c.toNat = [d.toNat] := by
  obtain ⟨hlow, hhigh, hsame⟩ := h
  have hsmall : ∀ k ∈ List.range 26, mapCase lowerRuns lowerExpansions (97 + k) = [97 + k] := by
    decide +kernel
  have hcapital : ∀ k ∈ List.range 26, mapCase lowerRuns lowerExpansions (65 + k) = [97 + k] := by
    decide +kernel
  have hmem : d.toNat - 97 ∈ List.range 26 := List.mem_range.mpr (by omega)
  have hd : 97 + (d.toNat - 97) = d.toNat := by omega
  obtain hc | hc := hsame
  · have hmap := hsmall _ hmem
    rw [hd] at hmap
    rw [hc, hmap]
  · have hmap := hcapital _ hmem
    rwa [hd, show 65 + (d.toNat - 97) = c.toNat by omega] at hmap

theorem lowerAfter_of_letters {name word : Text} (before : Text)
    (h : List.Forall₂ SameLetter name word) : lowerAfter before name = word := by
  induction h generalizing before with
  | nil => rfl
  | @cons c d name word hletter _ ih =>
    have hsigma : (c.toNat == 0x3A3) = false := by
      obtain ⟨hlow, hhigh, hsame⟩ := hletter
      rw [beq_eq_false_iff_ne]
      omega
    rw [lowerAfter, hsigma, ih, mapCase_of_sameLetter hletter]
    simp [CodePoint.ofNat?_toNat]

/-- **Letters of either case** become small ones. -/
theorem lower_of_letters {name word : Text} (h : List.Forall₂ SameLetter name word) :
    name.lower = word :=
  lowerAfter_of_letters [] h

/-! ### Numbers -/

theorem trimBoth_of_forall {test : CodePoint → Bool} {t : Text} (h : ∀ c ∈ t, test c = false) :
    t.trimBoth test = t := by
  have hdrop {t : Text} (h : ∀ c ∈ t, test c = false) : t.dropWhile test = t :=
    List.dropWhile_eq_self_iff.mpr fun hlength => by
      rw [h _ (List.getElem_mem hlength)]
      exact Bool.false_ne_true
  rw [trimBoth, hdrop h, hdrop fun c hc => h c (List.mem_reverse.mp hc), List.reverse_reverse]

theorem upper_of_forall {t : Text}
    (h : ∀ c ∈ t, mapCase upperRuns upperExpansions c.toNat = [c.toNat]) : t.upper = t := by
  induction t with
  | nil => rfl
  | cons c t ih =>
    rw [upper, List.flatMap_cons, h c List.mem_cons_self, ← upper,
      ih fun d hd => h d (List.mem_cons_of_mem _ hd)]
    simp [CodePoint.ofNat?_toNat]

/-- The code points of the digits. -/
def digitCodes : List Nat := List.range' 48 10

theorem mem_digitCodes {c : Char} (h : c.isDigit = true) : c.toNat ∈ digitCodes := by
  simp only [Char.isDigit, Bool.and_eq_true, decide_eq_true_eq, UInt32.le_iff_toNat_le] at h
  have hlow : 48 ≤ c.toNat := h.1
  have hhigh : c.toNat ≤ 57 := h.2
  exact List.mem_range'_1.mpr ⟨hlow, by omega⟩

/-- A decimal form is made of a sign and digits. -/
theorem toNat_of_mem_ofInt {n : Int} {c : CodePoint} (h : c ∈ ofInt n) :
    c.toNat ∈ 45 :: digitCodes := by
  rw [IssueKey.ofInt_eq_decimal] at h
  obtain ⟨c, hc, rfl⟩ := List.mem_map.mp h
  obtain hdigit | rfl := IssueKey.isDigit_of_mem_decimal hc
  · exact List.mem_cons_of_mem _ (mem_digitCodes hdigit)
  · exact List.mem_cons_self

/-- **Blanks and case have no part in a decimal form.** -/
theorem trim_upper_ofInt (n : Int) : (ofInt n).trim.upper = ofInt n := by
  have hblank : ∀ k ∈ 45 :: digitCodes, inRanges blankRanges k = false := by decide +kernel
  have hupper : ∀ k ∈ 45 :: digitCodes, mapCase upperRuns upperExpansions k = [k] := by
    decide +kernel
  have htrim : (ofInt n).trim = ofInt n :=
    trimBoth_of_forall fun c hc => hblank _ (toNat_of_mem_ofInt hc)
  rw [htrim, upper_of_forall fun c hc => hupper _ (toNat_of_mem_ofInt hc)]

/-- A word that begins with a letter is no decimal form. -/
theorem ne_ofInt {word : Text}
    (h : (word.head?.any fun c => decide (c.toNat ∉ 45 :: digitCodes)) = true) (n : Int) :
    word ≠ ofInt n := by
  rintro rfl
  cases hform : ofInt n with
  | nil =>
    rw [hform] at h
    cases h
  | cons c rest =>
    rw [hform] at h
    exact of_decide_eq_true h (toNat_of_mem_ofInt (hform ▸ List.mem_cons_self))

/-- Only a decimal form without a sign is made of digits alone. -/
theorem isNumeric_ofInt (n : Int) : (ofInt n).isNumeric = decide (0 ≤ n) := by
  cases n with
  | negSucc n =>
    have hminus : CodePoint.isDigit (.char '-') = false := by decide +kernel
    rw [decide_eq_false (by omega), ofInt, isNumeric, List.all_cons, hminus, Bool.false_and,
      Bool.and_false]
  | ofNat n =>
    have hdigits : ∀ k ∈ digitCodes, inRanges digitRanges k = true := by decide +kernel
    have hall : ∀ c ∈ ofNat n, c.isDigit = true := by
      intro c hc
      obtain ⟨d, hd, rfl⟩ := List.mem_map.mp hc
      exact hdigits _ (mem_digitCodes (Numeral.isDigit_of_mem_toDigits hd))
    have hempty : (ofNat n).isEmpty = false := by
      rw [List.isEmpty_eq_false_iff, ofNat, ofChars, Ne, List.map_eq_nil_iff]
      exact Nat.toDigits_ne_nil
    rw [decide_eq_true (by simp), ofInt, isNumeric, hempty, List.all_eq_true.mpr hall]
    rfl

end Text

end IssueDigest
