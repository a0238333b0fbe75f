import IssueDigest.Text.Utf8
import Mathlib.Data.List.Basic
/-!
# Octets read back

A scalar value is written as a lead octet and its followers, and reading recognises exactly that
character at the lead octet (`sign_encodeChar`). Everything else in this module is the walk over a
list: the followers are skipped, so that both readers, the strict and the lossy one, return what was
encoded.
-/

namespace IssueDigest.Utf8

theorem continues_iff {b : UInt8} : continues b = true ↔ 0x80 ≤ b.toNat ∧ b.toNat ≤ 0xBF := by
  simp [continues, UInt8.le_iff_toNat_le]

/-- Which octets may come second, in numbers. -/
theorem isSecond_iff {lead b : UInt8} :
    isSecond lead b = true ↔
      (0x80 ≤ b.toNat ∧ b.toNat ≤ 0xBF) ∧ (lead.toNat = 0xE0 → 0xA0 ≤ b.toNat) ∧
        (lead.toNat = 0xED → b.toNat ≤ 0x9F) ∧ (lead.toNat = 0xF0 → 0x90 ≤ b.toNat) ∧
        (lead.toNat = 0xF4 → b.toNat ≤ 0x8F) := by
  have hlead (n : UInt8) : (lead == n) = true ↔ lead.toNat = n.toNat := by
    rw [beq_iff_eq, UInt8.toNat_inj]
  simp only [isSecond, secondLimits, Bool.and_eq_true, decide_eq_true_eq, UInt8.le_iff_toNat_le]
  split
  · next h => rw [hlead] at h; simp_all; omega
  split
  · next h => rw [hlead] at h; simp_all; omega
  split
  · next h => rw [hlead] at h; simp_all; omega
  split
  · next h => rw [hlead] at h; simp_all; omega
  · next h₁ h₂ h₃ h₄ => rw [hlead] at h₁ h₂ h₃ h₄; simp_all

/-- A number that fits an octet is its octet's number. -/
theorem toNat_toUInt8 {n : Nat} (h : n < 256) : n.toUInt8.toNat = n := by
  simp [Nat.mod_eq_of_lt h]

/-- Scalar values leave out the surrogates. -/
theorem toNat_range (c : Char) : c.toNat < 0xD800 ∨ (0xDFFF < c.toNat ∧ c.toNat < 0x110000) :=
  c.valid

/-- **One character reads back**, whatever follows it. -/
theorem sign_encodeChar (c : Char) :
    ∃ lead tail, encodeChar c = lead :: tail ∧
      ∀ rest, sign lead (tail ++ rest) = .char c tail.length := by
  have hc := toNat_range c
  have hback {n : Nat} (h : n = c.toNat) : Char.ofNat n = c := by rw [h, Char.ofNat_toNat]
  unfold encodeChar
  by_cases h₁ : c.toNat < 0x80
  · refine ⟨_, _, if_pos h₁, fun rest => ?_⟩
    have hl := toNat_toUInt8 (n := c.toNat) (by omega)
    have hascii : c.toNat.toUInt8 < 0x80 := by rw [UInt8.lt_iff_toNat_lt, hl]; exact h₁
    unfold sign
    rw [if_pos hascii, hback hl, List.length_nil]
  by_cases h₂ : c.toNat < 0x800
  · refine ⟨_, _, (if_neg h₁).trans (if_pos h₂), fun rest => ?_⟩
    have hl := toNat_toUInt8 (n := 0xC0 + c.toNat / 0x40) (by omega)
    have hb := toNat_toUInt8 (n := 0x80 + c.toNat % 0x40) (by omega)
    generalize (0xC0 + c.toNat / 0x40).toUInt8 = lead at hl ⊢
    generalize (0x80 + c.toNat % 0x40).toUInt8 = b at hb ⊢
    simp only [sign, UInt8.lt_iff_toNat_lt, Bool.or_eq_true, decide_eq_true_eq, UInt8.reduceToNat,
      List.cons_append]
    rw [if_neg (by omega), if_neg (by omega), if_pos (by omega),
      if_pos (continues_iff.mpr (by omega)), hback (by rw [payload]; omega)]
    rfl
  by_cases h₃ : c.toNat < 0x10000
  · refine ⟨_, _, (if_neg h₁).trans ((if_neg h₂).trans (if_pos h₃)), fun rest => ?_⟩
    have hl := toNat_toUInt8 (n := 0xE0 + c.toNat / 0x1000) (by omega)
    have hb := toNat_toUInt8 (n := 0x80 + c.toNat / 0x40 % 0x40) (by omega)
    have hd := toNat_toUInt8 (n := 0x80 + c.toNat % 0x40) (by omega)
    generalize (0xE0 + c.toNat / 0x1000).toUInt8 = lead at hl ⊢
    generalize (0x80 + c.toNat / 0x40 % 0x40).toUInt8 = b at hb ⊢
    generalize (0x80 + c.toNat % 0x40).toUInt8 = d at hd ⊢
    simp only [sign, UInt8.lt_iff_toNat_lt, Bool.or_eq_true, decide_eq_true_eq, UInt8.reduceToNat,
      List.cons_append]
    have hsecond : isSecond lead b = true := isSecond_iff.mpr (by omega)
    have hthird : continues d = true := continues_iff.mpr (by omega)
    rw [if_neg (by omega), if_neg (by omega), if_neg (by omega), if_pos (by omega),
      if_neg (by simp [hsecond]), if_neg (by simp [hthird]),
      hback (by rw [payload, payload]; omega)]
    rfl
  · refine ⟨_, _, (if_neg h₁).trans ((if_neg h₂).trans (if_neg h₃)), fun rest => ?_⟩
    have hl := toNat_toUInt8 (n := 0xF0 + c.toNat / 0x40000) (by omega)
    have hb := toNat_toUInt8 (n := 0x80 + c.toNat / 0x1000 % 0x40) (by omega)
    have hd := toNat_toUInt8 (n := 0x80 + c.toNat / 0x40 % 0x40) (by omega)
    have he := toNat_toUInt8 (n := 0x80 + c.toNat % 0x40) (by omega)
    generalize (0xF0 + c.toNat / 0x40000).toUInt8 = lead at hl ⊢
    generalize (0x80 + c.toNat / 0x1000 % 0x40).toUInt8 = b at hb ⊢
    generalize (0x80 + c.toNat / 0x40 % 0x40).toUInt8 = d at hd ⊢
    generalize (0x80 + c.toNat % 0x40).toUInt8 = e at he ⊢
    simp only [sign, UInt8.lt_iff_toNat_lt, Bool.or_eq_true, decide_eq_true_eq, UInt8.reduceToNat,
      List.cons_append]
    have hsecond : isSecond lead b = true := isSecond_iff.mpr (by omega)
    have hthird : continues d = true := continues_iff.mpr (by omega)
    have hfourth : continues e = true := continues_iff.mpr (by omega)
    rw [if_neg (by omega), if_neg (by omega), if_neg (by omega), if_neg (by omega),
      if_neg (by simp [hsecond]), if_neg (by simp [hthird]), if_neg (by simp [hfourth]),
      hback (by rw [payload, payload, payload]; omega)]
    rfl

/-! ### The walk over a list -/

@[simp] theorem encode_nil : encode [] = [] := rfl

@[simp] theorem encode_cons (c : Char) (cs : List Char) :
    encode (c :: cs) = encodeChar c ++ encode cs := rfl

theorem decodeFrom_skip (done : List Char) (position : Nat) (tail rest : List UInt8) :
    decodeFrom done tail.length position (tail ++ rest) =
      decodeFrom done 0 (position + tail.length) rest := by
  induction tail generalizing position with
  | nil => rfl
  | cons b tail ih =>
    rw [List.length_cons, List.cons_append, decodeFrom, ih]
    congr 1
    omega

theorem decodeFrom_encode (cs : List Char) (done : List Char) (position : Nat) :
    decodeFrom done 0 position (encode cs) = .ok (done.reverse ++ cs) := by
  induction cs generalizing done position with
  | nil => simp [decodeFrom]
  | cons c cs ih =>
    obtain ⟨lead, tail, henc, hsign⟩ := sign_encodeChar c
    rw [encode_cons, henc, List.cons_append, decodeFrom, hsign]
    simp only
    rw [decodeFrom_skip, ih]
    simp

/-- **Encoded text reads back.** -/
theorem decode_encode (cs : List Char) : decode (encode cs) = .ok cs := decodeFrom_encode cs [] 0

theorem decodeLossyFrom_skip (tail rest : List UInt8) :
    decodeLossyFrom tail.length (tail ++ rest) = decodeLossyFrom 0 rest := by
  induction tail with
  | nil => rfl
  | cons b tail ih => rw [List.length_cons, List.cons_append, decodeLossyFrom, ih]

/-- Encoded text has no defects that the lossy reader could replace. -/
theorem decodeLossy_encode (cs : List Char) : decodeLossy (encode cs) = cs := by
  unfold decodeLossy
  induction cs with
  | nil => rfl
  | cons c cs ih =>
    obtain ⟨lead, tail, henc, hsign⟩ := sign_encodeChar c
    rw [encode_cons, henc, List.cons_append, decodeLossyFrom, hsign]
    simp only
    rw [decodeLossyFrom_skip, ih]

end IssueDigest.Utf8
