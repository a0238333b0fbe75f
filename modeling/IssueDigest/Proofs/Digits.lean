import IssueDigest.Calendar.Iso
import IssueDigest.Issue.Key
import IssueDigest.Number.Numeral
import Mathlib.Data.List.TakeWhile
import Mathlib.Tactic.IntervalCases
import Mathlib.Tactic.Ring
/-!
# Decimal digits

What is written in decimal reads back: the digits of a natural number stand for it, with zeros in
front or without, and `Iso.digits?` takes exactly the digits that `Iso.padded` writes. The decimal
form of an integer determines the integer.

The limit on digits holds both ways: an integer short enough to be written has at most `digitLimit`
digits, and what is read from a text or cut from a float is short enough to be written again.
-/

namespace IssueDigest

namespace Numeral

theorem value_append (base n : Nat) (xs ys : List Char) :
    value base n (xs ++ ys) = value base (value base n xs) ys := by
  induction xs generalizing n with
  | nil => rfl
  | cons c xs ih => exact ih _

theorem digitValue?_digitChar {d : Nat} (h : d < 10) : digitValue? d.digitChar = some d := by
  interval_cases d <;> rfl

/-- **The digits of a number stand for it.** -/
theorem value_toDigits (n : Nat) : value 10 0 (Nat.toDigits 10 n) = n := by
  induction n using Nat.strongRecOn with
  | ind n ih =>
    rw [Nat.toDigits_eq_if (by decide)]
    by_cases h : n < 10
    · rw [if_pos h, value, digitValue?_digitChar h]
      simp [value]
    · rw [if_neg h, value_append, ih (n / 10) (by omega), value,
        digitValue?_digitChar (Nat.mod_lt _ (by decide)), value, Option.getD_some]
      omega

theorem toDigits_injective : Function.Injective (Nat.toDigits 10) := fun m n h => by
  rw [← value_toDigits m, h, value_toDigits]

/-- Digits with zeros in front stand for the same number. -/
theorem value_replicate_zero (k : Nat) : value 10 0 (List.replicate k '0') = 0 := by
  induction k with
  | zero => rfl
  | succ k ih => simpa [List.replicate_succ, value, digitValue?] using ih

theorem isDigit_of_mem_toDigits {n : Nat} {c : Char} (h : c ∈ Nat.toDigits 10 n) :
    c.isDigit = true :=
  Nat.isDigit_of_mem_toDigits (by decide) (by decide) h

/-- Only zero is written with a zero in front. -/
theorem eq_zero_of_toDigits_eq_zero_cons {n : Nat} {cs : List Char}
    (h : Nat.toDigits 10 n = '0' :: cs) : n = 0 := by
  induction n using Nat.strongRecOn generalizing cs with
  | ind n ih =>
    rw [Nat.toDigits_eq_if (by decide)] at h
    by_cases hn : n < 10
    · rw [if_pos hn] at h
      have hd : digitValue? n.digitChar = some 0 := by rw [(List.cons.inj h).1]; rfl
      rw [digitValue?_digitChar hn] at hd
      exact Option.some.inj hd
    · rw [if_neg hn] at h
      obtain ⟨ds, hds⟩ : ∃ ds, Nat.toDigits 10 (n / 10) = '0' :: ds := by
        cases hq : Nat.toDigits 10 (n / 10) with
        | nil => exact absurd hq Nat.toDigits_ne_nil
        | cons d ds => exact ⟨ds, by simp_all⟩
      have := ih (n / 10) (by omega) hds
      omega

theorem isWritable_iff {n : Int} : isWritable n = true ↔ n.natAbs < 10 ^ digitLimit := by
  rw [isWritable, decide_eq_true_eq, Nat.pow_eq]

theorem eq_ofInt_of_write {n : Int} {t : Text} (h : write n = .ok t) : t = Text.ofInt n := by
  unfold write at h
  split at h
  · exact (Except.ok.inj h).symm
  · cases h

theorem isWritable_of_natAbs_le_one {n : Int} (h : n.natAbs ≤ 1) : isWritable n = true :=
  isWritable_iff.mpr (Nat.lt_of_le_of_lt h (Nat.one_lt_pow (by decide) (by decide)))

/-- An integer short enough to be written has few enough digits to be read. -/
theorem length_toDigits_natAbs_le {n : Int} (h : isWritable n = true) :
    (Nat.toDigits 10 n.natAbs).length ≤ digitLimit :=
  (Nat.length_toDigits_le_iff (by decide) (by decide)).mpr (isWritable_iff.mp h)

/-- So many digits make a number below that power of the base. -/
theorem value_lt {base : Nat} {cs : List Char} (h : ∀ c ∈ cs, isDigitOf base c = true) (n : Nat) :
    value base n cs < (n + 1) * base ^ cs.length := by
  induction cs generalizing n with
  | nil => simp [value]
  | cons c cs ih =>
    have hc := h c List.mem_cons_self
    have hlt := ih (fun d hd => h d (List.mem_cons_of_mem _ hd)) (n * base + (digitValue? c).getD 0)
    have hdigit : (digitValue? c).getD 0 < base := by
      unfold isDigitOf at hc
      split at hc
      · next d hd => rw [hd]; exact of_decide_eq_true hc
      · cases hc
    calc value base n (c :: cs)
        < (n * base + (digitValue? c).getD 0 + 1) * base ^ cs.length := hlt
      _ ≤ ((n + 1) * base) * base ^ cs.length := by
        refine Nat.mul_le_mul_right _ ?_
        rw [Nat.succ_mul]
        omega
      _ = (n + 1) * base ^ (c :: cs).length := by rw [List.length_cons, Nat.pow_succ]; ring

theorem isDigitOf_of_isDigit {c : Char} (h : c.isDigit = true) : isDigitOf 10 c = true := by
  have hvalue : digitValue? c = some (c.toNat - 48) := by rw [digitValue?, if_pos h]
  rw [isDigitOf, hvalue, decide_eq_true_eq]
  simp only [Char.isDigit, Bool.and_eq_true, decide_eq_true_eq, UInt32.le_iff_toNat_le] at h
  have : c.toNat ≤ 57 := h.2
  omega

theorem isWritable_of_digits {cs : List Char} (h : ∀ c ∈ cs, isDigitOf 10 c = true)
    (hlength : cs.length ≤ digitLimit) (negative : Bool) :
    isWritable (if negative then -(value 10 0 cs : Int) else value 10 0 cs) = true := by
  rw [isWritable_iff]
  calc (if negative then -(value 10 0 cs : Int) else value 10 0 cs).natAbs
      = value 10 0 cs := by split <;> simp
    _ < (0 + 1) * 10 ^ cs.length := value_lt h 0
    _ ≤ 10 ^ digitLimit := by
      rw [Nat.one_mul]
      exact Nat.pow_le_pow_right (by decide) hlength

/-- An integer that is read in decimal can be written. -/
theorem isWritable_of_read {t : Text} {n : Int} (h : read t = .ok n) : isWritable n = true := by
  simp only [read, readIn, readPlain] at h
  split at h
  · cases h
  split at h
  · cases h
  next hlength =>
  split at h
  · cases h
  rw [← Except.ok.inj h]
  refine isWritable_of_digits (fun c hc => ?_) (by simpa using hlength) _
  obtain ⟨hrun, hunderscore⟩ := List.mem_filter.mp hc
  have := List.mem_takeWhile_imp hrun
  simp_all

end Numeral

namespace Binary

theorem truncate_lt {b : Binary} {k : Nat} (hs : b.significand < 2 ^ 53) (hx : b.exponent ≤ k) :
    b.truncate < 2 ^ (53 + k) := by
  unfold truncate
  split
  · calc b.significand * Nat.pow 2 b.exponent.toNat
        < 2 ^ 53 * 2 ^ b.exponent.toNat := Nat.mul_lt_mul_of_pos_right hs (Nat.two_pow_pos _)
      _ ≤ 2 ^ 53 * 2 ^ k := Nat.mul_le_mul_left _ (Nat.pow_le_pow_right (by decide) (by omega))
      _ = 2 ^ (53 + k) := (Nat.pow_add 2 53 k).symm
  · calc b.significand / Nat.pow 2 (-b.exponent).toNat ≤ b.significand := Nat.div_le_self _ _
      _ < 2 ^ 53 := hs
      _ ≤ 2 ^ (53 + k) := Nat.pow_le_pow_right (by decide) (Nat.le_add_right _ _)

theorem significand_ofBits_lt (bits : UInt64) : (ofBits bits).significand < 2 ^ 53 := by
  have hf : (bits &&& 0xFFFFFFFFFFFFF).toNat < 2 ^ 52 := by
    rw [UInt64.toNat_and]
    exact Nat.lt_of_le_of_lt Nat.and_le_right (by decide)
  unfold ofBits
  dsimp only
  split
  · dsimp only; omega
  · dsimp only [Nat.pow_eq]; omega

theorem exponent_ofBits_le (bits : UInt64) : (ofBits bits).exponent ≤ (972 : Nat) := by
  have he : ((bits >>> 52) &&& 0x7FF).toNat ≤ 2047 := by
    rw [UInt64.toNat_and]
    exact Nat.and_le_right
  unfold ofBits
  dsimp only
  split <;> dsimp only <;> omega

end Binary

/-- A float is cut to an integer that can be written. -/
theorem Numeral.isWritable_of_ofFloat {x : Float} {n : Int} (h : ofFloat x = .ok n) :
    isWritable n = true := by
  unfold ofFloat at h
  split at h
  · cases h
  · cases h
  next negative b hclass =>
  obtain rfl : b = Binary.ofFloat x := by
    unfold FloatClass.of at hclass
    dsimp only at hclass
    split at hclass
    · cases hclass
    · split at hclass
      · cases hclass
      · exact (FloatClass.finite.inj hclass).2.symm
  rw [← Except.ok.inj h, isWritable_iff]
  have htruncate := Binary.truncate_lt (Binary.significand_ofBits_lt x.toBits)
    (Binary.exponent_ofBits_le x.toBits)
  have hlimit : 53 + 972 ≤ digitLimit := by decide
  generalize 53 + 972 = k at htruncate hlimit
  calc (if negative then -((Binary.ofFloat x).truncate : Int)
        else (Binary.ofFloat x).truncate).natAbs
      = (Binary.ofFloat x).truncate := by split <;> simp
    _ < 2 ^ k := htruncate
    _ ≤ 10 ^ k := Nat.pow_le_pow_left (by decide) _
    _ ≤ 10 ^ digitLimit := Nat.pow_le_pow_right (by decide) hlimit

namespace IssueKey

theorem decimal_ofNat (n : Nat) : decimal n = Nat.toDigits 10 n := rfl

theorem ofInt_eq_decimal (n : Int) : Text.ofInt n = Text.ofChars (decimal n) := by
  cases n <;> rfl

theorem decimal_of_neg {n : Int} (h : n < 0) : decimal n = '-' :: Nat.toDigits 10 n.natAbs := by
  cases n with
  | ofNat n => exact absurd h (by simp)
  | negSucc n => rfl

/-- A sign is no digit, so the decimal form starts with one only if the integer is negative. -/
theorem toDigits_ne_minus_cons (n : Nat) (cs : List Char) : Nat.toDigits 10 n ≠ '-' :: cs := by
  intro h
  have := Numeral.isDigit_of_mem_toDigits (h ▸ List.mem_cons_self : '-' ∈ Nat.toDigits 10 n)
  exact absurd this (by decide)

theorem decimal_injective : Function.Injective decimal := by
  intro m n h
  cases m with
  | ofNat m =>
    cases n with
    | ofNat n => exact congrArg Int.ofNat (Numeral.toDigits_injective h)
    | negSucc n => exact absurd h (toDigits_ne_minus_cons m _)
  | negSucc m =>
    cases n with
    | ofNat n => exact absurd h.symm (toDigits_ne_minus_cons n _)
    | negSucc n =>
      have := Numeral.toDigits_injective (List.cons.inj h).2
      exact congrArg Int.negSucc (by omega)

end IssueKey

namespace Iso

open Numeral

theorem isDigit_of_mem_padded {width n : Nat} {c : Char} (h : c ∈ padded width n) :
    c.isDigit = true := by
  rcases List.mem_append.mp h with h | h
  · rw [List.eq_of_mem_replicate h]; rfl
  · exact isDigit_of_mem_toDigits h

theorem length_padded {width n : Nat} (hw : 0 < width) (hn : n < 10 ^ width) :
    (padded width n).length = width := by
  have := (Nat.length_toDigits_le_iff (by decide) hw).mpr hn
  simp only [padded, List.length_append, List.length_replicate]
  omega

theorem value_padded (width n : Nat) : value 10 0 (padded width n) = n := by
  rw [padded, value_append, value_replicate_zero, value_toDigits]

/-- `digits?` takes a run of digits and leaves what follows it. -/
theorem digits?_append {ds : List Char} (hds : ∀ c ∈ ds, c.isDigit = true) (n : Nat)
    (rest : List Char) : digits? ds.length n (ds ++ rest) = some (value 10 n ds, rest) := by
  induction ds generalizing n with
  | nil => rfl
  | cons d ds ih =>
    have hd : d.isDigit = true := hds d List.mem_cons_self
    rw [List.length_cons, List.cons_append, digits?, if_pos hd,
      ih (fun c hc => hds c (List.mem_cons_of_mem _ hc)), value, digitValue?, if_pos hd,
      Option.getD_some]

/-- **Fixed-width numbers read back**, whatever follows them. -/
theorem digits?_padded {width n : Nat} (hw : 0 < width) (hn : n < 10 ^ width)
    (rest : List Char) : digits? width 0 (padded width n ++ rest) = some (n, rest) := by
  have hdigits : ∀ c ∈ padded width n, c.isDigit = true := fun _ => isDigit_of_mem_padded
  have h := digits?_append hdigits 0 rest
  rwa [length_padded hw hn, value_padded] at h

end Iso

end IssueDigest
