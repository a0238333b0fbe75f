import IssueDigest.Proofs.Digits
import IssueDigest.Proofs.Octets
/-!
# The text of an issue key

Stores that keep text know an issue by the written form of its key alone, so two keys must never
share one. The argument goes from the inside out: an octet's escape reads back (`pieces_encodeOctet`),
hence so does an escaped id (`decode_encode`); no escape holds a slash, hence the two slashes of a
key cut its text at the same places as its parts; and decimal forms differ (`decimal_injective`).
-/

namespace IssueDigest

/-- A separator that neither front holds cuts two equal texts at the same place. -/
theorem cut_inj {α : Type} {c : α} {xs xs' ys ys' : List α} (h : c ∉ xs) (h' : c ∉ xs')
    (heq : xs ++ c :: ys = xs' ++ c :: ys') : xs = xs' ∧ ys = ys' := by
  induction xs generalizing xs' with
  | nil =>
    cases xs' with
    | nil => exact ⟨rfl, (List.cons.inj heq).2⟩
    | cons x' xs' => exact absurd ((List.cons.inj heq).1 ▸ List.mem_cons_self) h'
  | cons x xs ih =>
    cases xs' with
    | nil => exact absurd ((List.cons.inj heq).1 ▸ List.mem_cons_self) h
    | cons x' xs' =>
      obtain ⟨rfl, htail⟩ := List.cons.inj heq
      obtain ⟨rfl, hys⟩ := ih (fun hm => h (List.mem_cons_of_mem _ hm))
        (fun hm => h' (List.mem_cons_of_mem _ hm)) htail
      exact ⟨rfl, hys⟩

namespace Percent

theorem toNat_ofNat_ascii {n : Nat} (h : n < 0x80) : (Char.ofNat n).toNat = n := by
  have hvalid : n.isValidChar := Or.inl (by omega)
  have hofNat : Char.ofNat n = Char.ofNatAux n hvalid := dif_pos hvalid
  rw [hofNat]
  rfl

/-- An octet that stands for itself is an ASCII character that starts no escape and ends no part. -/
theorem isUnreserved_bounds {b : UInt8} (h : isUnreserved b = true) :
    b.toNat < 0x80 ∧ Char.ofNat b.toNat ≠ '%' ∧ Char.ofNat b.toNat ≠ '/' := by
  simp only [isUnreserved, Bool.and_eq_true, decide_eq_true_eq, UInt8.lt_iff_toNat_lt] at h
  refine ⟨h.1, ?_, ?_⟩ <;> (intro hc; rw [hc] at h; exact absurd h.2 (by decide))

theorem hexValue?_hexDigit {n : Nat} (h : n < 16) : hexValue? (hexDigit n) = some n := by
  interval_cases n <;> rfl

theorem hexDigit_ne_slash {n : Nat} (h : n < 16) : hexDigit n ≠ '/' := by
  interval_cases n <;> decide

/-- **The escape of an octet reads back**, whatever follows it. -/
theorem pieces_encodeOctet (b : UInt8) (rest : List Char) :
    pieces (encodeOctet b ++ rest) = .octet b :: pieces rest := by
  unfold encodeOctet
  by_cases h : isUnreserved b = true
  · obtain ⟨hb, hpercent, -⟩ := isUnreserved_bounds h
    rw [if_pos h, List.singleton_append, pieces]
    · rw [Piece.plain, toNat_ofNat_ascii hb, if_pos hb]
      simp
    · intro _ _ _ hc _
      exact hpercent hc
  · have hb : b.toNat < 256 := b.toNat_lt
    have hhigh : hexValue? (hexDigit (b.toNat / 16)) = some (b.toNat / 16) :=
      hexValue?_hexDigit (by omega)
    have hlow : hexValue? (hexDigit (b.toNat % 16)) = some (b.toNat % 16) :=
      hexValue?_hexDigit (by omega)
    rw [if_neg h]
    simp only [List.cons_append, List.nil_append, pieces, hhigh, hlow]
    rw [Nat.div_add_mod']
    simp

theorem pieces_encodeOctets (bs : List UInt8) :
    pieces (bs.flatMap encodeOctet) = bs.map .octet := by
  induction bs with
  | nil => rfl
  | cons b bs ih => rw [List.flatMap_cons, pieces_encodeOctet, ih, List.map_cons]

theorem regroup_octets (waiting bs : List UInt8) :
    regroup waiting (bs.map .octet) = Utf8.decodeLossy (waiting.reverse ++ bs) := by
  induction bs generalizing waiting with
  | nil => simp [regroup]
  | cons b bs ih => simp [regroup, ih]

/-- **Escaped text reads back.** -/
theorem decode_encode (cs : List Char) : decode (encode cs) = cs := by
  rw [decode, encode, pieces_encodeOctets, regroup_octets]
  exact Utf8.decodeLossy_encode cs

theorem encode_injective : Function.Injective encode :=
  Function.LeftInverse.injective decode_encode

/-- Escaped text holds no slash. -/
theorem slash_notMem_encode (cs : List Char) : '/' ∉ encode cs := by
  intro h
  obtain ⟨b, -, hb⟩ := List.mem_flatMap.mp h
  unfold encodeOctet at hb
  by_cases hu : isUnreserved b = true
  · rw [if_pos hu] at hb
    exact (isUnreserved_bounds hu).2.2 (List.mem_singleton.mp hb).symm
  · have hb256 : b.toNat < 256 := b.toNat_lt
    rw [if_neg hu] at hb
    simp only [List.mem_cons, List.not_mem_nil, or_false] at hb
    rcases hb with hb | hb | hb
    · exact absurd hb (by decide)
    · exact hexDigit_ne_slash (by omega) hb.symm
    · exact hexDigit_ne_slash (Nat.mod_lt _ (by decide)) hb.symm

end Percent

namespace IssueKey

/-- Can the key be written? Only the user id can be too long for it. -/
def Printable (k : IssueKey) : Prop := Numeral.isWritable k.user = true

instance (k : IssueKey) : Decidable k.Printable := inferInstanceAs (Decidable (_ = true))

theorem write_of_printable {k : IssueKey} (h : k.Printable) : k.write = .ok k.render := if_pos h

theorem write_of_not_printable {k : IssueKey} (h : ¬k.Printable) :
    k.write = .error (.refused .integerUnwritable) := if_neg h

theorem eq_render_of_write {k : IssueKey} {text : String} (h : k.write = .ok text) :
    text = k.render := by
  unfold write at h
  split at h
  · exact (Except.ok.inj h).symm
  · cases h

/-- **Different keys have different texts.** -/
theorem render_injective : Function.Injective render := by
  intro a b h
  have hchars : a.chars = b.chars := String.ofList_injective h
  simp only [chars, List.append_assoc, List.cons_append] at hchars
  obtain ⟨hsource, hrest⟩ :=
    cut_inj (Percent.slash_notMem_encode _) (Percent.slash_notMem_encode _) hchars
  obtain ⟨hissue, huser⟩ :=
    cut_inj (Percent.slash_notMem_encode _) (Percent.slash_notMem_encode _) hrest
  obtain ⟨sourceA, issueA, userA⟩ := a
  obtain ⟨sourceB, issueB, userB⟩ := b
  obtain rfl : sourceA = sourceB := String.toList_injective (Percent.encode_injective hsource)
  obtain rfl : issueA = issueB := String.toList_injective (Percent.encode_injective hissue)
  obtain rfl : userA = userB := decimal_injective huser
  rfl

theorem ofString_render (k : IssueKey) : Text.ofString k.render = Text.ofChars k.chars := by
  rw [Text.ofString, render, String.toList_ofList]

/-- The texts that a file store goes by differ, too. -/
theorem text_injective : Function.Injective fun k : IssueKey => Text.ofString k.render := by
  intro a b h
  have hchars : a.render.toList = b.render.toList :=
    List.map_injective_iff.mpr (fun _ _ h => CodePoint.char.inj h) h
  exact render_injective (String.toList_injective hchars)

/-- So do the names on a server, whatever stands in front of them. -/
theorem name_injective (front : String) : Function.Injective fun k : IssueKey => front ++ k.render := by
  intro a b h
  have hchars := congrArg String.toList h
  simp only [String.toList_append, List.append_cancel_left_eq] at hchars
  exact render_injective (String.toList_injective hchars)

end IssueKey

end IssueDigest
