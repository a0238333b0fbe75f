import IssueDigest.Proofs.Endings
import IssueDigest.Proofs.Literals
/-!
# What is a key

`KeyReading` follows a key to its text and back. This module starts from the text: which texts are
read as a key at all, and what happens to the many spellings that the writer never uses. The texts
are those of two or three parts without an empty one, the third an integer (`Spelled`); every other
text is refused.

A text that is read need not be written as it was: escapes may be in small letters or of characters
that need none, a percent sign may stand alone, octets may make no character, and the integer may
have blanks, a sign, underscores and digits of any script. All of that is gone once the text is read:
the key has ids (`Percent.decode_ne_nil`: a part is never read as nothing) and a user id that can be
written, so its own text is a spelling of it.
-/

namespace IssueDigest

/-! ### No part is read as nothing -/

theorem Utf8.decodeLossy_eq_nil {bs : List UInt8} (h : decodeLossy bs = []) : bs = [] := by
  cases bs with
  | nil => rfl
  | cons b rest =>
    rw [decodeLossy, decodeLossyFrom] at h
    split at h <;> cases h

namespace Percent

theorem regroup_eq_nil {ps : List Piece} {waiting : List UInt8} (h : regroup waiting ps = []) :
    waiting = [] ∧ ps = [] := by
  induction ps generalizing waiting with
  | nil => exact ⟨List.reverse_eq_nil_iff.mp (Utf8.decodeLossy_eq_nil h), rfl⟩
  | cons p ps ih =>
    cases p with
    | octet b => exact absurd (ih h).1 (List.cons_ne_nil _ _)
    | wide c => exact absurd (List.append_eq_nil_iff.mp h).2 (List.cons_ne_nil _ _)

theorem pieces_eq_nil {cs : List Char} (h : pieces cs = []) : cs = [] := by
  unfold pieces at h
  split at h
  · split at h <;> cases h
  · cases h
  · rfl

/-- **What is there is read as something**, whatever its escapes and octets are. -/
theorem decode_ne_nil {cs : List Char} (h : cs ≠ []) : decode cs ≠ [] := by
  intro hdecode
  exact h (pieces_eq_nil (regroup_eq_nil hdecode).2)

end Percent

namespace IssueKey

/-- The parts between slashes are those of the list. -/
theorem splitSlash_eq_splitOn (cs : List Char) : splitSlash cs = cs.splitOn '/' := by
  induction cs with
  | nil => rfl
  | cons c cs ih =>
    rw [List.splitOn_eq_splitOnP, List.splitOnP_cons_eq_if_modifyHead, ← List.splitOn_eq_splitOnP,
      splitSlash, ih]
    by_cases hc : c = '/'
    · rw [if_pos hc, if_pos (by simpa using hc)]
    · rw [if_neg hc, if_neg (by simpa using hc)]
      cases hsplit : cs.splitOn '/' with
      | nil => exact absurd hsplit (List.splitOn_ne_nil _ _)
      | cons part parts => rfl

/-- May the text be read as a key? It has two or three parts between slashes, none of them is empty,
and a third one is an integer of few enough digits. -/
def Spelled (s : String) : Prop :=
  let parts := s.toList.splitOn '/'
  (parts.length = 2 ∨ parts.length = 3) ∧ (∀ part ∈ parts, part ≠ []) ∧
    ∀ user, parts[2]? = some user → ∃ negative ds,
      Numeral.Literal (Text.ofChars user) negative ds ∧ ds.length ≤ digitLimit

theorem id_ne_empty {part : List Char} (h : part ≠ []) :
    String.ofList (Percent.decode part) ≠ "" := by
  intro hempty
  exact Percent.decode_ne_nil h (String.ofList_eq_empty_iff.mp hempty)

/-- **Which texts are read**: those that are spelled as a key. -/
theorem exists_read_iff (s : String) : (∃ k, read s = .ok k) ↔ Spelled s := by
  simp only [Spelled, read, splitSlash_eq_splitOn]
  generalize s.toList.splitOn '/' = parts
  -- Texts of two and of three parts are read, texts of fewer or more are not.
  obtain _ | ⟨source, _ | ⟨issue, _ | ⟨user, _ | ⟨extra, parts⟩⟩⟩⟩ := parts
  · simp
  · simp
  · cases source <;> cases issue <;> simp
  · constructor
    · rintro ⟨k, hk⟩
      dsimp only at hk
      split at hk
      · cases hk
      next hparts =>
      obtain ⟨n, hn, -⟩ := map_eq_ok_iff.mp hk
      obtain ⟨negative, ds, hliteral, hlength, -⟩ := Numeral.read_eq_ok_iff.mp hn
      refine ⟨.inr rfl, ?_, ?_⟩
      · simpa [not_or, and_assoc] using hparts
      · rintro user' huser
        cases huser
        exact ⟨negative, ds, hliteral, hlength⟩
    · rintro ⟨-, hparts, huser⟩
      obtain ⟨negative, ds, hliteral, hlength⟩ := huser user rfl
      dsimp only
      rw [if_neg (by simpa [not_or, and_assoc] using hparts),
        Numeral.read_eq_ok_iff.mpr ⟨negative, ds, hliteral, hlength, rfl⟩]
      exact ⟨_, rfl⟩
  · simp

/-- **What is read**: a key with ids that can be written. -/
theorem of_read {s : String} {k : IssueKey} (h : read s = .ok k) :
    k.source ≠ "" ∧ k.issue ≠ "" ∧ k.Printable := by
  rw [read] at h
  dsimp only at h
  split at h
  · next source issue _ =>
    split at h
    · cases h
    next hparts =>
    obtain ⟨hsource, hissue⟩ : source ≠ [] ∧ issue ≠ [] := by simpa [not_or] using hparts
    obtain rfl := Except.ok.inj h
    exact ⟨id_ne_empty hsource, id_ne_empty hissue,
      Numeral.isWritable_of_natAbs_le_one (Nat.zero_le 1)⟩
  · next source issue user _ =>
    split at h
    · cases h
    next hparts =>
    obtain ⟨hsource, hissue, -⟩ : source ≠ [] ∧ issue ≠ [] ∧ user ≠ [] := by
      simpa [not_or, and_assoc] using hparts
    obtain ⟨n, hn, rfl⟩ := map_eq_ok_iff.mp h
    exact ⟨id_ne_empty hsource, id_ne_empty hissue, Numeral.isWritable_of_read hn⟩
  · cases h

/-- The text of a key with ids is a spelling of it. -/
theorem read_render_of_ids {k : IssueKey} (hsource : k.source ≠ "") (hissue : k.issue ≠ "")
    (hk : k.Printable) : read k.render = .ok k := by
  rw [read_render, if_neg (not_or.mpr ⟨hsource, hissue⟩), Numeral.read_decimal hk]
  rfl

/-- **The grammar of keys.** A text is read exactly if it is spelled as a key, and refused otherwise;
what is read is a key with both ids, whose own text is read as that key, however the text it came
from was spelled. -/
theorem read_grammar (s : String) :
    ((∃ k, read s = .ok k) ↔ Spelled s) ∧
      (∀ e, read s = .error e → ∃ reason, e = .refused reason) ∧
      ∀ k, read s = .ok k → k.source ≠ "" ∧ k.issue ≠ "" ∧
        ∃ text, k.write = .ok text ∧ read text = .ok k := by
  refine ⟨exists_read_iff s, onlyRefuses_read s, fun k hk => ?_⟩
  obtain ⟨hsource, hissue, hprintable⟩ := of_read hk
  exact ⟨hsource, hissue, k.render, write_of_printable hprintable,
    read_render_of_ids hsource hissue hprintable⟩

/-- A spelling far from the text of its key: a small letter in an escape, a percent sign that starts
none, an octet that is no character, and digits of another script behind a blank and a sign. -/
example : read "a%2fb/%zz%FF/ +٠_٧" = .ok ⟨"a/b", "%zz�", 7⟩ := by decide +kernel

end IssueKey

end IssueDigest
