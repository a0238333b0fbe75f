import IssueDigest.Json.Reader
import IssueDigest.Json.Writer
import IssueDigest.Proofs.Moments
import Mathlib.Tactic.IntervalCases
/-!
# Quoted texts read back

Where characters beyond ASCII stand as they are, a quoted text is built character by character:
`escaped` is what stands for one. The reader takes exactly that much of a page for the character, so
a text of any characters at all is read back up to its closing quote. Only halves are missing from
this; they have no octets, and nothing that holds one is ever written to a file.
-/

namespace IssueDigest.Json

/-! ### What is written -/

/-- What stands for a character inside quotes. -/
def escaped (c : Char) : List Char := (escape false (.char c)).filterMap CodePoint.char?

theorem filterMap_char?_ofChars (cs : List Char) :
    (Text.ofChars cs).filterMap CodePoint.char? = cs := by
  rw [Text.ofChars, List.filterMap_map]
  exact List.filterMap_some

theorem escapeUnit_eq (n : Nat) :
    escapeUnit n = Text.ofChars ('\\' :: 'u' :: Text.hexDigits 4 n) := rfl

/-- A character is escaped by a letter, by its number, or not at all. -/
theorem escape_cases (c : Char) :
    (∃ letter, escape false (.char c) = Text.ofChars ['\\', letter] ∧
        escapeLetter? letter = some c ∧ letter ≠ 'u' ∧ letter ≠ '\r') ∨
      (c.toNat < 32 ∧
        escape false (.char c) = Text.ofChars ('\\' :: 'u' :: Text.hexDigits 4 c.toNat)) ∨
      (32 ≤ c.toNat ∧ c ≠ '"' ∧ c ≠ '\\' ∧ escape false (.char c) = Text.ofChars [c]) := by
  simp only [escape, Bool.false_and, Bool.false_eq_true, if_false, CodePoint.char.injEq]
  split_ifs with h₁ h₂ h₃ h₄ h₅ h₆ h₇ h₈
  · exact .inl ⟨'"', rfl, congrArg some h₁.symm, by decide, by decide⟩
  · exact .inl ⟨'\\', rfl, congrArg some h₂.symm, by decide, by decide⟩
  · exact .inl ⟨'n', rfl, congrArg some h₃.symm, by decide, by decide⟩
  · exact .inl ⟨'r', rfl, congrArg some h₄.symm, by decide, by decide⟩
  · exact .inl ⟨'t', rfl, congrArg some h₅.symm, by decide, by decide⟩
  · obtain rfl : c = '\x0c' := Char.toNat_inj.mp h₆
    exact .inl ⟨'f', rfl, rfl, by decide, by decide⟩
  · obtain rfl : c = '\x08' := Char.toNat_inj.mp h₇
    exact .inl ⟨'b', rfl, rfl, by decide, by decide⟩
  · exact .inr (.inl ⟨h₈, escapeUnit_eq _⟩)
  · exact .inr (.inr ⟨Nat.not_lt.mp h₈, h₁, h₂, rfl⟩)

theorem escaped_of_escape {c : Char} {cs : List Char}
    (h : escape false (.char c) = Text.ofChars cs) : escaped c = cs := by
  rw [escaped, h, filterMap_char?_ofChars]

/-- Escapes hold no halves. -/
theorem escape_eq (c : Char) : escape false (.char c) = Text.ofChars (escaped c) := by
  obtain ⟨letter, h, -⟩ | ⟨-, h⟩ | ⟨-, -, -, h⟩ := escape_cases c
  all_goals rw [escaped_of_escape h, h]

/-- The characters of a quoted text. -/
def quoted (cs : List Char) : List Char := '"' :: cs.flatMap escaped ++ ['"']

theorem quote_eq (cs : List Char) : quote false (Text.ofChars cs) = Text.ofChars (quoted cs) := by
  have hbody : (Text.ofChars cs).flatMap (escape false) = Text.ofChars (cs.flatMap escaped) := by
    induction cs with
    | nil => rfl
    | cons c cs ih =>
      have hsplit : (Text.ofChars (c :: cs)).flatMap (escape false) =
          escape false (.char c) ++ (Text.ofChars cs).flatMap (escape false) := rfl
      rw [hsplit, ih, escape_eq, List.flatMap_cons, Text.ofChars, Text.ofChars, Text.ofChars,
        List.map_append]
  rw [quote, hbody, quoted]
  simp [Text.ofChars]

/-! ### What is read -/

/-- A unit below 32 is written with four digits, which are read back. -/
theorem hexUnit?_hexDigits {n : Nat} (h : n < 32) {rest : List Char} (hrest : rest ≠ []) :
    hexUnit? (Text.hexDigits 4 n ++ rest) = some n ∧ (Text.hexDigits 4 n).length = 4 := by
  obtain ⟨c, rest, rfl⟩ := List.exists_cons_of_ne_nil hrest
  interval_cases n <;> exact ⟨rfl, rfl⟩

theorem readText_skip (start : Nat) (front rest : List Char) :
    readText start front.length (front ++ rest) = readText start 0 rest := by
  induction front with
  | nil => rfl
  | cons c front ih => rw [List.length_cons, List.cons_append, readText, ih]

theorem codePoint_toNat (c : Char) : codePoint c.toNat = .char c := by
  have hvalid : c.toNat.isValidChar := c.valid
  rw [codePoint, CodePoint.ofNat?, dif_pos hvalid]
  rfl

/-- **One character reads back**, whatever follows it. -/
theorem readText_escaped (start : Nat) (c : Char) {rest : List Char} (hrest : rest ≠ []) :
    readText start 0 (escaped c ++ rest) = consRead (.char c) (readText start 0 rest) := by
  obtain ⟨letter, h, hletter, hunit, -⟩ | ⟨hn, h⟩ | ⟨hn, hquote, hslash, h⟩ := escape_cases c
  · rw [escaped_of_escape h, List.cons_append, List.cons_append, List.nil_append, readText, hletter]
    exact fun h => hunit h
  · obtain ⟨hunit, hlength⟩ := hexUnit?_hexDigits hn hrest
    have hskip : readText start 4 (Text.hexDigits 4 c.toNat ++ rest) = readText start 0 rest := by
      have hfront := readText_skip start (Text.hexDigits 4 c.toNat) rest
      rwa [hlength] at hfront
    rw [escaped_of_escape h, List.cons_append, List.cons_append, readText, hunit]
    dsimp only
    rw [if_neg (by simp; omega)]
    dsimp only
    rw [hskip, codePoint_toNat]
  · rw [escaped_of_escape h, List.cons_append, List.nil_append, readText, if_neg (by omega)]
    · exact fun h => hquote h
    · exact fun h => absurd h hslash
    · exact fun _ h => absurd h hslash
    · exact fun _ _ h => absurd h hslash

/-- **A text reads back** up to its closing quote. -/
theorem readText_quoted (cs : List Char) (start : Nat) (rest : List Char) :
    readText start 0 (cs.flatMap escaped ++ '"' :: rest) = .ok (Text.ofChars cs, rest) := by
  induction cs with
  | nil => rfl
  | cons c cs ih =>
    have hrest : cs.flatMap escaped ++ '"' :: rest ≠ [] := by simp
    rw [List.flatMap_cons, List.append_assoc, readText_escaped start c hrest, ih]
    rfl

/-! ### Line ends -/

/-- A carriage return is always escaped. -/
theorem return_notMem_escaped (c : Char) : '\r' ∉ escaped c := by
  obtain ⟨letter, h, -, -, hreturn⟩ | ⟨hn, h⟩ | ⟨hn, -, -, h⟩ := escape_cases c
  · rw [escaped_of_escape h]
    simp [Ne.symm hreturn]
  · rw [escaped_of_escape h]
    generalize c.toNat = n at hn
    interval_cases n <;> decide
  · rw [escaped_of_escape h, List.mem_singleton]
    rintro rfl
    exact absurd hn (by decide)

theorem return_notMem_quoted (cs : List Char) : '\r' ∉ quoted cs := by
  simp [quoted, return_notMem_escaped]

end IssueDigest.Json
