import IssueDigest.Proofs.KeyText
/-!
# Issue keys read back

`KeyText` shows that two keys never share a text; here the text is read again. The parts come apart
at the two slashes (`splitSlash_chars`), the escaped ids read back by `Percent.decode_encode`, and
the user id by `Numeral.read_decimal`: a decimal form is a sign and a run of digits, so none of what
else the reader of integers takes (blanks, underscores, digits of other scripts) is met.

The one thing that is written and not read is a key with an empty id: its part of the text is empty,
and the reader refuses empty parts.
-/

namespace IssueDigest

namespace Numeral

theorem map_plain_ofChars {cs : List Char} (h : ∀ c ∈ cs, c.toNat < 127) :
    (Text.ofChars cs).map plain = cs := by
  rw [Text.ofChars, List.map_map]
  refine (List.map_congr_left fun c hc => ?_).trans (List.map_id cs)
  rw [Function.comp_apply, plain, CodePoint.toNat, if_pos (h c hc), Char.ofNat_toNat, id]

theorem dropMark_ten (cs : List Char) : dropMark 10 cs = cs := by
  unfold dropMark
  split <;> simp

theorem hasLooseUnderscore_of_notMem {cs : List Char} (h : '_' ∉ cs) (after : Bool) :
    hasLooseUnderscore after cs = (cs.isEmpty && after) := by
  induction cs generalizing after with
  | nil => rfl
  | cons c cs ih =>
    obtain ⟨hc, hcs⟩ := not_or.mp (List.mem_cons.not.mp h)
    have hc' : (c == '_') = false := beq_eq_false_iff_ne.mpr (Ne.symm hc)
    rw [hasLooseUnderscore, hc', ih hcs, List.isEmpty_cons]
    simp

/-- What a digit is not: a blank, a sign or an underscore. -/
theorem isDigit_bounds {c : Char} (h : c.isDigit = true) :
    isMargin c = false ∧ c ≠ '-' ∧ c ≠ '+' ∧ c ≠ '_' := by
  refine ⟨?_, ?_, ?_, ?_⟩
  · rw [isMargin, Bool.or_eq_false_iff]
    simp only [Char.isDigit, Bool.and_eq_true, decide_eq_true_eq, UInt32.le_iff_toNat_le] at h
    have hlow : 48 ≤ c.toNat := h.1
    refine ⟨?_, beq_eq_false_iff_ne.mpr ?_⟩
    · simp only [Bool.and_eq_false_iff, decide_eq_false_iff_not]
      omega
    · rintro rfl
      exact absurd hlow (by decide)
  all_goals
    rintro rfl
    exact absurd h (by decide)

section Signed

variable {ds : List Char} (hne : ds ≠ []) (hds : ∀ c ∈ ds, c.isDigit = true)
include hne hds

theorem splitSign_signed (negative : Bool) :
    splitSign (((if negative then ['-'] else []) ++ ds).dropWhile isMargin) = (negative, ds) := by
  obtain ⟨d, ds, rfl⟩ := List.exists_cons_of_ne_nil hne
  obtain ⟨hmargin, hminus, hplus, -⟩ := isDigit_bounds (hds d List.mem_cons_self)
  cases negative with
  | true => rfl
  | false =>
    have hdrop : ([] ++ d :: ds : List Char).dropWhile isMargin = d :: ds :=
      List.dropWhile_cons_of_neg (by rw [hmargin]; exact Bool.false_ne_true)
    simp only [Bool.false_eq_true, if_false, hdrop]
    unfold splitSign
    split
    · next h => exact absurd (List.cons.inj h).1 hminus
    · next h => exact absurd (List.cons.inj h).1 hplus
    · rfl

/-- **A sign and digits are read**, if they are not too many. -/
theorem readPlain_signed (shown : Text) (negative : Bool) :
    readPlain 10 shown ((if negative then ['-'] else []) ++ ds) =
      if digitLimit < ds.length then .error (.refused (.integerTooLong ds.length))
      else .ok (if negative then -(value 10 0 ds : Int) else value 10 0 ds) := by
  have hunderscore : '_' ∉ ds := fun h => (isDigit_bounds (hds _ h)).2.2.2 rfl
  have hall : ∀ c ∈ ds, (isDigitOf 10 c || c == '_') = true := fun c hc => by
    rw [isDigitOf_of_isDigit (hds c hc), Bool.true_or]
  have htake : (ds.takeWhile fun c => isDigitOf 10 c || c == '_') = ds :=
    List.takeWhile_eq_self_iff.mpr hall
  have hdrop : (ds.dropWhile fun c => isDigitOf 10 c || c == '_') = [] :=
    List.dropWhile_eq_nil_iff.mpr hall
  have hfilter : ds.filter (· != '_') = ds :=
    List.filter_eq_self.mpr fun c hc => bne_iff_ne.mpr (isDigit_bounds (hds c hc)).2.2.2
  have hempty : ds.isEmpty = false := List.isEmpty_eq_false_iff.mpr hne
  simp only [readPlain, splitSign_signed hne hds, dropMark_ten, htake, hdrop, hfilter, hempty,
    hasLooseUnderscore_of_notMem hunderscore]
  rw [if_neg (by decide)]
  simp

end Signed

end Numeral

namespace IssueKey

theorem decimal_eq_signed (n : Int) :
    decimal n = (if decide (n < 0) then ['-'] else []) ++ Nat.toDigits 10 n.natAbs := by
  by_cases h : n < 0
  · rw [decimal_of_neg h, if_pos (decide_eq_true h), List.singleton_append]
  · obtain ⟨m, rfl⟩ := Int.eq_ofNat_of_zero_le (not_lt.mp h)
    rw [decimal_ofNat, if_neg (by simp), List.nil_append, Int.natAbs_natCast]

/-- The decimal form is made of digits and perhaps a minus sign. -/
theorem isDigit_of_mem_decimal {n : Int} {c : Char} (h : c ∈ decimal n) :
    c.isDigit = true ∨ c = '-' := by
  rw [decimal_eq_signed] at h
  rcases List.mem_append.mp h with h | h
  · split at h
    · exact .inr (List.mem_singleton.mp h)
    · cases h
  · exact .inl (Numeral.isDigit_of_mem_toDigits h)

theorem decimal_bounds {n : Int} {c : Char} (h : c ∈ decimal n) : c.toNat < 127 ∧ c ≠ '/' := by
  rcases isDigit_of_mem_decimal h with h | rfl
  · refine ⟨?_, fun hc => absurd (hc ▸ h) (by decide)⟩
    simp only [Char.isDigit, Bool.and_eq_true, decide_eq_true_eq, UInt32.le_iff_toNat_le] at h
    exact Nat.lt_of_le_of_lt h.2 (by decide)
  · exact ⟨by decide, by decide⟩

theorem decimal_ne_nil (n : Int) : decimal n ≠ [] := by
  rw [decimal_eq_signed]
  exact List.append_ne_nil_of_right_ne_nil _ Nat.toDigits_ne_nil

end IssueKey

/-- An integer is its size with its sign. -/
theorem Numeral.signed_natAbs (n : Int) :
    (if decide (n < 0) then -(n.natAbs : Int) else n.natAbs) = n := by
  by_cases h : n < 0
  · rw [if_pos (decide_eq_true h)]
    omega
  · rw [if_neg (by simpa using h)]
    omega

/-- **The decimal form of an integer reads back**, if it is short enough to be written. -/
theorem Numeral.read_decimal {n : Int} (h : isWritable n = true) :
    read (Text.ofChars (IssueKey.decimal n)) = .ok n := by
  rw [read, readIn, map_plain_ofChars fun c hc => (IssueKey.decimal_bounds hc).1,
    IssueKey.decimal_eq_signed,
    readPlain_signed Nat.toDigits_ne_nil (fun _ => isDigit_of_mem_toDigits),
    if_neg (Nat.not_lt.mpr (length_toDigits_natAbs_le h)), value_toDigits, signed_natAbs]

/-- A longer one is refused for its length. -/
theorem Numeral.read_decimal_of_long {n : Int} (h : isWritable n = false) :
    read (Text.ofChars (IssueKey.decimal n)) =
      .error (.refused (.integerTooLong (Nat.toDigits 10 n.natAbs).length)) := by
  have hlong : digitLimit < (Nat.toDigits 10 n.natAbs).length := by
    rw [← Bool.not_eq_true, isWritable_iff] at h
    exact Nat.lt_of_not_le fun hlength =>
      h ((Nat.length_toDigits_le_iff (by decide) (by decide)).mp hlength)
  rw [read, readIn, map_plain_ofChars fun c hc => (IssueKey.decimal_bounds hc).1,
    IssueKey.decimal_eq_signed,
    readPlain_signed Nat.toDigits_ne_nil (fun _ => isDigit_of_mem_toDigits), if_pos hlong]

namespace Percent

theorem hexDigit_lt {n : Nat} (h : n < 16) : (hexDigit n).toNat < 0x80 := by
  interval_cases n <;> decide

/-- Escaped text is ASCII. -/
theorem encode_lt {cs : List Char} {c : Char} (h : c ∈ encode cs) : c.toNat < 0x80 := by
  obtain ⟨b, -, hb⟩ := List.mem_flatMap.mp h
  unfold encodeOctet at hb
  by_cases hu : isUnreserved b = true
  · rw [if_pos hu, List.mem_singleton] at hb
    have hbound := (isUnreserved_bounds hu).1
    rwa [hb, toNat_ofNat_ascii hbound]
  · have hb256 : b.toNat < 256 := b.toNat_lt
    rw [if_neg hu] at hb
    simp only [List.mem_cons, List.not_mem_nil, or_false] at hb
    rcases hb with rfl | rfl | rfl
    · decide
    · exact hexDigit_lt (by omega)
    · exact hexDigit_lt (Nat.mod_lt _ (by decide))

/-- Only the empty text is escaped to nothing. -/
theorem encode_isEmpty (s : String) : (encode s.toList).isEmpty = true ↔ s = "" := by
  have hnil : encode [] = [] := rfl
  rw [List.isEmpty_iff]
  constructor
  · intro h
    exact String.toList_injective (encode_injective (h.trans hnil.symm))
  · rintro rfl
    exact hnil

end Percent

namespace IssueKey

theorem splitSlash_of_notMem {cs : List Char} (h : '/' ∉ cs) : splitSlash cs = [cs] := by
  induction cs with
  | nil => rfl
  | cons c cs ih =>
    obtain ⟨hc, hcs⟩ := not_or.mp (List.mem_cons.not.mp h)
    rw [splitSlash, if_neg (Ne.symm hc), ih hcs]

/-- The first part ends at the first slash. -/
theorem splitSlash_append {cs : List Char} (h : '/' ∉ cs) (rest : List Char) :
    splitSlash (cs ++ '/' :: rest) = cs :: splitSlash rest := by
  induction cs with
  | nil => rfl
  | cons c cs ih =>
    obtain ⟨hc, hcs⟩ := not_or.mp (List.mem_cons.not.mp h)
    rw [List.cons_append, splitSlash, if_neg (Ne.symm hc), ih hcs]

theorem chars_eq (k : IssueKey) :
    k.chars = Percent.encode k.source.toList
      ++ '/' :: (Percent.encode k.issue.toList ++ '/' :: decimal k.user) := by
  simp only [chars, List.append_assoc, List.cons_append]

theorem slash_notMem_decimal (n : Int) : '/' ∉ decimal n := fun h => (decimal_bounds h).2 rfl

/-- **The text of a key comes apart into its three parts.** -/
theorem splitSlash_chars (k : IssueKey) :
    splitSlash k.chars
      = [Percent.encode k.source.toList, Percent.encode k.issue.toList, decimal k.user] := by
  rw [chars_eq, splitSlash_append (Percent.slash_notMem_encode _),
    splitSlash_append (Percent.slash_notMem_encode _), splitSlash_of_notMem (slash_notMem_decimal _)]

theorem count_slash_chars (k : IssueKey) : k.chars.count '/' = 2 := by
  rw [chars_eq, List.count_append, List.count_cons_self, List.count_append, List.count_cons_self,
    List.count_eq_zero_of_not_mem (Percent.slash_notMem_encode _),
    List.count_eq_zero_of_not_mem (Percent.slash_notMem_encode _),
    List.count_eq_zero_of_not_mem (slash_notMem_decimal _)]

theorem chars_lt {k : IssueKey} {c : Char} (h : c ∈ k.chars) : c.toNat < 0x80 := by
  rw [chars_eq] at h
  simp only [List.mem_append, List.mem_cons] at h
  rcases h with h | rfl | h | rfl | h
  · exact Percent.encode_lt h
  · decide
  · exact Percent.encode_lt h
  · decide
  · have := (decimal_bounds h).1
    omega

/-- Reading the text of a key goes by its ids being there and by its user id alone. -/
theorem read_render (k : IssueKey) :
    read k.render
      = if k.source = "" ∨ k.issue = "" then .error (.refused (.badKey k.render))
        else (Numeral.read (Text.ofChars (decimal k.user))).map fun n => { k with user := n } := by
  have huser : (decimal k.user).isEmpty = false := List.isEmpty_eq_false_iff.mpr (decimal_ne_nil _)
  have hparts : splitSlash k.render.toList = _ :=
    (congrArg splitSlash String.toList_ofList).trans (splitSlash_chars k)
  simp only [read, hparts, huser, Bool.or_false, Bool.or_eq_true, Percent.encode_isEmpty,
    Percent.decode_encode, String.ofList_toList]

/-- **The text of a key is faithful.** It is ASCII with exactly two slashes, it is the text of no
other key, and it reads back as the key unless an id is empty, which the reader refuses. -/
theorem text_faithful {k : IssueKey} (hk : k.Printable) :
    ∃ text, k.write = .ok text ∧ (∀ c ∈ text.toList, c.toNat < 0x80) ∧ text.toList.count '/' = 2 ∧
      (∀ k' : IssueKey, k'.write = .ok text → k' = k) ∧
      (k.source ≠ "" ∧ k.issue ≠ "" → read text = .ok k) ∧
      (k.source = "" ∨ k.issue = "" → read text = .error (.refused (.badKey text))) := by
  have hchars : k.render.toList = k.chars := String.toList_ofList
  refine ⟨k.render, write_of_printable hk, ?_, ?_, ?_, ?_, ?_⟩
  · rw [hchars]
    exact fun c => chars_lt
  · rw [hchars]
    exact count_slash_chars k
  · intro k' hk'
    exact (render_injective (eq_render_of_write hk')).symm
  · rintro ⟨hsource, hissue⟩
    rw [read_render, if_neg (not_or.mpr ⟨hsource, hissue⟩), Numeral.read_decimal hk]
    rfl
  · intro hempty
    rw [read_render, if_pos hempty]

/-- At a key with a slash, a percent sign and characters beyond ASCII in its ids. -/
theorem text_faithful_slashed :
    (⟨"s/%", "é𐍈", -1⟩ : IssueKey).Printable ∧
      ∃ text, (⟨"s/%", "é𐍈", -1⟩ : IssueKey).write = .ok text ∧
        (∀ c ∈ text.toList, c.toNat < 0x80) ∧ text.toList.count '/' = 2 ∧
        (∀ k' : IssueKey, k'.write = .ok text → k' = ⟨"s/%", "é𐍈", -1⟩) ∧
        read text = .ok ⟨"s/%", "é𐍈", -1⟩ := by
  have hk : (⟨"s/%", "é𐍈", -1⟩ : IssueKey).Printable :=
    Numeral.isWritable_of_natAbs_le_one (by decide)
  obtain ⟨text, hwrite, hascii, hcount, hinj, hread, -⟩ := text_faithful hk
  exact ⟨hk, text, hwrite, hascii, hcount, hinj, hread ⟨by decide, by decide⟩⟩

end IssueKey

end IssueDigest
