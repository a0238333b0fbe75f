import IssueDigest.Proofs.KeyReading
/-!
# What is an integer

The reader of integers goes through plain characters: it drops blanks, takes a sign, a run of digits and
underscores, and blanks again. This module says the same of the text itself. An integer is written with
digits of any script, each worth its value, and with single underscores between them (`DigitRun`); a sign
may stand in front and blanks around it (`Literal`). `read_eq_ok_iff` says that these texts are read, with
up to `digitLimit` digits, and no others.

What ties the two together is that `plain` loses nothing here: a character counts as a digit, a sign, an
underscore or a blank exactly if the code point behind it is one.
-/

namespace IssueDigest

/-- May the code point stand around a number? Beyond ASCII every blank may. -/
def CodePoint.isGap (c : CodePoint) : Bool := if c.isAscii then c.isAsciiBlank else c.isBlank

namespace Numeral

/-- Digits with their values, and single underscores between them. -/
inductive DigitRun : Text → List Nat → Prop
  | last {c : CodePoint} {d : Nat} (digit : c.decimal? = some d) : DigitRun [c] [d]
  | next {c : CodePoint} {d : Nat} {t : Text} {ds : List Nat} (digit : c.decimal? = some d)
      (rest : DigitRun t ds) : DigitRun (c :: t) (d :: ds)
  | apart {c : CodePoint} {d : Nat} {t : Text} {ds : List Nat} (digit : c.decimal? = some d)
      (rest : DigitRun t ds) : DigitRun (c :: .char '_' :: t) (d :: ds)

/-- A sign, or none; does it make the number negative? -/
inductive SignText : Text → Bool → Prop
  | none : SignText [] false
  | plus : SignText [.char '+'] false
  | minus : SignText [.char '-'] true

/-- An integer as text: a sign and digits, with blanks around them. -/
structure Literal (t : Text) (negative : Bool) (ds : List Nat) : Prop where
  parts : ∃ front sign run back : Text, t = front ++ (sign ++ (run ++ back)) ∧
    (∀ c ∈ front, c.isGap = true) ∧ SignText sign negative ∧ DigitRun run ds ∧
    ∀ c ∈ back, c.isGap = true

/-- The number that digits make. -/
def ofDigits (ds : List Nat) : Nat := ds.foldl (fun n d => n * 10 + d) 0

/-- The integer with a sign and digits. -/
def signed (negative : Bool) (ds : List Nat) : Int :=
  if negative then -(ofDigits ds : Int) else ofDigits ds

/-! ### Code points and what they count as -/

/-- The digits of base ten are the plain ones. -/
theorem isDigit_of_isDigitOf {x : Char} (h : isDigitOf 10 x = true) : x.isDigit = true := by
  by_contra hdigit
  rw [isDigitOf, digitValue?, if_neg hdigit] at h
  split at h
  · next d hd =>
    simp only [Bool.and_eq_true, decide_eq_true_eq] at hd h
    split at hd
    · next hletter =>
      have hlower : 97 ≤ x.toNat := hletter.1
      have := Option.some.inj hd
      omega
    · split at hd
      · next hletter =>
        have hlower : 65 ≤ x.toNat := hletter.1
        have := Option.some.inj hd
        omega
      · cases hd
  · cases h

section Plain

variable {c : CodePoint} {d : Nat}

/-- No blank beyond ASCII is a digit. -/
theorem decimal?_of_isBlank (h : c.isBlank = true) (hascii : ¬c.toNat < 128) : c.decimal? = none := by
  rw [CodePoint.decimal?, if_neg hascii, Option.map_eq_none_iff, List.find?_eq_none]
  rw [CodePoint.isBlank, Text.inRanges, List.any_eq_true] at h
  obtain ⟨r, hr, hin⟩ := h
  generalize c.toNat = n at hascii hin
  simp only [Bool.and_eq_true, decide_eq_true_eq] at hin
  have hapart : ∀ b ∈ Text.blankRanges, 128 ≤ b.2 → ∀ r ∈ Text.decimalRanges,
      b.2 < r.1 ∨ r.2 < b.1 := by decide
  intro r' hr' hin'
  simp only [Bool.and_eq_true, decide_eq_true_eq] at hin'
  have := hapart r hr (by omega) r' hr'
  omega

theorem decimal?_lt (h : c.decimal? = some d) : d < 10 := by
  rw [CodePoint.decimal?] at h
  split at h
  · split at h
    · next hdigit =>
      simp only [Bool.and_eq_true, decide_eq_true_eq] at hdigit
      have := Option.some.inj h
      omega
    · cases h
  · obtain ⟨r, -, rfl⟩ := Option.map_eq_some_iff.mp h
    exact Nat.mod_lt _ (by decide)

theorem digitValue?_digit (h : d < 10) :
    digitValue? (Char.ofNat (48 + d)) = some d ∧ (Char.ofNat (48 + d)).isDigit = true := by
  interval_cases d <;> exact ⟨rfl, rfl⟩

/-- A code point below 127 counts as itself. -/
theorem plain_of_lt (h : c.toNat < 127) : ∃ x : Char, c = .char x ∧ plain c = x := by
  cases c with
  | char x =>
    refine ⟨x, rfl, ?_⟩
    rw [plain, if_pos h]
    exact Char.ofNat_toNat x
  | half offset =>
    rw [CodePoint.toNat] at h
    omega

/-- Beyond that it counts as a space, a digit or a question mark. -/
theorem plain_of_not_lt (h : ¬c.toNat < 127) :
    plain c = if c.isBlank then ' ' else (c.decimal?.map fun d => Char.ofNat (48 + d)).getD '?' := by
  rw [plain, if_neg h]
  cases c.decimal? <;> rfl

/-- **A digit counts as a digit of its value.** -/
theorem plain_of_decimal? (h : c.decimal? = some d) : plain c = Char.ofNat (48 + d) := by
  by_cases hascii : c.toNat < 128
  · rw [CodePoint.decimal?, if_pos hascii] at h
    split at h
    · next hdigit =>
      simp only [Bool.and_eq_true, decide_eq_true_eq] at hdigit
      obtain rfl := Option.some.inj h
      rw [plain, if_pos (by omega), Nat.add_sub_cancel' hdigit.1]
    · cases h
  · have hblank : c.isBlank ≠ true := by
      intro hblank
      rw [decimal?_of_isBlank hblank hascii] at h
      cases h
    rw [plain_of_not_lt (by omega), if_neg hblank, h]
    rfl

/-- What counts as a digit of base ten is one. -/
theorem exists_decimal?_of_plain (h : isDigitOf 10 (plain c) = true) : ∃ d, c.decimal? = some d := by
  by_cases hlow : c.toNat < 127
  · obtain ⟨x, rfl, hplain⟩ := plain_of_lt hlow
    rw [hplain] at h
    have hdigit : x.isDigit = true := isDigit_of_isDigitOf h
    simp only [Char.isDigit, Bool.and_eq_true, decide_eq_true_eq, UInt32.le_iff_toNat_le] at hdigit
    have hlower : 48 ≤ x.toNat := hdigit.1
    have hupper : x.toNat ≤ 57 := hdigit.2
    refine ⟨x.toNat - 48, ?_⟩
    rw [CodePoint.decimal?, CodePoint.toNat, if_pos (by omega)]
    simp [hlower, hupper]
  · rw [plain_of_not_lt hlow] at h
    split at h
    · exact absurd h (by decide)
    · cases hdecimal : c.decimal? with
      | some d => exact ⟨d, rfl⟩
      | none =>
        rw [hdecimal] at h
        exact absurd h (by decide)

/-- What may stand around a number counts as that, and nothing else does. -/
theorem isMargin_plain : isMargin (plain c) = c.isGap := by
  by_cases hlow : c.toNat < 127
  · obtain ⟨x, rfl, hplain⟩ := plain_of_lt hlow
    have hspace : (x == ' ') = (x.toNat == 32) := by
      rw [Bool.eq_iff_iff, beq_iff_eq, beq_iff_eq]
      constructor
      · rintro rfl
        rfl
      · intro h
        rw [← Char.ofNat_toNat x, h]
    rw [hplain, CodePoint.isGap, CodePoint.isAscii, if_pos (by simpa using Nat.lt_succ_of_lt hlow),
      CodePoint.isAsciiBlank, isMargin, hspace, CodePoint.toNat]
  · have hgap : c.isGap = c.isBlank := by
      rw [CodePoint.isGap, CodePoint.isAscii]
      split
      · next hascii =>
        -- the one character left below 128 is no blank of either kind
        have h127 : c.toNat = 127 := by
          have := of_decide_eq_true hascii
          omega
        rw [CodePoint.isAsciiBlank, CodePoint.isBlank, h127]
        decide
      · rfl
    rw [plain_of_not_lt hlow, hgap]
    cases hblank : c.isBlank with
    | true => rfl
    | false =>
      rw [if_neg (by simp)]
      cases hdecimal : c.decimal? with
      | none => rfl
      | some d => exact (isDigit_bounds (digitValue?_digit (decimal?_lt hdecimal)).2).1

/-- Only a sign counts as that sign, and only an underscore as one. -/
theorem plain_eq_iff {x : Char} (hx : x = '-' ∨ x = '+' ∨ x = '_') : plain c = x ↔ c = .char x := by
  constructor
  · intro h
    by_cases hlow : c.toNat < 127
    · obtain ⟨y, rfl, hplain⟩ := plain_of_lt hlow
      rw [← h, hplain]
    · have hdigit : x.isDigit = false := by
        rcases hx with rfl | rfl | rfl <;> rfl
      rw [plain_of_not_lt hlow] at h
      exfalso
      split at h
      · subst h
        exact absurd hx (by decide)
      · cases hdecimal : c.decimal? with
        | none =>
          rw [hdecimal] at h
          subst h
          exact absurd hx (by decide)
        | some d =>
          rw [hdecimal] at h
          subst h
          exact absurd hdigit (by
            rw [Option.map_some, Option.getD_some, (digitValue?_digit (decimal?_lt hdecimal)).2]
            decide)
  · rintro rfl
    rcases hx with rfl | rfl | rfl <;> rfl

end Plain

/-! ### Runs of digits -/

/-- May the plain character stand in a run of digits? -/
def inRun (x : Char) : Bool := isDigitOf 10 x || x == '_'

theorem inRun_digit {d : Nat} (h : d < 10) : inRun (Char.ofNat (48 + d)) = true := by
  rw [inRun, isDigitOf_of_isDigit (digitValue?_digit h).2, Bool.true_or]

/-- The digits of a run, as the plain characters they count as. -/
def digitChars (ds : List Nat) : List Char := ds.map fun d => Char.ofNat (48 + d)

section Run

variable {t : Text} {ds : List Nat}

theorem DigitRun.lt (h : DigitRun t ds) : ∀ d ∈ ds, d < 10 := by
  induction h with
  | last digit => exact List.forall_mem_singleton.mpr (decimal?_lt digit)
  | next digit _ ih => exact List.forall_mem_cons.mpr ⟨decimal?_lt digit, ih⟩
  | apart digit _ ih => exact List.forall_mem_cons.mpr ⟨decimal?_lt digit, ih⟩

/-- A run starts with a digit. -/
theorem DigitRun.exists_cons (h : DigitRun t ds) :
    ∃ c d rest, t = c :: rest ∧ c.decimal? = some d := by
  cases h with
  | last digit => exact ⟨_, _, _, rfl, digit⟩
  | next digit _ => exact ⟨_, _, _, rfl, digit⟩
  | apart digit _ => exact ⟨_, _, _, rfl, digit⟩

theorem DigitRun.all_inRun (h : DigitRun t ds) : ∀ x ∈ t.map plain, inRun x = true := by
  have hdigit {c : CodePoint} {d : Nat} (h : c.decimal? = some d) : inRun (plain c) = true := by
    rw [plain_of_decimal? h, inRun_digit (decimal?_lt h)]
  induction h with
  | last digit => exact List.forall_mem_singleton.mpr (hdigit digit)
  | next digit _ ih => exact List.forall_mem_cons.mpr ⟨hdigit digit, ih⟩
  | apart digit _ ih =>
    exact List.forall_mem_cons.mpr ⟨hdigit digit, List.forall_mem_cons.mpr ⟨rfl, ih⟩⟩

theorem digit_ne_underscore {d : Nat} (h : d < 10) : Char.ofNat (48 + d) ≠ '_' :=
  (isDigit_bounds (digitValue?_digit h).2).2.2.2

/-- Without the underscores, the digits of the run are left. -/
theorem DigitRun.filter_eq (h : DigitRun t ds) :
    (t.map plain).filter (· != '_') = digitChars ds := by
  have hcons {c : CodePoint} {d : Nat} (h : c.decimal? = some d) (xs : List Char) :
      (plain c :: xs).filter (· != '_') = Char.ofNat (48 + d) :: xs.filter (· != '_') := by
    rw [plain_of_decimal? h, List.filter_cons,
      if_pos (bne_iff_ne.mpr (digit_ne_underscore (decimal?_lt h)))]
  induction h with
  | last digit => exact hcons digit []
  | next digit _ ih => rw [List.map_cons, hcons digit, ih]; rfl
  | apart digit _ ih => rw [List.map_cons, hcons digit]; exact congrArg (_ :: ·) ih

/-- No underscore of a run is loose, whatever stands in front. -/
theorem DigitRun.hasLooseUnderscore_eq (h : DigitRun t ds) (after : Bool) :
    hasLooseUnderscore after (t.map plain) = false := by
  have hcons {c : CodePoint} {d : Nat} (h : c.decimal? = some d) (after : Bool) (xs : List Char) :
      hasLooseUnderscore after (plain c :: xs) = hasLooseUnderscore false xs := by
    have hne : (plain c == '_') = false := by
      rw [plain_of_decimal? h, beq_eq_false_iff_ne]
      exact digit_ne_underscore (decimal?_lt h)
    rw [hasLooseUnderscore, hne, Bool.false_and, Bool.false_or]
  induction h generalizing after with
  | last digit => exact hcons digit after []
  | next digit _ ih => rw [List.map_cons, hcons digit, ih]
  | apart digit _ ih =>
    rw [List.map_cons, hcons digit]
    exact ih true

/-- **Digits without a loose underscore are a run.** Behind a digit, the rest may also be empty, or
start with an underscore. -/
theorem exists_digitRun (hall : ∀ c ∈ t, inRun (plain c) = true) :
    (hasLooseUnderscore true (t.map plain) = false → ∃ ds, DigitRun t ds) ∧
      (hasLooseUnderscore false (t.map plain) = false →
        t = [] ∨ (∃ ds, DigitRun t ds) ∨ ∃ rest ds, t = .char '_' :: rest ∧ DigitRun rest ds) := by
  induction t with
  | nil => exact ⟨fun h => absurd h (by decide), fun _ => .inl rfl⟩
  | cons c t ih =>
    obtain ⟨hc, ht⟩ := List.forall_mem_cons.mp hall
    obtain ⟨ihStart, ihBehind⟩ := ih ht
    by_cases hunderscore : plain c = '_'
    · have hstep (after : Bool) : hasLooseUnderscore after ((c :: t).map plain)
          = (after || hasLooseUnderscore true (t.map plain)) := by
        rw [List.map_cons, hasLooseUnderscore, hunderscore, beq_self_eq_true, Bool.true_and]
      constructor
      · intro h
        rw [hstep, Bool.true_or] at h
        cases h
      · intro h
        rw [hstep, Bool.false_or] at h
        obtain ⟨ds, hds⟩ := ihStart h
        exact .inr (.inr ⟨t, ds, by rw [(plain_eq_iff (.inr (.inr rfl))).mp hunderscore], hds⟩)
    · have hne : (plain c == '_') = false := beq_eq_false_iff_ne.mpr hunderscore
      obtain ⟨d, hd⟩ : ∃ d, c.decimal? = some d := by
        rw [inRun, hne, Bool.or_false] at hc
        exact exists_decimal?_of_plain hc
      have hstep (after : Bool) : hasLooseUnderscore after ((c :: t).map plain)
          = hasLooseUnderscore false (t.map plain) := by
        rw [List.map_cons, hasLooseUnderscore, hne, Bool.false_and, Bool.false_or]
      have hrun (h : hasLooseUnderscore false (t.map plain) = false) :
          ∃ ds, DigitRun (c :: t) ds := by
        rcases ihBehind h with rfl | ⟨ds, hds⟩ | ⟨rest, ds, rfl, hds⟩
        · exact ⟨[d], .last hd⟩
        · exact ⟨d :: ds, .next hd hds⟩
        · exact ⟨d :: ds, .apart hd hds⟩
      constructor
      · intro h
        rw [hstep] at h
        exact hrun h
      · intro h
        rw [hstep] at h
        exact .inr (.inl (hrun h))

end Run

/-- The digits make the number that the reader makes of their characters. -/
theorem value_digitChars {ds : List Nat} (h : ∀ d ∈ ds, d < 10) (n : Nat) :
    value 10 n (digitChars ds) = ds.foldl (fun n d => n * 10 + d) n := by
  induction ds generalizing n with
  | nil => rfl
  | cons d ds ih =>
    obtain ⟨hd, hds⟩ := List.forall_mem_cons.mp h
    show value 10 (n * 10 + (digitValue? (Char.ofNat (48 + d))).getD 0) (digitChars ds) = _
    rw [(digitValue?_digit hd).1, ih hds]
    rfl

theorem length_digitChars (ds : List Nat) : (digitChars ds).length = ds.length := List.length_map _

/-! ### Literals are read -/

/-- In front of a run, the sign is what is split off. -/
theorem splitSign_dropWhile {sign run : Text} {negative : Bool} {ds : List Nat}
    (hsign : SignText sign negative) (hrun : DigitRun run ds) (back : Text) :
    splitSign (((sign ++ (run ++ back)).dropWhile CodePoint.isGap).map plain)
      = (negative, (run ++ back).map plain) := by
  cases hsign with
  | plus => rfl
  | minus => rfl
  | none =>
    obtain ⟨c, d, rest, rfl, hc⟩ := hrun.exists_cons
    obtain ⟨hmargin, hminus, hplus, -⟩ := isDigit_bounds (digitValue?_digit (decimal?_lt hc)).2
    rw [← plain_of_decimal? hc] at hmargin hminus hplus
    rw [List.nil_append, List.cons_append,
      List.dropWhile_cons_of_neg (by rw [← isMargin_plain, hmargin]; exact Bool.false_ne_true),
      List.map_cons]
    unfold splitSign
    split
    · next heq => exact absurd (List.cons.inj heq).1 hminus
    · next heq => exact absurd (List.cons.inj heq).1 hplus
    · rfl

/-- Every text has a sign, or none, in front of its rest. -/
theorem exists_signText (t : Text) : ∃ sign negative rest, t = sign ++ rest ∧
    SignText sign negative ∧ splitSign (t.map plain) = (negative, rest.map plain) := by
  cases t with
  | nil => exact ⟨[], false, [], rfl, .none, rfl⟩
  | cons c t =>
    by_cases hminus : plain c = '-'
    · refine ⟨[c], true, t, rfl, ?_, by rw [List.map_cons, hminus]; rfl⟩
      rw [(plain_eq_iff (.inl rfl)).mp hminus]
      exact .minus
    · by_cases hplus : plain c = '+'
      · refine ⟨[c], false, t, rfl, ?_, by rw [List.map_cons, hplus]; rfl⟩
        rw [(plain_eq_iff (.inr (.inl rfl))).mp hplus]
        exact .plus
      · refine ⟨[], false, c :: t, rfl, .none, ?_⟩
        rw [List.map_cons]
        unfold splitSign
        split
        · next heq => exact absurd (List.cons.inj heq).1 hminus
        · next heq => exact absurd (List.cons.inj heq).1 hplus
        · rfl

theorem dropWhile_isMargin_map (t : Text) :
    (t.map plain).dropWhile isMargin = (t.dropWhile CodePoint.isGap).map plain := by
  rw [List.dropWhile_map]
  congr 2
  funext c
  exact isMargin_plain

/-- Every text has characters of runs in front, and then none. -/
theorem exists_run (t : Text) : ∃ run back, t = run ++ back ∧
    (∀ c ∈ run, inRun (plain c) = true) ∧
    ((t.map plain).takeWhile fun x => isDigitOf 10 x || x == '_') = run.map plain ∧
    ((t.map plain).dropWhile fun x => isDigitOf 10 x || x == '_') = back.map plain :=
  ⟨t.takeWhile (inRun ∘ plain), t.dropWhile (inRun ∘ plain), List.takeWhile_append_dropWhile.symm,
    fun _ hc => by simpa using List.mem_takeWhile_imp hc, List.takeWhile_map, List.dropWhile_map⟩

/-- What stands around a number is not taken for a part of it. -/
theorem split_run {run back : List Char} (hrun : ∀ x ∈ run, inRun x = true)
    (hback : ∀ x ∈ back, isMargin x = true) :
    (run ++ back).takeWhile inRun = run ∧ (run ++ back).dropWhile inRun = back := by
  have hmargin {x : Char} (h : isMargin x = true) : inRun x = false := by
    by_contra hin
    rw [inRun, Bool.not_eq_false, Bool.or_eq_true, beq_iff_eq] at hin
    rcases hin with hdigit | rfl
    · rw [(isDigit_bounds (isDigit_of_isDigitOf hdigit)).1] at h
      cases h
    · cases h
  rw [List.takeWhile_append_of_pos hrun, List.dropWhile_append_of_pos hrun]
  cases back with
  | nil => exact ⟨List.append_nil run, rfl⟩
  | cons x back =>
    have hx : ¬inRun x = true := by
      rw [hmargin (hback x List.mem_cons_self)]
      exact Bool.false_ne_true
    exact ⟨by rw [List.takeWhile_cons_of_neg hx, List.append_nil], List.dropWhile_cons_of_neg hx⟩

/-- **What is an integer.** A text is read as an integer exactly if it is a literal with few enough
digits, and then as the number that the digits make, with the sign. -/
theorem read_eq_ok_iff {t : Text} {n : Int} : read t = .ok n ↔
    ∃ negative ds, Literal t negative ds ∧ ds.length ≤ digitLimit ∧ n = signed negative ds := by
  constructor
  · intro h
    rw [read, readIn, readPlain, dropWhile_isMargin_map] at h
    obtain ⟨sign, negative, rest, hrest, hsign, hsplit⟩ :=
      exists_signText (t.dropWhile CodePoint.isGap)
    obtain ⟨run, back, rfl, hall, htake, hdrop⟩ := exists_run rest
    simp only [hsplit, dropMark_ten, htake, hdrop] at h
    split at h
    · cases h
    next hloose =>
    split at h
    · cases h
    next hlength =>
    split at h
    · cases h
    next hback =>
    have hloose : hasLooseUnderscore true (run.map plain) = false := by
      simp only [Bool.or_eq_true, not_or, Bool.not_eq_true] at hloose
      exact hloose.2
    obtain ⟨ds, hds⟩ := (exists_digitRun hall).1 hloose
    rw [hds.filter_eq, length_digitChars] at hlength
    rw [hds.filter_eq, value_digitChars hds.lt] at h
    refine ⟨negative, ds, ⟨t.takeWhile CodePoint.isGap, sign, run, back, ?_, ?_, hsign, hds, ?_⟩,
      by simpa using hlength, (Except.ok.inj h).symm⟩
    · rw [← hrest, List.takeWhile_append_dropWhile]
    · intro c hc
      exact List.mem_takeWhile_imp hc
    · rw [dropWhile_isMargin_map] at hback
      simpa [List.dropWhile_eq_nil_iff] using hback
  · rintro ⟨negative, ds, ⟨front, sign, run, back, rfl, hfront, hsign, hrun, hback⟩, hlength, rfl⟩
    have hsplit : splitSign (((front ++ (sign ++ (run ++ back))).map plain).dropWhile isMargin)
        = (negative, (run ++ back).map plain) := by
      rw [dropWhile_isMargin_map, List.dropWhile_append_of_pos hfront]
      exact splitSign_dropWhile hsign hrun back
    obtain ⟨htake, hdrop⟩ : ((run ++ back).map plain).takeWhile inRun = run.map plain ∧
        ((run ++ back).map plain).dropWhile inRun = back.map plain := by
      rw [List.map_append]
      refine split_run hrun.all_inRun fun x hx => ?_
      obtain ⟨c, hc, rfl⟩ := List.mem_map.mp hx
      exact isMargin_plain.trans (hback c hc)
    rw [show inRun = fun x => isDigitOf 10 x || x == '_' from rfl] at htake hdrop
    have hempty : (run.map plain).isEmpty = false := by
      obtain ⟨c, d, rest, rfl, -⟩ := hrun.exists_cons
      rfl
    have hmargins : ((back.map plain).dropWhile isMargin).isEmpty = true := by
      rw [dropWhile_isMargin_map, List.dropWhile_eq_nil_iff.mpr hback]
      rfl
    simp only [read, readIn, readPlain, hsplit, dropMark_ten, htake, hdrop, hempty, hmargins,
      hrun.hasLooseUnderscore_eq, hrun.filter_eq, length_digitChars, value_digitChars hrun.lt]
    rw [if_neg (by decide), if_neg (by simpa using hlength), if_neg (by decide)]
    rfl

end Numeral

end IssueDigest
