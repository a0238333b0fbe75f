import IssueDigest.Proofs.KeyReading
import IssueDigest.Proofs.PageText
/-!
# How deep a text is nested

A walk through a text in the object notation counts the braces that are open, those between quotes left out
(`Nesting.scan`). Two facts about the count keep a document and its fronts apart.

* Whatever is read as a value is as deep behind it as before it: the reader closes what it opens.
* A document is deeper than nothing from its first brace up to its last, so no front of it but the empty one
  and the whole is at depth zero.

So nothing that was cut off in a document can be read (`Json.read_front`). The page need not be one that can
be written: the count knows nothing of halves of pairs, nor how long an integer is.
-/

namespace IssueDigest.Json

/-! ### The walk -/

/-- Where a walk is: outside quotes, between them, or behind a backslash there. -/
inductive Quoting where
  | outside
  | inside
  | escaped
  deriving DecidableEq

/-- How far a walk has come: what it knows of quotes, and how many braces are open. -/
structure Nesting where
  quoting : Quoting
  depth : Nat
  deriving DecidableEq

namespace Nesting

/-- One code point on. -/
def step (s : Nesting) (c : CodePoint) : Nesting :=
  match s.quoting with
  | .outside =>
    if c = .char '"' then ⟨.inside, s.depth⟩
    else if c = .char '\x7b' then ⟨.outside, s.depth + 1⟩
    else if c = .char '\x7d' then ⟨.outside, s.depth - 1⟩
    else s
  | .inside =>
    if c = .char '"' then ⟨.outside, s.depth⟩
    else if c = .char '\\' then ⟨.escaped, s.depth⟩
    else s
  | .escaped => ⟨.inside, s.depth⟩

/-- Through a text. -/
def scan (s : Nesting) (t : Text) : Nesting := t.foldl step s

variable {s s' s'' : Nesting}

@[simp] theorem scan_nil (s : Nesting) : s.scan [] = s := rfl

@[simp] theorem scan_cons (s : Nesting) (c : CodePoint) (t : Text) :
    s.scan (c :: t) = (s.step c).scan t := rfl

@[simp] theorem scan_append (s : Nesting) (t t' : Text) : s.scan (t ++ t') = (s.scan t).scan t' :=
  List.foldl_append

/-- Does the character mean nothing to the walk, except behind a backslash? -/
def IsNeutral (c : Char) : Prop := c ≠ '"' ∧ c ≠ '\\' ∧ c ≠ '\x7b' ∧ c ≠ '\x7d'

instance (c : Char) : Decidable (IsNeutral c) := inferInstanceAs (Decidable (_ ∧ _))

theorem step_of_isNeutral {c : Char} (h : IsNeutral c) (hs : s.quoting ≠ .escaped) :
    s.step (.char c) = s := by
  obtain ⟨hquote, hslash, hopen, hclose⟩ := h
  obtain ⟨quoting, depth⟩ := s
  cases quoting with
  | outside => simp [step, hquote, hopen, hclose]
  | inside => simp [step, hquote, hslash]
  | escaped => exact absurd rfl hs

theorem isNeutral_of_isDigit {c : Char} (h : c.isDigit = true) : IsNeutral c := by
  refine ⟨?_, ?_, ?_, ?_⟩ <;> exact Iso.ne_of_isDigit h (by decide)

theorem isNeutral_of_isBlank {c : Char} (h : isBlank c = true) : IsNeutral c := by
  simp only [isBlank, Bool.or_eq_true, beq_iff_eq] at h
  rcases h with ((rfl | rfl) | rfl) | rfl <;> decide

/-! ### The reader closes what it opens -/

/-- Is what is left out of the characters in front such that the walk goes from here to there? -/
def Leads (s s' : Nesting) (cs rest : List Char) : Prop :=
  ∃ used, cs = used ++ rest ∧ s.scan (Text.ofChars used) = s'

namespace Leads

variable {cs rest rest' : List Char} {c : Char}

theorem refl (s : Nesting) (cs : List Char) : s.Leads s cs cs := ⟨[], rfl, rfl⟩

theorem trans (h : s.Leads s' cs rest) (h' : s'.Leads s'' rest rest') : s.Leads s'' cs rest' := by
  obtain ⟨used, rfl, rfl⟩ := h
  obtain ⟨used', rfl, rfl⟩ := h'
  refine ⟨used ++ used', (List.append_assoc _ _ _).symm, ?_⟩
  rw [Text.ofChars, List.map_append]
  exact scan_append _ _ _

theorem cons (h : (s.step (.char c)).Leads s' cs rest) : s.Leads s' (c :: cs) rest := by
  obtain ⟨used, rfl, hscan⟩ := h
  exact ⟨c :: used, rfl, hscan⟩

/-- Neutral characters lead nowhere. -/
theorem of_neutral (hs : s.quoting ≠ .escaped) (used : List Char) (h : ∀ c ∈ used, IsNeutral c)
    (rest : List Char) : s.Leads s (used ++ rest) rest := by
  refine ⟨used, rfl, ?_⟩
  induction used with
  | nil => rfl
  | cons c used ih =>
    have hfirst : s.step (.char c) = s := step_of_isNeutral (h c List.mem_cons_self) hs
    rw [Text.ofChars, List.map_cons, scan_cons, hfirst]
    exact ih fun x hx => h x (List.mem_cons_of_mem _ hx)

theorem drop (hs : s.quoting ≠ .escaped) {n : Nat} (h : ∀ c ∈ cs.take n, IsNeutral c) :
    s.Leads s cs (cs.drop n) := by
  have hleads := of_neutral hs _ h (cs.drop n)
  rwa [List.take_append_drop] at hleads

theorem dropWhile (hs : s.quoting ≠ .escaped) {p : Char → Bool} (h : ∀ c, p c = true → IsNeutral c)
    (cs : List Char) : s.Leads s cs (cs.dropWhile p) := by
  have hfront : ∀ c ∈ cs.takeWhile p, IsNeutral c := fun c hc => h c (List.mem_takeWhile_imp hc)
  have hleads := of_neutral hs _ hfront (cs.dropWhile p)
  rwa [List.takeWhile_append_dropWhile] at hleads

theorem skipBlanks (hs : s.quoting ≠ .escaped) (cs : List Char) : s.Leads s cs (skipBlanks cs) :=
  dropWhile hs (fun _ => isNeutral_of_isBlank) cs

/-! #### Texts -/

variable {d n : Nat}

theorem isNeutral_of_hexValue? {x : Nat} (h : hexValue? c = some x) : IsNeutral c := by
  refine ⟨?_, ?_, ?_, ?_⟩ <;> rintro rfl <;> cases h

/-- An escape by a number ends between the quotes. -/
theorem hexUnit (h : hexUnit? rest = some n) :
    (Nesting.mk .inside d).Leads ⟨.inside, d⟩ ('\\' :: 'u' :: rest) (rest.drop 4) := by
  have hinside : Quoting.inside ≠ .escaped := by decide
  refine .cons (.cons (.drop hinside fun c hc => ?_))
  unfold hexUnit? at h
  split at h
  · next a b c' e _ _ =>
    obtain ⟨_, ha, h⟩ := Option.bind_eq_some_iff.mp h
    obtain ⟨_, hb, h⟩ := Option.bind_eq_some_iff.mp h
    obtain ⟨_, hc', h⟩ := Option.bind_eq_some_iff.mp h
    obtain ⟨_, he, -⟩ := Option.bind_eq_some_iff.mp h
    simp only [List.take_succ_cons, List.take_zero, List.mem_cons, List.not_mem_nil, or_false] at hc
    rcases hc with rfl | rfl | rfl | rfl
    · exact isNeutral_of_hexValue? ha
    · exact isNeutral_of_hexValue? hb
    · exact isNeutral_of_hexValue? hc'
    · exact isNeutral_of_hexValue? he
  · cases h

/-- So do two such escapes that make one character. -/
theorem lowHalf {low : Nat} (h : hexUnit? rest = some n) (hlow : lowHalf? (rest.drop 4) = some low) :
    (Nesting.mk .inside d).Leads ⟨.inside, d⟩ ('\\' :: 'u' :: rest) (rest.drop 10) := by
  refine (hexUnit h).trans ?_
  have hdrop : rest.drop 10 = (rest.drop 4).drop 6 := by rw [List.drop_drop]
  rw [hdrop]
  unfold lowHalf? at hlow
  split at hlow
  · next back hback =>
    rw [hback]
    split at hlow
    · next hunit => exact hexUnit hunit
    · cases hlow
  · cases hlow

theorem exists_of_consRead {c : CodePoint} {r : Except Stop (Text × List Char)} {t : Text}
    (h : consRead c r = .ok (t, rest)) : ∃ t', r = .ok (t', rest) := by
  obtain ⟨⟨t', rest'⟩, hr, heq⟩ := map_eq_ok_iff.mp h
  obtain ⟨-, rfl⟩ := Prod.mk.inj heq
  exact ⟨t', hr⟩

/-- **A text ends behind its closing quote.** -/
theorem readText {start skip : Nat} {t : Text} (h : readText start skip cs = .ok (t, rest)) (d : Nat) :
    (Nesting.mk .inside d).Leads ⟨.outside, d⟩ (cs.drop skip) rest := by
  fun_induction Json.readText start skip cs generalizing t with
  | case1 => cases h
  | case2 skip c rest ih => exact ih h
  | case3 back =>
    obtain ⟨-, rfl⟩ := Prod.mk.inj (Except.ok.inj h)
    exact .cons (.refl _ _)
  | case4 => cases h
  | case5 => cases h
  | case6 back n hunit low hlow ih =>
    obtain ⟨t', hback⟩ := exists_of_consRead h
    split at hlow
    · exact (lowHalf hunit hlow).trans (ih hback)
    · cases hlow
  | case7 back n hunit _ ih =>
    obtain ⟨t', hback⟩ := exists_of_consRead h
    exact (hexUnit hunit).trans (ih hback)
  | case8 c back hletter x hx ih =>
    obtain ⟨t', hback⟩ := exists_of_consRead h
    exact .cons (.cons (ih hback))
  | case9 => cases h
  | case10 => cases h
  | case11 c back hquote hlone hunit hletter hlow ih =>
    obtain ⟨t', hback⟩ := exists_of_consRead h
    have hslash : c ≠ '\\' := by
      rintro rfl
      cases back with
      | nil => exact hlone rfl rfl
      | cons x back => exact hletter x back rfl rfl
    have hstep : (Nesting.mk .inside d).step (.char c) = ⟨.inside, d⟩ := by
      simp [step, hslash, show c ≠ '"' from hquote]
    refine .cons ?_
    rw [hstep]
    exact ih hback

/-! #### Numbers -/

theorem of_prefix (hs : s.quoting ≠ .escaped) {front : List Char} (hfront : front <+: cs)
    (h : ∀ c ∈ front, IsNeutral c) : s.Leads s cs (cs.drop front.length) := by
  obtain ⟨back, rfl⟩ := hfront
  rw [List.drop_left]
  exact of_neutral hs _ h back

theorem wholePart (hs : s.quoting ≠ .escaped) (cs : List Char) :
    s.Leads s cs (cs.drop (wholePart cs).length) := by
  refine of_prefix hs ?_ fun c hc => isNeutral_of_isDigit (isDigit_of_mem_wholePart hc)
  unfold Json.wholePart
  split
  · exact List.prefix_append ['0'] _
  · exact List.takeWhile_prefix _

theorem fraction (hs : s.quoting ≠ .escaped) (h : ¬(fraction cs).isEmpty = true) :
    s.Leads s cs (cs.drop ((fraction cs).length + 1)) := by
  unfold Json.fraction at h ⊢
  split at h
  · next rest =>
    refine .trans (.of_neutral hs ['.'] (by simp [IsNeutral]) rest) ?_
    exact of_prefix hs (List.takeWhile_prefix _) fun c hc =>
      isNeutral_of_isDigit (List.mem_takeWhile_imp hc)
  · exact absurd rfl h

theorem sign (hs : s.quoting ≠ .escaped) (cs : List Char) :
    s.Leads s cs (Numeral.splitSign cs).2 := by
  unfold Numeral.splitSign
  split
  · exact .of_neutral hs ['-'] (by simp [IsNeutral]) _
  · exact .of_neutral hs ['+'] (by simp [IsNeutral]) _
  · exact .refl _ _

theorem exponent (hs : s.quoting ≠ .escaped) {down : Bool} {digits : List Char}
    (h : Numeral.exponent? cs = some (down, digits, rest)) : s.Leads s cs rest := by
  unfold Numeral.exponent? at h
  split at h
  · next e back =>
    split at h
    · next he =>
      have hneutral : IsNeutral e := by
        simp only [Bool.or_eq_true, beq_iff_eq] at he
        rcases he with rfl | rfl <;> decide
      dsimp only at h
      split at h
      · cases h
      · obtain ⟨-, -, rfl⟩ := Option.some.inj h
        refine .trans (.of_neutral hs [e] (List.forall_mem_singleton.mpr hneutral) back) ?_
        exact (sign hs back).trans (.dropWhile hs (fun _ => isNeutral_of_isDigit) _)
    · cases h
  · cases h

/-- **A number leads nowhere.** -/
theorem readNumber (hs : s.quoting ≠ .escaped) {v : Json} (h : readNumber cs = .ok (v, rest)) :
    s.Leads s cs rest := by
  obtain ⟨body, hsign, hread⟩ := exists_readsNumber cs
  rw [h] at hread
  have hbody : s.Leads s cs body := by
    obtain rfl | rfl := hsign
    · exact .refl _ _
    · exact .of_neutral hs ['-'] (by simp [IsNeutral]) body
  refine hbody.trans ((wholePart hs body).trans ?_)
  cases hread with
  | int => exact .refl _ _
  | fraction x hne => exact fraction hs hne
  | exponent x hexponent =>
    refine .trans ?_ (exponent hs hexponent)
    split
    · exact .refl _ _
    · next hne => exact fraction hs hne

/-! #### Values -/

theorem word {w : List Char × Json} (h : words.find? (fun w => w.1.isPrefixOf cs) = some w)
    (hs : s.quoting ≠ .escaped) : s.Leads s cs (cs.drop w.1.length) := by
  have hw : ∀ c ∈ w.1, IsNeutral c := by
    have hmem := List.mem_of_find?_eq_some h
    simp only [words, List.mem_cons, List.not_mem_nil, or_false] at hmem
    rcases hmem with rfl | rfl | rfl | rfl | rfl | rfl <;> simp [IsNeutral]
  have hfront := List.find?_some h
  exact of_prefix hs (List.isPrefixOf_iff_prefix.mp hfront) hw

theorem outside_ne : (Nesting.mk .outside d).quoting ≠ .escaped := nofun

/-- A value and the items of a list lead nowhere, and the fields of an object out of its braces: each takes
the others from reading with less fuel. -/
theorem readFuel (fuel : Nat) :
    (∀ {cs rest v}, readValue fuel cs = .ok (v, rest) →
        ∀ d, (Nesting.mk .outside d).Leads ⟨.outside, d⟩ cs rest) ∧
      (∀ {cs rest items}, readItems fuel cs = .ok (items, rest) →
        ∀ d, (Nesting.mk .outside d).Leads ⟨.outside, d⟩ cs rest) ∧
      ∀ {cs rest fields}, readFields fuel cs = .ok (fields, rest) →
        ∀ d, (Nesting.mk .outside (d + 1)).Leads ⟨.outside, d⟩ cs rest := by
  induction fuel with
  | zero => exact ⟨nofun, nofun, nofun⟩
  | succ fuel ih =>
    obtain ⟨ihValue, ihItems, ihFields⟩ := ih
    refine ⟨fun {cs rest v} h d => ?value, fun {cs rest items} h d => ?items,
      fun {cs rest fields} h d => ?fields⟩
    case value =>
      rw [readValue.eq_def] at h
      dsimp only at h
      split at h
      · obtain ⟨_, htext, hv⟩ := map_eq_ok_iff.mp h
        cases hv
        exact .cons (readText htext d)
      · next back =>
        refine .cons (.trans (skipBlanks outside_ne back) ?_)
        split at h
        · next hback =>
          cases h
          rw [hback]
          exact .cons (.refl _ _)
        · obtain ⟨_, hitems, hv⟩ := map_eq_ok_iff.mp h
          cases hv
          exact ihItems hitems d
      · next back =>
        refine .cons (.trans (skipBlanks outside_ne back) ?_)
        split at h
        · next hback =>
          cases h
          rw [hback]
          exact .cons (.refl _ _)
        · obtain ⟨_, hfields, hv⟩ := map_eq_ok_iff.mp h
          cases hv
          exact ihFields hfields d
      · split at h
        · next hword =>
          cases h
          exact word hword outside_ne
        · exact readNumber outside_ne h
    case items =>
      rw [readItems.eq_def] at h
      dsimp only at h
      obtain ⟨⟨v, rest₁⟩, hv, h⟩ := bind_eq_ok_iff.mp h
      refine .trans (ihValue hv d) (.trans (skipBlanks outside_ne rest₁) ?_)
      dsimp only at h
      split at h
      · next hback =>
        cases h
        rw [hback]
        exact .cons (.refl _ _)
      · next hback =>
        obtain ⟨⟨more, rest₂⟩, hmore, h⟩ := bind_eq_ok_iff.mp h
        cases h
        rw [hback]
        exact .cons (.trans (skipBlanks outside_ne _) (ihItems hmore d))
      · cases h
    case fields =>
      rw [readFields.eq_def] at h
      dsimp only at h
      split at h
      · obtain ⟨⟨name, rest₁⟩, hname, h⟩ := bind_eq_ok_iff.mp h
        refine .cons (.trans (readText hname (d + 1)) (.trans (skipBlanks outside_ne rest₁) ?_))
        dsimp only at h
        split at h
        · next hcolon =>
          obtain ⟨⟨v, rest₂⟩, hv, h⟩ := bind_eq_ok_iff.mp h
          rw [hcolon]
          refine .cons (.trans (skipBlanks outside_ne _) (.trans (ihValue hv (d + 1))
            (.trans (skipBlanks outside_ne rest₂) ?_)))
          dsimp only at h
          split at h
          · next hback =>
            cases h
            rw [hback]
            exact .cons (.refl _ _)
          · next hback =>
            obtain ⟨⟨more, rest₃⟩, hmore, h⟩ := bind_eq_ok_iff.mp h
            cases h
            rw [hback]
            exact .cons (.trans (skipBlanks outside_ne _) (ihFields hmore d))
          · cases h
        · cases h
      · cases h

end Leads

/-- **What is read is as deep behind as before**, and it is not empty. -/
theorem scan_of_read {cs : List Char} {v : Json} (h : read cs = .ok v) :
    cs ≠ [] ∧ (Nesting.mk .outside 0).scan (Text.ofChars cs) = ⟨.outside, 0⟩ := by
  constructor
  · rintro rfl
    cases h
  unfold read at h
  split at h
  · cases h
  split at h
  · cases h
  · next hvalue =>
    split at h
    · next hblank =>
      have hleads := ((Leads.skipBlanks Leads.outside_ne cs).trans
        ((Leads.readFuel _).1 hvalue 0)).trans (Leads.skipBlanks Leads.outside_ne _)
      rw [hblank] at hleads
      obtain ⟨used, rfl, hscan⟩ := hleads
      rwa [List.append_nil]
    · cases h

/-- The ends of lines make no difference, not even behind a backslash. -/
theorem scan_unifyLines (s : Nesting) (cs : List Char) :
    s.scan (Text.ofChars (unifyLines cs)) = s.scan (Text.ofChars cs) := by
  have hreturn (s : Nesting) : s.step (.char '\r') = s.step (.char '\n') := by
    obtain ⟨quoting, depth⟩ := s
    cases quoting <;> rfl
  have hagain (s : Nesting) : (s.step (.char '\r')).step (.char '\n') = s.step (.char '\n') := by
    obtain ⟨quoting, depth⟩ := s
    cases quoting <;> rfl
  fun_induction unifyLines cs generalizing s with
  | case1 rest ih =>
    exact (ih _).trans (congrArg (scan · (Text.ofChars rest)) (hagain s)).symm
  | case2 rest _ ih =>
    exact (ih _).trans (congrArg (scan · (Text.ofChars rest)) (hreturn s)).symm
  | case3 c rest _ _ ih => exact ih _
  | case4 => rfl

/-! ### A document is deep inside -/

/-- Does the text lead nowhere, and never out of the braces that were open before it? -/
structure Balanced (q : Quoting) (t : Text) : Prop where
  settles : ∀ d, (Nesting.mk q d).scan t = ⟨q, d⟩
  above : ∀ d front, front <+: t → d ≤ ((Nesting.mk q d).scan front).depth

namespace Balanced

variable {q q' : Quoting} {t t' : Text} {c o : CodePoint}

theorem nil (q : Quoting) : Balanced q [] where
  settles _ := rfl
  above d front h := by
    obtain rfl := List.prefix_nil.mp h
    exact Nat.le_refl d

theorem append (h : Balanced q t) (h' : Balanced q t') : Balanced q (t ++ t') where
  settles d := by rw [scan_append, h.settles, h'.settles]
  above d front hfront := by
    rcases List.prefix_or_prefix_of_prefix hfront (List.prefix_append t t') with hshort | hlong
    · exact h.above d front hshort
    · obtain ⟨back, rfl⟩ := hlong
      rw [scan_append, h.settles]
      exact h'.above d back ((List.prefix_append_right_inj t).mp hfront)

theorem flatMap {α : Type} {f : α → Text} {items : List α} (h : ∀ a ∈ items, Balanced q (f a)) :
    Balanced q (items.flatMap f) := by
  induction items with
  | nil => exact nil q
  | cons a items ih =>
    rw [List.flatMap_cons]
    exact (h a List.mem_cons_self).append (ih fun x hx => h x (List.mem_cons_of_mem _ hx))

theorem intercalate {sep : Text} {items : List Text} (hsep : Balanced q sep)
    (h : ∀ t ∈ items, Balanced q t) : Balanced q (List.intercalate sep items) := by
  induction items with
  | nil => exact nil q
  | cons t items ih =>
    have ht := h t List.mem_cons_self
    have hrest := ih fun x hx => h x (List.mem_cons_of_mem _ hx)
    cases items with
    | nil => simpa [List.intercalate] using ht
    | cons next items => exact ht.append (hsep.append hrest)

/-- A code point over which the walk stays where it is. -/
theorem single (h : ∀ d, (Nesting.mk q d).step c = ⟨q, d⟩) : Balanced q [c] where
  settles d := h d
  above d front hfront := by
    rcases List.prefix_cons_iff.mp hfront with rfl | ⟨back, rfl, hback⟩
    · exact Nat.le_refl d
    · obtain rfl := List.prefix_nil.mp hback
      rw [scan_cons, h]
      exact Nat.le_refl d

theorem of_neutral (hq : q ≠ .escaped) (cs : List Char) (h : ∀ c ∈ cs, IsNeutral c) :
    Balanced q (Text.ofChars cs) := by
  have hsingles : Text.ofChars cs = cs.flatMap fun c => [.char c] := List.map_eq_flatMap
  rw [hsingles]
  exact flatMap fun c hc => single fun d => step_of_isNeutral (h c hc) hq

/-- Behind the opening of something balanced and in front of its end, the walk is as deep as the opening
leads. -/
theorem inner {k : Nat} (h : Balanced q' t) (hopen : ∀ d, (Nesting.mk q d).step o = ⟨q', d + k⟩)
    {front : Text} (hfront : front <+: o :: t) (hne : front ≠ []) (d : Nat) :
    d + k ≤ ((Nesting.mk q d).scan front).depth := by
  rcases List.prefix_cons_iff.mp hfront with rfl | ⟨back, rfl, hback⟩
  · exact absurd rfl hne
  · rw [scan_cons, hopen]
    exact h.above _ _ hback

/-- A front of what is enclosed is empty, or the whole, or it ends inside. -/
theorem front_cases {front : Text} (hfront : front <+: o :: t ++ [c]) :
    front = [] ∨ front = o :: t ++ [c] ∨ front ≠ [] ∧ front <+: o :: t := by
  rcases List.prefix_concat_iff.mp hfront with rfl | hinner
  · exact .inr (.inl rfl)
  · by_cases hne : front = []
    · exact .inl hne
    · exact .inr (.inr ⟨hne, hinner⟩)

/-- **Something balanced that is enclosed** is balanced. -/
theorem enclosed {k : Nat} (h : Balanced q' t) (hopen : ∀ d, (Nesting.mk q d).step o = ⟨q', d + k⟩)
    (hclose : ∀ d, (Nesting.mk q' (d + k)).step c = ⟨q, d⟩) : Balanced q (o :: t ++ [c]) := by
  have hsettles (d : Nat) : (Nesting.mk q d).scan (o :: t ++ [c]) = ⟨q, d⟩ := by
    rw [scan_append, scan_cons _ o, hopen, h.settles, scan_cons, hclose, scan_nil]
  refine ⟨hsettles, fun d front hfront => ?_⟩
  rcases front_cases hfront with rfl | rfl | ⟨hne, hinner⟩
  · exact Nat.le_refl d
  · rw [hsettles]
  · exact Nat.le_trans (Nat.le_add_right d k) (h.inner hopen hinner hne d)

/-! #### Tokens -/

theorem escape (c : CodePoint) : Balanced .inside (escape false c) := by
  have hpair (x : CodePoint) : Balanced .inside [.char '\\', x] :=
    enclosed (k := 0) (nil .escaped) (fun _ => rfl) fun _ => rfl
  cases c with
  | char c =>
    obtain ⟨letter, h, -⟩ | ⟨hn, h⟩ | ⟨-, hquote, hslash, h⟩ := escape_cases c
    · rw [h]
      exact hpair _
    · have hdigits : ∀ n < 32, (Text.hexDigits 4 n).all (IsNeutral ·) = true := by decide
      have hneutral : ∀ x ∈ Text.hexDigits 4 c.toNat, IsNeutral x := fun x hx =>
        of_decide_eq_true (List.all_eq_true.mp (hdigits _ hn) x hx)
      rw [h]
      exact (hpair (.char 'u')).append (of_neutral (by decide) _ hneutral)
    · rw [h]
      exact single fun d => by simp [step, hquote, hslash]
  | half offset =>
    have hhigh : 0xD800 ≤ (CodePoint.half offset).toNat := Nat.le_add_right _ _
    have h : Json.escape false (.half offset) = [.half offset] := by
      simp only [Json.escape, reduceCtorEq, if_false, Bool.false_and]
      rw [if_neg (by omega), if_neg (by omega), if_neg (by omega)]
    rw [h]
    exact single fun _ => rfl

/-- What stands between quotes is balanced. -/
theorem quote (t : Text) : Balanced .outside (quote false t) :=
  enclosed (k := 0) (flatMap fun c _ => escape c) (fun _ => rfl) fun _ => rfl

theorem int (n : Int) : Balanced .outside (Text.ofInt n) := by
  rw [IssueKey.ofInt_eq_decimal]
  refine of_neutral (by decide) _ fun c hc => ?_
  rcases IssueKey.isDigit_of_mem_decimal hc with hdigit | rfl
  · exact isNeutral_of_isDigit hdigit
  · decide

theorem lineBreak (level : Nat) : Balanced .outside (Text.ofChars (lineBreak level)) :=
  of_neutral (by decide) _ fun _ hc => isNeutral_of_isBlank (isBlank_of_mem_lineBreak hc)

/-- Items in braces on a page are something balanced in braces. -/
theorem exists_of_enclose {level : Nat} {items : List (List Token)}
    (h : ∀ item ∈ items, Balanced .outside (item.flatMap (Token.render false))) :
    ∃ body, Balanced .outside body ∧
      (sortedPage.enclose level "\x7b" "\x7d" items).flatMap (Token.render false) =
        .char '\x7b' :: body ++ [.char '\x7d'] := by
  unfold Layout.enclose
  split
  · exact ⟨[], nil _, rfl⟩
  · have hbetween : Balanced .outside
        ((sortedPage.between (level + 1)).flatMap (Token.render false)) := by
      have hcomma : sortedPage.between (level + 1) = .mark "," :: sortedPage.break (level + 1) := rfl
      rw [hcomma, List.flatMap_cons, render_break]
      exact (of_neutral (by decide) [','] (by simp [IsNeutral])).append (lineBreak _)
    have hitems : Balanced .outside
        ((List.intercalate (sortedPage.between (level + 1)) items).flatMap (Token.render false)) := by
      rw [flatMap_intercalate]
      exact hbetween.intercalate (List.forall_mem_map.mpr h)
    refine ⟨_, (lineBreak (level + 1)).append (hitems.append (lineBreak level)), ?_⟩
    have hopen : Token.render false (.mark "\x7b") = [.char '\x7b'] := rfl
    have hclose : Token.render false (.mark "\x7d") = [.char '\x7d'] := rfl
    rw [List.cons_append, List.cons_append, List.cons_append, List.flatMap_cons,
      List.flatMap_append, List.flatMap_append, List.flatMap_append, render_break,
      render_break, List.flatMap_singleton, hopen, hclose]
    simp

/-- So is an object on a page, if its values are balanced. -/
theorem exists_of_object {level : Nat} {fields : List (Text × Json)}
    (h : ∀ f ∈ fields,
      Balanced .outside ((tokensAt sortedPage (level + 1) f.2).flatMap (Token.render false))) :
    ∃ body, Balanced .outside body ∧
      (tokensAt sortedPage level (.object fields)).flatMap (Token.render false) =
        .char '\x7b' :: body ++ [.char '\x7d'] := by
  rw [tokensAt]
  refine exists_of_enclose fun item hitem => ?_
  obtain ⟨f, hf, rfl⟩ := (Store.mem_items_iff _ _).mp hitem
  have hcolon : Token.render false (.mark ": ") = Text.ofChars [':', ' '] := rfl
  rw [List.flatMap_cons, List.flatMap_cons, hcolon]
  exact (quote f.1).append ((of_neutral (by decide) _ (by simp [IsNeutral])).append (h f hf))

theorem record (r : Record) (level : Nat) :
    Balanced .outside ((tokensAt sortedPage level r.toJson).flatMap (Token.render false)) := by
  have hfields : ∀ f ∈ r.fields,
      Balanced .outside ((tokensAt sortedPage (level + 1) f.2).flatMap (Token.render false)) := by
    simp only [Record.fields, List.forall_mem_cons, tokensAt, List.flatMap_singleton]
    exact ⟨quote _, int _, int _, List.forall_mem_nil _⟩
  obtain ⟨body, hbody, hrender⟩ := exists_of_object hfields
  rw [Record.toJson_eq, hrender]
  exact hbody.enclosed (k := 1) (fun _ => rfl) fun _ => rfl

end Balanced

/-- **Inside a document the walk is deep**: no front of it but the empty one and the whole is at depth
zero. -/
theorem scan_front {records : Table Text Record} {front : Text}
    (hfront : front <+: (Store.documentOf records).render sortedPage) (hne : front ≠ [])
    (hproper : front ≠ (Store.documentOf records).render sortedPage) :
    (Nesting.mk .outside 0).scan front ≠ ⟨.outside, 0⟩ := by
  have hvalues : ∀ f ∈ records.entries.map fun e => (e.1, e.2.toJson),
      Balanced .outside ((tokensAt sortedPage 1 f.2).flatMap (Token.render false)) :=
    List.forall_mem_map.mpr fun e _ => Balanced.record e.2 1
  obtain ⟨body, hbody, hrender⟩ := Balanced.exists_of_object hvalues
  have hwhole : (Store.documentOf records).render sortedPage = .char '\x7b' :: body ++ [.char '\x7d'] :=
    hrender
  rw [hwhole] at hfront hproper
  rcases Balanced.front_cases hfront with rfl | rfl | ⟨-, hinner⟩
  · exact absurd rfl hne
  · exact absurd rfl hproper
  · intro hscan
    have hdeep := hbody.inner (q := .outside) (k := 1) (fun _ => rfl) hinner hne 0
    rw [hscan] at hdeep
    exact absurd hdeep (by decide)

end Nesting

/-- **Nothing that was cut off in a document is read**: the notation is refused unless the text is whole. -/
theorem read_front {records : Table Text Record} {cs : List Char}
    (hfront : Text.ofChars cs <+: (Store.documentOf records).render sortedPage)
    (hproper : Text.ofChars cs ≠ (Store.documentOf records).render sortedPage) :
    ∃ e, read (unifyLines cs) = .error e := by
  cases hread : read (unifyLines cs) with
  | error e => exact ⟨e, rfl⟩
  | ok v =>
    obtain ⟨hne, hscan⟩ := Nesting.scan_of_read hread
    rw [Nesting.scan_unifyLines] at hscan
    refine absurd hscan (Nesting.scan_front hfront ?_ hproper)
    rintro hnil
    rw [List.map_eq_nil_iff.mp hnil] at hne
    exact hne rfl

end IssueDigest.Json
