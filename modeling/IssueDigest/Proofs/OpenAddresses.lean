import IssueDigest.Proofs.Scrubbing
import Mathlib.Data.Nat.Find
/-!
# Which web addresses scrubbing hides

Web addresses are masked last, when the other kinds have been masked already. By then the front of an
address may be gone: in `a@b.http://host` the mail address `a@b.http` takes the `http` with it, and the
host stays in the text. Whether what stands behind `://` is hidden depends on what the other masks leave
in front of it, and on nothing else: an address has to be open there (`IsOpen`).

The argument cuts texts in two. Where no secret of a kind runs across a cut, masking the whole is masking
the two parts (`mask_append_of_apart`). No secret of the other kinds runs across a `:`, and no secret at
all across a blank or a quotation mark.
-/

namespace IssueDigest.Scrub

open Secret

/-- The text with all secrets masked but the web addresses. -/
def maskOthers (t : Text) : Text := mask .token (mask .accessToken (mask .secretKey (mask .mail t)))

/-- Does a web address start in the text that would go on behind its end? -/
def IsOpen (t : Text) : Prop :=
  ∃ front link rest, t = front ++ (link ++ rest) ∧ IsLink link ∧ ∀ c ∈ rest, isAddress c

variable {kind : Secret} {a b t u : Text} {c : CodePoint}

/-! ### Cuts -/

/-- Does no secret of the kind run across the cut between the two texts? -/
def Secret.Apart (kind : Secret) (a b : Text) : Prop :=
  ∀ a' b', a' <:+ a → a' ≠ [] → b' <+: b → b' ≠ [] → ¬kind.Is (a' ++ b')

theorem Secret.Apart.of_suffix {a' : Text} (h : kind.Apart a b) (ha : a' <:+ a) : kind.Apart a' b :=
  fun a'' b' ha' => h a'' b' (ha'.trans ha)

theorem Secret.Apart.nil (kind : Secret) (a : Text) : kind.Apart a [] :=
  fun _ _ _ _ hb hne => absurd (List.prefix_nil.mp hb) hne

/-- No secret runs across a code point that does not stand in any. -/
theorem Secret.Apart.of_barrier {test : CodePoint → Bool} (hall : ∀ w, kind.Is w → ∀ c ∈ w, test c)
    (hc : test c = false) : kind.Apart a (c :: b) := by
  intro a' b' _ _ hb hne his
  obtain ⟨d, b', rfl⟩ := List.exists_cons_of_ne_nil hne
  obtain rfl := (List.cons_prefix_cons.mp hb).1
  have hd := hall _ his d (List.mem_append_right a' List.mem_cons_self)
  rw [hc] at hd
  cases hd

/-- **Masking a text that is cut where no secret runs across.** -/
theorem mask_append_of_apart (h : kind.Apart a b) : kind.mask (a ++ b) = kind.mask a ++ kind.mask b := by
  -- A front of the whole that is a secret does not reach the second part.
  have hwithin {a' w : Text} (ha : a' <:+ a) (hne : a' ≠ []) (hw : w <+: a' ++ b) (his : kind.Is w) :
      w <+: a' := by
    rcases List.prefix_or_prefix_of_prefix hw (List.prefix_append a' b) with hle | ⟨b', rfl⟩
    · exact hle
    · by_cases hb : b' = []
      · simp [hb]
      · exact absurd his (h a' b' ha hne ((List.prefix_append_right_inj a').mp hw) hb)
  induction a using mask_induction kind with
  | nil => rfl
  | found w rest hw ih =>
    obtain ⟨hfront, his, hlongest⟩ := hw
    have hne : w ++ rest ≠ [] := fun hnil => his.ne_nil (List.append_eq_nil_iff.mp hnil).1
    have hleads : kind.Leads w (w ++ (rest ++ b)) := by
      refine ⟨List.prefix_append _ _, his, fun w' hw' his' => ?_⟩
      rw [← List.append_assoc] at hw'
      exact hlongest w' (hwithin List.suffix_rfl hne hw' his') his'
    rw [List.append_assoc, mask_append hleads, mask_append ⟨hfront, his, hlongest⟩, List.append_assoc,
      ih (h.of_suffix (List.suffix_append w rest))
        fun ha => hwithin (ha.trans (List.suffix_append w rest))]
  | kept c rest hnone ih =>
    have hnone' : ∀ w, w <+: c :: (rest ++ b) → ¬kind.Is w := fun w hw his =>
      hnone w (hwithin List.suffix_rfl (List.cons_ne_nil _ _) hw his) his
    rw [List.cons_append, mask_cons hnone', mask_cons hnone, List.cons_append,
      ih (h.of_suffix (List.suffix_cons c rest)) fun ha => hwithin (ha.trans (List.suffix_cons c rest))]

/-- Masking goes past a code point that stands in no secret of the kind. -/
theorem mask_barrier {test : CodePoint → Bool} (hall : ∀ w, kind.Is w → ∀ c ∈ w, test c)
    (hc : test c = false) (a b : Text) : kind.mask (a ++ c :: b) = kind.mask a ++ c :: kind.mask b := by
  rw [mask_append_of_apart (.of_barrier hall hc), mask_cons fun w hw his => ?_]
  obtain ⟨d, w, rfl⟩ := List.exists_cons_of_ne_nil his.ne_nil
  obtain rfl := (List.cons_prefix_cons.mp hw).1
  have hd := hall _ his d List.mem_cons_self
  rw [hc] at hd
  cases hd

theorem maskOthers_barrier (hc : isPart c = false) (a b : Text) :
    maskOthers (a ++ c :: b) = maskOthers a ++ c :: maskOthers b := by
  have hpast (kind : Secret) (hkind : kind ≠ .address) (a b : Text) :
      kind.mask (a ++ c :: b) = kind.mask a ++ c :: kind.mask b :=
    mask_barrier (fun w hw => hw.isPart hkind) hc a b
  simp only [maskOthers, hpast .mail (by decide), hpast .secretKey (by decide),
    hpast .accessToken (by decide), hpast .token (by decide)]

theorem scrub_eq_mask (t : Text) : scrub t = mask .address (maskOthers t) := rfl

/-- Scrubbing goes past blanks and quotation marks. -/
theorem scrub_barrier (hc : isAddress c = false) (a b : Text) :
    scrub (a ++ c :: b) = scrub a ++ c :: scrub b := by
  have hpart : isPart c = false := Bool.eq_false_iff.mpr fun h => by
    rw [isAddress_of_isPart h] at hc
    cases hc
  rw [scrub_eq_mask, maskOthers_barrier hpart, mask_barrier (fun w hw => hw.isAddress) hc]
  rfl

/-! ### Runs -/

theorem mask_ne_nil (h : t ≠ []) : kind.mask t ≠ [] := by
  induction t using mask_induction kind with
  | nil => exact absurd rfl h
  | found w rest hw _ => simp [mask_append hw, Secret.label]
  | kept c rest hnone _ => simp [mask_cons hnone]

theorem mask_run (h : ∀ c ∈ t, isAddress c) : ∀ c ∈ kind.mask t, isAddress c := by
  induction t using mask_induction kind with
  | nil => exact h
  | found w rest hw ih =>
    have hlabel : ∀ c ∈ kind.label, isAddress c := by cases kind <;> decide
    rw [mask_append hw]
    intro c hc
    rcases List.mem_append.mp hc with hc | hc
    · exact hlabel c hc
    · exact ih (fun c hc => h c (List.mem_append_right w hc)) c hc
  | kept c rest hnone ih =>
    rw [mask_cons hnone]
    intro d hd
    rcases List.mem_cons.mp hd with rfl | hd
    · exact h d List.mem_cons_self
    · exact ih (fun c hc => h c (List.mem_cons_of_mem _ hc)) d hd

theorem maskOthers_ne_nil (h : u ≠ []) : maskOthers u ≠ [] :=
  mask_ne_nil (mask_ne_nil (mask_ne_nil (mask_ne_nil h)))

theorem maskOthers_run (h : ∀ c ∈ u, isAddress c) : ∀ c ∈ maskOthers u, isAddress c :=
  mask_run (mask_run (mask_run (mask_run h)))

/-! ### Open and closed texts -/

/-- The front of an address has its `h` at the front only. -/
theorem IsLink.not_mem_tail {link : Text} (h : IsLink link) : .char 'h' ∉ link.tail := by
  rcases h with rfl | rfl <;> decide

theorem IsLink.exists_cons {link : Text} (h : IsLink link) : ∃ rest, link = .char 'h' :: rest := by
  rcases h with rfl | rfl <;> exact ⟨_, rfl⟩

/-- Two ways to cut one list: the first cut is not before the second, or it is. -/
theorem append_eq_append_cases {α : Type*} {a b c d : List α} (h : a ++ b = c ++ d) :
    (∃ y, a = c ++ y ∧ d = y ++ b) ∨ ∃ x z, c = a ++ x :: z ∧ b = x :: (z ++ d) := by
  rcases List.append_eq_append_iff.mp h with ⟨z, rfl, rfl⟩ | ⟨y, rfl, rfl⟩
  · cases z with
    | nil => exact .inl ⟨[], by simp⟩
    | cons x z => exact .inr ⟨x, z, rfl, rfl⟩
  · exact .inl ⟨y, rfl, rfl⟩

/-- No address runs across the front of the one that is open first. -/
theorem apart_of_first {front link rest : Text} (hlink : IsLink link) (hrest : ∀ c ∈ rest, isAddress c)
    (hfirst : ∀ front' link' rest', front ++ (link ++ rest) = front' ++ (link' ++ rest') → IsLink link' →
      (∀ c ∈ rest', isAddress c) → front.length ≤ front'.length) (u : Text) :
    Secret.address.Apart front (link ++ (rest ++ u)) := by
  rintro a b ⟨front', rfl⟩ hne hb - ⟨link', rest', heq, hlink', -, hrest'⟩
  rcases append_eq_append_cases heq with ⟨y, rfl, rfl⟩ | ⟨d, z, rfl, rfl⟩
  · -- This one would be open before the first.
    have hrun : ∀ c ∈ y ++ (link ++ rest), isAddress c := by
      simp only [List.mem_append]
      rintro c (hc | hc | hc)
      · exact hrest' c (List.mem_append_left b hc)
      · exact hlink.isAddress c hc
      · exact hrest c hc
    have hle := hfirst front' link' (y ++ (link ++ rest)) (by simp) hlink' hrun
    have := List.length_pos_iff.mpr hne
    rw [List.length_append] at hle
    omega
  · -- The front of this one would have a second `h`, where the first one starts.
    obtain ⟨l, rfl⟩ := hlink.exists_cons
    obtain rfl := (List.cons_prefix_cons.mp hb).1
    obtain ⟨x, a, rfl⟩ := List.exists_cons_of_ne_nil hne
    exact hlink'.not_mem_tail (List.mem_append_right a List.mem_cons_self)

/-- **Behind an open address** everything up to the next blank or quotation mark is hidden. -/
theorem IsOpen.exists_mask (h : IsOpen t) :
    ∃ hidden, ∀ u, u ≠ [] → (∀ c ∈ u, isAddress c) → Secret.address.mask (t ++ u) = hidden := by
  classical
  obtain ⟨front, ⟨link, rest, rfl, hlink, hrest⟩, hfirst⟩ :
      ∃ front, (∃ link rest, t = front ++ (link ++ rest) ∧ IsLink link ∧ ∀ c ∈ rest, isAddress c) ∧
        ∀ front' link' rest', t = front' ++ (link' ++ rest') → IsLink link' →
          (∀ c ∈ rest', isAddress c) → front.length ≤ front'.length := by
    have hsome : ∃ n, ∃ front : Text, front.length = n ∧
        ∃ link rest, t = front ++ (link ++ rest) ∧ IsLink link ∧ ∀ c ∈ rest, isAddress c := by
      obtain ⟨front, h⟩ := h
      exact ⟨_, front, rfl, h⟩
    obtain ⟨front, hlength, hfront⟩ := Nat.find_spec hsome
    refine ⟨front, hfront, fun front' link' rest' ht hlink' hrest' => ?_⟩
    rw [hlength]
    exact Nat.find_min' hsome ⟨front', rfl, link', rest', ht, hlink', hrest'⟩
  refine ⟨Secret.address.mask front ++ Secret.address.label, fun u hne hu => ?_⟩
  have hwhole : Secret.address.Leads (link ++ (rest ++ u)) (link ++ (rest ++ u) ++ []) := by
    refine ⟨List.prefix_append _ _, ⟨link, rest ++ u, rfl, hlink, ?_, ?_⟩, fun w hw _ => ?_⟩
    · exact fun hnil => hne (List.append_eq_nil_iff.mp hnil).2
    · exact fun c hc => (List.mem_append.mp hc).elim (hrest c) (hu c)
    · rw [List.append_nil] at hw
      exact hw.length_le
  have hmask := mask_append hwhole
  rw [List.append_nil, mask_nil, List.append_nil] at hmask
  rw [List.append_assoc, List.append_assoc, mask_append_of_apart (apart_of_first hlink hrest hfirst u), hmask]

/-- No proper part of the front of an address ends as the whole does. -/
theorem IsLink.eq_of_suffix {link a : Text} (h : IsLink link) (hlink : a <+: link)
    (ha : a <:+ t ++ Text.ofString "://") (hne : a ≠ []) : a = link := by
  have hends := List.suffix_or_suffix_of_suffix ha (List.suffix_append t (Text.ofString "://"))
  have hmem := List.mem_inits a link |>.mpr hlink
  have hall : ∀ link ∈ [Text.ofString "https://", Text.ofString "http://"], ∀ a ∈ link.inits,
      (a <:+ Text.ofString "://" ∨ Text.ofString "://" <:+ a) → a ≠ [] → a = link := by decide
  refine hall link ?_ a hmem hends hne
  rcases h with rfl | rfl <;> simp

/-- **Behind a closed text** an address is not hidden: what follows is masked as if it stood alone. -/
theorem mask_of_not_isOpen (h : ¬IsOpen (t ++ Text.ofString "://")) (u : Text) :
    Secret.address.mask (t ++ Text.ofString "://" ++ u) =
      Secret.address.mask t ++ Text.ofString "://" ++ Secret.address.mask u := by
  have hbefore : Secret.address.Apart t (Text.ofString "://") := by
    rintro a b ⟨front, rfl⟩ - ⟨b', hb⟩ - ⟨link, rest, heq, hlink, -, hrest⟩
    refine h ⟨front, link, rest ++ b', ?_, hlink, fun c hc => ?_⟩
    · rw [← hb, List.append_assoc, ← List.append_assoc a, heq, List.append_assoc]
    · rcases List.mem_append.mp hc with hc | hc
      · exact hrest c hc
      · have hscheme : ∀ c ∈ Text.ofString "://", isAddress c := by decide
        exact hscheme c (hb ▸ List.mem_append_right b hc)
  have hbehind : Secret.address.Apart (t ++ Text.ofString "://") u := by
    rintro a b ⟨front, hfront⟩ hne - hbne ⟨link, rest, heq, hlink, -, hrest⟩
    rcases append_eq_append_cases heq with ⟨y, rfl, rfl⟩ | ⟨d, z, hlink', rfl⟩
    · exact h ⟨front, link, y, hfront.symm, hlink, fun c hc => hrest c (List.mem_append_left b hc)⟩
    · have := hlink.eq_of_suffix ⟨d :: z, hlink'.symm⟩ ⟨front, hfront⟩ hne
      simp [← this] at hlink'
  have hscheme : Secret.address.mask (Text.ofString "://") = Text.ofString "://" := by decide
  rw [mask_append_of_apart hbehind, mask_append_of_apart hbefore, hscheme]

/-! ### What the other masks leave of a scheme -/

/-- Does the text end neither in a letter or digit nor in a point? -/
def EndsLoose (t : Text) : Prop := ∀ c, [c] <:+ t → isAlnum c = false ∧ c ≠ .char '.'

theorem endsLoose_concat (t : Text) (halnum : isAlnum c = false) (hpoint : c ≠ .char '.') :
    EndsLoose (t ++ [c]) := by
  intro d hd
  have heq := (List.suffix_of_suffix_length_le hd (List.suffix_append t [c]) le_rfl).eq_of_length rfl
  obtain rfl := (List.cons.inj heq).1
  exact ⟨halnum, hpoint⟩

/-- A secret of another kind that ends in a few letters has a letter, a digit or a point in front of
them. -/
theorem Secret.Is.of_letters {w letters : Text} (h : kind.Is w) (hkind : kind ≠ .address)
    (hw : c :: letters <:+ w) (hletters : ∀ d ∈ letters, isLetter d) (hlength : letters.length ≤ 5) :
    isAlnum c ∨ c = .char '.' := by
  have hlong {front rest : Text} (hsplit : w = front ++ rest) (hle : 20 ≤ rest.length)
      (hrest : ∀ d ∈ rest, isAlnum d) : isAlnum c := by
    refine hrest c ((List.suffix_of_suffix_length_le hw (hsplit ▸ List.suffix_append front rest) ?_).subset
      List.mem_cons_self)
    rw [List.length_cons]
    omega
  cases kind with
  | mail =>
    obtain ⟨name, _, rfl, -, -, domain, ending, rfl, -, -, -, hending⟩ := h
    have hpoint : .char '.' :: ending <:+ name ++ .char '@' :: (domain ++ .char '.' :: ending) :=
      (List.suffix_append domain _).trans ((List.suffix_cons _ _).trans (List.suffix_append name _))
    rcases List.suffix_or_suffix_of_suffix hw hpoint with hle | hle
    · rcases List.suffix_cons_iff.mp hle with heq | hle
      · exact .inr (List.cons.inj heq).1
      · exact .inl (isAlnum_of_isLetter (hending c (hle.subset List.mem_cons_self)))
    · rcases List.suffix_cons_iff.mp hle with heq | hle
      · exact .inr (List.cons.inj heq).1.symm
      · cases hletters _ (hle.subset List.mem_cons_self)
  | secretKey =>
    obtain ⟨rest, hsplit, hle, hrest⟩ := h
    exact .inl (hlong hsplit hle hrest)
  | accessToken =>
    obtain ⟨rest, hsplit, hle, hrest⟩ := h
    exact .inl (hlong hsplit (by omega) hrest)
  | token => exact .inl (h.2 c (hw.subset List.mem_cons_self))
  | address => exact absurd rfl hkind

theorem EndsLoose.apart {letters : Text} (h : EndsLoose t) (hkind : kind ≠ .address)
    (hletters : ∀ d ∈ letters, isLetter d) (hlength : letters.length ≤ 5) : kind.Apart t letters := by
  intro a b ha hne hb _ his
  obtain ⟨front, c, rfl⟩ := List.eq_nil_or_concat' a |>.resolve_left hne
  obtain ⟨halnum, hpoint⟩ := h c ((List.suffix_append front [c]).trans ha)
  have hw : c :: b <:+ front ++ [c] ++ b := ⟨front, by simp⟩
  rcases his.of_letters hkind hw (fun d hd => hletters d (hb.subset hd)) (hb.length_le.trans hlength) with
    h | h
  · rw [halnum] at h
    cases h
  · exact hpoint h

theorem EndsLoose.mask (h : EndsLoose t) : EndsLoose (kind.mask t) := by
  have hlast {c : CodePoint} (front : Text) {rest : Text} (hne : rest ≠ [])
      (hc : [c] <:+ front ++ kind.mask rest) : [c] <:+ kind.mask rest :=
    List.suffix_of_suffix_length_le hc (List.suffix_append front _)
      (List.length_pos_iff.mpr (mask_ne_nil hne))
  induction t using mask_induction kind with
  | nil => exact h
  | found w rest hw ih =>
    intro c hc
    rw [mask_append hw] at hc
    by_cases hne : rest = []
    · subst hne
      rw [mask_nil, List.append_nil] at hc
      exact endsLoose_concat (.char '<' :: Text.ofString kind.word) rfl (by decide) c hc
    · exact ih (fun d hd => h d (hd.trans (List.suffix_append w rest))) c (hlast _ hne hc)
  | kept c rest hnone ih =>
    intro d hd
    rw [mask_cons hnone] at hd
    by_cases hne : rest = []
    · subst hne
      exact h d hd
    · exact ih (fun d hd => h d (hd.trans (List.suffix_cons c rest))) d (hlast [c] hne hd)

/-- Behind a text that ends loosely the scheme of an address stays. -/
theorem EndsLoose.maskOthers_append {scheme : Text} (h : EndsLoose t)
    (hscheme : scheme = Text.ofString "http" ∨ scheme = Text.ofString "https") :
    maskOthers (t ++ scheme) = maskOthers t ++ scheme := by
  have hletters : ∀ c ∈ scheme, isLetter c := by rcases hscheme with rfl | rfl <;> decide
  have hlength : scheme.length ≤ 5 := by rcases hscheme with rfl | rfl <;> decide
  have hstep {t : Text} (h : EndsLoose t) (kind : Secret) (hkind : kind ≠ .address) :
      kind.mask (t ++ scheme) = kind.mask t ++ scheme := by
    have hstays : kind.mask scheme = scheme := by
      rcases hscheme with rfl | rfl <;> cases kind <;> decide
    rw [mask_append_of_apart (h.apart hkind hletters hlength), hstays]
  rw [maskOthers, hstep h .mail (by decide), hstep h.mask .secretKey (by decide),
    hstep h.mask.mask .accessToken (by decide), hstep h.mask.mask.mask .token (by decide)]
  rfl

/-- A scheme that stays opens an address. -/
theorem EndsLoose.isOpen {scheme : Text} (h : EndsLoose t)
    (hscheme : scheme = Text.ofString "http" ∨ scheme = Text.ofString "https") :
    IsOpen (maskOthers (t ++ scheme) ++ Text.ofString "://") := by
  refine ⟨maskOthers t, scheme ++ Text.ofString "://", [], ?_, ?_, nofun⟩
  · rw [h.maskOthers_append hscheme, List.append_nil, List.append_assoc]
  · rcases hscheme with rfl | rfl
    · exact .inr (by decide)
    · exact .inl (by decide)

/-! ### What is hidden -/

theorem maskOthers_separator (a b : Text) :
    maskOthers (a ++ Text.ofString "://" ++ b) = maskOthers a ++ Text.ofString "://" ++ maskOthers b := by
  have hcolon := @maskOthers_barrier (.char ':') rfl a (.char '/' :: .char '/' :: b)
  have hslash (b : Text) : maskOthers (.char '/' :: b) = .char '/' :: maskOthers b :=
    @maskOthers_barrier (.char '/') rfl [] b
  rw [hslash, hslash] at hcolon
  rw [List.append_assoc, List.append_assoc]
  exact hcolon

/-- **When scrubbing hides what stands behind the scheme of a web address.** It does so if, and only if,
an address is open there once the other secrets are masked; behind a text that ends neither in a letter or
digit nor in a point one always is. Where none is open, what stands behind the scheme is scrubbed as if it
stood alone, and goes into the outcome as it is otherwise. -/
theorem address_hidden_iff (p : Text) {scheme r : Text}
    (hscheme : scheme = Text.ofString "http" ∨ scheme = Text.ofString "https")
    (hr : ∀ c ∈ r.head?, isAddress c = false) :
    ((∀ u v, u ≠ [] → v ≠ [] → (∀ c ∈ u, isAddress c) → (∀ c ∈ v, isAddress c) →
        scrub (p ++ scheme ++ Text.ofString "://" ++ u ++ r) =
          scrub (p ++ scheme ++ Text.ofString "://" ++ v ++ r)) ↔
      IsOpen (maskOthers (p ++ scheme) ++ Text.ofString "://")) ∧
    (EndsLoose p → IsOpen (maskOthers (p ++ scheme) ++ Text.ofString "://")) ∧
    (¬IsOpen (maskOthers (p ++ scheme) ++ Text.ofString "://") → ∀ u,
      scrub (p ++ scheme ++ Text.ofString "://" ++ u ++ r) =
        scrub (p ++ scheme) ++ Text.ofString "://" ++ scrub u ++ scrub r) := by
  have hrest (t : Text) : scrub (t ++ r) = scrub t ++ scrub r := by
    cases r with
    | nil => rw [List.append_nil]; exact (List.append_nil _).symm
    | cons c r =>
      have hc := hr c rfl
      rw [scrub_barrier hc t r, ← List.nil_append (c :: r), scrub_barrier hc [] r]
      rfl
  have hclosed (hnot : ¬IsOpen (maskOthers (p ++ scheme) ++ Text.ofString "://")) (u : Text) :
      scrub (p ++ scheme ++ Text.ofString "://" ++ u ++ r) =
        scrub (p ++ scheme) ++ Text.ofString "://" ++ scrub u ++ scrub r := by
    rw [hrest, scrub_eq_mask, maskOthers_separator, mask_of_not_isOpen hnot]
    rfl
  refine ⟨⟨fun hsame => ?_, fun hopen => ?_⟩, fun hloose => hloose.isOpen hscheme, hclosed⟩
  · by_contra hnot
    have htwo := hsame [.char 'a'] [.char 'b'] (by decide) (by decide) (by decide) (by decide)
    rw [hclosed hnot, hclosed hnot, List.append_left_inj, List.append_right_inj] at htwo
    exact absurd htwo (by decide)
  · obtain ⟨hidden, hmask⟩ := hopen.exists_mask
    have hscrub {u : Text} (hne : u ≠ []) (hu : ∀ c ∈ u, isAddress c) :
        scrub (p ++ scheme ++ Text.ofString "://" ++ u) = hidden := by
      rw [scrub_eq_mask, maskOthers_separator]
      exact hmask _ (maskOthers_ne_nil hne) (maskOthers_run hu)
    intro u v hu hv hurun hvrun
    rw [hrest, hrest, hscrub hu hurun, hscrub hv hvrun]

theorem address_hidden_behind_blank :
    (∀ c ∈ (Text.ofString " now").head?, isAddress c = false) ∧
      ∀ u v, u ≠ [] → v ≠ [] → (∀ c ∈ u, isAddress c) → (∀ c ∈ v, isAddress c) →
        scrub (Text.ofString "see " ++ Text.ofString "https" ++ Text.ofString "://" ++ u ++
            Text.ofString " now") =
          scrub (Text.ofString "see " ++ Text.ofString "https" ++ Text.ofString "://" ++ v ++
            Text.ofString " now") := by
  have hnow : ∀ c ∈ (Text.ofString " now").head?, isAddress c = false := by decide
  obtain ⟨hiff, hopen, -⟩ := address_hidden_iff (Text.ofString "see ") (.inr rfl) hnow
  exact ⟨hnow, hiff.mpr (hopen (endsLoose_concat (Text.ofString "see") rfl (by decide)))⟩

/-- The host stays in the text where the scheme goes with a mail address. -/
theorem address_shown :
    (∀ c ∈ Text.ofString "one" ++ Text.ofString "two", isAddress c) ∧
      scrub (Text.ofString "a@b." ++ Text.ofString "http" ++ Text.ofString "://" ++
          Text.ofString "one") ≠
        scrub (Text.ofString "a@b." ++ Text.ofString "http" ++ Text.ofString "://" ++
          Text.ofString "two") := by
  decide

end IssueDigest.Scrub
