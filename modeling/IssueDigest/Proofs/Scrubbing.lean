import IssueDigest.Proofs.Secrets
/-!
# Scrubbing leaves nothing to scrub

`Secret.mask` puts the label of a kind of secret in the place of each one, from left to right, and
scrubbing masks the kinds one after another (`scrub_eq`). Masking is described by three equations, one for
each thing that can stand at the front of a text, and by the induction that goes with them; nothing else
is needed of it.

The labels stand in angle brackets, which only web addresses contain. A text without them that turns up in
a masked text has therefore stood in the text that was masked, or it lies in the word of a label
(`infix_of_infix_mask`). No secret does, so masking one kind makes no secret of another kind, and in the
end none of any kind is left.
-/

namespace IssueDigest.Scrub

namespace Secret

/-- The word that stands for a secret of the kind. -/
def word : Secret → String
  | mail => "email"
  | secretKey => "api-key"
  | accessToken => "github-token"
  | token => "token"
  | address => "url"

/-- What is put in the place of a secret of the kind. -/
def label (kind : Secret) : Text := .char '<' :: Text.ofString kind.word ++ [.char '>']

/-- The text with the label in the place of each secret of the kind. -/
def mask (kind : Secret) (t : Text) : Text := replaceFrom kind.pattern kind.label 0 t

/-- Does no secret of the kind stand in the text? -/
def Free (kind : Secret) (t : Text) : Prop := ∀ w, w <:+: t → ¬kind.Is w

end Secret

open Secret

/-- Scrubbing is masking each kind, in this order. -/
theorem scrub_eq (t : Text) :
    scrub t = mask .address (mask .token (mask .accessToken (mask .secretKey (mask .mail t)))) := rfl

/-! ### Masking -/

variable {kind other : Secret} {t w rest : Text} {c : CodePoint}

/-- No secret is empty. -/
theorem Secret.Is.ne_nil (h : kind.Is w) : w ≠ [] := by
  rintro rfl
  cases kind with
  | mail => obtain ⟨_, _, hw, _⟩ := h; simp at hw
  | secretKey => obtain ⟨_, hw, _⟩ := h; simp [Text.ofString, Text.ofChars] at hw
  | accessToken => obtain ⟨_, hw, _⟩ := h; simp [Text.ofString, Text.ofChars] at hw
  | token => exact absurd h.1 (by simp)
  | address =>
    obtain ⟨_, _, hw, _, hne, _⟩ := h
    exact hne (List.append_eq_nil_iff.mp hw.symm).2

theorem replaceFrom_skip (pattern : Pattern) (label : Text) (n : Nat) (t : Text) :
    replaceFrom pattern label n t = replaceFrom pattern label 0 (t.drop n) := by
  induction t generalizing n with
  | nil => simp [replaceFrom]
  | cons c rest ih =>
    cases n with
    | zero => rfl
    | succ n => simpa [replaceFrom] using ih n

/-- Is it the longest secret of the kind at the front of the text? -/
def Secret.Leads (kind : Secret) (w t : Text) : Prop :=
  w <+: t ∧ kind.Is w ∧ ∀ w', w' <+: t → kind.Is w' → w'.length ≤ w.length

@[simp]
theorem mask_nil : kind.mask [] = [] := rfl

/-- The longest secret at the front gives way to the label. -/
theorem mask_append (h : kind.Leads w (w ++ rest)) :
    kind.mask (w ++ rest) = kind.label ++ kind.mask rest := by
  obtain ⟨-, his, hlongest⟩ := h
  have hpattern : kind.pattern (w ++ rest) = some w.length := by
    cases hfound : kind.pattern (w ++ rest) with
    | none => exact absurd his (kind.finds.missed hfound w (List.prefix_append _ _))
    | some n =>
      obtain ⟨w', hw', his', rfl, hle⟩ := kind.finds.found hfound
      exact congrArg some (Nat.le_antisymm (hlongest w' hw' his') (hle w (List.prefix_append _ _) his))
  obtain ⟨c, v, rfl⟩ := List.exists_cons_of_ne_nil his.ne_nil
  rw [List.cons_append] at hpattern
  simp only [mask, List.cons_append, replaceFrom, hpattern]
  rw [replaceFrom_skip, List.length_cons, Nat.add_sub_cancel, List.drop_left]

/-- Where no secret stands at the front, the first code point stays. -/
theorem mask_cons (h : ∀ w, w <+: c :: rest → ¬kind.Is w) : kind.mask (c :: rest) = c :: kind.mask rest := by
  have hpattern : kind.pattern (c :: rest) = none := by
    cases hfound : kind.pattern (c :: rest) with
    | none => rfl
    | some n =>
      obtain ⟨w, hw, his, -⟩ := kind.finds.found hfound
      exact absurd his (h w hw)
  simp only [mask, replaceFrom, hpattern]

/-- A text is empty, or a secret stands at its front, or a code point with which none starts. -/
theorem mask_induction (kind : Secret) {motive : Text → Prop} (nil : motive [])
    (found : ∀ w rest, kind.Leads w (w ++ rest) → motive rest → motive (w ++ rest))
    (kept : ∀ c rest, (∀ w, w <+: c :: rest → ¬kind.Is w) → motive rest → motive (c :: rest)) (t : Text) :
    motive t := by
  induction hlength : t.length using Nat.strong_induction_on generalizing t with
  | _ n ih =>
  subst hlength
  cases t with
  | nil => exact nil
  | cons c rest =>
    cases hfound : kind.pattern (c :: rest) with
    | none => exact kept c rest (kind.finds.missed hfound) (ih _ (Nat.lt_succ_self _) rest rfl)
    | some n =>
      obtain ⟨w, ⟨rest', heq⟩, his, rfl, hlongest⟩ := kind.finds.found hfound
      rw [← heq] at ih hlongest ⊢
      refine found w rest' ⟨List.prefix_append _ _, his, hlongest⟩ (ih _ ?_ rest' rfl)
      have := List.length_pos_iff.mpr his.ne_nil
      rw [List.length_append]
      omega

/-- Where no secret stands, masking changes nothing. -/
theorem mask_of_free (h : kind.Free t) : kind.mask t = t := by
  induction t with
  | nil => rfl
  | cons c rest ih =>
    rw [mask_cons fun w hw => h w hw.isInfix, ih fun w hw => h w (hw.trans (List.suffix_cons c rest).isInfix)]

/-! ### Texts without brackets -/

/-- Is the text free of the brackets in which labels stand? -/
def IsPlain (t : Text) : Prop := .char '<' ∉ t ∧ .char '>' ∉ t

instance : Decidable (IsPlain t) := inferInstanceAs (Decidable (_ ∧ _))

theorem IsPlain.tail (h : IsPlain (c :: t)) : IsPlain t :=
  ⟨fun hmem => h.1 (List.mem_cons_of_mem c hmem), fun hmem => h.2 (List.mem_cons_of_mem c hmem)⟩

theorem IsLink.isPlain (h : IsLink t) : IsPlain t := by
  rcases h with rfl | rfl <;> decide

/-- Web addresses alone have brackets in them. -/
theorem Secret.Is.isPlain (h : kind.Is w) (hkind : kind ≠ .address) : IsPlain w :=
  ⟨fun hmem => absurd (h.isPart hkind _ hmem) (by decide),
    fun hmem => absurd (h.isPart hkind _ hmem) (by decide)⟩

/-- A plain front of a masked text has been left as it was, with all that is masked behind it. -/
theorem exists_of_prefix_mask (hplain : IsPlain w) (hw : w <+: kind.mask t) :
    ∃ rest, t = w ++ rest ∧ kind.mask t = w ++ kind.mask rest := by
  induction t using mask_induction kind generalizing w with
  | nil => exact ⟨[], by simpa using (List.prefix_nil.mp hw).symm, by simpa using List.prefix_nil.mp hw⟩
  | found v rest hv ih =>
    cases w with
    | nil => exact ⟨v ++ rest, rfl, rfl⟩
    | cons c w =>
      rw [mask_append hv] at hw
      obtain rfl := (List.cons_prefix_cons.mp hw).1
      exact absurd List.mem_cons_self hplain.1
  | kept c rest hnone ih =>
    cases w with
    | nil => exact ⟨c :: rest, rfl, rfl⟩
    | cons d w =>
      rw [mask_cons hnone] at hw ⊢
      obtain ⟨rfl, hbehind⟩ := List.cons_prefix_cons.mp hw
      obtain ⟨rest', rfl, hmask⟩ := ih hplain.tail hbehind
      exact ⟨rest', rfl, congrArg (d :: ·) hmask⟩

/-- **What follows a place of a masked text** is the rest of a label with all that is masked behind it, or
it is what a text is masked to that is left of the whole, and at whose front no secret stands. -/
theorem suffix_mask_cases {s : Text} (hs : s <:+ kind.mask t) (hne : s ≠ []) :
    (∃ l rest, l <:+ kind.label ∧ l ≠ [] ∧ s = l ++ kind.mask rest) ∨
      ∃ rest, rest <:+ t ∧ s = kind.mask rest ∧ ∀ w, w <+: rest → ¬kind.Is w := by
  induction t using mask_induction kind with
  | nil => exact absurd (List.suffix_nil.mp hs) hne
  | found v rest hv ih =>
    rw [mask_append hv] at hs
    by_cases hle : s.length ≤ (kind.mask rest).length
    · have hbehind := List.suffix_of_suffix_length_le hs (List.suffix_append kind.label _) hle
      refine (ih hbehind).imp_right ?_
      rintro ⟨rest', hsuffix, hrest⟩
      exact ⟨rest', hsuffix.trans (List.suffix_append v rest), hrest⟩
    · obtain ⟨front, hfront⟩ := hs
      rcases List.append_eq_append_iff.mp hfront with ⟨l, hl, rfl⟩ | ⟨l, -, hmask⟩
      · refine .inl ⟨l, rest, ⟨front, hl.symm⟩, ?_, rfl⟩
        rintro rfl
        exact hle le_rfl
      · exact absurd (hmask ▸ (List.suffix_append l s).length_le) hle
  | kept c rest hnone ih =>
    rw [mask_cons hnone] at hs
    rcases List.suffix_cons_iff.mp hs with rfl | hs
    · exact .inr ⟨c :: rest, List.suffix_rfl, (mask_cons hnone).symm, hnone⟩
    · refine (ih hs).imp_right ?_
      rintro ⟨rest', hsuffix, hrest⟩
      exact ⟨rest', hsuffix.trans (List.suffix_cons c rest), hrest⟩

/-- A prefix without the element lies in front of it. -/
theorem prefix_of_prefix_middle {α : Type*} {w front back : List α} {x : α} (hx : x ∉ w)
    (h : w <+: front ++ x :: back) : w <+: front := by
  rcases List.prefix_or_prefix_of_prefix h ⟨x :: back, rfl⟩ with hw | ⟨w', rfl⟩
  · exact hw
  · rw [List.prefix_append_right_inj] at h
    cases w' with
    | nil => simp
    | cons y w' =>
      obtain rfl := (List.cons_prefix_cons.mp h).1
      exact absurd (List.mem_append_right front List.mem_cons_self) hx

/-- **A plain text that turns up in a masked text** lies in the word of the label, or it has stood in the
text before, where no secret of the kind stood. -/
theorem infix_of_infix_mask (hplain : IsPlain w) (hw : w <:+: kind.mask t) :
    w <:+: Text.ofString kind.word ∨ ∃ rest, rest <:+ t ∧ w <+: rest ∧ ∀ w', w' <+: rest → ¬kind.Is w' := by
  by_cases hnil : w = []
  · exact .inl (hnil ▸ List.nil_infix)
  obtain ⟨s, hws, hs⟩ := List.infix_iff_prefix_suffix.mp hw
  have hne : s ≠ [] := fun h => hnil (List.prefix_nil.mp (h ▸ hws))
  rcases suffix_mask_cases hs hne with ⟨l, rest, hl, hlne, rfl⟩ | ⟨rest, hrest, rfl, hnone⟩
  · left
    have hl' : l <:+ (.char '<' :: Text.ofString kind.word) ++ [.char '>'] := hl
    rcases List.suffix_concat_iff.mp hl' with rfl | ⟨l', rfl, hl''⟩
    · exact absurd rfl hlne
    rw [List.append_assoc, List.singleton_append] at hws
    have hword := prefix_of_prefix_middle hplain.2 hws
    rcases List.suffix_cons_iff.mp hl'' with rfl | hl''
    · obtain ⟨d, w, rfl⟩ := List.exists_cons_of_ne_nil hnil
      obtain rfl := (List.cons_prefix_cons.mp hword).1
      exact absurd List.mem_cons_self hplain.1
    · exact hword.isInfix.trans hl''.isInfix
  · obtain ⟨rest', rfl, -⟩ := exists_of_prefix_mask hplain hws
    exact .inr ⟨w ++ rest', hrest, List.prefix_append w rest', hnone⟩

/-! ### Nothing is left -/

/-- A short text without `@` and `:` has no secret in it: mail addresses and web addresses have one of
these, and the others are long. -/
theorem Secret.free_of_short (hlength : t.length < 23) (hat : .char '@' ∉ t) (hcolon : .char ':' ∉ t) :
    kind.Free t := by
  intro w hw his
  have hlength := hw.length_le.trans_lt hlength
  cases kind with
  | mail =>
    obtain ⟨name, domain, rfl, -⟩ := his
    exact hat (hw.subset (List.mem_append_right _ List.mem_cons_self))
  | secretKey =>
    obtain ⟨rest, rfl, hrest, -⟩ := his
    rw [List.length_append, length_ofString] at hlength
    change 3 + rest.length < 23 at hlength
    omega
  | accessToken =>
    obtain ⟨rest, rfl, hrest, -⟩ := his
    rw [List.length_append] at hlength
    omega
  | token => exact absurd (his.1.trans_lt hlength) (by decide)
  | address =>
    obtain ⟨link, rest, rfl, hlink, -⟩ := his
    refine hcolon (hw.subset (List.mem_append_left _ ?_))
    rcases hlink with rfl | rfl <;> decide

/-- No secret lies in the word of a label. -/
theorem Secret.Is.not_infix_word (h : other.Is w) : ¬w <:+: Text.ofString kind.word := fun hw =>
  Secret.free_of_short (by cases kind <;> decide) (by cases kind <;> decide) (by cases kind <;> decide) w hw h

/-- Masking makes no secret that has no brackets in it. -/
theorem Secret.Free.mask (h : other.Free t) (hother : other ≠ .address) : other.Free (kind.mask t) := by
  intro w hw his
  rcases infix_of_infix_mask (his.isPlain hother) hw with hw | ⟨rest, hrest, hw, -⟩
  · exact his.not_infix_word hw
  · exact h w (hw.isInfix.trans hrest.isInfix) his

/-- Masking leaves no secret of its kind, if these have no brackets in them. -/
theorem free_mask_self (hkind : kind ≠ .address) : kind.Free (kind.mask t) := by
  intro w hw his
  rcases infix_of_infix_mask (his.isPlain hkind) hw with hw | ⟨rest, -, hw, hnone⟩
  · exact his.not_infix_word hw
  · exact hnone w hw his

/-- Masking leaves no web address. What stands behind the front of one in the masked text may be a label,
but then a web address stood in its place, which goes on the front as well. -/
theorem free_mask_address : Secret.address.Free (Secret.address.mask t) := by
  rintro w hw ⟨link, rest, rfl, hlink, hne, hrest⟩
  obtain ⟨s, hws, hs⟩ := List.infix_iff_prefix_suffix.mp hw
  have hfront : link <+: s := (List.prefix_append link rest).trans hws
  have hlinkNe : link ≠ [] := by rcases hlink with rfl | rfl <;> decide
  have hsNe : s ≠ [] := by
    rintro rfl
    exact hlinkNe (List.prefix_nil.mp hfront)
  rcases suffix_mask_cases hs hsNe with ⟨l, behind, hl, hlNe, rfl⟩ | ⟨whole, -, rfl, hnone⟩
  · -- The front of a web address does not start in a label.
    obtain ⟨c, l, rfl⟩ := List.exists_cons_of_ne_nil hlNe
    have hlabel : .char 'h' ∉ Secret.address.label := by decide
    obtain ⟨link', rfl⟩ : ∃ link', link = .char 'h' :: link' := by
      rcases hlink with rfl | rfl <;> exact ⟨_, rfl⟩
    obtain rfl := (List.cons_prefix_cons.mp hfront).1
    exact hlabel (hl.subset List.mem_cons_self)
  · obtain ⟨behind, rfl, hmask⟩ := exists_of_prefix_mask hlink.isPlain hfront
    rw [hmask, List.prefix_append_right_inj] at hws
    -- The code point behind the front would make a web address of it.
    have hstop {c : CodePoint} (hc : isAddress c) : ¬[c] <+: behind := fun hbehind =>
      hnone (link ++ [c]) ((List.prefix_append_right_inj link).mpr hbehind)
        ⟨link, [c], rfl, hlink, List.cons_ne_nil _ _, by simpa using hc⟩
    obtain ⟨d, rest, rfl⟩ := List.exists_cons_of_ne_nil hne
    induction behind using mask_induction .address with
    | nil => cases List.prefix_nil.mp hws
    | found v behind hv _ =>
      obtain ⟨link', rest', rfl, hlink' , -⟩ := hv.2.1
      refine @hstop (.char 'h') rfl ?_
      rcases hlink' with rfl | rfl <;> exact ⟨_, rfl⟩
    | kept c behind hkept _ =>
      rw [mask_cons hkept] at hws
      obtain ⟨rfl, -⟩ := List.cons_prefix_cons.mp hws
      exact hstop (hrest d List.mem_cons_self) (by simp)

/-- A scrubbed text has no secret of any kind in it. -/
theorem free_scrub (t : Text) : kind.Free (scrub t) := by
  by_cases hkind : kind = .address
  · rw [hkind]
    exact free_mask_address
  rw [scrub_eq]
  cases kind with
  | mail => exact ((((free_mask_self hkind).mask hkind).mask hkind).mask hkind).mask hkind
  | secretKey => exact (((free_mask_self hkind).mask hkind).mask hkind).mask hkind
  | accessToken => exact ((free_mask_self hkind).mask hkind).mask hkind
  | token => exact (free_mask_self hkind).mask hkind
  | address => exact absurd rfl hkind

/-- **Scrubbing leaves nothing to scrub.** A scrubbed text has no secret of any kind in it, and scrubbing
it once more does not change it. -/
theorem scrub_leaves_nothing (t : Text) :
    (∀ (kind : Secret) (w : Text), w <:+: scrub t → ¬kind.Is w) ∧ scrub (scrub t) = scrub t := by
  refine ⟨fun kind => free_scrub t, ?_⟩
  rw [scrub_eq (scrub t)]
  simp only [mask_of_free (free_scrub t)]

end IssueDigest.Scrub
