import IssueDigest.Journal.Scrub
import Mathlib.Data.List.Basic
import Mathlib.Data.List.Infix
import Mathlib.Data.List.TakeWhile
/-!
# Secrets

Which texts are secrets, said without the patterns that look for them: each kind is a set of texts
(`Secret.Is`), written down as what stands one after another in its members. The main statement is that
each pattern finds exactly these: at the front of a text it takes the longest secret of its kind, and it
takes nothing only if none stands there (`Secret.finds`).

Everything that is proved about scrubbing further on rests on this alone. The patterns are opened here
and nowhere else.
-/

namespace IssueDigest.Scrub

/-! ### The kinds of secrets -/

/-- A kind of secret. -/
inductive Secret where
  | mail
  | secretKey
  | accessToken
  | token
  | address
  deriving DecidableEq, Repr

/-- The end of a domain from which a point stands in front of at least two letters; `behind` says whether
something of the domain stands in front of the text already. -/
def IsDomainPart (behind : Bool) (t : Text) : Prop :=
  ∃ domain ending, t = domain ++ .char '.' :: ending ∧ (behind = false → domain ≠ []) ∧
    (∀ c ∈ domain, isDomain c) ∧ 2 ≤ ending.length ∧ ∀ c ∈ ending, isLetter c

/-- The front of a web address. -/
def IsLink (t : Text) : Prop := t = Text.ofString "https://" ∨ t = Text.ofString "http://"

namespace Secret

/-- Is the text a secret of the kind, from end to end? -/
def Is : Secret → Text → Prop
  | mail, t => ∃ name domain, t = name ++ .char '@' :: domain ∧ name ≠ [] ∧
      (∀ c ∈ name, isLocal c) ∧ IsDomainPart false domain
  | secretKey, t => ∃ rest, t = Text.ofString "sk-" ++ rest ∧ 20 ≤ rest.length ∧ ∀ c ∈ rest, isAlnum c
  | accessToken, t =>
      ∃ rest, t = Text.ofString "ghp_" ++ rest ∧ rest.length = 36 ∧ ∀ c ∈ rest, isAlnum c
  | token, t => 32 ≤ t.length ∧ ∀ c ∈ t, isAlnum c
  | address, t => ∃ link rest, t = link ++ rest ∧ IsLink link ∧ rest ≠ [] ∧ ∀ c ∈ rest, isAddress c

/-- What looks for secrets of the kind. -/
def pattern : Secret → Pattern
  | mail => Scrub.mail
  | secretKey => Scrub.secretKey
  | accessToken => Scrub.accessToken
  | token => Scrub.token
  | address => Scrub.address

end Secret

/-! ### Finding the longest -/

/-- Is it the length of the longest front of the text that has the property, or nothing if there is
none? -/
def IsLongest (P : Text → Prop) (t : Text) : Option Nat → Prop
  | some n => ∃ w, w <+: t ∧ P w ∧ w.length = n ∧ ∀ w', w' <+: t → P w' → w'.length ≤ n
  | none => ∀ w, w <+: t → ¬P w

/-- Does the pattern take the longest front with the property, of every text? -/
def Pattern.Finds (pattern : Pattern) (P : Text → Prop) : Prop := ∀ t, IsLongest P t (pattern t)

section Finds

variable {pattern pattern' : Pattern} {P P' : Text → Prop} {t : Text} {n : Nat}

theorem Pattern.Finds.found (h : pattern.Finds P) (hfound : pattern t = some n) :
    ∃ w, w <+: t ∧ P w ∧ w.length = n ∧ ∀ w', w' <+: t → P w' → w'.length ≤ n := by
  have hlongest := h t
  rwa [hfound] at hlongest

theorem Pattern.Finds.missed (h : pattern.Finds P) (hmissed : pattern t = none) :
    ∀ w, w <+: t → ¬P w := by
  have hlongest := h t
  rwa [hmissed] at hlongest

/-- The property may be said in other words. -/
theorem Pattern.Finds.congr (h : pattern.Finds P) (hsame : ∀ w, P w ↔ P' w) : pattern.Finds P' :=
  (funext fun w => propext (hsame w) : P = P') ▸ h

/-- No front with the property is longer than the run. -/
theorem length_le_run {test : CodePoint → Bool} {w : Text} (hw : w <+: t) (htest : ∀ c ∈ w, test c) :
    w.length ≤ run test t := by
  obtain ⟨rest, rfl⟩ := hw
  rw [run, List.takeWhile_append_of_pos htest, List.length_append]
  exact Nat.le_add_right _ _

/-- A run of at least so many. -/
theorem finds_runOf (test : CodePoint → Bool) (least : Nat) :
    Pattern.Finds (runOf test least) fun w => least ≤ w.length ∧ ∀ c ∈ w, test c := by
  intro t
  unfold runOf
  dsimp only
  split
  · next hle =>
    refine ⟨t.takeWhile test, List.takeWhile_prefix test, ⟨hle, ?_⟩, rfl, ?_⟩
    · exact fun c hc => List.mem_takeWhile_imp hc
    · exact fun w hw hP => length_le_run hw hP.2
  · next hlt => exact fun w hw hP => hlt (hP.1.trans (length_le_run hw hP.2))

/-- A run of exactly so many: what goes on behind it is left. -/
theorem finds_runOf_exactly (test : CodePoint → Bool) (size : Nat) :
    Pattern.Finds (fun t => (runOf test size t).map fun _ => size) fun w =>
      w.length = size ∧ ∀ c ∈ w, test c := by
  intro t
  dsimp only
  cases hrun : runOf test size t with
  | none =>
    intro w hw hP
    exact (finds_runOf test size).missed hrun w hw ⟨hP.1.ge, hP.2⟩
  | some n =>
    obtain ⟨w, hw, ⟨hle, htest⟩, -, -⟩ := (finds_runOf test size).found hrun
    refine ⟨w.take size, (List.take_prefix size w).trans hw, ⟨List.length_take_of_le hle, ?_⟩,
      List.length_take_of_le hle, ?_⟩
    · exact fun c hc => htest c (List.mem_of_mem_take hc)
    · exact fun w' _ hP => hP.1.le

theorem length_ofString (s : String) : (Text.ofString s).length = s.length := by
  rw [Text.ofString, Text.ofChars, List.length_map, String.length_toList]

theorem after_append (literal : String) (rest : Text) :
    after literal (Text.ofString literal ++ rest) = some rest := by
  rw [after, if_pos (List.isPrefixOf_iff_prefix.mpr (List.prefix_append _ rest)), ← length_ofString,
    List.drop_left]

theorem after_eq_none {literal : String} (h : ¬Text.ofString literal <+: t) : after literal t = none :=
  if_neg (mt List.isPrefixOf_iff_prefix.mp h)

/-- A literal front, and behind it what a pattern finds. -/
theorem Pattern.Finds.after (h : pattern.Finds P) (literal : String) :
    Pattern.Finds (fun t => (Scrub.after literal t >>= pattern).map (literal.length + ·)) fun w =>
      ∃ rest, w = Text.ofString literal ++ rest ∧ P rest := by
  intro t
  dsimp only
  by_cases hliteral : Text.ofString literal <+: t
  · obtain ⟨rest, rfl⟩ := hliteral
    have hbehind (w : Text) : Text.ofString literal ++ w <+: Text.ofString literal ++ rest ↔ w <+: rest :=
      List.prefix_append_right_inj _
    rw [after_append, Option.bind_eq_bind, Option.bind_some]
    cases hpattern : pattern rest with
    | none =>
      rintro _ hw ⟨w, rfl, hP⟩
      exact h.missed hpattern w ((hbehind w).mp hw) hP
    | some n =>
      obtain ⟨w, hw, hP, rfl, hlongest⟩ := h.found hpattern
      refine ⟨Text.ofString literal ++ w, (hbehind w).mpr hw, ⟨w, rfl, hP⟩, ?_, ?_⟩
      · rw [List.length_append, length_ofString]
      · rintro _ hfront ⟨w', rfl, hP'⟩
        rw [List.length_append, length_ofString]
        exact Nat.add_le_add_left (hlongest w' ((hbehind w').mp hfront) hP') _
  · rw [after_eq_none hliteral]
    rintro _ hw ⟨w, rfl, -⟩
    exact hliteral ((List.prefix_append _ w).trans hw)

/-- One pattern, or another one where it finds nothing, if no text has fronts of both. -/
theorem Pattern.Finds.orElse (h : pattern.Finds P) (h' : pattern'.Finds P')
    (hapart : ∀ t w w', w <+: t → w' <+: t → P w → ¬P' w') :
    Pattern.Finds (fun t => match pattern t with | some n => some n | none => pattern' t)
      fun w => P w ∨ P' w := by
  intro t
  dsimp only
  cases hpattern : pattern t with
  | some n =>
    obtain ⟨w, hw, hP, hlength, hlongest⟩ := h.found hpattern
    refine ⟨w, hw, .inl hP, hlength, ?_⟩
    rintro w' hw' (hP' | hP')
    · exact hlongest w' hw' hP'
    · exact absurd hP' (hapart t w w' hw hw' hP)
  | none =>
    have hnot := h.missed hpattern
    cases hpattern' : pattern' t with
    | some n =>
      obtain ⟨w, hw, hP, hlength, hlongest⟩ := h'.found hpattern'
      refine ⟨w, hw, .inr hP, hlength, ?_⟩
      rintro w' hw' (hP' | hP')
      · exact absurd hP' (hnot w' hw')
      · exact hlongest w' hw' hP'
    | none =>
      rintro w hw (hP | hP)
      · exact hnot w hw hP
      · exact h'.missed hpattern' w hw hP

end Finds

/-! ### Mail addresses -/

theorem IsDomainPart.cons {behind : Bool} {c : CodePoint} {w : Text} (hc : isDomain c)
    (h : IsDomainPart true w) : IsDomainPart behind (c :: w) := by
  obtain ⟨domain, ending, rfl, -, hdomain, hlength, hletters⟩ := h
  refine ⟨c :: domain, ending, rfl, fun _ => List.cons_ne_nil _ _, fun d hd => ?_, hlength, hletters⟩
  rcases List.mem_cons.mp hd with rfl | hd
  · exact hc
  · exact hdomain d hd

/-- The point is further on, or it is the first of all. -/
theorem IsDomainPart.exists_cons {behind : Bool} {w : Text} (h : IsDomainPart behind w) :
    ∃ c rest, w = c :: rest ∧ isDomain c ∧ (IsDomainPart true rest ∨
      (behind && c == .char '.') = true ∧ 2 ≤ rest.length ∧ ∀ d ∈ rest, isLetter d) := by
  obtain ⟨domain, ending, rfl, hbehind, hdomain, hlength, hletters⟩ := h
  cases domain with
  | nil =>
    have hbehind : behind = true := Bool.not_eq_false _ ▸ fun h => hbehind h rfl
    exact ⟨.char '.', ending, rfl, rfl, .inr ⟨by rw [hbehind]; rfl, hlength, hletters⟩⟩
  | cons c domain =>
    refine ⟨c, domain ++ .char '.' :: ending, rfl, hdomain c List.mem_cons_self, .inl ?_⟩
    exact ⟨domain, ending, rfl, nofun, fun d hd => hdomain d (List.mem_cons_of_mem c hd), hlength,
      hletters⟩

/-- Letters at the front of a text are no longer than the end of a domain there: the last point
counts. -/
theorem IsDomainPart.length_le {t w letters : Text} (h : IsDomainPart true w) (hw : w <+: t)
    (hfront : letters <+: t) (hletters : ∀ c ∈ letters, isLetter c) : letters.length ≤ w.length := by
  rcases List.prefix_or_prefix_of_prefix hw hfront with hle | hle
  · obtain ⟨domain, ending, rfl, -⟩ := h
    have hpoint : isLetter (.char '.') = true :=
      hletters _ (hle.subset (List.mem_append_right _ List.mem_cons_self))
    cases hpoint
  · exact hle.length_le

/-- **The domain** of a mail address. -/
theorem finds_domainLength (behind : Bool) :
    Pattern.Finds (domainLength behind) (IsDomainPart behind) := by
  intro t
  induction t generalizing behind with
  | nil =>
    intro w hw h
    obtain ⟨c, rest, rfl, -⟩ := h.exists_cons
    cases List.prefix_nil.mp hw
  | cons c rest ih =>
    have hcons {w : Text} : c :: w <+: c :: rest ↔ w <+: rest := by simp
    rw [domainLength]
    split
    · next hc =>
      intro w hw h
      obtain ⟨d, w, rfl, hd, -⟩ := h.exists_cons
      obtain rfl := (List.cons_prefix_cons.mp hw).1
      simp [hd] at hc
    next hc =>
    have hc : isDomain c = true := by simpa using hc
    have hrest := ih true
    split
    · next n hn =>
      rw [hn] at hrest
      obtain ⟨w, hw, hpart, rfl, hlongest⟩ := hrest
      refine ⟨c :: w, hcons.mpr hw, hpart.cons hc, rfl, fun w' hw' h' => ?_⟩
      obtain ⟨d, v, rfl, -, hgoesOn | ⟨-, -, hletters⟩⟩ := h'.exists_cons
      · exact Nat.succ_le_succ (hlongest v (List.cons_prefix_cons.mp hw').2 hgoesOn)
      · exact Nat.succ_le_succ (hpart.length_le hw (List.cons_prefix_cons.mp hw').2 hletters)
    · next hnone =>
      rw [hnone] at hrest
      -- Nothing goes on behind this code point, so it has to be the point itself.
      have hpoint {w : Text} (hw : w <+: c :: rest) (h : IsDomainPart behind w) :
          ∃ v, w = c :: v ∧ v <+: rest ∧ (behind && c == .char '.') = true ∧
            2 ≤ v.length ∧ ∀ d ∈ v, isLetter d := by
        obtain ⟨d, v, rfl, -, hgoesOn | hends⟩ := h.exists_cons
        · exact absurd hgoesOn (hrest v (List.cons_prefix_cons.mp hw).2)
        · obtain ⟨rfl, hv⟩ := List.cons_prefix_cons.mp hw
          exact ⟨v, rfl, hv, hends⟩
      split
      · next hdot =>
        obtain ⟨rfl, rfl⟩ : behind = true ∧ c = .char '.' := by simpa using hdot
        cases hrun : runOf isLetter 2 rest with
        | some n =>
          obtain ⟨letters, hfront, ⟨htwo, hletters⟩, rfl, hlongest⟩ := (finds_runOf isLetter 2).found hrun
          refine ⟨.char '.' :: letters, hcons.mpr hfront, ?_, rfl, fun w' hw' h' => ?_⟩
          · exact ⟨[], letters, rfl, nofun, nofun, htwo, hletters⟩
          · obtain ⟨v, rfl, hv, -, hv'⟩ := hpoint hw' h'
            exact Nat.succ_le_succ (hlongest v hv hv')
        | none =>
          intro w hw h
          obtain ⟨v, rfl, hv, -, hv'⟩ := hpoint hw h
          exact (finds_runOf isLetter 2).missed hrun v hv hv'
      · next hdot =>
        intro w hw h
        obtain ⟨v, rfl, -, hdot', -⟩ := hpoint hw h
        exact hdot hdot'

/-- The name of a mail address goes up to the first `@`, whatever stands behind. -/
theorem run_name {name domain : Text} (hname : ∀ c ∈ name, isLocal c) :
    run isLocal (name ++ .char '@' :: domain) = name.length := by
  have hat : isLocal (.char '@') = false := rfl
  rw [run, List.takeWhile_append_of_pos hname, List.takeWhile_cons_of_neg (by rw [hat]; nofun),
    List.append_nil]

theorem mail_name {name domain : Text} (hname : ∀ c ∈ name, isLocal c) (hne : name ≠ []) :
    mail (name ++ .char '@' :: domain) = (domainLength false domain).map (name.length + 1 + ·) := by
  have hlength : name.length ≠ 0 := mt List.length_eq_zero_iff.mp hne
  simp only [mail, run_name hname, List.drop_left, if_neg hlength]

/-- A text with a mail address at its front has a name, an `@` and a domain. -/
theorem name_of_mail_prefix {t w : Text} (hw : w <+: t) (h : Secret.Is .mail w) :
    ∃ name domain rest, t = name ++ .char '@' :: rest ∧ w = name ++ .char '@' :: domain ∧
      domain <+: rest ∧ name ≠ [] ∧ (∀ c ∈ name, isLocal c) ∧ IsDomainPart false domain := by
  obtain ⟨name, domain, rfl, hne, hname, hdomain⟩ := h
  obtain ⟨rest, rfl⟩ := hw
  exact ⟨name, domain, domain ++ rest, by simp, rfl, List.prefix_append _ _, hne, hname, hdomain⟩

/-- A text with no name and `@` at its front has no mail address there. -/
theorem mail_cases (t : Text) :
    (∃ name rest, t = name ++ .char '@' :: rest ∧ name ≠ [] ∧ ∀ c ∈ name, isLocal c) ∨
      mail t = none := by
  unfold mail
  dsimp only
  split
  · next domain hdrop =>
    split
    · exact .inr rfl
    · next hn =>
      refine .inl ⟨t.takeWhile isLocal, domain, ?_, ?_, fun c hc => List.mem_takeWhile_imp hc⟩
      · rw [← hdrop]
        exact (List.prefix_iff_eq_append.mp (List.takeWhile_prefix isLocal)).symm
      · exact fun hnil => hn (by rw [run, hnil, List.length_nil])
  · exact .inr rfl

theorem finds_mail : Pattern.Finds mail (Secret.Is .mail) := by
  intro t
  rcases mail_cases t with ⟨name, rest, rfl, hne, hname⟩ | hnone
  · rw [mail_name hname hne]
    have hsame {w : Text} (hw : w <+: name ++ .char '@' :: rest) (h : Secret.Is .mail w) :
        ∃ domain, w = name ++ .char '@' :: domain ∧ domain <+: rest ∧ IsDomainPart false domain := by
      obtain ⟨name', domain, rest', ht, rfl, hdomain, -, hname', hpart⟩ := name_of_mail_prefix hw h
      obtain ⟨rfl, hrest⟩ := List.append_inj ht (by rw [← run_name hname, ht, run_name hname'])
      obtain rfl := (List.cons.inj hrest).2
      exact ⟨domain, rfl, hdomain, hpart⟩
    cases hdomain : domainLength false rest with
    | none =>
      intro w hw h
      obtain ⟨domain, rfl, hfront, hpart⟩ := hsame hw h
      exact (finds_domainLength false).missed hdomain domain hfront hpart
    | some n =>
      obtain ⟨domain, hfront, hpart, rfl, hlongest⟩ := (finds_domainLength false).found hdomain
      refine ⟨name ++ .char '@' :: domain, ?_, ⟨name, domain, rfl, hne, hname, hpart⟩, ?_, ?_⟩
      · exact (List.prefix_append_right_inj _).mpr (List.cons_prefix_cons.mpr ⟨rfl, hfront⟩)
      · simp only [List.length_append, List.length_cons]
        omega
      · intro w hw h
        obtain ⟨domain', rfl, hfront', hpart'⟩ := hsame hw h
        have hle := hlongest domain' hfront' hpart'
        simp only [List.length_append, List.length_cons]
        omega
  · rw [hnone]
    intro w hw h
    obtain ⟨name, domain, rest, rfl, rfl, hfront, hne, hname, hpart⟩ := name_of_mail_prefix hw h
    rw [mail_name hname hne, Option.map_eq_none_iff] at hnone
    exact (finds_domainLength false).missed hnone domain hfront hpart

/-! ### The other kinds -/

theorem finds_secretKey : Pattern.Finds secretKey (Secret.Is .secretKey) :=
  (finds_runOf isAlnum 20).after "sk-"

theorem finds_accessToken : Pattern.Finds accessToken (Secret.Is .accessToken) := by
  intro t
  have h := (finds_runOf_exactly isAlnum 36).after "ghp_" t
  have hsame : accessToken t =
      (after "ghp_" t >>= fun t => (runOf isAlnum 36 t).map fun _ => 36).map ("ghp_".length + ·) := by
    simp only [accessToken, Option.bind_eq_bind, Option.map_bind, Function.comp_def, Option.map_map]
    rfl
  rwa [hsame]

theorem finds_token : Pattern.Finds token (Secret.Is .token) := finds_runOf isAlnum 32

/-- The two fronts of web addresses are told apart by their fifth code point. -/
theorem link_apart {t : Text} (h : Text.ofString "https://" <+: t) : ¬Text.ofString "http://" <+: t := by
  obtain ⟨rest, rfl⟩ := h
  simp [Text.ofString, Text.ofChars]

theorem finds_address : Pattern.Finds address (Secret.Is .address) := by
  have hlinks := ((finds_runOf isAddress 1).after "https://").orElse
    ((finds_runOf isAddress 1).after "http://") (by
      rintro t _ _ hw hw' ⟨rest, rfl, -⟩ ⟨rest', rfl, -⟩
      exact link_apart ((List.prefix_append _ _).trans hw) ((List.prefix_append _ _).trans hw'))
  refine hlinks.congr fun w => ⟨?_, ?_⟩
  · rintro (⟨rest, rfl, hlength, hrest⟩ | ⟨rest, rfl, hlength, hrest⟩)
    · exact ⟨_, rest, rfl, .inl rfl, List.length_pos_iff.mp hlength, hrest⟩
    · exact ⟨_, rest, rfl, .inr rfl, List.length_pos_iff.mp hlength, hrest⟩
  · rintro ⟨_, rest, rfl, rfl | rfl, hne, hrest⟩
    · exact .inl ⟨rest, rfl, List.length_pos_iff.mpr hne, hrest⟩
    · exact .inr ⟨rest, rfl, List.length_pos_iff.mpr hne, hrest⟩

/-- **Each pattern takes the longest secret of its kind** at the front of a text, and takes nothing only
if none stands there. -/
theorem Secret.finds : ∀ kind : Secret, kind.pattern.Finds kind.Is
  | .mail => finds_mail
  | .secretKey => finds_secretKey
  | .accessToken => finds_accessToken
  | .token => finds_token
  | .address => finds_address

/-! ### What secrets are made of -/

/-- May the code point stand in a secret other than a web address? -/
def isPart (c : CodePoint) : Bool := isLocal c || c == .char '@'

section Parts

variable {c : CodePoint}

theorem isPart_of_isLocal (h : isLocal c) : isPart c := by
  simp [isPart, h]

theorem isPart_of_isDomain (h : isDomain c) : isPart c := by
  cases c with
  | half _ => cases h
  | char x =>
    simp only [isDomain, isPart, isLocal, CodePoint.satisfies, Bool.or_eq_true] at h ⊢
    tauto

theorem isPart_of_isAlnum (h : isAlnum c) : isPart c := by
  cases c with
  | half _ => cases h
  | char x => simp [isPart, isLocal, CodePoint.satisfies, show x.isAlphanum from h]

theorem isAlnum_of_isLetter (h : isLetter c) : isAlnum c := by
  cases c with
  | half _ => cases h
  | char x => simp [isAlnum, CodePoint.satisfies, Char.isAlphanum, show x.isAlpha from h]

/-- What may stand in any secret may stand in a web address. -/
theorem isAddress_of_isPart (h : isPart c) : isAddress c := by
  have hrange : 37 ≤ c.toNat ∧ c.toNat < 123 := by
    cases c with
    | half _ => cases h
    | char x =>
      have hcases : x.isAlphanum ∨ x = '.' ∨ x = '_' ∨ x = '%' ∨ x = '+' ∨ x = '-' ∨ x = '@' := by
        simp only [isPart, isLocal, CodePoint.satisfies, Bool.or_eq_true, beq_iff_eq,
          CodePoint.char.injEq] at h
        tauto
      rw [CodePoint.toNat]
      rcases hcases with halnum | hsign
      · have hranges : (decide (65 ≤ x.val ∧ x.val ≤ 90) || (97 ≤ x.val && x.val ≤ 122)) ||
            (48 ≤ x.val && x.val ≤ 57) := halnum
        simp only [Bool.or_eq_true, Bool.and_eq_true, decide_eq_true_eq, UInt32.le_iff_toNat_le] at hranges
        change ((65 ≤ x.toNat ∧ x.toNat ≤ 90) ∨ (97 ≤ x.toNat ∧ x.toNat ≤ 122)) ∨
          (48 ≤ x.toNat ∧ x.toNat ≤ 57) at hranges
        omega
      · rcases hsign with rfl | rfl | rfl | rfl | rfl | rfl <;> decide
  have hblank : c.isBlank = false := by
    simp only [CodePoint.isBlank, Text.inRanges, Text.blankRanges, List.any_eq_false,
      Bool.and_eq_true, decide_eq_true_eq, List.mem_cons, List.not_mem_nil, or_false]
    rintro r hr
    rcases hr with rfl | rfl | rfl | rfl | rfl | rfl | rfl | rfl | rfl | rfl <;> omega
  have hquote : c ≠ .char '"' := by
    rintro rfl
    exact absurd hrange.1 (by decide)
  simp [isAddress, hblank, hquote]

end Parts

theorem Secret.Is.isPart {kind : Secret} {w : Text} (h : kind.Is w) (hkind : kind ≠ .address) :
    ∀ c ∈ w, isPart c := by
  intro c hc
  have halnum {literal : String} {rest : Text} (hw : w = Text.ofString literal ++ rest)
      (hliteral : ∀ c ∈ Text.ofString literal, Scrub.isPart c) (hrest : ∀ c ∈ rest, isAlnum c) :
      Scrub.isPart c := by
    rcases List.mem_append.mp (hw ▸ hc) with hc | hc
    · exact hliteral c hc
    · exact isPart_of_isAlnum (hrest c hc)
  cases kind with
  | mail =>
    obtain ⟨name, _, rfl, -, hname, domain, ending, rfl, -, hdomain, -, hletters⟩ := h
    simp only [List.mem_append, List.mem_cons] at hc
    rcases hc with hc | rfl | hc | rfl | hc
    · exact isPart_of_isLocal (hname c hc)
    · rfl
    · exact isPart_of_isDomain (hdomain c hc)
    · rfl
    · exact isPart_of_isAlnum (isAlnum_of_isLetter (hletters c hc))
  | secretKey =>
    obtain ⟨rest, hw, -, hrest⟩ := h
    exact halnum hw (by decide) hrest
  | accessToken =>
    obtain ⟨rest, hw, -, hrest⟩ := h
    exact halnum hw (by decide) hrest
  | token => exact isPart_of_isAlnum (h.2 c hc)
  | address => exact absurd rfl hkind

theorem IsLink.isAddress {link : Text} (h : IsLink link) : ∀ c ∈ link, isAddress c := by
  rcases h with rfl | rfl <;> decide

theorem Secret.Is.isAddress {kind : Secret} {w : Text} (h : kind.Is w) : ∀ c ∈ w, isAddress c := by
  by_cases hkind : kind = .address
  · subst hkind
    obtain ⟨link, rest, rfl, hlink, -, hrest⟩ := h
    intro c hc
    rcases List.mem_append.mp hc with hc | hc
    · exact hlink.isAddress c hc
    · exact hrest c hc
  · exact fun c hc => isAddress_of_isPart (h.isPart hkind c hc)

end IssueDigest.Scrub
