import IssueDigest.Proofs.Documents
/-!
# How the work on a memory store ends

A memory store keeps its records as they are, so little can go wrong with it. A name can be no key, which
is reported. An issue can have an integer that is too long to be written: messages about the issue and
the page spell it. While the issues named are dismissed this is reported like a name that is no key;
later on it ends the run. And a title can hold halves, which ends the run where lines are encoded on their
way out; in objects they are escaped. There is no further way (`Command.Ends`).

Actions on a memory store are followed with a predicate for the faults that they may end with
(`Action.FailsOnly`), and what is put together from actions ends with the faults of its parts.
-/

namespace IssueDigest

open Store

/-- Are the integers of the issue short enough to be written? -/
structure Issue.Spellable (i : Issue) : Prop where
  key : i.key.Printable
  severity : Numeral.isWritable i.severity = true

/-- Is this the fault of encoding the line of one of the issues, whose title holds halves? -/
def Unshown (issues : List Issue) (e : Fault) : Prop :=
  ∃ i ∈ issues, ¬i.title.Whole ∧ ∃ marked, encodeText (i.line marked) = .error e

/-- Is this the fault of spelling one of the issues? -/
def Unspelled (issues : List Issue) (e : Fault) : Prop :=
  e = .refused .integerUnwritable ∧ ∃ i ∈ issues, ¬i.Spellable

theorem IssueKey.unspelled_of_write {i : Issue} {issues : List Issue} {e : Fault} (hi : i ∈ issues)
    (h : i.key.write = .error e) : Unspelled issues e := by
  have hkey : ¬i.key.Printable := fun hkey => nomatch (write_of_printable hkey).symm.trans h
  refine ⟨?_, i, hi, fun hspell => hkey hspell.key⟩
  exact (Except.error.inj ((write_of_not_printable hkey).symm.trans h)).symm

/-- A text that is no key is refused. -/
theorem IssueKey.onlyRefuses_read (s : String) : OnlyRefuses (read s) := by
  unfold read
  dsimp only
  split
  · split
    · exact .refused _
    · exact .ok _
  · split
    · exact .refused _
    · exact fun e he => Numeral.onlyRefuses_read _ e (map_eq_error_iff.mp he)
  · exact .refused _

/-! ### The faults of an action -/

/-- On a memory store, does the action leave one, report nothing, and end with such faults only? The
faults may depend on whether lines are encoded. -/
def Action.FailsOnly (encodes : Bool) (faults : Fault → Prop) {α : Type} (x : Action α) : Prop :=
  ∀ s r s', s.kind = .memory → s.world.encodes = encodes → x.run s = (r, s') →
    s'.kind = .memory ∧ s'.world.encodes = encodes ∧ s'.world.complained = s.world.complained ∧
      ∀ e, r = .error e → faults e

namespace Action.FailsOnly

variable {α β : Type} {encodes : Bool} {faults : Fault → Prop}

theorem mono {faults' : Fault → Prop} {x : Action α} (hx : x.FailsOnly encodes faults)
    (h : ∀ e, faults e → faults' e) : x.FailsOnly encodes faults' := by
  intro s r s' hkind hencodes hrun
  obtain ⟨hkind', hencodes', hcomplained, hfaults⟩ := hx s r s' hkind hencodes hrun
  exact ⟨hkind', hencodes', hcomplained, fun e he => h e (hfaults e he)⟩

theorem pure (a : α) : Action.FailsOnly encodes faults (Pure.pure a) := by
  intro s r s' hkind hencodes hrun
  obtain ⟨rfl, rfl⟩ := Prod.mk.inj hrun
  exact ⟨hkind, hencodes, rfl, nofun⟩

theorem lift {x : Except Fault α} (h : ∀ e, x = .error e → faults e) :
    Action.FailsOnly encodes faults (Act.lift x) := by
  intro s r s' hkind hencodes hrun
  cases x with
  | ok a =>
    obtain ⟨rfl, rfl⟩ := Prod.mk.inj hrun
    exact ⟨hkind, hencodes, rfl, nofun⟩
  | error e =>
    obtain ⟨rfl, rfl⟩ := Prod.mk.inj hrun
    exact ⟨hkind, hencodes, rfl, fun e' he' => Except.error.inj he' ▸ h e rfl⟩

/-- What follows a step may rely on what the step has come back with. -/
theorem bind_of_ok {x : Action α} {f : α → Action β} (hx : x.FailsOnly encodes faults)
    (hf : ∀ s a s', s.kind = .memory → x.run s = (.ok a, s') → (f a).FailsOnly encodes faults) :
    Action.FailsOnly encodes faults (x >>= f) := by
  intro s r s' hkind hencodes hrun
  cases hfirst : x.run s with
  | mk r₁ s₁ =>
  obtain ⟨hkind₁, hencodes₁, hcomplained₁, hfaults₁⟩ := hx s r₁ s₁ hkind hencodes hfirst
  cases r₁ with
  | error e =>
    obtain ⟨rfl, rfl⟩ := Prod.mk.inj ((Act.run_bind_error hfirst).symm.trans hrun)
    exact ⟨hkind₁, hencodes₁, hcomplained₁, fun e' he' => Except.error.inj he' ▸ hfaults₁ e rfl⟩
  | ok a =>
    rw [Act.run_bind_ok hfirst] at hrun
    obtain ⟨hkind', hencodes', hcomplained', hfaults'⟩ :=
      hf s a s₁ hkind hfirst s₁ r s' hkind₁ hencodes₁ hrun
    exact ⟨hkind', hencodes', hcomplained'.trans hcomplained₁, hfaults'⟩

theorem bind {x : Action α} {f : α → Action β} (hx : x.FailsOnly encodes faults)
    (hf : ∀ a, (f a).FailsOnly encodes faults) : Action.FailsOnly encodes faults (x >>= f) :=
  hx.bind_of_ok fun _ a _ _ _ => hf a

/-- A silent action that comes back on every memory store has no fault at all. -/
theorem of_returns {x : Action α}
    (h : ∀ name counters records world, ∃ a counters' records' journal,
      x.run ⟨⟨name, counters, .memory records⟩, world⟩ =
        (.ok a, ⟨⟨name, counters', .memory records'⟩, { world with journal }⟩)) :
    x.FailsOnly encodes faults := by
  intro s r s' hkind hencodes hrun
  obtain ⟨name, counters, records, world, rfl⟩ := Session.exists_of_memory hkind
  obtain ⟨a, counters', records', journal, hrun'⟩ := h name counters records world
  obtain ⟨rfl, rfl⟩ := Prod.mk.inj (hrun'.symm.trans hrun)
  exact ⟨rfl, hencodes, rfl, nofun⟩

theorem get : Action.FailsOnly encodes faults (MonadState.get : Action Session) :=
  of_returns fun _ counters records world => ⟨_, counters, records, world.journal, rfl⟩

theorem count (f : Counters → Counters) : Action.FailsOnly encodes faults (modify (Session.count · f)) :=
  of_returns fun _ _ records world => ⟨(), _, records, world.journal, rfl⟩

theorem note (level : Level) (message : Text) (context : List (String × Json)) :
    Action.FailsOnly encodes faults (Store.note level message context) :=
  of_returns fun _ counters records world =>
    ⟨(), counters, records, (world.note level message context).journal, rfl⟩

theorem find (key : IssueKey) : Action.FailsOnly encodes faults (Store.find key) :=
  of_returns fun _ counters records world => ⟨_, counters, records, world.journal, rfl⟩

theorem keep (key : IssueKey) (r : Record) : Action.FailsOnly encodes faults (Store.keep key r) :=
  of_returns fun _ counters records world => ⟨(), counters, records.put key r, world.journal, rfl⟩

theorem stats : Action.FailsOnly encodes faults Store.stats :=
  of_returns fun _ counters records world => ⟨_, counters, records, world.journal, rfl⟩

/-- A line is refused only where it is encoded. -/
theorem printLine {t : Text} (h : encodes = true → ∀ e, encodeText t = .error e → faults e) :
    Action.FailsOnly encodes faults (Action.ofWorld (Act.printLine t)) := by
  intro s r s' hkind hencodes hrun
  rw [Action.run_ofWorld] at hrun
  obtain ⟨rfl, rfl⟩ := Prod.mk.inj hrun
  cases encodes with
  | false =>
    rw [Act.run_printLine_kept hencodes]
    exact ⟨hkind, hencodes, rfl, nofun⟩
  | true =>
    rw [Act.run_printLine_encoded hencodes]
    cases htext : encodeText t with
    | ok bs => exact ⟨hkind, hencodes, rfl, nofun⟩
    | error e =>
      exact ⟨hkind, hencodes, rfl, fun e' he' => Except.error.inj he' ▸ h rfl e htext⟩

theorem isDismissed (key : IssueKey) (severity : Int) :
    Action.FailsOnly encodes faults (Store.isDismissed key severity) := by
  refine (count _).bind fun _ => (find key).bind fun r => ?_
  cases r with
  | none => exact pure false
  | some r => exact pure _

theorem dismiss {key : IssueKey} (hkey : ∀ e, key.write = .error e → faults e) (severity : Int)
    (moment : Option Moment) : Action.FailsOnly encodes faults (Store.dismiss key severity moment) :=
  (find key).bind fun _ => get.bind fun _ => (keep key _).bind fun _ => get.bind fun _ =>
    (lift hkey).bind fun _ => (note _ _ _).bind fun _ => pure _

theorem forM {x : α → Action Unit} {items : List α} (hx : ∀ a ∈ items, (x a).FailsOnly encodes faults) :
    Action.FailsOnly encodes faults (items.forM x) := by
  induction items with
  | nil => exact pure ()
  | cons a items ih =>
    obtain ⟨ha, hitems⟩ := List.forall_mem_cons.mp hx
    exact ha.bind fun _ => ih hitems

theorem mapM {x : α → Action β} {items : List α} (hx : ∀ a ∈ items, (x a).FailsOnly encodes faults) :
    Action.FailsOnly encodes faults (items.mapM x) := by
  induction items with
  | nil => exact pure []
  | cons a items ih =>
    obtain ⟨ha, hitems⟩ := List.forall_mem_cons.mp hx
    rw [List.mapM_cons]
    exact ha.bind fun _ => (ih hitems).bind fun _ => pure _

theorem batch {body : Action α} (h : body.FailsOnly encodes faults) :
    Action.FailsOnly encodes faults (Store.batch body) := by
  intro s r s' hkind hencodes hrun
  cases hbody : body.run s with
  | mk r₁ s₁ =>
  have hbatch := h s r₁ s₁ hkind hencodes hbody
  obtain ⟨rfl, rfl⟩ := Prod.mk.inj ((run_batch_memory hkind hbody hbatch.1).symm.trans hrun)
  exact hbatch

/-! ### Aligning -/

theorem write (key : IssueKey) :
    Action.FailsOnly encodes (· = .refused .integerUnwritable) (Act.lift key.write) := by
  refine lift fun e he => ?_
  rw [IssueKey.write] at he
  split at he
  · cases he
  · exact (Except.error.inj he).symm

theorem copy (source target : IssueKey) :
    Action.FailsOnly encodes (· = .refused .integerUnwritable) (Store.copy source target) := by
  refine (find source).bind fun r => ?_
  cases r with
  | none =>
    exact get.bind fun _ => (write source).bind fun _ => (write target).bind fun _ => note _ _ _
  | some r => exact (keep target r).bind fun _ => count _

theorem closed : Action.Closed (@Action.FailsOnly encodes (· = .refused .integerUnwritable)) :=
  ⟨pure, bind, write, note, isDismissed, copy⟩

theorem dedup (issues : List Issue) :
    Action.FailsOnly encodes (· = .refused .integerUnwritable) (Dedup.run issues) := by
  refine (note _ _ _).bind fun _ => (batch (closed.align _)).bind fun _ => ?_
  split
  · exact pure issues
  · exact (note _ _ _).bind fun _ => pure _

end Action.FailsOnly

/-! ### The page -/

namespace Json

variable {l : Layout}

/-- Every token of a list is a mark or a token of one of its items. -/
theorem mem_tokensAt_list {level : Nat} {items : List Json} {token : Token}
    (h : token ∈ tokensAt l level (.list items)) :
    (∃ s, token = .mark s) ∨ ∃ v ∈ items, token ∈ tokensAt l (level + 1) v := by
  have hitems (level : Nat) (vs : List Json) : tokensOfItems l level vs = vs.map (tokensAt l level) := by
    induction vs with
    | nil => rw [tokensOfItems, List.map_nil]
    | cons v vs ih => rw [tokensOfItems, ih, List.map_cons]
  rw [tokensAt, hitems] at h
  refine (Store.mem_enclose h).imp_right ?_
  rintro ⟨item, hitem, htoken⟩
  obtain ⟨v, hv, rfl⟩ := List.mem_map.mp hitem
  exact ⟨v, hv, htoken⟩

/-- Where characters beyond ASCII are escaped halves are, too. -/
theorem whole_escape (c : CodePoint) : (escape true c).Whole := by
  have hunit (n : Nat) : (escapeUnit n).Whole := escapeUnit_eq n ▸ Text.whole_ofChars _
  unfold escape
  split_ifs with h₁ h₂ h₃ h₄ h₅ h₆ h₇ h₈ hbeyond
  all_goals try exact Text.whole_ofChars _
  · exact hunit _
  · exact hunit _
  · exact Text.whole_append.mpr ⟨hunit _, hunit _⟩
  · cases c with
    | char x => exact Text.whole_ofChars [x]
    | half offset =>
      have hnumber : 126 < (CodePoint.half offset).toNat := by
        rw [CodePoint.toNat]
        omega
      exact absurd (decide_eq_true hnumber) hbeyond

theorem whole_render (hascii : l.ascii = true) (v : Json) : (v.render l).Whole := by
  refine Text.whole_flatMap fun token _ => ?_
  rw [hascii]
  cases token with
  | mark s => exact Text.whole_ofChars _
  | text t =>
    refine List.forall_mem_cons.mpr ⟨⟨_, rfl⟩, Text.whole_append.mpr ⟨?_, Text.whole_ofChars ['"']⟩⟩
    exact Text.whole_flatMap fun c _ => whole_escape c
  | int n =>
    rw [Token.render, IssueKey.ofInt_eq_decimal]
    exact Text.whole_ofChars _
  | float x => exact Text.whole_ofChars _

/-- A value that cannot be written has an integer that cannot. -/
theorem exists_int_of_write {v : Json} {e : Fault} (h : v.write l = .error e) :
    e = .refused .integerUnwritable ∧
      ∃ n, .int n ∈ v.tokens l ∧ ¬Numeral.isWritable n = true := by
  have htokens : (v.tokens l).forM Token.check = .error e := by
    obtain h | ⟨⟨⟩, -, h⟩ := bind_eq_error_iff.mp h
    · exact h
    · cases h
  generalize v.tokens l = tokens at htokens
  induction tokens with
  | nil => cases htokens
  | cons token tokens ih =>
    change (token.check >>= fun _ => tokens.forM Token.check) = .error e at htokens
    obtain hfirst | ⟨⟨⟩, -, hrest⟩ := bind_eq_error_iff.mp htokens
    · cases token with
      | int n =>
        rw [Token.check] at hfirst
        split at hfirst
        · cases hfirst
        · next hlong => exact ⟨(Except.error.inj hfirst).symm, n, List.mem_cons_self, hlong⟩
      | _ => cases hfirst
    · obtain ⟨he, n, hn, hlong⟩ := ih hrest
      exact ⟨he, n, List.mem_cons_of_mem _ hn, hlong⟩

end Json

/-- Only its title can put halves into the line of an issue. -/
theorem Issue.whole_line {i : Issue} (h : i.title.Whole) (marked : Bool) : (i.line marked).Whole := by
  have hseverity : (Text.ofInt i.severity).Whole :=
    IssueKey.ofInt_eq_decimal i.severity ▸ Text.whole_ofChars _
  have hmark : (if marked then Text.ofString " (dismissed)" else []).Whole := by
    cases marked with
    | true => exact Text.whole_ofChars _
    | false => exact Text.whole_ofChars []
  simp only [line, Text.whole_append]
  exact ⟨⟨⟨⟨⟨⟨Text.whole_ofChars _, hseverity⟩, Text.whole_ofChars _⟩, Text.whole_ofChars _⟩,
    Text.whole_ofChars _⟩, h⟩, hmark⟩

/-- An issue has two integers. -/
theorem Issue.mem_tokensAt_row {l : Json.Layout} {level : Nat} {i : Issue} {marked : Bool} {n : Int}
    (h : .int n ∈ Json.tokensAt l level (i.row marked)) : n = i.user ∨ n = i.severity := by
  let Has (v : Json) : Prop := .int n ∈ Json.tokensAt l (level + 1) v
  have htext (t : Text) : ¬Has (.text t) := by simp [Has, Json.tokensAt]
  have hoptional (t : Option Text) : ¬Has (optional t) := by
    cases t <;> simp [Has, optional, Json.tokensAt]
  have hmark : ¬Has (.bool marked) := by cases marked <;> simp [Has, Json.tokensAt]
  have hint {m : Int} (h : Has (.int m)) : n = m := by simpa [Has, Json.tokensAt] using h
  have hfields : ∀ f ∈ i.entries ++ [("dismissed", .bool marked)], Has f.2 →
      n = i.user ∨ n = i.severity := by
    simp only [entries, List.cons_append, List.nil_append, List.forall_mem_cons]
    exact ⟨(absurd · (htext _)), (absurd · (htext _)), (absurd · (htext _)), .inl ∘ hint, .inr ∘ hint,
      (absurd · (htext _)), (absurd · (hoptional _)), (absurd · (hoptional _)), (absurd · hmark),
      List.forall_mem_nil _⟩
  obtain ⟨s, hs⟩ | ⟨f, hf, hname | hvalue⟩ := Store.mem_tokensAt_object h
  · cases hs
  · cases hname
  · obtain ⟨field, hfield, rfl⟩ := List.mem_map.mp hf
    exact hfields field hfield hvalue

/-- Rows that cannot be written have an issue that cannot be spelled. -/
theorem Issue.unspelled_of_write_rows {l : Json.Layout} {left issues : List Issue}
    {marked : Issue → Bool} {e : Fault} (hleft : ∀ i ∈ left, i ∈ issues)
    (h : Json.write l (.list (left.map fun i => i.row (marked i))) = .error e) :
    Unspelled issues e := by
  obtain ⟨he, n, hn, hlong⟩ := Json.exists_int_of_write h
  obtain ⟨s, hs⟩ | ⟨v, hv, hn⟩ := Json.mem_tokensAt_list hn
  · cases hs
  · obtain ⟨i, hi, rfl⟩ := List.mem_map.mp hv
    refine ⟨he, i, hleft i hi, fun hspell => hlong ?_⟩
    obtain rfl | rfl := mem_tokensAt_row hn
    · exact hspell.key
    · exact hspell.severity

/-- Is this a fault of showing the issues? One of them cannot be spelled, or is shown by a line that cannot
be encoded. -/
def Command.Unfit (c : Command) (encodes : Bool) (issues : List Issue) (e : Fault) : Prop :=
  Unspelled issues e ∨ encodes = true ∧ c.json = false ∧ Unshown issues e

namespace Action.FailsOnly

variable {encodes : Bool} {issues left : List Issue} {i : Issue}

theorem issueLine (hi : i ∈ issues) : Action.FailsOnly encodes (Unspelled issues) (issueLine i) := by
  refine (isDismissed _ _).bind fun _ => (lift fun e he => ?_).bind fun _ =>
    (lift fun e => IssueKey.unspelled_of_write hi).bind fun _ => pure _
  rw [Numeral.write] at he
  split at he
  · cases he
  · next hlong =>
    exact ⟨(Except.error.inj he).symm, i, hi, fun hspell => hlong hspell.severity⟩

theorem row (hi : i ∈ issues) : Action.FailsOnly encodes (Unspelled issues) (Command.row i) := by
  refine (lift fun e he => ?_).bind fun _ => (isDismissed _ _).bind fun _ => pure _
  obtain he | ⟨_, -, he⟩ := bind_eq_error_iff.mp he
  · exact IssueKey.unspelled_of_write hi he
  · cases he

/-- **Printing a page** fails with an integer that is too long to be written, if it fails, or with a line
that cannot be encoded. -/
theorem present (c : Command) (hleft : ∀ i ∈ left, i ∈ issues) :
    Action.FailsOnly encodes (c.Unfit encodes issues) (c.present left) := by
  rw [Command.present]
  split
  · refine ((mapM fun i hi => row (hleft i hi)).mono fun _ => .inl).bind_of_ok
      fun s rows s' hkind hrows => ?_
    obtain ⟨rfl, -⟩ := mapM_row_ok hkind hrows
    refine (lift fun e he => .inl (Issue.unspelled_of_write_rows hleft he)).bind_of_ok
      fun s page s' _ hpage => printLine fun _ e he => ?_
    obtain ⟨_, hwrite, hpage⟩ := Act.run_lift_bind_eq_ok (f := Pure.pure) (by rwa [bind_pure])
    obtain rfl := Except.ok.inj (Prod.mk.inj hpage).1
    exact absurd (Json.eq_render_of_write hwrite ▸ Json.whole_render rfl _) (not_whole_of_encodeText he)
  · next hlines =>
    refine forM fun i hi => ((issueLine (hleft i hi)).mono fun _ => .inl).bind_of_ok
      fun s t s' hkind ht => printLine fun hencodes e he => .inr ⟨hencodes, Bool.not_eq_true _ ▸ hlines, ?_⟩
    obtain ⟨rfl, -⟩ := issueLine_ok hkind ht
    exact ⟨i, hleft i hi, fun htitle => not_whole_of_encodeText he (Issue.whole_line htitle _), _, he⟩

/-- **Choosing what is left** fails only with an integer that is too long. -/
theorem select (c : Command) (settings : Settings) (issues : List Issue) :
    Action.FailsOnly encodes (Unspelled issues) (c.select settings issues) := by
  rw [Command.select]
  split
  · intro s r s' hkind hencodes hrun
    obtain ⟨hkind', hencodes', hcomplained, hfaults⟩ := dedup issues s r s' hkind hencodes hrun
    refine ⟨hkind', hencodes', hcomplained, fun e he => ⟨hfaults e he, ?_⟩⟩
    by_contra hspell
    have hprintable : ∀ b ∈ (Dedup.buckets issues).map Prod.snd, ∀ i ∈ b, i.key.Printable :=
      fun b hb i hi => by
        by_contra hkey
        exact hspell ⟨i, Dedup.mem_of_mem_buckets hb hi, fun h => hkey h.key⟩
    obtain ⟨left, s₁, hok⟩ := (Dedup.run_returns_iff (Session.works_of_kind hkind)).mpr
      (Dedup.allLoggable_of_printable hprintable)
    rw [he] at hrun
    cases hok.symm.trans hrun
  · exact (note _ _ _).bind fun _ => pure issues

/-- Dismissing what is named fails also with a name that is no key. -/
theorem applyDismissals (issues : List Issue) (names : List String) :
    Action.FailsOnly encodes
      (fun e => (∃ name ∈ names, IssueKey.read name = .error e) ∨ Unspelled issues e)
      (applyDismissals issues names) := by
  induction names with
  | nil => exact pure ()
  | cons name names ih =>
    have hmore (e : Fault) : (∃ n ∈ names, IssueKey.read n = .error e) ∨ Unspelled issues e →
        (∃ n ∈ name :: names, IssueKey.read n = .error e) ∨ Unspelled issues e :=
      Or.imp_left fun ⟨n, hn, hread⟩ => ⟨n, List.mem_cons_of_mem name hn, hread⟩
    refine bind (lift fun e he => .inl ⟨name, List.mem_cons_self, he⟩) fun key => ?_
    cases hfound : issueWithKey? issues key with
    | none => exact (note _ _ _).bind fun _ => ih.mono hmore
    | some i =>
      obtain ⟨hi, rfl⟩ := issueWithKey?_eq_some hfound
      have hkey (e : Fault) (he : i.key.write = .error e) := IssueKey.unspelled_of_write hi he
      exact (dismiss (fun e he => .inr (hkey e he)) _ _).bind fun _ => ih.mono hmore

end Action.FailsOnly

/-! ### The work -/

namespace Command

variable {c : Command} {settings : Settings} {issues : List Issue} {w w' : World}

section Work

variable {s s₁ s' : Session} {r : Except Fault Nat}

/-- A refusal on the way through the names is reported. -/
theorem run_work_of_refusal {e : Fault} (hrefusal : e.isRefusal = true)
    (happly : (applyDismissals issues c.dismissals).run s = (.error e, s₁)) :
    (c.work settings issues).run s =
      (.ok 1, { s₁ with world := s₁.world.complain (e.message ++ [.char '\n']) }) := by
  have hcaught : (try
        applyDismissals issues c.dismissals
        pure none
      catch e =>
        if e.isRefusal then pure (some e.message) else throw e : Action (Option Text)).run s =
      (.ok (some e.message), s₁) := by
    rw [Act.run_tryCatch_error (Act.run_bind_error happly), if_pos hrefusal]
    rfl
  rw [work, Act.run_bind_ok hcaught]
  rfl

end Work

end Command

end IssueDigest
