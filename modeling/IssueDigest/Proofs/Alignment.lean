import IssueDigest.Proofs.Stores
/-!
# Aligning dismissals

The deduplicator asks the store about the issues of a bucket until one is dismissed, and lends that
one's record to the others. This module shows that on a store that works it leaves exactly what
`Ledger.align` says, bucket after bucket.

It can fail for one reason only: a key whose user id has too many digits to be written. Stores that
keep text meet it when they look the issue up. A memory store does not mind such keys, but the
message about a record that is lent spells both keys out, so the deduplicator meets it there. A list
is **loggable** if this happens nowhere. Both directions are proved: a loggable list is aligned to the
end, and any other makes the run fail.
-/

namespace IssueDigest

/-! ### What aligning is made of -/

/-- Is the property one of the steps that aligning is made of, and kept by putting steps together? -/
structure Action.Closed (P : ∀ {α : Type}, Action α → Prop) : Prop where
  pure {α : Type} (a : α) : P (Pure.pure a : Action α)
  bind {α β : Type} {x : Action α} {f : α → Action β} : P x → (∀ a, P (f a)) → P (x >>= f)
  write (key : IssueKey) : P (Act.lift key.write)
  note (level : Level) (message : Text) (context : List (String × Json)) :
    P (Store.note level message context)
  isDismissed (key : IssueKey) (severity : Int) : P (Store.isDismissed key severity)
  copy (source target : IssueKey) : P (Store.copy source target)

namespace Action.Closed

variable {P : ∀ {α : Type}, Action α → Prop} (h : Action.Closed P)

include h

theorem forM {α : Type} {x : α → Action Unit} (hx : ∀ a, P (x a)) (items : List α) :
    P (items.forM x) := by
  induction items with
  | nil => exact h.pure ()
  | cons a items ih => exact h.bind (hx a) fun _ => ih

theorem firstDismissed (bucket : List Issue) : P (Dedup.firstDismissed bucket) := by
  induction bucket with
  | nil => exact h.pure none
  | cons i rest ih =>
    refine h.bind (h.isDismissed i.key i.severity) fun answer => ?_
    cases answer with
    | true => exact h.pure (some i)
    | false => exact ih

theorem lend (top i : Issue) : P (Dedup.lend top i) := by
  unfold Dedup.lend
  split
  · exact h.bind (h.write top.key) fun _ => h.bind (h.write i.key) fun _ =>
      h.bind (h.note _ _ _) fun _ => h.copy top.key i.key
  · exact h.pure ()

/-- **Aligning has the property**, bucket after bucket. -/
theorem align (found : Entries DedupKey (List Issue)) : P (found.forM fun b => Dedup.align b.2) := by
  refine h.forM (fun b => h.bind (h.firstDismissed b.2) fun top => ?_) found
  cases top with
  | none => exact h.pure ()
  | some top => exact h.forM (h.lend top) b.2

end Action.Closed

namespace Session

/-- Does the action fail? -/
def Fails {α : Type} (s : Session) (x : Action α) : Prop := ∃ e s', x.run s = (.error e, s')

section Fails

variable {α β : Type} {s : Session} {x : Action α} {f : α → Action β}

theorem Fails.bind (h : s.Fails x) : s.Fails (x >>= f) := by
  obtain ⟨e, s', hrun⟩ := h
  exact ⟨e, s', Act.run_bind_error hrun⟩

theorem Fails.after {a : α} {l : Ledger} (hx : s.Yields x a l)
    (hf : ∀ s', s.Evolves s' → s'.ledger = l → s'.Fails (f a)) : s.Fails (x >>= f) := by
  obtain ⟨s₁, hrun, hevolves, hledger⟩ := hx
  obtain ⟨e, s₂, hrun'⟩ := hf s₁ hevolves hledger
  exact ⟨e, s₂, (Act.run_bind_ok hrun).trans hrun'⟩

theorem Fails.get_bind {f : Session → Action β} (h : s.Fails (f s)) : s.Fails (get >>= f) := h

theorem Fails.after_lift {x : Except Fault α} {a : α} (hx : x = .ok a) (h : s.Fails (f a)) :
    s.Fails (Act.lift x >>= f) := by
  subst hx
  exact h

theorem Fails.lift_bind {x : Except Fault α} {e : Fault} (hx : x = .error e) :
    s.Fails (Act.lift x >>= f) :=
  ⟨e, s, by rw [hx]; rfl⟩

end Fails

end Session

namespace Dedup

open Session Store Ledger

variable {s : Session}

/-- Where all keys can be written nothing is in the way. -/
theorem loggable_of_printable {l : Ledger} {bucket : List Issue}
    (h : ∀ i ∈ bucket, i.key.Printable) : l.Loggable s.Names bucket where
  examined i hi := .inr (h i (List.mem_of_mem_take hi))
  lent leader hleader i hi _ := ⟨h leader (mem_of_leader? hleader), h i hi⟩

theorem allLoggable_of_printable {l : Ledger} {buckets : List (List Issue)}
    (h : ∀ b ∈ buckets, ∀ i ∈ b, i.key.Printable) : l.AllLoggable s.Names buckets := by
  induction buckets generalizing l with
  | nil => trivial
  | cons b buckets ih =>
    obtain ⟨hb, hrest⟩ := List.forall_mem_cons.mp h
    exact ⟨loggable_of_printable hb, ih hrest⟩

/-! ### The first dismissed issue -/

theorem firstDismissed_yields {bucket : List Issue} (h : s.Works)
    (hnames : ∀ i ∈ bucket.take (s.ledger.examined bucket), s.Names i.key) :
    s.Yields (firstDismissed bucket) (s.ledger.leader? bucket)
      (s.ledger.checked (s.ledger.examined bucket)) := by
  -- Each issue that is not dismissed costs one question and changes no record.
  induction bucket generalizing s with
  | nil => exact .pure h none
  | cons i rest ih =>
    cases hdismissed : s.ledger.dismissed i with
    | true =>
      rw [examined_cons_of_dismissed hdismissed] at hnames ⊢
      rw [leader?_cons_of_dismissed hdismissed]
      have hask := isDismissed_yields h (hnames i List.mem_cons_self) i.severity
      rw [show s.ledger.covers i.key i.severity = true from hdismissed] at hask
      refine .bind hask fun s' hs' hl => ?_
      rw [← hl]
      exact .pure hs'.works (some i)
    | false =>
      rw [examined_cons_of_not_dismissed hdismissed] at hnames ⊢
      rw [leader?_cons_of_not_dismissed hdismissed, Nat.add_comm, ← checked_checked]
      have hask := isDismissed_yields h (hnames i List.mem_cons_self) i.severity
      rw [show s.ledger.covers i.key i.severity = false from hdismissed] at hask
      refine .bind hask fun s' hs' hl => ?_
      have hrest := ih hs'.works (s := s') fun j hj => by
        rw [hl, examined_checked] at hj
        exact hs'.names.mpr (hnames j (List.mem_cons_of_mem _ hj))
      rwa [hl] at hrest

theorem find_fails {key : IssueKey} (hkey : ¬s.Names key) : s.Fails (find key) := by
  obtain ⟨⟨name, counters, backing⟩, world⟩ := s
  rw [Names, not_or] at hkey
  cases backing with
  | memory records => exact absurd rfl hkey.1
  | file book => exact .get_bind (.lift_bind (IssueKey.write_of_not_printable hkey.2))
  | server front =>
    refine .get_bind (.lift_bind (e := .refused .integerUnwritable) ?_)
    rw [entryName, IssueKey.write_of_not_printable hkey.2]
    rfl

theorem isDismissed_fails {key : IssueKey} (hkey : ¬s.Names key) (severity : Int) :
    s.Fails (isDismissed key severity) := by
  have hfind : (s.count fun c => { c with checks := c.checks + 1 }).Fails (find key) :=
    find_fails hkey
  exact hfind.bind

/-- A store that cannot name an issue it is asked about fails. -/
theorem firstDismissed_fails {bucket : List Issue} (h : s.Works)
    (hnames : ¬∀ i ∈ bucket.take (s.ledger.examined bucket), s.Names i.key) :
    s.Fails (firstDismissed bucket) := by
  induction bucket generalizing s with
  | nil => exact absurd (fun _ hi => nomatch hi) hnames
  | cons i rest ih =>
    -- Either this key is the one that cannot be named, or the search goes on past it.
    by_cases hkey : s.Names i.key
    · have hask := isDismissed_yields h hkey i.severity
      cases hdismissed : s.ledger.dismissed i with
      | true =>
        rw [examined_cons_of_dismissed hdismissed] at hnames
        exact absurd (fun j hj => List.mem_singleton.mp hj ▸ hkey) hnames
      | false =>
        rw [examined_cons_of_not_dismissed hdismissed] at hnames
        rw [show s.ledger.covers i.key i.severity = false from hdismissed] at hask
        refine .after hask fun s' hs' hl => ih hs'.works fun hrest => hnames ?_
        rw [hl, examined_checked] at hrest
        exact List.forall_mem_cons.mpr ⟨hkey, fun j hj => hs'.names.mp (hrest j hj)⟩
    · exact (isDismissed_fails hkey i.severity).bind

/-! ### Lending a record -/

theorem lend_of_follows {leader i : Issue} (h : follows leader i = true) :
    Dedup.lend leader i = (do
      let leaderText ← Act.lift leader.key.write
      let text ← Act.lift i.key.write
      note .debug "Aligning dismissal of duplicate issue"
        [("from_key", .string leaderText), ("to_key", .string text)]
      copy leader.key i.key) :=
  if_pos h

theorem lend_of_not_follows {leader i : Issue} (h : ¬follows leader i = true) :
    Dedup.lend leader i = pure () :=
  if_neg h

theorem lend_yields {leader i : Issue} {r : Record} (h : s.Works)
    (hr : s.ledger.records leader.key = some r)
    (hkeys : follows leader i = true → leader.key.Printable ∧ i.key.Printable) :
    s.Yields (Dedup.lend leader i) () (s.ledger.lend leader i) := by
  rw [Ledger.lend, hr]
  by_cases hfollows : follows leader i = true
  · obtain ⟨hleader, hi⟩ := hkeys hfollows
    rw [lend_of_follows hfollows, if_pos hfollows]
    refine .lift_bind (IssueKey.write_of_printable hleader)
      (.lift_bind (IssueKey.write_of_printable hi) (.bind (note_yields h _ _ _) fun s' hs' hl => ?_))
    rw [← hl] at hr ⊢
    exact copy_yields hs'.works (.inr hleader) (.inr hi) hr
  · rw [lend_of_not_follows hfollows, if_neg hfollows]
    exact .pure h ()

theorem lend_fails {leader i : Issue} (hfollows : follows leader i = true)
    (hkeys : ¬(leader.key.Printable ∧ i.key.Printable)) : s.Fails (Dedup.lend leader i) := by
  rw [lend_of_follows hfollows]
  by_cases hleader : leader.key.Printable
  · exact .after_lift (IssueKey.write_of_printable hleader)
      (.lift_bind (IssueKey.write_of_not_printable fun hi => hkeys ⟨hleader, hi⟩))
  · exact .lift_bind (IssueKey.write_of_not_printable hleader)

/-- Lending to the issues of a list, one after another. -/
theorem forM_lend_yields {leader : Issue} {r : Record} {issues : List Issue} (h : s.Works)
    (hr : s.ledger.records leader.key = some r)
    (hkeys : ∀ i ∈ issues, follows leader i = true → leader.key.Printable ∧ i.key.Printable) :
    s.Yields (issues.forM (Dedup.lend leader)) () (s.ledger.lent leader issues) := by
  induction issues generalizing s with
  | nil =>
    rw [lent_nil]
    exact .pure h ()
  | cons i issues ih =>
    rw [lent_cons]
    -- The leader still has its record afterwards, which is what the induction asks for.
    refine .bind (lend_yields h hr (hkeys i List.mem_cons_self)) fun s' hs' hl => ?_
    rw [← hl]
    refine ih hs'.works ?_ fun j hj => hkeys j (List.mem_cons_of_mem _ hj)
    rw [hl, records_lend, hr]

theorem forM_lend_fails {leader : Issue} {r : Record} {issues : List Issue} (h : s.Works)
    (hr : s.ledger.records leader.key = some r)
    (hkeys : ¬∀ i ∈ issues, follows leader i = true → leader.key.Printable ∧ i.key.Printable) :
    s.Fails (issues.forM (Dedup.lend leader)) := by
  induction issues generalizing s with
  | nil => exact absurd (fun _ hi => nomatch hi) hkeys
  | cons i issues ih =>
    by_cases hi : follows leader i = true → leader.key.Printable ∧ i.key.Printable
    · refine .after (lend_yields h hr hi) fun s' hs' hl => ih hs'.works ?_ fun hrest => hkeys ?_
      · rw [hl, records_lend, hr]
      · exact List.forall_mem_cons.mpr ⟨hi, hrest⟩
    · obtain ⟨hfollows, hprintable⟩ := Classical.not_imp.mp hi
      exact .bind (lend_fails hfollows hprintable)

/-! ### A bucket -/

/-- **A loggable bucket is aligned** as the ledger says. -/
theorem align_yields {bucket : List Issue} (h : s.Works)
    (hloggable : s.ledger.Loggable s.Names bucket) :
    s.Yields (Dedup.align bucket) () (s.ledger.align bucket) := by
  refine .bind (firstDismissed_yields h hloggable.examined) fun s' hs' hl => ?_
  rw [Ledger.align]
  cases hleader : s.ledger.leader? bucket with
  | none =>
    rw [← hl]
    exact .pure hs'.works ()
  | some leader =>
    obtain ⟨r, hr, -⟩ := record_of_leader? hleader
    dsimp only
    rw [← hl]
    exact forM_lend_yields hs'.works (by rw [hl]; exact hr) (hloggable.lent leader hleader)

theorem align_fails {bucket : List Issue} (h : s.Works)
    (hloggable : ¬s.ledger.Loggable s.Names bucket) : s.Fails (Dedup.align bucket) := by
  by_cases hnames : ∀ i ∈ bucket.take (s.ledger.examined bucket), s.Names i.key
  · refine .after (firstDismissed_yields h hnames) fun s' hs' hl => ?_
    cases hleader : s.ledger.leader? bucket with
    | none => exact absurd ⟨hnames, fun _ h => nomatch hleader.symm.trans h⟩ hloggable
    | some leader =>
      obtain ⟨r, hr, -⟩ := record_of_leader? hleader
      refine forM_lend_fails hs'.works (by rw [hl]; exact hr) fun hlent => hloggable ⟨hnames, ?_⟩
      intro leader' h'
      obtain rfl : leader = leader' := Option.some.inj (hleader.symm.trans h')
      exact hlent
  · exact .bind (firstDismissed_fails h hnames)

/-! ### All buckets -/

theorem forM_align_yields (found : Entries DedupKey (List Issue)) (h : s.Works)
    (hloggable : s.ledger.AllLoggable s.Names (found.map Prod.snd)) :
    s.Yields (found.forM fun b => Dedup.align b.2) () (s.ledger.alignAll (found.map Prod.snd)) := by
  induction found generalizing s with
  | nil => exact .pure h ()
  | cons b found ih =>
    obtain ⟨hb, hrest⟩ := hloggable
    refine .bind (align_yields h hb) fun s' hs' hl => ?_
    have hnames : s'.Names = s.Names := funext fun _ => propext hs'.names
    have := ih hs'.works (by rw [hl, hnames]; exact hrest)
    rwa [hl] at this

theorem forM_align_fails {found : Entries DedupKey (List Issue)} (h : s.Works)
    (hloggable : ¬s.ledger.AllLoggable s.Names (found.map Prod.snd)) :
    s.Fails (found.forM fun b => Dedup.align b.2) := by
  induction found generalizing s with
  | nil => exact absurd trivial hloggable
  | cons b found ih =>
    by_cases hb : s.ledger.Loggable s.Names b.2
    · refine .after (align_yields h hb) fun s' hs' hl => ih hs'.works fun hrest => hloggable ⟨hb, ?_⟩
      have hnames : s'.Names = s.Names := funext fun _ => propext hs'.names
      rwa [hl, hnames] at hrest
    · exact .bind (align_fails h hb)

/-- A block around an action that fails fails, however the block is left. -/
theorem batch_fails {α : Type} {body : Action α} (h : s.Works)
    (hbody : ∀ s', s.Evolves s' → s'.ledger = s.ledger → s'.Fails body) : s.Fails (batch body) := by
  refine .after (enterBatch_yields h) fun s' hs' hl => ?_
  obtain ⟨e, s₁, hrun⟩ := hbody s' hs' hl
  rw [Fails, Act.run_andFinally_error hrun, Act.run_bind]
  match leaveBatch.run s₁ with
  | (.ok _, s₂) => exact ⟨e, s₂, rfl⟩
  | (.error e', s₂) => exact ⟨e', s₂, rfl⟩

/-! ### The whole run -/

/-- Without redundant issues all of them survive. -/
theorem survivors_eq_self {issues : List Issue} (h : (redundant (buckets issues)).isEmpty = true) :
    survivors issues = issues := by
  have hnil : redundant (buckets issues) = [] := List.isEmpty_iff.mp h
  simp [survivors, hnil]

/-- **A loggable list** comes back without the redundant issues, and its buckets are aligned. -/
theorem run_yields {issues : List Issue} (h : s.Works)
    (hloggable : s.ledger.AllLoggable s.Names ((buckets issues).map Prod.snd)) :
    s.Yields (run issues) (survivors issues)
      (s.ledger.alignAll ((buckets issues).map Prod.snd)) := by
  refine .bind (note_yields h _ _ _) fun s₁ hs₁ hl₁ => ?_
  have hbatch : s₁.Yields (batch ((buckets issues).forM fun b => Dedup.align b.2)) ()
      (s.ledger.alignAll ((buckets issues).map Prod.snd)) := by
    refine batch_yields hs₁.works fun s₂ hs₂ hl₂ => ?_
    have hnames : s₂.Names = s.Names := funext fun _ => propext (hs₂.names.trans hs₁.names)
    have halign := forM_align_yields (buckets issues) hs₂.works
      (by rwa [hl₂, hl₁, hnames])
    rwa [hl₂, hl₁] at halign
  refine .bind hbatch fun s₃ hs₃ hl₃ => ?_
  split
  · next hempty =>
    rw [survivors_eq_self hempty, ← hl₃]
    exact .pure hs₃.works issues
  · refine .bind (note_yields hs₃.works _ _ _) fun s₄ hs₄ hl₄ => ?_
    rw [← hl₃, ← hl₄]
    exact .pure hs₄.works _

/-- **Any other list** makes the run fail. -/
theorem run_fails {issues : List Issue} (h : s.Works)
    (hloggable : ¬s.ledger.AllLoggable s.Names ((buckets issues).map Prod.snd)) :
    s.Fails (run issues) := by
  refine .after (note_yields h _ _ _) fun s₁ hs₁ hl₁ => .bind (batch_fails hs₁.works ?_)
  intro s₂ hs₂ hl₂
  refine forM_align_fails hs₂.works ?_
  have hnames : s₂.Names = s.Names := funext fun _ => propext (hs₂.names.trans hs₁.names)
  rwa [hl₂, hl₁, hnames]

/-- A run on a store that works comes back exactly if the list is loggable. -/
theorem run_returns_iff {issues : List Issue} (h : s.Works) :
    (∃ left s', (run issues).run s = (.ok left, s')) ↔
      s.ledger.AllLoggable s.Names ((buckets issues).map Prod.snd) := by
  by_cases hloggable : s.ledger.AllLoggable s.Names ((buckets issues).map Prod.snd)
  · obtain ⟨s', hrun, -, -⟩ := run_yields h hloggable
    exact iff_of_true ⟨_, s', hrun⟩ hloggable
  · refine iff_of_false ?_ hloggable
    rintro ⟨left, s', hrun⟩
    obtain ⟨e, s₁, hrun'⟩ := run_fails h hloggable
    cases hrun.symm.trans hrun'

/-- When it comes back it has left the ledger of the aligned buckets. -/
theorem ledger_of_run {issues left : List Issue} {s' : Session} (h : s.Works)
    (hrun : (run issues).run s = (.ok left, s')) :
    s'.ledger = s.ledger.alignAll ((buckets issues).map Prod.snd) := by
  obtain ⟨s₁, hrun', -, hledger⟩ := run_yields h ((run_returns_iff h).mp ⟨left, s', hrun⟩)
  obtain rfl : s₁ = s' := (Prod.mk.inj (hrun'.symm.trans hrun)).2
  exact hledger

/-- Whatever the store is, and whether it works or not: a run that comes back brings the survivors. -/
theorem eq_survivors_of_run {issues left : List Issue} {s' : Session}
    (h : (run issues).run s = (.ok left, s')) : left = survivors issues := by
  obtain ⟨_, s₁, -, h⟩ := Act.run_bind_eq_ok h
  obtain ⟨_, s₂, -, h⟩ := Act.run_bind_eq_ok h
  split at h
  · next hempty =>
    rw [survivors_eq_self hempty]
    exact (Except.ok.inj (Prod.mk.inj h).1).symm
  · obtain ⟨_, s₃, -, h⟩ := Act.run_bind_eq_ok h
    exact (Except.ok.inj (Prod.mk.inj h).1).symm

end Dedup

end IssueDigest
