import IssueDigest.Proofs.Interruption
/-!
# Entries that are no records

A server holds whatever it is given, so an entry of the store may be a text that is no record, or octets
that are no text. The ledger counts such an entry as none, and the plan of a run is made from the ledger:
an issue with a garbled entry is not dismissed. But the run has to look at the entry to say so, and looking
at it is a fault that nobody handles.

So on a server that never fails a run goes through its plan up to the first errand that meets an
obstacle (`firstObstacle?`): a key that has no text, or an entry that is no record. The entries are
followed along the way, since a record that is lent to an issue takes the place of a garbled entry
(`Errand.mend`).
-/

namespace IssueDigest

open Store

namespace Session

/-- Is it a store on a server, on which no call fails from now on? What the server holds may be
anything. -/
structure Attended (s : Session) : Prop where
  kind : s.kind = .server
  calm : ∀ n c, s.world.server.calls ≤ n → s.world.server.outage n c = false

/-- The fault of reading the entry of an issue, if it is no record. -/
def flaw? (s : Session) (key : IssueKey) : Option Fault :=
  match s.store.backing with
  | .server front =>
    (s.world.server.entries.get? (front ++ key.render)).bind fun raw =>
      match readHeld raw with
      | .error e => some e
      | .ok _ => none
  | _ => none

/-- A garbled entry counts as none. -/
theorem record?_eq_none_of_flaw? {s : Session} {key : IssueKey} {e : Fault}
    (h : s.flaw? key = some e) : s.record? key = none := by
  obtain ⟨⟨name, counters, backing⟩, world⟩ := s
  cases backing with
  | memory records => cases h
  | file book => cases h
  | server front =>
    obtain ⟨raw, hraw, hflaw⟩ := Option.bind_eq_some_iff.mp h
    have hentry : world.server.entries.get? (front ++ key.render) = some raw := hraw
    cases hline : readHeld raw with
    | ok r =>
      rw [hline] at hflaw
      cases hflaw
    | error e' => simp [Session.record?, hentry, hline, Except.toOption]

/-- Reading the entry fails, or finds the record. -/
theorem fetch_eq {s : Session} {front : String} (hs : s.store.backing = .server front)
    (key : IssueKey) :
    fetch s.world.server (front ++ key.render) =
      (s.flaw? key).elim (.ok (s.record? key)) .error := by
  rw [fetch, flaw?, Session.record?, hs]
  cases hanswer : s.world.server.answer? (front ++ key.render) with
  | none =>
    have hnone : s.world.server.entries.get? (front ++ key.render) = none := by
      simpa [Server.answer?] using hanswer
    simp [hnone]
  | some answer =>
    obtain ⟨raw, hraw, hread⟩ := readEntry_of_answer hanswer
    simp only [hraw, hread, Option.bind_some]
    cases readHeld raw <;> rfl

theorem Attended.called {s : Session} (h : s.Attended) : (called s).Attended :=
  ⟨h.kind, fun n c hn => h.calm n c (Nat.le_of_succ_le hn)⟩

end Session

namespace Dedup

open Session Ledger

/-! ### Obstacles -/

/-- Why an issue cannot be looked up: its key has no text, or its entry is no record. -/
def refusal? (flaws : IssueKey → Option Fault) (key : IssueKey) : Option Fault :=
  if key.Printable then flaws key else some (.refused .integerUnwritable)

namespace Errand

/-- What stands in the way of an errand. -/
def obstacle? (flaws : IssueKey → Option Fault) : Errand → Option Fault
  | ask i => refusal? flaws i.key
  | lend leader i =>
    if leader.key.Printable ∧ i.key.Printable then none else some (.refused .integerUnwritable)

/-- The entries that are no records when the errand is done. -/
def mend (flaws : IssueKey → Option Fault) : Errand → IssueKey → Option Fault
  | ask _ => flaws
  | lend _ i => Function.update flaws i.key none

end Errand

/-- The first obstacle on the way through errands. -/
def firstObstacle? (flaws : IssueKey → Option Fault) : List Errand → Option Fault
  | [] => none
  | errand :: rest =>
    match errand.obstacle? flaws with
    | some e => some e
    | none => firstObstacle? (errand.mend flaws) rest

/-! ### One errand -/

section Errand

variable {s : Session} (h : s.Attended)

include h

theorem run_find_attended (key : IssueKey) :
    ∃ s', (find key).run s = ((refusal? s.flaw? key).elim (.ok (s.record? key)) .error, s') ∧
      s'.Attended ∧ s'.flaw? = s.flaw? := by
  obtain ⟨front, hs⟩ := exists_of_server h.kind
  have hcall : (call .get).run s = (.ok (), called s) := run_call (h.calm _ _ (Nat.le_refl _))
  by_cases hkey : key.Printable
  · rw [refusal?, if_pos hkey]
    have hfind := run_find_server hs (entryName_of_printable hkey) hcall
    rw [fetch_eq hs] at hfind
    exact ⟨called s, hfind, h.called, rfl⟩
  · refine ⟨s, ?_, h, rfl⟩
    have hname : entryName front key = .error (.refused .integerUnwritable) := by
      rw [entryName, IssueKey.write_of_not_printable hkey]
      rfl
    rw [refusal?, if_neg hkey, find, Act.run_get_bind, hs]
    dsimp only
    rw [hname]
    rfl

theorem run_keep_attended {key : IssueKey} (hkey : key.Printable) {r : Record} (hr : r.Storable) :
    ∃ s', (keep key r).run s = (.ok (), s') ∧ s'.Attended ∧
      s'.flaw? = Function.update s.flaw? key none := by
  obtain ⟨⟨name, counters, backing⟩, world⟩ := s
  obtain ⟨front, rfl⟩ : ∃ front, backing = .server front := exists_of_server h.kind
  refine ⟨stored ⟨⟨name, counters, .server front⟩, world⟩ (front ++ key.render)
    (String.ofList r.line), ?run, ⟨rfl, h.called.calm⟩, funext fun k => ?flaws⟩
  case run =>
    rw [keep, Act.run_get_bind]
    dsimp only
    rw [entryName_of_printable hkey, Act.run_bind_ok (Act.run_lift_ok _ _),
      writeEntry_of_printable hr.toPrintable, Act.run_bind_ok (Act.run_lift_ok _ _),
      ← asString_ofChars]
    exact Act.run_tryCatch_ok (Act.run_bind_ok (run_call (h.calm _ _ (Nat.le_refl _))))
  case flaws =>
    by_cases hk : k = key
    · subst hk
      simp [flaw?, stored, readHeld_encode, readLine_line hr]
    · have hne : front ++ k.render ≠ front ++ key.render :=
        fun heq => hk (IssueKey.name_injective front heq)
      simp [flaw?, stored, hne, hk]

theorem run_copy_attended {source target : IssueKey} (hsource : source.Printable)
    (htarget : target.Printable) {r : Record} (hr : s.record? source = some r) :
    ∃ s', (copy source target).run s = (.ok (), s') ∧ s'.Attended ∧
      s'.flaw? = Function.update s.flaw? target none := by
  have hrefusal : refusal? s.flaw? source = none := by
    rw [refusal?, if_pos hsource]
    cases hflaw : s.flaw? source with
    | none => rfl
    | some e => cases (record?_eq_none_of_flaw? hflaw).symm.trans hr
  have hstorable : r.Storable := by
    obtain ⟨front, hs⟩ := exists_of_server h.kind
    exact storable_of_server hs hr
  obtain ⟨s₁, hfind, hs₁, hflaws₁⟩ := run_find_attended h source
  obtain ⟨s₂, hkeep, hs₂, hflaws₂⟩ := run_keep_attended hs₁ htarget hstorable
  rw [hrefusal, hr] at hfind
  rw [hflaws₁] at hflaws₂
  refine ⟨s₂.count fun c => { c with copies := c.copies + 1 }, ?_, ⟨hs₂.kind, hs₂.calm⟩, hflaws₂⟩
  rw [copy, Act.run_bind_ok hfind]
  exact (Act.run_bind_ok hkeep).trans (Act.run_modify _ _)

/-- **An errand** fails if there is an obstacle, with the fault that the obstacle is. -/
theorem Errand.run_attended {errand : Errand} (hfits : errand.Fits s.ledger) :
    ∃ s', errand.run.run s = ((errand.obstacle? s.flaw?).elim (.ok ()) .error, s') ∧
      (errand.obstacle? s.flaw? = none → s'.Attended ∧ s'.flaw? = errand.mend s.flaw?) := by
  cases errand with
  | ask i =>
    obtain ⟨s', hfind, hs', hflaws⟩ := run_find_attended
      (s := s.count fun c => { c with checks := c.checks + 1 }) ⟨h.kind, h.calm⟩ i.key
    have hsame : (s.count fun c => { c with checks := c.checks + 1 }).flaw? = s.flaw? := rfl
    rw [hsame] at hfind hflaws
    refine ⟨s', ?_, fun _ => ⟨hs', hflaws⟩⟩
    rw [Errand.run, Act.run_map, isDismissed, Act.run_modify_bind, Errand.obstacle?]
    cases hrefusal : refusal? s.flaw? i.key with
    | some e =>
      rw [hrefusal] at hfind
      rw [Act.run_bind_error hfind]
      rfl
    | none =>
      rw [hrefusal] at hfind
      rw [Act.run_bind_ok hfind]
      cases (s.count fun c => { c with checks := c.checks + 1 }).record? i.key <;> rfl
  | lend leader i =>
    obtain ⟨hfollows, r, hr⟩ := hfits
    rw [Errand.run, lend_of_follows hfollows, Errand.obstacle?]
    by_cases hleader : leader.key.Printable
    · rw [IssueKey.write_of_printable hleader, Act.run_bind_ok (Act.run_lift_ok _ _)]
      by_cases hkey : i.key.Printable
      · rw [if_pos ⟨hleader, hkey⟩, IssueKey.write_of_printable hkey,
          Act.run_bind_ok (Act.run_lift_ok _ _)]
        obtain ⟨s', hcopy, hs'⟩ := run_copy_attended (s := { s with
          world := s.world.note .debug "Aligning dismissal of duplicate issue"
            [("from_key", .string leader.key.render), ("to_key", .string i.key.render)] })
          ⟨h.kind, h.calm⟩ hleader hkey hr
        exact ⟨s', hcopy, fun _ => hs'⟩
      · rw [if_neg fun hboth => hkey hboth.2, IssueKey.write_of_not_printable hkey]
        exact ⟨s, rfl, fun h => (Option.some_ne_none _ h).elim⟩
    · rw [if_neg fun hboth => hleader hboth.1, IssueKey.write_of_not_printable hleader]
      exact ⟨s, rfl, fun h => (Option.some_ne_none _ h).elim⟩

end Errand

/-! ### The errands of a run -/

/-- A record that is lent garbles no entry. -/
theorem Errand.obstacle?_of_mend {flaws : IssueKey → Option Fault} {errand next : Errand} {e : Fault}
    (h : next.obstacle? (errand.mend flaws) = some e) : next.obstacle? flaws = some e := by
  cases next with
  | lend leader i => exact h
  | ask i =>
    cases errand with
    | ask j => exact h
    | lend leader j =>
      rw [Errand.obstacle?, refusal?] at h ⊢
      split
      · next hkey =>
        rw [if_pos hkey, Errand.mend, Function.update_apply] at h
        split at h
        · cases h
        · exact h
      · next hkey => rwa [if_neg hkey] at h

/-- An obstacle on the way has been there from the start. -/
theorem exists_of_firstObstacle? {flaws : IssueKey → Option Fault} {errands : List Errand} {e : Fault}
    (h : firstObstacle? flaws errands = some e) :
    ∃ errand ∈ errands, errand.obstacle? flaws = some e := by
  induction errands generalizing flaws with
  | nil => cases h
  | cons first rest ih =>
    rw [firstObstacle?] at h
    split at h
    · next hfirst => exact ⟨first, List.mem_cons_self, hfirst.trans h⟩
    · obtain ⟨errand, hmem, herrand⟩ := ih h
      exact ⟨errand, List.mem_cons_of_mem _ hmem, Errand.obstacle?_of_mend herrand⟩

/-- **Errands are done up to the first obstacle.** -/
theorem run_perform_attended {errands : List Errand} {s : Session} (h : s.Attended)
    (hfit : FitAll s.ledger errands) :
    ∃ s', (perform errands).run s =
        ((firstObstacle? s.flaw? errands).elim (.ok ()) .error, s') ∧ s'.kind = .server := by
  induction errands generalizing s with
  | nil => exact ⟨s, rfl, h.kind⟩
  | cons errand rest ih =>
    have hinside : s.Inside := by
      obtain ⟨front, hs⟩ := exists_of_server h.kind
      simp [Session.Inside, Session.depth?, hs]
    obtain ⟨s₁, hrun, hgoes⟩ := errand.run_attended h hfit.1
    rw [firstObstacle?]
    cases hobstacle : errand.obstacle? s.flaw? with
    | some e =>
      rw [hobstacle] at hrun
      exact ⟨s₁, Act.run_bind_error hrun, (errand.still hinside hrun).kind.trans h.kind⟩
    | none =>
      rw [hobstacle] at hrun
      obtain ⟨hs₁, hflaws⟩ := hgoes hobstacle
      have hleads := errand.leads hinside hfit.1 hrun
      obtain ⟨s', hrest, hkind⟩ := ih hs₁ (hleads.ledger ▸ hfit.2)
      rw [hflaws] at hrest
      exact ⟨s', (Act.run_bind_ok hrun).trans hrest, hkind⟩

/-- The plan is about issues of the list. -/
theorem exists_refusal?_of_plan {issues : List Issue} {s : Session} {flaws : IssueKey → Option Fault}
    {errand : Errand} {e : Fault} (hplan : errand ∈ plan issues s)
    (h : errand.obstacle? flaws = some e) : ∃ i ∈ issues, refusal? flaws i.key = some e := by
  obtain ⟨bucket, hbucket, l, herrand⟩ := mem_errands_of_mem_allErrands hplan
  obtain ⟨i, hi, rfl⟩ | ⟨leader, hleader, i, hi, -, rfl⟩ := mem_errands_iff.mp herrand
  · exact ⟨i, mem_of_mem_buckets hbucket (List.mem_of_mem_take hi), h⟩
  · rw [Errand.obstacle?] at h
    split at h
    · cases h
    · next hboth =>
      rcases not_and_or.mp hboth with hkey | hkey
      · exact ⟨leader, mem_of_mem_buckets hbucket (mem_of_leader? hleader),
          (if_neg hkey).trans h⟩
      · exact ⟨i, mem_of_mem_buckets hbucket hi, (if_neg hkey).trans h⟩

/-- **A run on a server that never fails**, whatever the server holds. An issue whose entry is no record
counts as not dismissed. The run fails exactly if its plan meets an obstacle, with the fault of the first
one; an obstacle is an issue of the list whose key has no text or whose entry is no record. If the run
comes back the issues that are left are those that any other store leaves, an empty one included, and the
buckets have been aligned. A document in an entry may be nested to any depth here (`Json.read`). -/
theorem run_garbled {s : Session} (h : s.Attended) (issues : List Issue) :
    (∀ key e, s.flaw? key = some e → ∀ severity, s.ledger.covers key severity = false) ∧
      (∃ s', (run issues).run s =
        ((firstObstacle? s.flaw? (plan issues s)).elim (.ok (survivors issues)) .error, s')) ∧
      (∀ e, firstObstacle? s.flaw? (plan issues s) = some e →
        ∃ i ∈ issues, refusal? s.flaw? i.key = some e) ∧
      ∀ left s', (run issues).run s = (.ok left, s') → left = survivors issues ∧
        s'.record? = (s.ledger.alignAll ((buckets issues).map Prod.snd)).records := by
  refine ⟨fun key e hflaw severity => ?garbled, ?run, fun e he => ?obstacle,
    fun left s' hrun => ⟨eq_survivors_of_run hrun, records_of_run hrun⟩⟩
  case garbled =>
    rw [Ledger.covers, records_ledger, record?_eq_none_of_flaw? hflaw]
    rfl
  case run =>
    obtain ⟨front, hs⟩ := exists_of_server h.kind
    have hopened : opened issues s = { s with world := noted issues s.world } := by
      obtain ⟨⟨name, counters, backing⟩, world⟩ := s
      obtain rfl : backing = .server front := hs
      rfl
    have hattended : (opened issues s).Attended := hopened ▸ ⟨h.kind, h.calm⟩
    have hflaws : (opened issues s).flaw? = s.flaw? := by rw [hopened]; rfl
    obtain ⟨s₁, hperform, hkind⟩ := run_perform_attended hattended (fitAll_plan issues s)
    rw [hflaws] at hperform
    -- Leaving a block is nothing to a server store.
    have hleave : leaveBatch.run s₁ = (.ok (), s₁) := by
      obtain ⟨front₁, hs₁⟩ := exists_of_server hkind
      rw [leaveBatch, Act.run_get_bind, hs₁]
      rfl
    rw [run_eq_block, Act.run_andFinally hperform, hleave]
    cases firstObstacle? s.flaw? (plan issues s) with
    | none => exact ⟨reported issues s₁, rfl⟩
    | some e => exact ⟨s₁, rfl⟩
  case obstacle =>
    obtain ⟨errand, hmem, herrand⟩ := exists_of_firstObstacle? he
    exact exists_refusal?_of_plan hmem herrand

/-- A store on a server that never fails and holds these texts for issues. -/
def keeping (entries : List (Issue × String)) : Session where
  store := ⟨"redis", ⟨0, 0, 0⟩, .server "p:"⟩
  world :=
    { World.blank with
      server :=
        { Server.blank with
          entries := Table.ofPairs (entries.map fun e => ("p:" ++ e.1.key.render, e.2)) } }

theorem attended_keeping (entries : List (Issue × String)) : (keeping entries).Attended :=
  ⟨rfl, fun _ _ _ => rfl⟩

/-- A store that holds a record of one issue and a garbled entry of another one. -/
def halfGarbled : Session :=
  keeping [(duplicate "a" 0, String.ofList (Record.line ⟨.newYear 2024, 100, 1⟩)),
    (duplicate "b" 0, "garbled")]

/-- Behind a dismissed issue the garbled entry is not looked at, and a record takes its place. -/
theorem run_garbled_behind :
    (halfGarbled.flaw? (duplicate "b" 0).key).isSome ∧
      ∃ s', (run [duplicate "a" 0, duplicate "b" 0]).run halfGarbled = (.ok [duplicate "a" 0], s') ∧
        s'.record? (duplicate "b" 0).key = some ⟨.newYear 2024, 100, 1⟩ := by
  obtain ⟨hflaw, hfree, hleft, hrecord⟩ :
      (halfGarbled.flaw? (duplicate "b" 0).key).isSome ∧
        firstObstacle? halfGarbled.flaw? (plan [duplicate "a" 0, duplicate "b" 0] halfGarbled) =
          none ∧
        survivors [duplicate "a" 0, duplicate "b" 0] = [duplicate "a" 0] ∧
        (halfGarbled.ledger.alignAll
          ((buckets [duplicate "a" 0, duplicate "b" 0]).map Prod.snd)).records
          (duplicate "b" 0).key = some ⟨.newYear 2024, 100, 1⟩ := by
    decide +kernel
  have hattended : halfGarbled.Attended := attended_keeping _
  obtain ⟨-, ⟨s', hrun⟩, -, hcomesBack⟩ :=
    run_garbled hattended [duplicate "a" 0, duplicate "b" 0]
  rw [hfree, hleft] at hrun
  exact ⟨hflaw, s', hrun, by rw [(hcomesBack _ _ hrun).2, hrecord]⟩

/-- The entry of the first issue of a bucket is always looked at, and the run fails over it. -/
theorem run_fails_garbled :
    (keeping [(duplicate "a" 0, "garbled")]).Attended ∧
      ((run [duplicate "a" 0]).run (keeping [(duplicate "a" 0, "garbled")])).1 =
        .error (.refused (.badJson "Expecting value: line 1 column 1 (char 0)")) :=
  ⟨attended_keeping _, by decide +kernel⟩

end Dedup

end IssueDigest
