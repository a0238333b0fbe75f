import IssueDigest.Proofs.Blocks
import IssueDigest.Proofs.Errands
/-!
# A run of the deduplicator that fails

A run can fail at any of its errands, and at the write when its block is left (`Dedup.Stops`). Whichever
it is, the block is closed again, and the records are those at the start with the copies that were done up
to there: a front part of the plan if an errand fails, the whole of it if the write does. The write that is
put off does not count among the copies. It may fail behind a failed errand, and then its fault is the one
that comes out.

The list is shortened in its place when the block has been left (`Dedup.collapse`), so a run that fails has
not touched it.
-/

namespace IssueDigest

open Store

/-! ### Leaving a block -/

/-- Has a block been left, with the records as they were? -/
structure Session.Left (s s' : Session) : Prop where
  records : s'.record? = s.record?
  copies : s'.store.counters.copies = s.store.counters.copies
  depth? : s'.depth? = s.depth?.map (· - 1)
  kind : s'.kind = s.kind
  readable : s.Readable → s'.Readable

theorem Session.Left.still {s s' s'' : Session} (h : s.Left s') (h' : s'.Still s'') :
    s.Left s'' where
  records := h'.record?.trans h.records
  copies := h'.copies.trans h.copies
  depth? := h'.depth?.trans h.depth?
  kind := h'.kind.trans h.kind
  readable hs := h'.readable (h.readable hs)

/-- **Leaving a block** changes no record, whether what is pending can be written or not. -/
theorem Store.left_leaveBatch {s s' : Session} {r : Except Fault Unit}
    (h : leaveBatch.run s = (r, s')) : s.Left s' := by
  obtain ⟨⟨name, counters, backing⟩, world⟩ := s
  cases backing with
  | memory records =>
    obtain ⟨-, rfl⟩ := Prod.mk.inj h
    exact ⟨rfl, rfl, rfl, rfl, id⟩
  | server front =>
    obtain ⟨-, rfl⟩ := Prod.mk.inj h
    exact ⟨rfl, rfl, rfl, rfl, id⟩
  | file book =>
    rw [run_leaveBatch_file] at h
    split at h
    · obtain ⟨disk, hsave⟩ | ⟨e, disk, counters', journal, hcopies, hsave⟩ :=
        run_saveFile_cases { book with depth := book.depth - 1 }
          ⟨⟨name, counters, .file { book with depth := book.depth - 1 }⟩, world⟩
      · obtain ⟨-, rfl⟩ := Prod.mk.inj (hsave.symm.trans h)
        exact ⟨rfl, rfl, rfl, rfl, nofun⟩
      · obtain ⟨-, rfl⟩ := Prod.mk.inj (hsave.symm.trans h)
        exact ⟨rfl, hcopies, rfl, rfl, nofun⟩
    · obtain ⟨-, rfl⟩ := Prod.mk.inj h
      exact ⟨rfl, rfl, rfl, rfl, nofun⟩

namespace Dedup

open Ledger

variable {issues : List Issue} {s s' : Session} {e : Fault}

/-! ### The block of a run -/

/-- The session when the run has said what it is about to do and has opened its block. -/
def opened (issues : List Issue) (s : Session) : Session :=
  Session.deeper { s with world := noted issues s.world }

theorem ledger_opened (issues : List Issue) (s : Session) : (opened issues s).ledger = s.ledger := by
  obtain ⟨⟨name, counters, backing⟩, world⟩ := s
  cases backing <;> rfl

theorem depth?_opened (issues : List Issue) (s : Session) :
    (opened issues s).depth? = s.depth?.map (· + 1) := by
  obtain ⟨⟨name, counters, backing⟩, world⟩ := s
  cases backing <;> rfl

theorem kind_opened (issues : List Issue) (s : Session) : (opened issues s).kind = s.kind := by
  obtain ⟨⟨name, counters, backing⟩, world⟩ := s
  cases backing <;> rfl

theorem readable_opened {issues : List Issue} {s : Session} (h : s.Readable) :
    (opened issues s).Readable := by
  obtain ⟨⟨name, counters, backing⟩, world⟩ := s
  cases backing with
  | memory records => exact nofun
  | file book => exact nofun
  | server front => exact h

theorem inside_opened (issues : List Issue) (s : Session) : (opened issues s).Inside := by
  intro h
  rw [depth?_opened] at h
  obtain ⟨n, -, hn⟩ := Option.map_eq_some_iff.mp h
  omega

/-- What is asked of the store for the list. -/
def plan (issues : List Issue) (s : Session) : List Errand :=
  s.ledger.allErrands ((buckets issues).map Prod.snd)

theorem fitAll_plan (issues : List Issue) (s : Session) :
    FitAll (opened issues s).ledger (plan issues s) := by
  rw [ledger_opened]
  exact fitAll_allErrands s.ledger _

/-- The session when the run has said what is left. -/
def reported (issues : List Issue) (s : Session) : Session :=
  if (redundant (buckets issues)).isEmpty then s
  else
    { s with
      world := s.world.note .info "Duplicate issues filtered"
        [("input_count", .int issues.length), ("bucket_count", .int (buckets issues).length),
          ("removed_count", .int (issues.length - (survivors issues).length)),
          ("remaining_count", .int (survivors issues).length)] }

theorem still_reported (issues : List Issue) (s : Session) : s.Still (reported issues s) := by
  unfold reported
  split
  · exact .refl s
  · exact s.still_marked _ s.world.server.calls

/-- **A run is its block**: it fails if the block does, and else brings the survivors. -/
theorem run_eq_block (issues : List Issue) (s : Session) :
    (run issues).run s =
      match (Act.andFinally (perform (plan issues s)) leaveBatch).run (opened issues s) with
      | (.ok (), s₁) => (.ok (survivors issues), reported issues s₁)
      | (.error e, s₁) => (.error e, s₁) := by
  have halign := run_errands (buckets issues) (inside_opened issues s)
  rw [ledger_opened] at halign
  have hbatch : (batch ((buckets issues).forM fun b => align b.2)).run
      { s with world := noted issues s.world } =
        (Act.andFinally (perform (plan issues s)) leaveBatch).run (opened issues s) := by
    show (Act.andFinally _ leaveBatch).run (opened issues s) = _
    rw [Act.run_andFinally (Act.run_eq_of_fst rfl), Act.run_andFinally (Act.run_eq_of_fst rfl), halign]
    rfl
  show (batch ((buckets issues).forM fun b => align b.2) >>= fun _ => _).run
    { s with world := noted issues s.world } = _
  match hblock : (Act.andFinally (perform (plan issues s)) leaveBatch).run (opened issues s) with
  | (.error e, s₁) => exact Act.run_bind_error (hbatch.trans hblock)
  | (.ok (), s₁) =>
    rw [Act.run_bind_ok (hbatch.trans hblock)]
    dsimp only
    unfold reported
    split
    · next hempty => rw [survivors_eq_self hempty, Act.run_pure]
    · rfl

/-- The run fails exactly if its block does, and leaves what the block leaves. -/
theorem run_eq_error_iff_batch :
    (run issues).run s = (.error e, s') ↔
      (Act.andFinally (perform (plan issues s)) leaveBatch).run (opened issues s) = (.error e, s') := by
  rw [run_eq_block]
  split
  · next hblock =>
    rw [hblock]
    exact iff_of_false nofun nofun
  · next hblock =>
    rw [hblock]
    constructor
    · intro h
      obtain ⟨he, rfl⟩ := Prod.mk.inj h
      rw [Except.error.inj he]
    · intro h
      obtain ⟨he, rfl⟩ := Prod.mk.inj h
      rw [Except.error.inj he]

/-- Where a run fails, with which fault and what it leaves behind, when these errands have been done. -/
inductive Stops (issues : List Issue) (s : Session) : List Errand → Fault → Session → Prop
  /-- An errand fails. The block is left because of the fault. -/
  | errand {before after : List Errand} {failing : Errand} {s₁ s₂ s' : Session} {e e' : Fault}
      (planned : plan issues s = before ++ failing :: after)
      (done : (perform before).run (opened issues s) = (.ok (), s₁))
      (fails : failing.run.run s₁ = (.error e, s₂))
      (left : (Act.andFinally (throw e : Action Unit) leaveBatch).run s₂ = (.error e', s')) :
      Stops issues s before e' s'
  /-- All errands are done, and what they have changed cannot be written. -/
  | leaving {s₁ s' : Session} {e : Fault}
      (done : (perform (plan issues s)).run (opened issues s) = (.ok (), s₁))
      (fails : leaveBatch.run s₁ = (.error e, s')) : Stops issues s (plan issues s) e s'

/-- **A run fails at an errand or when its block is left**, and nowhere else. -/
theorem run_eq_error_iff : (run issues).run s = (.error e, s') ↔ ∃ done, Stops issues s done e s' := by
  rw [run_eq_error_iff_batch]
  constructor
  · intro h
    match hbody : (perform (plan issues s)).run (opened issues s) with
    | (.ok (), s₁) =>
      refine ⟨_, .leaving hbody ?_⟩
      rw [Act.run_andFinally_ok hbody] at h
      obtain hleave | ⟨⟨⟩, s₂, -, hrest⟩ := Act.run_bind_eq_error h
      · exact hleave
      · cases (Prod.mk.inj hrest).1
    | (.error e', s₂) =>
      obtain ⟨before, failing, after, s₁, hplan, hdone, hfails⟩ := run_perform_eq_error_iff.mp hbody
      refine ⟨before, .errand hplan hdone hfails ?_⟩
      rwa [Act.run_andFinally_error hbody, ← Act.run_andFinally_error (Act.run_throw e' s₂)] at h
  · rintro ⟨done, h⟩
    cases h with
    | @errand _ _ failing s₁ s₂ _ e' _ hplan hdone hfails hleft =>
      have hbody := run_perform_eq_error_iff.mpr ⟨_, failing, _, s₁, hplan, hdone, hfails⟩
      rwa [Act.run_andFinally_error hbody, ← Act.run_andFinally_error (Act.run_throw e' s₂)]
    | leaving hdone hfails => rw [Act.run_andFinally_ok hdone, Act.run_bind_error hfails]

/-! ### What a failure leaves behind -/

/-- Has a front part of the plan been done, and no block been left open? -/
structure Halted (issues : List Issue) (s : Session) (done : List Errand) (s' : Session) : Prop where
  /-- The records are those at the start, with the copies that were done. -/
  records : s'.record? = done.foldl Errand.apply s.record?
  /-- Each of these copies has been counted, and no other one. -/
  copies : s'.store.counters.copies = s.store.counters.copies + done.countP Errand.isLend
  /-- As many blocks are open as before. -/
  depth? : s'.depth? = s.depth?
  kind : s'.kind = s.kind
  /-- What could be read can still be read. -/
  readable : s.Readable → s'.Readable
  /-- Nothing was done out of turn. -/
  prefix_plan : done <+: plan issues s

/-- When errands have been done and the block has been left, their effect is there. -/
theorem halted_of_left {done : List Errand} {s₁ s₂ : Session} (hplan : done <+: plan issues s)
    (hdone : (perform done).run (opened issues s) = (.ok (), s₁)) (hstill : s₁.Still s₂)
    (hleft : s₂.Left s') : Halted issues s done s' := by
  obtain ⟨after, hafter⟩ := hplan
  have hfit : FitAll (opened issues s).ledger done := by
    have hall := fitAll_plan issues s
    rw [← hafter] at hall
    exact (fitAll_append.mp hall).1
  have hleads := leads_of_perform (inside_opened issues s) hfit hdone
  refine ⟨?records, ?copies, ?depth, ?kind, ?readable, after, hafter⟩
  case records =>
    calc s'.record? = s₁.ledger.records := hleft.records.trans hstill.record?
      _ = done.foldl Errand.apply (opened issues s).ledger.records := by
        rw [hleads.ledger, records_foldl_next hfit]
      _ = done.foldl Errand.apply s.record? := by
        rw [ledger_opened]
        rfl
  case copies =>
    calc s'.store.counters.copies = s₁.ledger.counters.copies := hleft.copies.trans hstill.copies
      _ = (opened issues s).ledger.counters.copies + done.countP Errand.isLend := by
        rw [hleads.ledger, copies_foldl_next hfit]
      _ = s.store.counters.copies + done.countP Errand.isLend := by
        rw [ledger_opened]
        rfl
  case depth =>
    rw [hleft.depth?, hstill.depth?, hleads.depth?, depth?_opened, Option.map_map]
    exact Option.map_id'
  case kind =>
    rw [hleft.kind, hstill.kind, hleads.kind, kind_opened]
  case readable =>
    exact fun h => hleft.readable (hstill.readable (hleads.readable (readable_opened h)))

/-- **Wherever a run stops**, the errands that were done have had their effect, and nothing else has. -/
theorem Stops.halted {done : List Errand} (h : Stops issues s done e s') :
    Halted issues s done s' := by
  cases h with
  | @errand _ after failing s₁ s₂ _ e' _ hplan hdone hfails hleft =>
    have hinside : s₁.Inside := by
      have hfit := fitAll_plan issues s
      rw [hplan] at hfit
      have hleads := leads_of_perform (inside_opened issues s) (fitAll_append.mp hfit).1 hdone
      exact hleads.inside.mpr (inside_opened issues s)
    have hsnd := congrArg Prod.snd hleft
    rw [Act.run_andFinally_snd, Act.run_throw] at hsnd
    exact halted_of_left ⟨failing :: after, hplan.symm⟩ hdone (failing.still hinside hfails)
      (left_leaveBatch (r := (leaveBatch.run s₂).1) (Prod.ext rfl hsnd))
  | leaving hdone hfails =>
    exact halted_of_left (List.prefix_rfl) hdone (.refl _) (left_leaveBatch hfails)

/-- A run that comes back has come through its whole plan, and has left its block. -/
theorem perform_of_run {left : List Issue} (h : (run issues).run s = (.ok left, s')) :
    ∃ s₁ s₂, (perform (plan issues s)).run (opened issues s) = (.ok (), s₁) ∧
      leaveBatch.run s₁ = (.ok (), s₂) ∧ s' = reported issues s₂ := by
  rw [run_eq_block] at h
  split at h
  · next s₂ hblock =>
    obtain ⟨-, rfl⟩ := Prod.mk.inj h
    obtain ⟨s₁, hdone, hleave⟩ := Act.run_andFinally_eq_ok hblock
    exact ⟨s₁, s₂, hdone, hleave, rfl⟩
  · cases (Prod.mk.inj h).1

/-- **A run that comes back** has done its whole plan. -/
theorem halted_of_run {left : List Issue} (h : (run issues).run s = (.ok left, s')) :
    Halted issues s (plan issues s) s' := by
  obtain ⟨s₁, s₂, hdone, hleave, rfl⟩ := perform_of_run h
  exact halted_of_left List.prefix_rfl hdone (.refl _)
    ((left_leaveBatch hleave).still (still_reported issues s₂))

/-- A run that comes back has aligned all buckets, whatever the store is. -/
theorem records_of_run {left : List Issue} (h : (run issues).run s = (.ok left, s')) :
    s'.record? = (s.ledger.alignAll ((buckets issues).map Prod.snd)).records := by
  rw [← foldl_allErrands, records_foldl_next (fitAll_allErrands s.ledger _)]
  exact (halted_of_run h).records

/-! ### The list -/

/-- A store in its world, and the list of issues that is shown. -/
structure Desk where
  session : Session
  shown : List Issue

/-- An action on the store, beside the list. -/
def atDesk {α : Type} (x : Action α) : Act Desk α := do
  let d ← get
  let (result, session) := x.run d.session
  set { d with session }
  Act.lift result

/-- Collapses the duplicates of the list in its place. -/
def collapse : Act Desk Unit := do
  let issues := (← get).shown
  let found := buckets issues
  atDesk (note .debug "Deduplicating issues"
    [("issue_count", .int issues.length), ("bucket_count", .int found.length)])
  atDesk (batch (found.forM fun b => align b.2))
  if (redundant found).isEmpty then pure ()
  else
    modify fun d => { d with shown := survivors issues }
    let left := (← get).shown
    atDesk (note .info "Duplicate issues filtered"
      [("input_count", .int issues.length), ("bucket_count", .int found.length),
        ("removed_count", .int (issues.length - left.length)),
        ("remaining_count", .int left.length)])

theorem run_atDesk {α : Type} {x : Action α} {r : Except Fault α} (h : x.run s = (r, s')) :
    (atDesk x).run ⟨s, issues⟩ = (r, ⟨s', issues⟩) := by
  rw [atDesk, Act.run_get_bind, h]
  dsimp only
  rw [Act.run_set_bind]
  cases r <;> rfl

/-- **Collapsing in place is running**, with the list that comes back in the place of the old one. -/
theorem run_collapse (issues : List Issue) (s : Session) :
    collapse.run ⟨s, issues⟩ =
      match (run issues).run s with
      | (.ok left, s') => (.ok (), ⟨s', left⟩)
      | (.error e, s') => (.error e, ⟨s', issues⟩) := by
  have hnote : (note .debug "Deduplicating issues"
      [("issue_count", .int issues.length), ("bucket_count", .int (buckets issues).length)]).run s =
        (.ok (), { s with world := noted issues s.world }) := rfl
  rw [collapse, Act.run_get_bind, run]
  dsimp only
  rw [Act.run_bind_ok (run_atDesk hnote), Act.run_bind_ok hnote]
  cases hbatch : (batch ((buckets issues).forM fun b => align b.2)).run
      { s with world := noted issues s.world } with
  | mk result s₁ =>
  cases result with
  | error e => rw [Act.run_bind_error (run_atDesk hbatch), Act.run_bind_error hbatch]
  | ok =>
    rw [Act.run_bind_ok (run_atDesk hbatch), Act.run_bind_ok hbatch]
    split <;> rfl

/-- **Wherever a run stops**, the fault comes out, the list holds what it held, the records are the initial
ones with the copies that were done up to there, each of which has been counted, and as many blocks are
open as before. A run fails in no other way. -/
theorem collapse_interrupted (issues : List Issue) (s : Session) :
    (∀ done e s', Stops issues s done e s' →
        collapse.run ⟨s, issues⟩ = (.error e, ⟨s', issues⟩) ∧ Halted issues s done s') ∧
      ∀ e t, collapse.run ⟨s, issues⟩ = (.error e, t) → ∃ done, Stops issues s done e t.session := by
  constructor
  · intro done e s' h
    refine ⟨?_, h.halted⟩
    rw [run_collapse, run_eq_error_iff.mpr ⟨done, h⟩]
  · intro e t h
    rw [run_collapse] at h
    match hrun : (run issues).run s with
    | (.ok left, s') =>
      rw [hrun] at h
      cases (Prod.mk.inj h).1
    | (.error e', s') =>
      rw [hrun] at h
      obtain ⟨he, rfl⟩ := Prod.mk.inj h
      rw [← Except.error.inj he]
      exact run_eq_error_iff.mp hrun

/-- A server store that holds a dismissal of one issue, and a server that fails at one call. -/
def serving (i : Issue) (call : Nat) : Session where
  store := ⟨"redis", ⟨0, 0, 0⟩, .server "p:"⟩
  world :=
    { World.blank with
      server :=
        { Server.blank with
          entries := Table.empty.put ("p:" ++ i.key.render)
            (String.ofList (Record.line ⟨.newYear 2024, i.severity, 1⟩))
          outage := fun n _ => n == call } }

/-- Three duplicates. -/
def trio : List Issue := [duplicate "t" 0, duplicate "a" 0, duplicate "b" 0]

/-- The second copy finds the server down. The first one has been done, and the list is whole. -/
theorem collapse_interrupted_second :
    ∃ e t done, collapse.run ⟨serving (duplicate "t" 0) 4, trio⟩ = (.error e, t) ∧ t.shown = trio ∧
      Halted trio (serving (duplicate "t" 0) 4) done t.session ∧
      t.session.record? (duplicate "a" 0).key = some ⟨.newYear 2024, 100, 1⟩ ∧
      t.session.record? (duplicate "b" 0).key = none := by
  obtain ⟨hfails, ha, hb⟩ :
      (collapse.run ⟨serving (duplicate "t" 0) 4, trio⟩).1 = .error (.server "down") ∧
        (collapse.run ⟨serving (duplicate "t" 0) 4, trio⟩).2.session.record? (duplicate "a" 0).key =
          some ⟨.newYear 2024, 100, 1⟩ ∧
        (collapse.run ⟨serving (duplicate "t" 0) 4, trio⟩).2.session.record? (duplicate "b" 0).key =
          none := by
    decide +kernel
  have hrun := Act.run_eq_of_fst hfails
  obtain ⟨hstops, hother⟩ := collapse_interrupted trio (serving (duplicate "t" 0) 4)
  obtain ⟨done, hdone⟩ := hother _ _ hrun
  obtain ⟨hsame, hhalted⟩ := hstops done _ _ hdone
  exact ⟨_, _, done, hrun, congrArg Desk.shown (Prod.mk.inj (hrun.symm.trans hsame)).2, hhalted, ha,
    hb⟩

end Dedup

end IssueDigest
