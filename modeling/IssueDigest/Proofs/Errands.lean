import IssueDigest.Proofs.Outages
/-!
# Aligning as a list of errands

What the deduplicator asks of a store while it aligns is a list of **errands**: whether an issue is
dismissed, and to lend the record of one issue to another. The list depends on the records at the start
alone (`Ledger.allErrands`), although each bucket is gone through when the records of the buckets in front
of it have changed, and although it is the answers of the store that decide where a search ends. Whatever
fails, and wherever, the deduplicator goes through this list up to there (`run_errands`).

So what is left after a failure is the effect of a front part of the list. An errand that is done has the
effect that the ledger says (`Errand.next`), and one that fails has none.
-/

namespace IssueDigest

open Store

namespace Dedup

/-- One thing that is asked of a store. -/
inductive Errand where
  /-- Is the issue dismissed? -/
  | ask (i : Issue)
  /-- The record of the first issue is for the second, too. -/
  | lend (leader i : Issue)

namespace Errand

/-- The errand on a store. -/
def run : Errand → Action Unit
  | ask i => (fun _ => ()) <$> isDismissed i.key i.severity
  | lend leader i => Dedup.lend leader i

/-- The ledger when the errand is done. -/
def next (l : Ledger) : Errand → Ledger
  | ask _ => l.checked 1
  | lend leader i => l.lend leader i

/-- Is there a record to lend, and somebody who follows? -/
def Fits (l : Ledger) : Errand → Prop
  | ask _ => True
  | lend leader i => Ledger.follows leader i = true ∧ ∃ r, l.records leader.key = some r

/-- Is a record lent? -/
def isLend : Errand → Bool
  | ask _ => false
  | lend _ _ => true

/-- The records when the errand is done. -/
def apply (records : IssueKey → Option Record) : Errand → IssueKey → Option Record
  | ask _ => records
  | lend leader i => Function.update records i.key (records leader.key)

theorem records_next {l : Ledger} {errand : Errand} (h : errand.Fits l) :
    (errand.next l).records = errand.apply l.records := by
  cases errand with
  | ask i => rfl
  | lend leader i =>
    obtain ⟨hfollows, -⟩ := h
    rw [next, Ledger.lend, if_pos hfollows]
    rfl

theorem copies_next {l : Ledger} {errand : Errand} (h : errand.Fits l) :
    (errand.next l).counters.copies = l.counters.copies + if errand.isLend then 1 else 0 := by
  cases errand with
  | ask i => rfl
  | lend leader i =>
    obtain ⟨hfollows, -⟩ := h
    rw [next, Ledger.lend, if_pos hfollows]
    rfl

end Errand

/-! ### One errand -/

section Errand

variable {s s' : Session} {errand : Errand} {e : Fault}

/-- Spelling two keys for the journal changes nothing, whether it succeeds or not. -/
theorem run_lend_of_follows {leader i : Issue} (h : Ledger.follows leader i = true) (s : Session) :
    (∃ e, (Dedup.lend leader i).run s = (.error e, s)) ∨
      ∃ s₁, s.Still s₁ ∧ s₁.store.counters = s.store.counters ∧
        (Dedup.lend leader i).run s = (copy leader.key i.key).run s₁ := by
  rw [lend_of_follows h]
  cases leader.key.write with
  | error e => exact .inl ⟨e, rfl⟩
  | ok leaderText =>
    cases i.key.write with
    | error e => exact .inl ⟨e, rfl⟩
    | ok text =>
      refine .inr ⟨{ s with
        world := s.world.note .debug "Aligning dismissal of duplicate issue"
          [("from_key", .string leaderText), ("to_key", .string text)] }, ?_, rfl, rfl⟩
      exact s.still_marked _ s.world.server.calls

/-- **An errand that fails has changed nothing.** -/
theorem Errand.still (h : s.Inside) (hrun : errand.run.run s = (.error e, s')) : s.Still s' := by
  cases errand with
  | ask i =>
    obtain ⟨r, calls, hask, -⟩ := run_isDismissed i.key i.severity s
    rw [run, Act.run_map, hask] at hrun
    cases r with
    | ok answer => cases (Prod.mk.inj hrun).1
    | error e' =>
      obtain ⟨-, rfl⟩ := Prod.mk.inj hrun
      exact ⟨(s.ledger.checked 1).counters, s.world.journal, calls, rfl, rfl⟩
  | lend leader i =>
    rw [run] at hrun
    by_cases hfollows : Ledger.follows leader i = true
    · obtain ⟨e', hlend⟩ | ⟨s₁, hstill, -, hlend⟩ := run_lend_of_follows hfollows s
      · obtain ⟨-, rfl⟩ := Prod.mk.inj (hlend.symm.trans hrun)
        exact .refl s
      · exact hstill.trans (still_of_copy (hstill.inside.mpr h) (hlend.symm.trans hrun))
    · rw [lend_of_not_follows hfollows] at hrun
      cases (Prod.mk.inj hrun).1

/-- **An errand that is done** has the effect that the ledger says. -/
theorem Errand.leads (h : s.Inside) (hfits : errand.Fits s.ledger)
    (hrun : errand.run.run s = (.ok (), s')) : s.Leads s' (errand.next s.ledger) := by
  cases errand with
  | ask i =>
    obtain ⟨r, calls, hask, -⟩ := run_isDismissed i.key i.severity s
    rw [run, Act.run_map, hask] at hrun
    cases r with
    | error e => cases (Prod.mk.inj hrun).1
    | ok answer =>
      obtain ⟨-, rfl⟩ := Prod.mk.inj hrun
      exact ⟨rfl, rfl, id, rfl⟩
  | lend leader i =>
    obtain ⟨hfollows, r, hr⟩ := hfits
    rw [run] at hrun
    obtain ⟨e, hlend⟩ | ⟨s₁, hstill, hcounters, hlend⟩ := run_lend_of_follows hfollows s
    · cases (Prod.mk.inj (hlend.symm.trans hrun)).1
    · have hledger : s₁.ledger = s.ledger := Ledger.ext hstill.record? hcounters
      have hcopy := leads_of_copy (hstill.inside.mpr h) (hledger ▸ hr) (hlend.symm.trans hrun)
      rw [hledger] at hcopy
      refine ⟨hcopy.depth?.trans hstill.depth?, hcopy.kind.trans hstill.kind,
        hcopy.readable ∘ hstill.readable, ?_⟩
      rw [hcopy.ledger, next, Ledger.lend, if_pos hfollows, hr]

end Errand

/-! ### A list of errands -/

/-- Does each errand fit when its turn comes? -/
def FitAll (l : Ledger) : List Errand → Prop
  | [] => True
  | errand :: rest => errand.Fits l ∧ FitAll (errand.next l) rest

theorem fitAll_append {l : Ledger} {front back : List Errand} :
    FitAll l (front ++ back) ↔ FitAll l front ∧ FitAll (front.foldl Errand.next l) back := by
  induction front generalizing l with
  | nil => exact ⟨fun h => ⟨trivial, h⟩, fun h => h.2⟩
  | cons errand front ih =>
    rw [List.cons_append, FitAll, ih, FitAll, and_assoc]
    rfl

/-- Goes through errands, up to one that fails. -/
def perform : List Errand → Action Unit
  | [] => pure ()
  | errand :: rest => errand.run >>= fun _ => perform rest

theorem perform_append (front back : List Errand) :
    perform (front ++ back) = perform front >>= fun _ => perform back := by
  induction front with
  | nil => rfl
  | cons errand front ih =>
    show (errand.run >>= fun _ => perform (front ++ back)) = _
    rw [ih, perform, bind_assoc]

/-- **Errands fail at one of them**, when those in front of it are done. -/
theorem run_perform_eq_error_iff {errands : List Errand} {s s' : Session} {e : Fault} :
    (perform errands).run s = (.error e, s') ↔
      ∃ before errand after s₁, errands = before ++ errand :: after ∧
        (perform before).run s = (.ok (), s₁) ∧ errand.run.run s₁ = (.error e, s') := by
  constructor
  · intro h
    induction errands generalizing s with
    | nil => cases (Prod.mk.inj h).1
    | cons errand errands ih =>
      obtain hfirst | ⟨⟨⟩, s₁, hfirst, hrest⟩ := Act.run_bind_eq_error h
      · exact ⟨[], errand, errands, s, rfl, rfl, hfirst⟩
      · obtain ⟨before, x, after, s₂, rfl, hbefore, hx⟩ := ih hrest
        exact ⟨errand :: before, x, after, s₂, rfl, (Act.run_bind_ok hfirst).trans hbefore, hx⟩
  · rintro ⟨before, errand, after, s₁, rfl, hbefore, hfails⟩
    rw [perform_append, Act.run_bind_ok hbefore]
    exact Act.run_bind_error hfails

/-- **A list of errands that are done** has the effect of one after another. -/
theorem leads_of_perform {s s' : Session} {errands : List Errand} (h : s.Inside)
    (hfit : FitAll s.ledger errands) (hrun : (perform errands).run s = (.ok (), s')) :
    s.Leads s' (errands.foldl Errand.next s.ledger) := by
  induction errands generalizing s with
  | nil =>
    obtain ⟨-, rfl⟩ := Prod.mk.inj hrun
    exact ⟨rfl, rfl, id, rfl⟩
  | cons errand errands ih =>
    obtain ⟨hfits, hrest⟩ := hfit
    obtain ⟨⟨⟩, s₁, hfirst, hrun⟩ := Act.run_bind_eq_ok hrun
    have hleads := errand.leads h hfits hfirst
    have hafter := ih (hleads.inside.mpr h) (hleads.ledger ▸ hrest) hrun
    refine ⟨hafter.depth?.trans hleads.depth?, hafter.kind.trans hleads.kind,
      hafter.readable ∘ hleads.readable, ?_⟩
    rw [hafter.ledger, hleads.ledger]
    rfl

/-- The records are those at the start with what was lent, one record after another. -/
theorem records_foldl_next {l : Ledger} {errands : List Errand} (h : FitAll l errands) :
    (errands.foldl Errand.next l).records = errands.foldl Errand.apply l.records := by
  induction errands generalizing l with
  | nil => rfl
  | cons errand errands ih =>
    obtain ⟨hfits, hrest⟩ := h
    rw [List.foldl_cons, ih hrest, errand.records_next hfits, List.foldl_cons]

/-- Each record that was lent has been counted. -/
theorem copies_foldl_next {l : Ledger} {errands : List Errand} (h : FitAll l errands) :
    (errands.foldl Errand.next l).counters.copies =
      l.counters.copies + errands.countP Errand.isLend := by
  induction errands generalizing l with
  | nil => rfl
  | cons errand errands ih =>
    obtain ⟨hfits, hrest⟩ := h
    rw [List.foldl_cons, ih hrest, errand.copies_next hfits, List.countP_cons]
    omega

end Dedup

/-! ### The errands of aligning -/

namespace Ledger

open Dedup

variable {l : Ledger} {bucket : List Issue} {leader : Issue}

/-- What aligning a bucket asks of the store: the search, and the records that are lent. -/
def errands (l : Ledger) (bucket : List Issue) : List Errand :=
  (bucket.take (l.examined bucket)).map .ask ++
    match l.leader? bucket with
    | none => []
    | some leader => (bucket.filter (follows leader)).map (.lend leader)

/-- What aligning the buckets asks of the store. -/
def allErrands (l : Ledger) : List (List Issue) → List Errand
  | [] => []
  | bucket :: rest => l.errands bucket ++ (l.align bucket).allErrands rest

/-- An issue of the bucket is asked about, or the record of the leader is lent to a follower. -/
theorem mem_errands_iff {errand : Errand} :
    errand ∈ l.errands bucket ↔ (∃ i ∈ bucket.take (l.examined bucket), errand = .ask i) ∨
      ∃ leader, l.leader? bucket = some leader ∧
        ∃ i ∈ bucket, follows leader i = true ∧ errand = .lend leader i := by
  rw [errands, List.mem_append]
  refine or_congr ?_ ?_
  · rw [List.mem_map]
    exact exists_congr fun i => and_congr_right fun _ => eq_comm
  · cases l.leader? bucket with
    | none => simp
    | some leader =>
      have hlends : errand ∈ (bucket.filter (follows leader)).map (.lend leader) ↔
          ∃ i ∈ bucket, follows leader i = true ∧ errand = .lend leader i := by
        simp only [List.mem_map, List.mem_filter, and_assoc]
        exact exists_congr fun i => and_congr_right fun _ => and_congr_right fun _ => eq_comm
      simpa using hlends

/-- Whatever is asked is asked for one of the buckets, with the records of its turn. -/
theorem mem_errands_of_mem_allErrands {buckets : List (List Issue)} {errand : Errand}
    (h : errand ∈ l.allErrands buckets) :
    ∃ bucket ∈ buckets, ∃ l' : Ledger, errand ∈ l'.errands bucket := by
  induction buckets generalizing l with
  | nil => cases h
  | cons bucket rest ih =>
    rcases List.mem_append.mp h with hfirst | hrest
    · exact ⟨bucket, List.mem_cons_self, l, hfirst⟩
    · obtain ⟨b, hb, l', herrand⟩ := ih hrest
      exact ⟨b, List.mem_cons_of_mem _ hb, l', herrand⟩

theorem fitAll_asks (l : Ledger) (issues : List Issue) : FitAll l (issues.map .ask) := by
  induction issues generalizing l with
  | nil => trivial
  | cons i issues ih => exact ⟨trivial, ih (l.checked 1)⟩

theorem foldl_asks (l : Ledger) (issues : List Issue) :
    (issues.map .ask).foldl Errand.next l = l.checked issues.length := by
  induction issues generalizing l with
  | nil => rfl
  | cons i issues ih =>
    rw [List.map_cons, List.foldl_cons, ih, Errand.next, checked_checked, Nat.add_comm]
    rfl

/-- The leader keeps its record while it lends it. -/
theorem fitAll_lends {r : Record} (hr : l.records leader.key = some r) (issues : List Issue) :
    FitAll l ((issues.filter (follows leader)).map (.lend leader)) := by
  induction issues generalizing l with
  | nil => trivial
  | cons i issues ih =>
    by_cases hfollows : follows leader i = true
    · rw [List.filter_cons_of_pos hfollows]
      exact ⟨⟨hfollows, r, hr⟩, ih ((records_lend l leader i).trans hr)⟩
    · rw [List.filter_cons_of_neg hfollows]
      exact ih hr

theorem foldl_lends (l : Ledger) (leader : Issue) (issues : List Issue) :
    ((issues.filter (follows leader)).map (.lend leader)).foldl Errand.next l =
      l.lent leader issues := by
  induction issues generalizing l with
  | nil => rw [lent_nil, List.filter_nil, List.map_nil, List.foldl_nil]
  | cons i issues ih =>
    rw [lent_cons]
    by_cases hfollows : follows leader i = true
    · rw [List.filter_cons_of_pos hfollows]
      exact ih (l.lend leader i)
    · rw [List.filter_cons_of_neg hfollows, lend, if_neg hfollows]
      exact ih l

theorem length_examined (l : Ledger) (bucket : List Issue) :
    (bucket.take (l.examined bucket)).length = l.examined bucket := by
  rw [List.length_take]
  exact Nat.min_eq_left (Nat.min_le_right _ _)

theorem fitAll_errands (l : Ledger) (bucket : List Issue) : FitAll l (l.errands bucket) := by
  refine fitAll_append.mpr ⟨fitAll_asks l _, ?_⟩
  rw [foldl_asks]
  cases hleader : l.leader? bucket with
  | none => trivial
  | some leader =>
    obtain ⟨r, hr, -⟩ := record_of_leader? hleader
    exact fitAll_lends (l := l.checked _) hr bucket

/-- **The errands of a bucket align it.** -/
theorem foldl_errands (l : Ledger) (bucket : List Issue) :
    (l.errands bucket).foldl Errand.next l = l.align bucket := by
  rw [errands, List.foldl_append, foldl_asks, length_examined, align]
  cases l.leader? bucket with
  | none => rfl
  | some leader => exact foldl_lends _ leader bucket

theorem fitAll_allErrands (l : Ledger) (buckets : List (List Issue)) :
    FitAll l (l.allErrands buckets) := by
  induction buckets generalizing l with
  | nil => trivial
  | cons bucket buckets ih =>
    refine fitAll_append.mpr ⟨fitAll_errands l bucket, ?_⟩
    rw [foldl_errands]
    exact ih (l.align bucket)

/-- **All errands together align all buckets.** -/
theorem foldl_allErrands (l : Ledger) (buckets : List (List Issue)) :
    (l.allErrands buckets).foldl Errand.next l = l.alignAll buckets := by
  induction buckets generalizing l with
  | nil => rfl
  | cons bucket buckets ih =>
    rw [allErrands, List.foldl_append, foldl_errands, ih]
    rfl

end Ledger

namespace Dedup

open Ledger

/-! ### Going through the errands -/

variable {s : Session}

theorem run_ask {i : Issue} {s₁ : Session} {r : Except Fault Bool}
    (h : (isDismissed i.key i.severity).run s = (r, s₁)) :
    (Errand.ask i).run.run s = (r.map fun _ => (), s₁) := by
  rw [Errand.run, Act.run_map, h]

/-- The search asks about one issue after another, up to the leader. -/
theorem run_firstDismissed_bind {β : Type} (f : Option Issue → Action β) (bucket : List Issue)
    (s : Session) :
    (firstDismissed bucket >>= f).run s =
      (perform ((bucket.take (s.ledger.examined bucket)).map .ask) >>= fun _ =>
        f (s.ledger.leader? bucket)).run s := by
  induction bucket generalizing s with
  | nil => rfl
  | cons i rest ih =>
    obtain ⟨r, calls, hask, hanswer⟩ := run_isDismissed i.key i.severity s
    rw [firstDismissed, bind_assoc]
    cases hdismissed : s.ledger.dismissed i with
    | true =>
      rw [examined_cons_of_dismissed hdismissed, leader?_cons_of_dismissed hdismissed]
      show _ = (((Errand.ask i).run >>= fun _ => pure ()) >>= fun _ => f (some i)).run s
      rw [bind_assoc]
      cases r with
      | error e => rw [Act.run_bind_error hask, Act.run_bind_error (run_ask hask)]
      | ok answer =>
        obtain rfl : answer = true := (hanswer answer rfl).trans hdismissed
        rw [Act.run_bind_ok hask, Act.run_bind_ok (run_ask hask)]
        rfl
    | false =>
      rw [examined_cons_of_not_dismissed hdismissed, leader?_cons_of_not_dismissed hdismissed,
        List.take_succ_cons, List.map_cons, perform, bind_assoc]
      cases r with
      | error e => rw [Act.run_bind_error hask, Act.run_bind_error (run_ask hask)]
      | ok answer =>
        obtain rfl : answer = false := (hanswer answer rfl).trans hdismissed
        rw [Act.run_bind_ok hask, Act.run_bind_ok (run_ask hask)]
        -- A question changes no record, so the search goes on from the same ones.
        exact ih (s.marked (s.ledger.checked 1).counters s.world.journal calls)

/-- Nothing is asked of the store for an issue that does not follow. -/
theorem forM_lend (leader : Issue) (issues : List Issue) :
    issues.forM (Dedup.lend leader) =
      perform ((issues.filter (follows leader)).map (.lend leader)) := by
  induction issues with
  | nil => rfl
  | cons i issues ih =>
    show (Dedup.lend leader i >>= fun _ => issues.forM (Dedup.lend leader)) = _
    rw [ih]
    by_cases hfollows : follows leader i = true
    · rw [List.filter_cons_of_pos hfollows]
      rfl
    · rw [List.filter_cons_of_neg hfollows, lend_of_not_follows hfollows]
      rfl

/-- **Aligning a bucket goes through its errands**, whatever fails. -/
theorem run_align (bucket : List Issue) (s : Session) :
    (align bucket).run s = (perform (s.ledger.errands bucket)).run s := by
  rw [align, run_firstDismissed_bind, errands, perform_append]
  cases s.ledger.leader? bucket with
  | none => rfl
  | some leader =>
    dsimp only
    rw [forM_lend]

/-- **Aligning all buckets goes through their errands**, planned on the records at the start. -/
theorem run_errands (found : Entries DedupKey (List Issue)) (h : s.Inside) :
    (found.forM fun b => align b.2).run s =
      (perform (s.ledger.allErrands (found.map Prod.snd))).run s := by
  induction found generalizing s with
  | nil => rfl
  | cons b found ih =>
    show (align b.2 >>= fun _ => found.forM fun b => align b.2).run s = _
    rw [List.map_cons, allErrands, perform_append]
    match hrun : (perform (s.ledger.errands b.2)).run s with
    | (.error e, s₁) =>
      rw [Act.run_bind_error ((run_align b.2 s).trans hrun), Act.run_bind_error hrun]
    | (.ok (), s₁) =>
      rw [Act.run_bind_ok ((run_align b.2 s).trans hrun), Act.run_bind_ok hrun]
      have hleads := leads_of_perform h (fitAll_errands s.ledger b.2) hrun
      rw [foldl_errands] at hleads
      rw [ih (hleads.inside.mpr h), hleads.ledger]

end Dedup

end IssueDigest
