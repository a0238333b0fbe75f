import IssueDigest.Proofs.Interruption
import IssueDigest.Proofs.SecondRun
/-!
# A run on what an earlier run has left

`run_twice` is about one session that goes on. Here the second run has a session of its own, which has
nothing in common with that of the first but the kind of its store and the records; the first one need
not even have been safe from failures, as long as it came back.

A run that comes back has done all its errands, so it has spelled every key that they spell
(`allLoggable_of_run`). The second one spells no other, and finds every record as it would leave it.
-/

namespace IssueDigest.Dedup

open Session Ledger Store

variable {issues : List Issue}

/-- Can the keys be spelled that the errand spells? The store spells the one that it is asked about, and
the journal the two between which a record is lent. -/
def Errand.Spelled (names : IssueKey → Prop) : Errand → Prop
  | ask i => names i.key
  | lend leader i => leader.key.Printable ∧ i.key.Printable

/-- **An errand that is done** has spelled its keys. -/
theorem Errand.spelled_of_run {errand : Errand} {s s' : Session} (hfits : errand.Fits s.ledger)
    (hrun : errand.run.run s = (.ok (), s')) : errand.Spelled s.Names := by
  by_contra hnot
  have hfails : s.Fails errand.run := by
    cases errand with
    | ask i =>
      rw [Errand.run, map_eq_pure_bind]
      exact (isDismissed_fails hnot i.severity).bind
    | lend leader i => exact lend_fails hfits.1 hnot
  obtain ⟨e, s₁, hfailed⟩ := hfails
  cases (Prod.mk.inj (hfailed.symm.trans hrun)).1

theorem spelled_of_perform {errands : List Errand} {s s' : Session} (h : s.Inside)
    (hfit : FitAll s.ledger errands) (hrun : (perform errands).run s = (.ok (), s')) :
    ∀ errand ∈ errands, errand.Spelled s.Names := by
  induction errands generalizing s with
  | nil => exact List.forall_mem_nil _
  | cons errand rest ih =>
    obtain ⟨hfits, hrest⟩ := hfit
    obtain ⟨⟨⟩, s₁, hfirst, hrun⟩ := Act.run_bind_eq_ok hrun
    have hleads := errand.leads h hfits hfirst
    have hspelled := ih (hleads.inside.mpr h) (hleads.ledger ▸ hrest) hrun
    rw [names_of_kind hleads.kind] at hspelled
    exact List.forall_mem_cons.mpr ⟨errand.spelled_of_run hfits hfirst, hspelled⟩

/-- Where the keys of all errands can be spelled the buckets are loggable, each in its turn. -/
theorem allLoggable_of_spelled {l : Ledger} {names : IssueKey → Prop} {buckets : List (List Issue)}
    (h : ∀ errand ∈ l.allErrands buckets, errand.Spelled names) : l.AllLoggable names buckets := by
  induction buckets generalizing l with
  | nil => trivial
  | cons bucket rest ih =>
    refine ⟨⟨fun i hi => ?examined, fun leader hleader i hi hfollows => ?lent⟩,
      ih fun errand hmem => h errand (List.mem_append_right _ hmem)⟩
    case examined =>
      exact h (.ask i) (List.mem_append_left _ (mem_errands_iff.mpr (.inl ⟨i, hi, rfl⟩)))
    case lent =>
      have hmem : .lend leader i ∈ l.errands bucket :=
        mem_errands_iff.mpr (.inr ⟨leader, hleader, i, hi, hfollows, rfl⟩)
      exact h (.lend leader i) (List.mem_append_left _ hmem)

/-- **A run that comes back** has met a list that is loggable, whatever else the store can do. -/
theorem allLoggable_of_run {s s' : Session} {left : List Issue}
    (hrun : (run issues).run s = (.ok left, s')) :
    s.ledger.AllLoggable s.Names ((buckets issues).map Prod.snd) := by
  obtain ⟨s₁, s₂, hdone, -, -⟩ := perform_of_run hrun
  have hspelled := spelled_of_perform (inside_opened issues s) (fitAll_plan issues s) hdone
  rw [names_of_kind (kind_opened issues s)] at hspelled
  exact allLoggable_of_spelled hspelled

/-- **A run comes back again**, with the same issues, on any store of the kind that works and holds what
the first run has left, and leaves every record alone. -/
theorem run_again {s s' u : Session} {left : List Issue} (hkeys : (issues.map Issue.key).Nodup)
    (hrun : (run issues).run s = (.ok left, s')) (hu : u.Works) (hkind : u.kind = s.kind)
    (hrecords : u.record? = s'.record?) :
    ∃ u', (run issues).run u = (.ok left, u') ∧ u.Evolves u' ∧ u'.record? = u.record? := by
  have hsettled : u.ledger.records = (settle s.ledger issues).records :=
    hrecords.trans (records_of_run hrun)
  have hmidway : Midway issues s.ledger u.ledger := fun key => .inr (congrFun hsettled key)
  have hloggable : u.ledger.AllLoggable u.Names ((buckets issues).map Prod.snd) := by
    have hbefore := allLoggable_of_run hrun
    rw [allLoggable_buckets_iff hkeys] at hbefore ⊢
    rw [names_of_kind hkind]
    exact fun d => loggable_of_midway hkeys hmidway (hbefore d)
  obtain ⟨u', hrun', hevolves, hledger⟩ := run_yields hu hloggable
  refine ⟨u', by rw [hrun', eq_survivors_of_run hrun], hevolves, ?_⟩
  calc u'.record? = (settle u.ledger issues).records := congrArg Ledger.records hledger
    _ = u.record? := records_settle_of_settled hkeys hsettled

end IssueDigest.Dedup
