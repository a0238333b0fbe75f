import IssueDigest.Proofs.Interruption
import IssueDigest.Proofs.Reach
import IssueDigest.Proofs.SecondRun
/-!
# Trying an interrupted run again

A run on a server store may be cut short by a call that fails, and be tried again on the same list when the
server is up. The errands that have been done have given some issues the record that a whole run gives
them, and left the others alone: the records are on their way from the initial ones to the final ones
(`midway_of_planned`). So the second attempt goes to the end if a whole run does, with the same issues left.

It does not always end with the same records. An issue that has been reached may be in front of the
old leader and lead the second attempt, and it lends its record to those only that are no more severe than
itself. Whoever is more severe than the new leader and not than the old one is **missed**, and keeps what
the first attempt has left him. In a bucket that is sorted by falling severity nobody is.
-/

namespace IssueDigest.Dedup

open Session Ledger Store

variable {issues : List Issue} {l l' : Ledger}

/-! ### Where an interrupted run has got to -/

/-- A record that is planned to be lent is that of the leader of a bucket, for one who follows. -/
theorem lend_mem_allErrands {buckets : List (List Issue)} (hapart : Apart buckets) {leader i : Issue}
    (h : .lend leader i ∈ l.allErrands buckets) :
    ∃ bucket ∈ buckets, l.leader? bucket = some leader ∧ i ∈ bucket ∧ follows leader i = true := by
  induction buckets generalizing l with
  | nil => cases h
  | cons bucket rest ih =>
    rcases List.mem_append.mp h with hfirst | hrest
    · refine ⟨bucket, List.mem_cons_self, ?_⟩
      obtain ⟨j, -, hask⟩ | ⟨leader', hleader, j, hj, hfollows, hlend⟩ := mem_errands_iff.mp hfirst
      · cases hask
      · obtain ⟨rfl, rfl⟩ := Errand.lend.inj hlend
        exact ⟨hleader, hj, hfollows⟩
    · obtain ⟨b, hb, hleader, hi⟩ := ih (List.pairwise_cons.mp hapart).2 hrest
      rw [leader?_congr (hapart.agree l b hb)] at hleader
      exact ⟨b, List.mem_cons_of_mem _ hb, hleader, hi⟩

section Midway

variable (hkeys : (issues.map Issue.key).Nodup)

include hkeys

/-- No two buckets have a leader that follows in the other. -/
theorem leader_key_ne {d d' : DedupKey} {leader leader' i : Issue}
    (hleader : l.leader? (bucketOf issues d) = some leader)
    (hleader' : l.leader? (bucketOf issues d') = some leader') (hi : i ∈ bucketOf issues d')
    (hfollows : follows leader' i = true) : leader.key ≠ i.key := by
  intro hkey
  have hmem := mem_bucketOf.mp (mem_of_leader? hleader)
  have hmem' := mem_bucketOf.mp hi
  obtain rfl : leader = i := List.inj_on_of_nodup_map hkeys hmem.1 hmem'.1 hkey
  obtain rfl : d = d' := Option.some.inj (hmem.2.symm.trans hmem'.2)
  obtain rfl : leader = leader' := Option.some.inj (hleader.symm.trans hleader')
  exact ((follows_iff hkeys hmem.1 hmem.1).mp hfollows).1 rfl

/-- **Errands of the plan** give an issue the record that a whole run gives it, or leave it alone. The
leaders keep what they lend. -/
theorem records_of_planned {done : List Errand}
    (h : ∀ e ∈ done, e ∈ l.allErrands ((buckets issues).map Prod.snd)) :
    (∀ d leader, l.leader? (bucketOf issues d) = some leader →
        done.foldl Errand.apply l.records leader.key = l.records leader.key) ∧
      ∀ key, done.foldl Errand.apply l.records key = l.records key ∨
        done.foldl Errand.apply l.records key = (settle l issues).records key := by
  -- The induction is from the end of the list, for the last errand writes over what those before it left.
  induction done using List.reverseRecOn with
  | nil => exact ⟨fun _ _ _ => rfl, fun _ => .inl rfl⟩
  | append_singleton done errand ih =>
    obtain ⟨hleaders, hrecords⟩ := ih fun e he => h e (List.mem_append_left _ he)
    simp only [List.foldl_append, List.foldl_cons, List.foldl_nil]
    cases errand with
    | ask i => exact ⟨hleaders, hrecords⟩
    | lend leader i =>
      have hmem := h (.lend leader i) (List.mem_append_right _ List.mem_cons_self)
      obtain ⟨b, hb, hleader, hi, hfollows⟩ := lend_mem_allErrands (apart_buckets hkeys) hmem
      obtain ⟨⟨d, b⟩, hbucket, rfl⟩ := List.mem_map.mp hb
      obtain ⟨rfl, -⟩ := mem_buckets.mp hbucket
      constructor
      · intro d' leader' hleader'
        rw [Errand.apply, Function.update_of_ne (leader_key_ne hkeys hleader' hleader hi hfollows)]
        exact hleaders d' leader' hleader'
      · intro key
        by_cases hkey : key = i.key
        · subst hkey
          right
          rw [Errand.apply, Function.update_self, hleaders d leader hleader]
          exact (records_settle_of_follows hkeys hleader hi (.inr hfollows)).symm
        · rw [Errand.apply, Function.update_of_ne hkey]
          exact hrecords key

/-- **An interrupted run has left the records on their way.** -/
theorem Halted.midway {s s' : Session} {done : List Errand} (h : Halted issues s done s') :
    Midway issues s.ledger s'.ledger := by
  have hrecords : s'.ledger.records = done.foldl Errand.apply s.ledger.records := h.records
  intro key
  rw [hrecords]
  exact (records_of_planned hkeys fun e he => h.prefix_plan.subset he).2 key

/-! ### Where the second attempt gets to -/

end Midway

/-- Is the issue more severe than the new leader of its bucket, and no more severe than the old one? -/
def Missed (issues : List Issue) (l l' : Ledger) (i : Issue) : Prop :=
  ∃ d leader leader', i ∈ bucketOf issues d ∧ l.leader? (bucketOf issues d) = some leader ∧
    l'.leader? (bucketOf issues d) = some leader' ∧ leader'.severity < i.severity ∧
    i.severity ≤ leader.severity

section Again

variable (hkeys : (issues.map Issue.key).Nodup)

include hkeys

/-- Whoever is more severe than the leader does not follow. -/
theorem not_follows_of_lt {d : DedupKey} {leader i : Issue}
    (hleader : l.leader? (bucketOf issues d) = some leader) (hi : i ∈ bucketOf issues d)
    (hlt : leader.severity < i.severity) :
    ∀ first, l.leader? (bucketOf issues d) = some first → ¬follows first i = true := by
  intro first hfirst hfollows
  rw [Option.some.inj (hfirst.symm.trans hleader)] at hfollows
  have hmem := (mem_bucketOf.mp (mem_of_leader? hleader)).1
  have hle := ((follows_iff hkeys hmem (mem_bucketOf.mp hi).1).mp hfollows).2
  omega

/-- Who is missed keeps his record. -/
theorem Missed.records {i : Issue} (h : Missed issues l l' i) :
    (settle l' issues).records i.key = l'.records i.key := by
  obtain ⟨d, leader, leader', hi, -, hleader', hlt, -⟩ := h
  exact records_settle_of_not_follows hkeys hi (not_follows_of_lt hkeys hleader' hi hlt)

/-- Who follows in neither run keeps his record. -/
theorem records_again_of_not_follows (h : Midway issues l l') {d : DedupKey} {i : Issue}
    (hi : i ∈ bucketOf issues d)
    (hnew : ∀ leader, l'.leader? (bucketOf issues d) = some leader → ¬follows leader i = true)
    (hold : ∀ leader, l.leader? (bucketOf issues d) = some leader → ¬follows leader i = true) :
    (settle l' issues).records i.key = (settle l issues).records i.key := by
  have hsettle := records_settle_of_not_follows hkeys hi hold
  rw [records_settle_of_not_follows hkeys hi hnew]
  rcases h i.key with hsame | hsettled
  · exact hsame.trans hsettle.symm
  · exact hsettled

/-- A bucket that had a leader has one when the records are on their way. -/
theorem leader?_eq_none_of_midway (h : Midway issues l l') {d : DedupKey}
    (hnone : l'.leader? (bucketOf issues d) = none) : l.leader? (bucketOf issues d) = none := by
  by_contra hsome
  obtain ⟨leader, hleader⟩ := Option.ne_none_iff_exists'.mp hsome
  have hmem := mem_of_leader? hleader
  obtain ⟨leader', hleader'⟩ :=
    exists_leader? hmem (dismissed_of_midway hkeys h hmem (dismissed_of_leader? hleader))
  rw [hnone] at hleader'
  cases hleader'

/-- The leader of the second attempt has the record that a whole run gives him. -/
theorem records_again_of_leader (h : Midway issues l l') {d : DedupKey} {leader' : Issue}
    (hleader' : l'.leader? (bucketOf issues d) = some leader') :
    (settle l' issues).records leader'.key = (settle l issues).records leader'.key := by
  obtain ⟨leader, hleader, hleads, hrecord⟩ := leader?_again hkeys h hleader'
  have hmem := mem_of_leader? hleader'
  calc (settle l' issues).records leader'.key = l'.records leader'.key :=
        records_settle_of_follows hkeys hleader' hmem (.inl rfl)
    _ = l.records leader.key := hrecord
    _ = (settle l issues).records leader'.key :=
        (records_settle_of_follows hkeys hleader hmem (hleads.imp_left (congrArg _))).symm

/-- **Whoever is in a bucket and not missed** ends with the record that a whole run gives him. -/
theorem records_again_of_mem (h : Midway issues l l') {d : DedupKey} {i : Issue}
    (hi : i ∈ bucketOf issues d) (hmissed : ¬Missed issues l l' i) :
    (settle l' issues).records i.key = (settle l issues).records i.key := by
  cases hleader' : l'.leader? (bucketOf issues d) with
  | none =>
    have hnone := leader?_eq_none_of_midway hkeys h hleader'
    exact records_again_of_not_follows hkeys h hi (by simp [hleader']) (by simp [hnone])
  | some leader' =>
    obtain ⟨leader, hleader, -, -⟩ := leader?_again hkeys h hleader'
    by_cases hfollows : follows leader' i = true
    · exact records_again_of_follows hkeys h hleader' hi hfollows
    by_cases heq : i = leader'
    · subst heq
      exact records_again_of_leader hkeys h hleader'
    · -- He is more severe than the new leader, so he is more severe than the old one, too.
      have hnew : leader'.severity < i.severity := by
        by_contra hle
        exact hfollows ((follows_iff hkeys (mem_bucketOf.mp (mem_of_leader? hleader')).1
          (mem_bucketOf.mp hi).1).mpr ⟨heq, not_lt.mp hle⟩)
      have hold : leader.severity < i.severity := by
        by_contra hle
        exact hmissed ⟨d, leader, leader', hi, hleader, hleader', hnew, not_lt.mp hle⟩
      exact records_again_of_not_follows hkeys h hi (not_follows_of_lt hkeys hleader' hi hnew)
        (not_follows_of_lt hkeys hleader hi hold)

/-- **Where nobody is missed** the record is the one that a whole run leaves. -/
theorem records_of_not_missed (h : Midway issues l l') {key : IssueKey}
    (hmissed : ¬∃ i, i.key = key ∧ Missed issues l l' i) :
    (settle l' issues).records key = (settle l issues).records key := by
  by_cases hlisted : ∃ d, ∃ i ∈ bucketOf issues d, i.key = key
  · obtain ⟨d, i, hi, rfl⟩ := hlisted
    exact records_again_of_mem hkeys h hi fun hmiss => hmissed ⟨i, rfl, hmiss⟩
  · -- Nobody lends a record to an issue outside the buckets.
    have hnot : ∀ d, ∀ i ∈ bucketOf issues d, i.key ≠ key :=
      fun d i hi heq => hlisted ⟨d, i, hi, heq⟩
    have hsettle := records_alignAll_buckets_of_notMem (l := l) hnot
    calc (settle l' issues).records key = l'.records key := records_alignAll_buckets_of_notMem hnot
      _ = l.records key := (h key).elim id fun hsettled => hsettled.trans hsettle
      _ = (settle l issues).records key := hsettle.symm

/-- Where severities fall nobody is missed, for a new leader stands in front of the old one. -/
theorem not_missed_of_sorted (h : Midway issues l l')
    (hsorted : ∀ d, (bucketOf issues d).Pairwise fun i j => j.severity ≤ i.severity) (i : Issue) :
    ¬Missed issues l l' i := by
  rintro ⟨d, leader, leader', -, hleader, hleader', hlt, hle⟩
  have hmem := mem_of_leader? hleader
  have hdismissed := dismissed_of_midway hkeys h hmem (dismissed_of_leader? hleader)
  have hfirst := severity_le_leader? (hsorted d) hleader' hmem hdismissed
  omega

end Again

/-! ### Trying again -/

/-- What has been done on the way to the records after an attempt and a second one. -/
structure Retried (issues : List Issue) (s s₁ s₂ u : Session) : Prop where
  /-- The first attempt has done nothing that a whole run does not do. -/
  midway : ∀ key, s₁.record? key = s.record? key ∨ s₁.record? key = u.record? key
  /-- Where nobody is missed the records are those of a whole run. -/
  records : ∀ key, (¬∃ i, i.key = key ∧ Missed issues s.ledger s₁.ledger i) →
    s₂.record? key = u.record? key
  /-- Whoever is missed keeps what the first attempt has left him. -/
  missed : ∀ i, Missed issues s.ledger s₁.ledger i → s₂.record? i.key = s₁.record? i.key
  /-- Where severities fall nobody is missed. -/
  sorted : (∀ d, (bucketOf issues d).Pairwise fun i j => j.severity ≤ i.severity) →
    s₂.record? = u.record?

theorem ledger_healed (s : Session) : s.healed.ledger = s.ledger := rfl

/-- The store is still one on a server, and what it holds can still be read. -/
theorem Halted.works_healed {front : String} {s s₁ : Session} {done : List Errand}
    (h : Halted issues s done s₁) (hs : s.store.backing = .server front) (hworks : s.healed.Works) :
    s₁.healed.Works := by
  have hkind : s.kind = .server := by rw [Session.kind, hs]
  obtain ⟨front₁, hs₁⟩ := exists_of_server (h.kind.trans hkind)
  exact (works_healed_iff hs₁).mpr (h.readable ((works_healed_iff hs).mp hworks))

/-- It can name the same issues. -/
theorem Halted.names_healed {s s₁ : Session} {done : List Errand} (h : Halted issues s done s₁) :
    s₁.healed.Names = s.healed.Names :=
  names_of_kind (s := s.healed) (by exact h.kind)

/-- **A run that a call has cut short can be tried again.** On a server store whose entries can be read,
where a whole run would come back, a second attempt on the same list comes back with the same issues when
no call fails any more. It leaves the records of the whole run, but for issues that it misses. -/
theorem run_retried {front : String} {s s₁ u : Session} {left : List Issue} {e : Fault}
    (hs : s.store.backing = .server front) (hworks : s.healed.Works)
    (hkeys : (issues.map Issue.key).Nodup) (hwhole : (run issues).run s.healed = (.ok left, u))
    (hcut : (run issues).run s = (.error e, s₁)) :
    ∃ s₂, (run issues).run s₁.healed = (.ok left, s₂) ∧ Retried issues s s₁ s₂ u := by
  obtain ⟨done, hstops⟩ := run_eq_error_iff.mp hcut
  have hhalted := hstops.halted
  have hmidway : Midway issues s.ledger s₁.ledger := hhalted.midway hkeys
  have hu : u.ledger = settle s.healed.ledger issues := ledger_of_run hworks hwhole
  rw [ledger_healed] at hu
  have hworks₁ := hhalted.works_healed hs hworks
  have hloggable : s₁.healed.ledger.AllLoggable s₁.healed.Names ((buckets issues).map Prod.snd) := by
    have hbefore := (run_returns_iff hworks).mp ⟨left, u, hwhole⟩
    rw [allLoggable_buckets_iff hkeys] at hbefore ⊢
    rw [hhalted.names_healed]
    exact fun d => loggable_of_midway hkeys hmidway (hbefore d)
  obtain ⟨s₂, hrun, -, hledger⟩ := run_yields hworks₁ hloggable
  have hs₂ : s₂.ledger = settle s₁.healed.ledger issues := hledger
  rw [ledger_healed] at hs₂
  have hrecords : ∀ key, (¬∃ i, i.key = key ∧ Missed issues s.ledger s₁.ledger i) →
      s₂.record? key = u.record? key := by
    intro key hmissed
    rw [← records_ledger, ← records_ledger, hs₂, hu]
    exact records_of_not_missed hkeys hmidway hmissed
  refine ⟨s₂, by rw [hrun, eq_survivors_of_run hwhole], ?midway, hrecords, ?missed, ?sorted⟩
  case midway =>
    intro key
    rw [← records_ledger u, hu]
    exact hmidway key
  case missed =>
    intro i hi
    rw [← records_ledger, hs₂]
    exact hi.records hkeys
  case sorted =>
    intro hsorted
    funext key
    refine hrecords key ?_
    rintro ⟨i, -, hi⟩
    exact not_missed_of_sorted hkeys hmidway hsorted i hi

/-- On that server the one entry can be read. -/
theorem works_serving {i : Issue} (h : Numeral.isWritable i.severity = true) (call : Nat) :
    (serving i call).healed.Works := by
  have hr : Record.Storable ⟨.newYear 2024, i.severity, 1⟩ :=
    ⟨⟨h, Numeral.isWritable_of_natAbs_le_one (Nat.le_refl 1)⟩, given_newYear.storable⟩
  have hnone : Session.Readable ⟨⟨"redis", ⟨0, 0, 0⟩, .server "p:"⟩, .blank⟩ :=
    fun front hfront key hkey raw hraw => nomatch hraw
  exact (@works_healed_iff (serving i call) "p:" rfl).mpr (@readable_stored _ "p:" i.key _ hr hnone)

/-- The run that has found the server down at its second copy is tried again, and does the copy. -/
theorem run_retried_second :
    ∃ e s₁ u s₂, (run trio).run (serving (duplicate "t" 0) 4) = (.error e, s₁) ∧
      (run trio).run (serving (duplicate "t" 0) 4).healed = (.ok [duplicate "t" 0], u) ∧
      (run trio).run s₁.healed = (.ok [duplicate "t" 0], s₂) ∧ s₂.record? = u.record? ∧
      s₁.record? (duplicate "b" 0).key = none ∧
      s₂.record? (duplicate "b" 0).key = some ⟨.newYear 2024, 100, 1⟩ := by
  -- The attempts are evaluated once, for their results and what they leave.
  obtain ⟨hcut, hwhole, hleft, hgiven⟩ :
      ((run trio).run (serving (duplicate "t" 0) 4)).1 = .error (.server "down") ∧
        ((run trio).run (serving (duplicate "t" 0) 4).healed).1 = .ok [duplicate "t" 0] ∧
        ((run trio).run (serving (duplicate "t" 0) 4)).2.record? (duplicate "b" 0).key = none ∧
        ((run trio).run (serving (duplicate "t" 0) 4).healed).2.record? (duplicate "b" 0).key =
          some ⟨.newYear 2024, 100, 1⟩ := by
    decide +kernel
  have hkeys : (trio.map Issue.key).Nodup := by decide +kernel
  obtain ⟨s₂, hrun, hretried⟩ := run_retried rfl (works_serving (by decide +kernel) 4) hkeys
    (Act.run_eq_of_fst hwhole) (Act.run_eq_of_fst hcut)
  have hsorted : ∀ d, (bucketOf trio d).Pairwise fun i j => j.severity ≤ i.severity := fun d =>
    List.Pairwise.sublist List.filter_sublist (by decide +kernel)
  have hsame := hretried.sorted hsorted
  exact ⟨_, _, _, s₂, Act.run_eq_of_fst hcut, Act.run_eq_of_fst hwhole, hrun, hsame, hleft,
    (congrFun hsame _).trans hgiven⟩

/-- A bucket whose severities do not fall. -/
def rising : List Issue := [duplicate "a" 0, severe "b" 0, severe "t" 0]

/-- The seventh call finds the server down, when the first issue has the record of the third. The second
attempt goes by the first issue and misses the second, to which a whole run gives the record. -/
theorem run_not_retried :
    (serving (severe "t" 0) 6).healed.Works ∧ (rising.map Issue.key).Nodup ∧
      ∃ s₁ u s₂, (run rising).run (serving (severe "t" 0) 6) = (.error (.server "down"), s₁) ∧
        (run rising).run (serving (severe "t" 0) 6).healed = (.ok [duplicate "a" 0], u) ∧
        (run rising).run s₁.healed = (.ok [duplicate "a" 0], s₂) ∧
        u.record? (severe "b" 0).key = some ⟨.newYear 2024, 300, 1⟩ ∧
        s₂.record? (severe "b" 0).key = none := by
  obtain ⟨hcut, hwhole, hagain, hgiven, hmissed⟩ :
      ((run rising).run (serving (severe "t" 0) 6)).1 = .error (.server "down") ∧
        ((run rising).run (serving (severe "t" 0) 6).healed).1 = .ok [duplicate "a" 0] ∧
        ((run rising).run ((run rising).run (serving (severe "t" 0) 6)).2.healed).1 =
          .ok [duplicate "a" 0] ∧
        ((run rising).run (serving (severe "t" 0) 6).healed).2.record? (severe "b" 0).key =
          some ⟨.newYear 2024, 300, 1⟩ ∧
        ((run rising).run ((run rising).run (serving (severe "t" 0) 6)).2.healed).2.record?
          (severe "b" 0).key = none := by
    decide +kernel
  exact ⟨works_serving (by decide +kernel) 6, by decide +kernel, _, _, _, Act.run_eq_of_fst hcut,
    Act.run_eq_of_fst hwhole, Act.run_eq_of_fst hagain, hgiven, hmissed⟩

end IssueDigest.Dedup
