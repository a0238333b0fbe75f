import IssueDigest.Proofs.Alignment
import IssueDigest.Proofs.Buckets
/-!
# What a run does to the records

For a list of issues with different keys the buckets have no issue in common, so each of them is
aligned as if it were the only one, from the records as they were before the run. That gives the
effect of a whole run in closed form: who takes over whose record, that nobody else is touched, what
is counted, and which issues are dismissed afterwards.

The record that is taken over may be for another severity than the leader has now. It still covers
every follower, because it covers the leader and the followers are no more severe.
-/

namespace IssueDigest.Dedup

open Session Ledger

/-- Does the issue take over a record: is there another issue in its bucket that leads it and is no
less severe? -/
def takesOver (l : Ledger) (issues : List Issue) (i : Issue) : Bool :=
  (i.dedupKey?.bind fun d => l.leader? (bucketOf issues d)).any fun leader => follows leader i

/-- The effect of a run on a store that held the records of `s` and now holds those of `s'`. -/
structure Aligned (issues : List Issue) (s s' : Session) : Prop where
  /-- An issue that is no more severe than the leader of its bucket has the record of the leader. -/
  lent : ∀ d leader, s.ledger.leader? (bucketOf issues d) = some leader →
    ∀ i ∈ bucketOf issues d, i ≠ leader → i.severity ≤ leader.severity →
      s'.record? i.key = s.record? leader.key
  /-- All other records are those from before, and where there was none there is none. -/
  untouched : ∀ key, (∀ d leader, s.ledger.leader? (bucketOf issues d) = some leader →
    ∀ i ∈ bucketOf issues d, i ≠ leader → i.severity ≤ leader.severity → i.key ≠ key) →
      s'.record? key = s.record? key
  /-- One copy is counted for each issue that takes over a record. -/
  copies : s'.store.counters.copies =
    s.store.counters.copies + issues.countP (takesOver s.ledger issues)
  /-- One check is counted for each issue at or in front of the leader of its bucket. -/
  checks : s'.store.counters.checks =
    s.store.counters.checks + ∑ d ∈ dedupKeys issues, s.ledger.examined (bucketOf issues d)
  errors : s'.store.counters.errors = s.store.counters.errors
  /-- An issue is dismissed afterwards if it was, or if it is no more severe than the leader. -/
  dismissed : ∀ d, ∀ i ∈ bucketOf issues d, (s'.ledger.dismissed i = true ↔
    s.ledger.dismissed i = true ∨
      ∃ leader, s.ledger.leader? (bucketOf issues d) = some leader ∧ i.severity ≤ leader.severity)
  /-- No issue of the list loses its dismissal. -/
  kept : ∀ i ∈ issues, s.ledger.dismissed i = true → s'.ledger.dismissed i = true
  /-- No issue that is more severe than the leader of its bucket gains one. -/
  withheld : ∀ d leader, s.ledger.leader? (bucketOf issues d) = some leader →
    ∀ i ∈ bucketOf issues d, leader.severity < i.severity →
      s.ledger.dismissed i = false → s'.ledger.dismissed i = false

variable {issues : List Issue} {l : Ledger}

/-- In a list with different keys another issue has another key. -/
theorem follows_iff (hkeys : (issues.map Issue.key).Nodup) {leader i : Issue}
    (hleader : leader ∈ issues) (hi : i ∈ issues) :
    follows leader i = true ↔ i ≠ leader ∧ i.severity ≤ leader.severity := by
  have hne : i.key ≠ leader.key ↔ i ≠ leader :=
    not_congr ⟨fun h => List.inj_on_of_nodup_map hkeys hi hleader h, congrArg _⟩
  simp [follows, hne]

/-- The record of an issue after all buckets have been aligned. -/
theorem records_alignAll_buckets (hkeys : (issues.map Issue.key).Nodup) {d : DedupKey} {i : Issue}
    (hi : i ∈ bucketOf issues d) :
    (l.alignAll ((buckets issues).map Prod.snd)).records i.key =
      match l.leader? (bucketOf issues d) with
      | none => l.records i.key
      | some leader => if follows leader i then l.records leader.key else l.records i.key := by
  have hmem : bucketOf issues d ∈ (buckets issues).map Prod.snd :=
    List.mem_map.mpr ⟨_, mem_buckets.mpr ⟨rfl, List.ne_nil_of_mem hi⟩, rfl⟩
  rw [records_alignAll (apart_buckets hkeys) hmem hi]
  exact records_align (nodup_keys_bucketOf hkeys d) hi

/-- An issue without a deduplication key keeps its record, and so does one that is not listed. -/
theorem records_alignAll_buckets_of_notMem {key : IssueKey}
    (h : ∀ d, ∀ i ∈ bucketOf issues d, i.key ≠ key) :
    (l.alignAll ((buckets issues).map Prod.snd)).records key = l.records key := by
  refine records_alignAll_of_notMem fun b hb i hi => ?_
  obtain ⟨⟨d, b⟩, hmem, rfl⟩ := List.mem_map.mp hb
  rw [(mem_buckets.mp hmem).1] at hi
  exact h d i hi

/-- The record that is lent covers the leader, hence all that are no more severe. -/
theorem dismissed_alignAll_iff (hkeys : (issues.map Issue.key).Nodup) {d : DedupKey} {i : Issue}
    (hi : i ∈ bucketOf issues d) :
    (l.alignAll ((buckets issues).map Prod.snd)).dismissed i = true ↔
      l.dismissed i = true ∨
        ∃ leader, l.leader? (bucketOf issues d) = some leader ∧ i.severity ≤ leader.severity := by
  have hrecord := records_alignAll_buckets (l := l) hkeys hi
  cases hleader : l.leader? (bucketOf issues d) with
  | none =>
    rw [hleader] at hrecord
    simp [dismissed_congr hrecord]
  | some leader =>
    rw [hleader] at hrecord
    have hmem := mem_of_leader? hleader
    by_cases hfollows : follows leader i = true
    -- The record that is lent covers the leader, and a follower is no more severe than that.
    · obtain ⟨r, hr, hcovers⟩ := record_of_leader? hleader
      have hle := ((follows_iff hkeys (mem_bucketOf.mp hmem).1 (mem_bucketOf.mp hi).1).mp hfollows).2
      have hlent : (l.alignAll ((buckets issues).map Prod.snd)).records i.key = some r := by
        simpa [hfollows, hr] using hrecord
      have hdismissed : (l.alignAll ((buckets issues).map Prod.snd)).dismissed i = true := by
        simp only [Ledger.dismissed, covers, hlent, Option.any_some, Record.covers,
          decide_eq_true_eq]
        exact le_trans hle hcovers
      exact iff_of_true hdismissed (Or.inr ⟨leader, rfl, hle⟩)
    · have hsame : (l.alignAll ((buckets issues).map Prod.snd)).records i.key = l.records i.key := by
        simpa [hfollows] using hrecord
      rw [dismissed_congr hsame]
      refine ⟨Or.inl, ?_⟩
      rintro (h | ⟨leader', hleader', hle⟩)
      · exact h
      · obtain rfl := Option.some.inj hleader'
        by_cases heq : i = leader
        · exact heq ▸ dismissed_of_leader? hleader
        · exact absurd ((follows_iff hkeys (mem_bucketOf.mp hmem).1 (mem_bucketOf.mp hi).1).mpr
            ⟨heq, hle⟩) hfollows

/-- The followers are counted bucket by bucket. -/
theorem sum_followers (issues : List Issue) (l : Ledger) :
    ∑ d ∈ dedupKeys issues, l.followers (bucketOf issues d) =
      issues.countP (takesOver l issues) := by
  have hbucket (d : DedupKey) :
      l.followers (bucketOf issues d) = (bucketOf issues d).countP (takesOver l issues) := by
    have htakes : ∀ i ∈ bucketOf issues d, takesOver l issues i =
        (l.leader? (bucketOf issues d)).any fun leader => follows leader i := fun i hi => by
      rw [takesOver, (mem_bucketOf.mp hi).2, Option.bind_some]
    rw [List.countP_congr fun i hi => by rw [htakes i hi], followers]
    cases l.leader? (bucketOf issues d) with
    | none => simp
    | some leader => simp
  have hsome (i : Issue) : (i.dedupKey?.isSome && takesOver l issues i) = takesOver l issues i := by
    unfold takesOver
    cases i.dedupKey? <;> simp
  rw [Finset.sum_congr rfl fun d _ => hbucket d, sum_countP_bucketOf]
  simp only [hsome]

/-- **The effect of a run** is read off the ledger that it leaves. -/
theorem aligned_of_ledger {s s' : Session} (hkeys : (issues.map Issue.key).Nodup)
    (h : s'.ledger = s.ledger.alignAll ((buckets issues).map Prod.snd)) : Aligned issues s s' := by
  have hrecords : s'.record? = (s.ledger.alignAll ((buckets issues).map Prod.snd)).records := by
    rw [← h]
    rfl
  have hcounters : s'.store.counters =
      (s.ledger.alignAll ((buckets issues).map Prod.snd)).counters := by
    rw [← h]
    rfl
  rw [counters_alignAll (apart_buckets hkeys), sum_buckets, sum_buckets, sum_followers]
    at hcounters
  have hdismissed : ∀ d, ∀ i ∈ bucketOf issues d, (s'.ledger.dismissed i = true ↔
      s.ledger.dismissed i = true ∨
        ∃ leader, s.ledger.leader? (bucketOf issues d) = some leader ∧
          i.severity ≤ leader.severity) := fun d i hi => by
    rw [h]
    exact dismissed_alignAll_iff hkeys hi
  refine ⟨?_, ?_, by rw [hcounters]; rfl, by rw [hcounters]; rfl, by rw [hcounters]; rfl,
    hdismissed, ?_, ?_⟩
  · intro d leader hleader i hi hne hle
    have hfollows := (follows_iff hkeys (mem_bucketOf.mp (mem_of_leader? hleader)).1
      (mem_bucketOf.mp hi).1).mpr ⟨hne, hle⟩
    rw [hrecords, records_alignAll_buckets hkeys hi, hleader]
    simp [hfollows]
  · intro key hkey
    rw [hrecords]
    by_cases hlisted : ∃ d, ∃ i ∈ bucketOf issues d, i.key = key
    · obtain ⟨d, i, hi, rfl⟩ := hlisted
      rw [records_alignAll_buckets hkeys hi]
      cases hleader : s.ledger.leader? (bucketOf issues d) with
      | none => rfl
      | some leader =>
        have hnot : ¬follows leader i = true := fun hfollows => by
          obtain ⟨hne, hle⟩ := (follows_iff hkeys (mem_bucketOf.mp (mem_of_leader? hleader)).1
            (mem_bucketOf.mp hi).1).mp hfollows
          exact hkey d leader hleader i hi hne hle rfl
        simp [hnot]
    · exact records_alignAll_buckets_of_notMem fun d i hi heq => hlisted ⟨d, i, hi, heq⟩
  · intro i hi hbefore
    cases hd : i.dedupKey? with
    | some d => exact (hdismissed d i (mem_bucketOf.mpr ⟨hi, hd⟩)).mpr (Or.inl hbefore)
    | none =>
      have hsame : s'.ledger.records i.key = s.ledger.records i.key := by
        rw [h]
        refine records_alignAll_buckets_of_notMem fun d j hj heq => ?_
        obtain ⟨hj, hjd⟩ := mem_bucketOf.mp hj
        obtain rfl := List.inj_on_of_nodup_map hkeys hj hi heq
        cases hd.symm.trans hjd
      rw [dismissed_congr hsame, hbefore]
  · intro d leader hleader i hi hlt hbefore
    rw [← Bool.not_eq_true, hdismissed d i hi]
    rintro (hdone | ⟨leader', hleader', hle⟩)
    · rw [hbefore] at hdone
      cases hdone
    · obtain rfl := Option.some.inj (hleader.symm.trans hleader')
      exact absurd hle (not_le.mpr hlt)

/-- The buckets are loggable together if each is before the run. -/
theorem allLoggable_buckets_iff (hkeys : (issues.map Issue.key).Nodup)
    {names : IssueKey → Prop} :
    l.AllLoggable names ((buckets issues).map Prod.snd) ↔
      ∀ d, l.Loggable names (bucketOf issues d) := by
  rw [allLoggable_iff (apart_buckets hkeys)]
  constructor
  · intro h d
    by_cases hempty : bucketOf issues d = []
    · rw [hempty]
      exact ⟨by simp, nofun⟩
    · exact h _ (List.mem_map.mpr ⟨_, mem_buckets.mpr ⟨rfl, hempty⟩, rfl⟩)
  · intro h b hb
    obtain ⟨⟨d, b⟩, hmem, rfl⟩ := List.mem_map.mp hb
    rw [(mem_buckets.mp hmem).1]
    exact h d

/-- An issue of one bucket; all of them are duplicates of each other. -/
def duplicate (id : String) (user : Int) : Issue where
  source := ⟨"s", 2, some "g"⟩
  id := id
  severity := 100
  title := []
  mark := some "m"
  user := user

theorem printable_duplicate (id : String) : (duplicate id 0).key.Printable :=
  Numeral.isWritable_of_natAbs_le_one (Nat.zero_le 1)

/-- A memory store that holds a dismissal of one issue. -/
def holding (i : Issue) : Session where
  store := ⟨"memory", ⟨0, 0, 0⟩, .memory (Table.empty.put i.key ⟨.newYear 2024, i.severity, 1⟩)⟩
  world := .blank

/-- The message about the record that is lent would have to spell a user id with too many digits. -/
theorem not_returns_long (left : List Issue) (s' : Session) :
    (run [duplicate "a" 0, duplicate "b" (10 ^ digitLimit)]).run (holding (duplicate "a" 0)) ≠
      (.ok left, s') := by
  intro hrun
  have hkeys : ([duplicate "a" 0, duplicate "b" (10 ^ digitLimit)].map Issue.key).Nodup := by
    simp [duplicate, Issue.key]
  have hloggable := (run_returns_iff (s := holding (duplicate "a" 0)) trivial).mp ⟨left, s', hrun⟩
  have hbucket := (allLoggable_buckets_iff hkeys).mp hloggable ⟨"g", "m"⟩
  have hshort := (hbucket.lent (duplicate "a" 0) (by decide +kernel)
    (duplicate "b" (10 ^ digitLimit)) (by decide +kernel) (by decide +kernel)).2
  have hlt := Numeral.isWritable_iff.mp hshort
  simp [duplicate, Issue.key, Int.natAbs_pow] at hlt

/-- **A run on a store that works** comes back exactly if every key that it has to spell can be
spelled, and whenever it comes back it has had the effect above. -/
theorem run_aligned {s : Session} (hs : s.Works) (hkeys : (issues.map Issue.key).Nodup) :
    ((∃ left s', (run issues).run s = (.ok left, s')) ↔
      ∀ d, s.ledger.Loggable s.Names (bucketOf issues d)) ∧
    ∀ left s', (run issues).run s = (.ok left, s') → Aligned issues s s' := by
  rw [← allLoggable_buckets_iff hkeys]
  exact ⟨run_returns_iff hs, fun left s' hrun => aligned_of_ledger hkeys (ledger_of_run hs hrun)⟩

/-- The second of two duplicates takes over the dismissal of the first. -/
theorem run_aligned_two :
    ∃ left s', (run [duplicate "a" 0, duplicate "b" 0]).run (holding (duplicate "a" 0)) =
        (.ok left, s') ∧
      (holding (duplicate "a" 0)).record? (duplicate "b" 0).key = none ∧
      s'.record? (duplicate "b" 0).key = some ⟨.newYear 2024, 100, 1⟩ := by
  have hkeys : ([duplicate "a" 0, duplicate "b" 0].map Issue.key).Nodup := by decide +kernel
  have h := run_aligned (s := holding (duplicate "a" 0)) trivial hkeys
  obtain ⟨left, s', hrun⟩ := h.1.mpr fun d => loggable_of_printable fun i hi => by
    rcases List.mem_pair.mp (mem_bucketOf.mp hi).1 with rfl | rfl <;> exact printable_duplicate _
  refine ⟨left, s', hrun, by decide +kernel, ?_⟩
  exact (h.2 left s' hrun).lent ⟨"g", "m"⟩ (duplicate "a" 0) (by decide +kernel)
    (duplicate "b" 0) (by decide +kernel) (by decide +kernel) (by decide +kernel)

/-- A user id with too many digits to be written makes the run fail, although no call to the store
does. -/
theorem run_not_aligned_long :
    (holding (duplicate "a" 0)).Works ∧
      ([duplicate "a" 0, duplicate "b" (10 ^ digitLimit)].map Issue.key).Nodup ∧
      ¬∃ left s', (run [duplicate "a" 0, duplicate "b" (10 ^ digitLimit)]).run
          (holding (duplicate "a" 0)) = (.ok left, s') ∧
        Aligned [duplicate "a" 0, duplicate "b" (10 ^ digitLimit)] (holding (duplicate "a" 0)) s' := by
  refine ⟨trivial, by simp [duplicate, Issue.key], ?_⟩
  rintro ⟨left, s', hrun, -⟩
  exact not_returns_long left s' hrun

end IssueDigest.Dedup
