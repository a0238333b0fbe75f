import IssueDigest.Proofs.Backends
import IssueDigest.Proofs.Rerun
import IssueDigest.Proofs.Survivors
/-!
# A run on its own result

What a run brings has no duplicates left, however the keys of the list overlap: of each bucket there is
the first issue or none at all (`bucketOf_survivors`). A second run on it asks the store about each of
these issues once, finds nobody to lend a record to, and leaves everybody in.

It opens and leaves a block, though, and a file store writes what is pending when it is left. Nothing is:
the first run has left its own block, so outside all blocks its changes are written (`Session.Idle`), and
inside one leaving another block writes nothing.
-/

namespace IssueDigest

open Store

/-! ### Blocks in which nothing is changed -/

namespace Session

/-- Is nothing left to be written, unless a block is open? -/
def Idle (s : Session) : Prop :=
  ∀ book, s.store.backing = .file book → book.depth = 0 → book.pending = false

theorem Still.idle {s s' : Session} (h : s.Still s') (hs : s.Idle) : s'.Idle := by
  intro book hbook
  rw [h.backing] at hbook
  exact hs book hbook

end Session

/-- A block that has been left has written what was pending, or there is another one around it. -/
theorem Store.idle_of_leaveBatch {s s' : Session} (h : leaveBatch.run s = (.ok (), s')) : s'.Idle := by
  obtain ⟨⟨name, counters, backing⟩, world⟩ := s
  cases backing with
  | memory records =>
    obtain ⟨-, rfl⟩ := Prod.mk.inj h
    exact nofun
  | server front =>
    obtain ⟨-, rfl⟩ := Prod.mk.inj h
    exact nofun
  | file book =>
    rw [run_leaveBatch_file] at h
    split at h
    · obtain ⟨disk, hsave⟩ | ⟨e, disk, counters', journal, -, hsave⟩ :=
        run_saveFile_cases { book with depth := book.depth - 1 }
          ⟨⟨name, counters, .file { book with depth := book.depth - 1 }⟩, world⟩
      · obtain ⟨-, rfl⟩ := Prod.mk.inj (hsave.symm.trans h)
        intro book' hbook _
        obtain rfl := Backing.file.inj hbook
        rfl
      · cases (Prod.mk.inj (hsave.symm.trans h)).1
    · next hquiet =>
      obtain ⟨-, rfl⟩ := Prod.mk.inj h
      intro book' hbook hdepth
      obtain rfl := Backing.file.inj hbook
      exact Bool.eq_false_of_not_eq_true fun hpending => hquiet ⟨hdepth, hpending⟩

/-- **A block in which nothing is changed** changes nothing. -/
theorem Store.still_of_block {s s₁ s' : Session} {r : Except Fault Unit} (hidle : s.Idle)
    (hstill : s.deeper.Still s₁) (h : leaveBatch.run s₁ = (r, s')) : s.Still s' := by
  obtain ⟨counters', journal, calls, hcopies, rfl⟩ := hstill
  obtain ⟨⟨name, counters, backing⟩, world⟩ := s
  cases backing with
  | memory records =>
    obtain ⟨-, rfl⟩ := Prod.mk.inj h
    exact ⟨counters', journal, calls, hcopies, rfl⟩
  | server front =>
    obtain ⟨-, rfl⟩ := Prod.mk.inj h
    exact ⟨counters', journal, calls, hcopies, rfl⟩
  | file book =>
    have hquiet : ¬(book.depth = 0 ∧ book.pending = true) := by
      rintro ⟨hdepth, hpending⟩
      rw [hidle book rfl hdepth] at hpending
      cases hpending
    have hleave : leaveBatch.run (Session.marked (Session.deeper ⟨⟨name, counters, .file book⟩, world⟩)
        counters' journal calls) =
          (.ok (), Session.marked ⟨⟨name, counters, .file book⟩, world⟩ counters' journal calls) :=
      (run_leaveBatch_file ..).trans (if_neg hquiet)
    obtain ⟨-, rfl⟩ := Prod.mk.inj (hleave.symm.trans h)
    exact ⟨counters', journal, calls, hcopies, rfl⟩

namespace Ledger

open Dedup

/-! ### Buckets of one issue -/

variable {bucket : List Issue} {buckets : List (List Issue)} {names : IssueKey → Prop}

theorem not_follows_self (i : Issue) : ¬follows i i = true := by
  simp [follows]

/-- In a bucket of one issue there is a question to ask and nobody to lend to. -/
theorem errands_of_length_le (h : bucket.length ≤ 1) (l : Ledger) :
    l.errands bucket = bucket.map .ask := by
  match bucket, h with
  | [], _ => rfl
  | [i], _ =>
    rw [errands]
    cases hdismissed : l.dismissed i with
    | true =>
      rw [examined_cons_of_dismissed hdismissed, leader?_cons_of_dismissed hdismissed]
      dsimp only
      rw [List.filter_cons_of_neg (not_follows_self i)]
      rfl
    | false =>
      rw [examined_cons_of_not_dismissed hdismissed, leader?_cons_of_not_dismissed hdismissed]
      rfl

theorem allErrands_of_length_le (h : ∀ b ∈ buckets, b.length ≤ 1) (l : Ledger) :
    l.allErrands buckets = buckets.flatten.map .ask := by
  induction buckets generalizing l with
  | nil => rfl
  | cons b rest ih =>
    obtain ⟨hb, hrest⟩ := List.forall_mem_cons.mp h
    rw [allErrands, errands_of_length_le hb, ih hrest, List.flatten_cons, List.map_append]

theorem loggable_of_length_le (h : bucket.length ≤ 1) (hnames : ∀ i ∈ bucket, names i.key)
    (l : Ledger) : l.Loggable names bucket where
  examined i hi := hnames i (List.mem_of_mem_take hi)
  lent leader hleader i hi hfollows := by
    obtain ⟨first, rfl⟩ : ∃ first, bucket = [first] := by
      refine List.length_eq_one_iff.mp (Nat.le_antisymm h ?_)
      exact List.length_pos_of_mem hi
    obtain rfl := List.mem_singleton.mp hi
    obtain rfl := List.mem_singleton.mp (mem_of_leader? hleader)
    exact absurd hfollows (not_follows_self _)

theorem allLoggable_of_length_le (h : ∀ b ∈ buckets, b.length ≤ 1)
    (hnames : ∀ b ∈ buckets, ∀ i ∈ b, names i.key) (l : Ledger) : l.AllLoggable names buckets := by
  induction buckets generalizing l with
  | nil => trivial
  | cons b rest ih =>
    obtain ⟨hb, hrest⟩ := List.forall_mem_cons.mp h
    obtain ⟨hnamesb, hnamesrest⟩ := List.forall_mem_cons.mp hnames
    exact ⟨loggable_of_length_le hb hnamesb l, ih hrest hnamesrest (l.align b)⟩

/-- Whatever is dismissed, the search looks at the first issue of a bucket. -/
theorem names_of_loggable {l : Ledger} (h : l.Loggable names bucket) :
    ∀ i ∈ bucket.take 1, names i.key := by
  cases bucket with
  | nil => exact nofun
  | cons first rest =>
    have hlooks : 1 ≤ l.examined (first :: rest) := by
      cases hdismissed : l.dismissed first with
      | true => rw [examined_cons_of_dismissed hdismissed]
      | false =>
        rw [examined_cons_of_not_dismissed hdismissed]
        exact Nat.le_add_left _ _
    exact fun i hi => h.examined i (List.take_subset_take_left _ hlooks hi)

theorem names_of_allLoggable {l : Ledger} (h : l.AllLoggable names buckets) :
    ∀ b ∈ buckets, ∀ i ∈ b.take 1, names i.key := by
  induction buckets generalizing l with
  | nil => exact List.forall_mem_nil _
  | cons b rest ih => exact List.forall_mem_cons.mpr ⟨names_of_loggable h.1, ih h.2⟩

end Ledger

namespace Dedup

open Session Ledger

variable {issues left : List Issue} {s s' : Session}

/-! ### Lists without duplicates -/

/-- Asking changes nothing, whatever the store answers. -/
theorem still_of_asks {r : Except Fault Unit} {asked : List Issue}
    (h : (perform (asked.map .ask)).run s = (r, s')) : s.Still s' := by
  induction asked generalizing s with
  | nil =>
    obtain ⟨-, rfl⟩ := Prod.mk.inj h
    exact .refl s
  | cons i asked ih =>
    obtain ⟨answer, calls, hask, -⟩ := run_isDismissed i.key i.severity s
    have hstill : s.Still (s.marked (s.ledger.checked 1).counters s.world.journal calls) :=
      ⟨(s.ledger.checked 1).counters, s.world.journal, calls, rfl, rfl⟩
    rcases Act.run_bind_cases h with ⟨e, hfirst⟩ | ⟨⟨⟩, s₁, hfirst, hrest⟩
    · obtain ⟨-, rfl⟩ := Prod.mk.inj ((run_ask hask).symm.trans hfirst)
      exact hstill
    · obtain ⟨-, rfl⟩ := Prod.mk.inj ((run_ask hask).symm.trans hfirst)
      exact hstill.trans (ih hrest)

/-- Has every issue its bucket to itself? -/
def Distinct (issues : List Issue) : Prop := ∀ d, (bucketOf issues d).length ≤ 1

theorem length_le_of_distinct (h : Distinct issues) :
    ∀ b ∈ (buckets issues).map Prod.snd, b.length ≤ 1 := by
  intro b hb
  obtain ⟨⟨d, b⟩, hmem, rfl⟩ := List.mem_map.mp hb
  rw [(mem_buckets.mp hmem).1]
  exact h d

/-- Without duplicates nobody is left out. -/
theorem survivors_of_distinct (h : Distinct issues) : survivors issues = issues := by
  refine survivors_eq_self (List.isEmpty_iff.mpr (List.eq_nil_iff_forall_not_mem.mpr ?_))
  intro key hkey
  obtain ⟨d, j, hj, -⟩ := mem_redundant.mp hkey
  rw [List.drop_eq_nil_of_le (h d)] at hj
  cases hj

/-- **A run on a list without duplicates** that comes back has changed nothing, on whatever store. -/
theorem still_of_distinct (h : Distinct issues) (hidle : s.Idle)
    (hrun : (run issues).run s = (.ok left, s')) : s.Still s' := by
  obtain ⟨s₁, s₂, hdone, hleave, rfl⟩ := perform_of_run hrun
  have hnoted : s.Still { s with world := noted issues s.world } :=
    s.still_marked _ s.world.server.calls
  rw [plan, allErrands_of_length_le (length_le_of_distinct h)] at hdone
  have hblock := still_of_block (hnoted.idle hidle) (still_of_asks hdone) hleave
  exact (hnoted.trans hblock).trans (still_reported issues s₂)

/-! ### What a run brings -/

/-- Of a bucket nobody is left but the first issue, and only if its key is not redundant. -/
theorem bucketOf_survivors (issues : List Issue) (d : DedupKey) :
    bucketOf (survivors issues) d =
      ((bucketOf issues d).take 1).filter fun i => !isRedundant issues i := by
  have hcomm : bucketOf (survivors issues) d =
      (bucketOf issues d).filter fun i => !isRedundant issues i := by
    rw [survivors_eq, bucketOf, bucketOf, List.filter_comm]
  have hrest : ((bucketOf issues d).drop 1).filter (fun i => !isRedundant issues i) = [] :=
    List.filter_eq_nil_iff.mpr fun j hj => by simp [isRedundant_iff.mpr ⟨d, j, hj, rfl⟩]
  rw [hcomm]
  conv_lhs => rw [← List.take_append_drop 1 (bucketOf issues d), List.filter_append, hrest,
    List.append_nil]

/-- **What a run brings has no duplicates left.** -/
theorem distinct_survivors (issues : List Issue) : Distinct (survivors issues) := by
  intro d
  rw [bucketOf_survivors]
  exact (List.length_filter_le ..).trans (List.length_take_le ..)

/-- The store has named everybody who is left and has a deduplication key. -/
theorem names_survivors {names : IssueKey → Prop} {l : Ledger}
    (h : l.AllLoggable names ((buckets issues).map Prod.snd)) :
    ∀ b ∈ (buckets (survivors issues)).map Prod.snd, ∀ i ∈ b, names i.key := by
  intro b hb i hi
  obtain ⟨⟨d, b⟩, hmem, rfl⟩ := List.mem_map.mp hb
  rw [(mem_buckets.mp hmem).1, bucketOf_survivors] at hi
  have hfirst := List.mem_of_mem_filter hi
  refine names_of_allLoggable h (bucketOf issues d) (List.mem_map.mpr ⟨_, mem_buckets.mpr ⟨rfl, ?_⟩, rfl⟩)
    i hfirst
  exact List.ne_nil_of_mem (List.mem_of_mem_take hfirst)

/-- A run that comes back leaves nothing to be written, unless a block is open. -/
theorem idle_of_run (hrun : (run issues).run s = (.ok left, s')) : s'.Idle := by
  obtain ⟨s₁, s₂, -, hleave, rfl⟩ := perform_of_run hrun
  exact (still_reported issues s₂).idle (idle_of_leaveBatch hleave)

/-- **A run on its own result**: on a store that works, whatever keys the issues have, the list that comes
back holds one issue at most of each bucket. A second run brings the same list, and leaves every record,
the number of copies, the table of the store, the disk and the entries of the server as they are. -/
theorem run_own_result (hs : s.Works) (hrun : (run issues).run s = (.ok left, s')) :
    (∀ d, (bucketOf left d).length ≤ 1) ∧
      ∃ s'', (run left).run s' = (.ok left, s'') ∧ s''.record? = s'.record? ∧
        s''.store.counters.copies = s'.store.counters.copies ∧
        s''.store.backing = s'.store.backing ∧ s''.world.disk = s'.world.disk ∧
        s''.world.server.entries = s'.world.server.entries := by
  have hdistinct : Distinct left := by
    rw [eq_survivors_of_run hrun]
    exact distinct_survivors issues
  refine ⟨hdistinct, ?_⟩
  obtain ⟨s₁, hrun₁, hevolves, -⟩ := run_yields hs ((run_returns_iff hs).mp ⟨left, s', hrun⟩)
  obtain ⟨-, rfl⟩ := Prod.mk.inj (hrun₁.symm.trans hrun)
  have hnames : ∀ b ∈ (buckets left).map Prod.snd, ∀ i ∈ b, s₁.Names i.key := by
    rw [eq_survivors_of_run hrun, names_of_kind hevolves.kind]
    exact names_survivors ((run_returns_iff hs).mp ⟨left, s₁, hrun⟩)
  obtain ⟨s'', hrun', -, -⟩ := run_yields hevolves.works
    (allLoggable_of_length_le (length_le_of_distinct hdistinct) hnames s₁.ledger)
  rw [survivors_of_distinct hdistinct] at hrun'
  have hstill := still_of_distinct hdistinct (idle_of_run hrun) hrun'
  refine ⟨s'', hrun', hstill.record?, hstill.copies, hstill.backing, ?_, ?_⟩
  · obtain ⟨counters, journal, calls, -, rfl⟩ := hstill
    rfl
  · obtain ⟨counters, journal, calls, -, rfl⟩ := hstill
    rfl

/-- Two buckets with a key in common: the second issue of one is the first of the other. -/
def overlapping : List Issue :=
  [duplicate "a" 0, duplicate "b" 0, { duplicate "b" 0 with mark := some "n" },
    { duplicate "c" 0 with mark := some "n" }]

/-- A file store that holds a dismissal of the first of them. -/
def filing : Session where
  store := onFile "file" (Path.ofString "d.json")
    (Table.empty.put (Text.ofString (duplicate "a" 0).key.render) ⟨.newYear 2024, 100, 1⟩) 0
  world := .blank

theorem works_filing : filing.Works :=
  ⟨ready_blank.accepts, plain_empty.put _ ⟨by decide +kernel, by decide +kernel⟩⟩

/-- The first run copies a record and writes the file, and the second bucket is lost with the key. -/
theorem run_own_result_overlapping :
    ∃ s' s'', (run overlapping).run filing = (.ok [duplicate "a" 0], s') ∧
      filing.record? (duplicate "b" 0).key = none ∧
      s'.record? (duplicate "b" 0).key = some ⟨.newYear 2024, 100, 1⟩ ∧
      (run [duplicate "a" 0]).run s' = (.ok [duplicate "a" 0], s'') ∧ s''.record? = s'.record? ∧
      s''.world.disk = s'.world.disk := by
  have hprintable : ∀ i ∈ overlapping, i.key.Printable := by
    intro i hi
    simp only [overlapping, List.mem_cons, List.not_mem_nil, or_false] at hi
    rcases hi with rfl | rfl | rfl | rfl
    · exact printable_duplicate "a"
    · exact printable_duplicate "b"
    · exact printable_duplicate "b"
    · exact printable_duplicate "c"
  obtain ⟨left, s', hrun⟩ := (run_returns_iff works_filing).mpr
    (allLoggable_of_printable fun b hb i hi => hprintable i (mem_of_mem_buckets hb hi))
  obtain ⟨-, s'', hrun', hrecords, -, -, hdisk, -⟩ := run_own_result works_filing hrun
  obtain rfl : left = [duplicate "a" 0] := (eq_survivors_of_run hrun).trans (by decide +kernel)
  refine ⟨s', s'', hrun, by decide +kernel, ?_, hrun', hrecords, hdisk⟩
  rw [records_of_run hrun]
  decide +kernel

end Dedup

end IssueDigest
