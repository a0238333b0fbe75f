import IssueDigest.Dedup.Run
import IssueDigest.Proofs.KeyText
import Mathlib.Data.Set.Card
/-!
# Ledgers

What a store is to its callers: a record for some of the issues, and three counters. A **ledger** is
just that, a function and three numbers, with one pure operation for each thing a store does. That
the stores keep to it is shown elsewhere; here is what their operations mean.

The alignment of a bucket is written down as what it leaves behind: the first dismissed issue **leads**
the bucket, and every other issue that is no more severe **follows** it and takes its record over. The
leader does not follow itself, so the record that is lent is the same for all followers.
-/

namespace IssueDigest

/-- What a store holds and has counted, seen from outside. -/
@[ext]
structure Ledger where
  records : IssueKey → Option Record
  counters : Counters

namespace Ledger

/-- The ledger of a store that has just been opened and holds nothing. -/
def empty : Ledger := ⟨fun _ => none, ⟨0, 0, 0⟩⟩

/-- Writes down what an issue has from now on, a record or nothing. -/
def set (l : Ledger) (key : IssueKey) (r : Option Record) : Ledger :=
  { l with records := Function.update l.records key r }

/-- Drops all records. -/
def clear (l : Ledger) : Ledger := { l with records := fun _ => none }

/-- Counts questions about issues. -/
def checked (l : Ledger) (n : Nat) : Ledger :=
  { l with counters := { l.counters with checks := l.counters.checks + n } }

/-- Counts records that were copied. -/
def copied (l : Ledger) (n : Nat) : Ledger :=
  { l with counters := { l.counters with copies := l.counters.copies + n } }

/-- The issues that have a record. -/
def kept (l : Ledger) : Set IssueKey := {key | (l.records key).isSome}

/-- Has the issue a record that covers the severity? -/
def covers (l : Ledger) (key : IssueKey) (severity : Int) : Bool :=
  (l.records key).any fun r => r.covers severity

/-- Is the issue dismissed at its own severity? -/
def dismissed (l : Ledger) (i : Issue) : Bool := l.covers i.key i.severity

@[simp] theorem records_set (l : Ledger) (key : IssueKey) (r : Option Record) :
    (l.set key r).records = Function.update l.records key r := rfl

@[simp] theorem counters_set (l : Ledger) (key : IssueKey) (r : Option Record) :
    (l.set key r).counters = l.counters := rfl

@[simp] theorem records_checked (l : Ledger) (n : Nat) : (l.checked n).records = l.records := rfl

@[simp] theorem records_copied (l : Ledger) (n : Nat) : (l.copied n).records = l.records := rfl

@[simp] theorem dismissed_checked (l : Ledger) (n : Nat) :
    (l.checked n).dismissed = l.dismissed := rfl

/-- Writing down what is there changes nothing. -/
theorem set_eq_self {l : Ledger} {key : IssueKey} {r : Option Record} (h : l.records key = r) :
    l.set key r = l :=
  Ledger.ext (Function.update_eq_self_iff.mpr h.symm) rfl

theorem checked_checked (l : Ledger) (m n : Nat) : (l.checked m).checked n = l.checked (m + n) := by
  simp [checked, Nat.add_assoc]

theorem finite_set {l : Ledger} (h : l.kept.Finite) (key : IssueKey) (r : Option Record) :
    (l.set key r).kept.Finite := by
  refine (h.insert key).subset fun k hk => ?_
  by_cases hkey : k = key
  · exact .inl hkey
  · have hk : (Function.update l.records key r k).isSome := hk
    rw [Function.update_of_ne hkey] at hk
    exact .inr hk

theorem finite_clear (l : Ledger) : l.clear.kept.Finite :=
  Set.finite_empty.subset fun _ h => nomatch h

/-- Dismissal depends on the record of the issue alone. -/
theorem dismissed_congr {l l' : Ledger} {i : Issue} (h : l'.records i.key = l.records i.key) :
    l'.dismissed i = l.dismissed i := by
  rw [dismissed, covers, h, dismissed, covers]

/-! ### One bucket -/

/-- Does an issue take over the record of the one that leads its bucket? -/
def follows (leader i : Issue) : Bool := i.key ≠ leader.key && i.severity ≤ leader.severity

/-- The first issue of the bucket that is dismissed. -/
def leader? (l : Ledger) (bucket : List Issue) : Option Issue := bucket.find? l.dismissed

/-- How many issues are looked at to find it: all of them, if there is none. -/
def examined (l : Ledger) (bucket : List Issue) : Nat :=
  min (bucket.findIdx l.dismissed + 1) bucket.length

/-- What is left when the leader has lent its record to the issues. -/
def lent (l : Ledger) (leader : Issue) (issues : List Issue) : Ledger where
  records key :=
    if issues.any fun i => follows leader i && i.key == key then l.records leader.key
    else l.records key
  counters := { l.counters with copies := l.counters.copies + issues.countP (follows leader) }

/-- What is left when a bucket has been aligned. -/
def align (l : Ledger) (bucket : List Issue) : Ledger :=
  match l.leader? bucket with
  | none => l.checked (l.examined bucket)
  | some leader => (l.checked (l.examined bucket)).lent leader bucket

/-- What one issue takes over. -/
def lend (l : Ledger) (leader i : Issue) : Ledger :=
  if follows leader i then (l.set i.key (l.records leader.key)).copied 1 else l

/-- The record that is lent is the same after each issue. -/
theorem records_lend (l : Ledger) (leader i : Issue) :
    (l.lend leader i).records leader.key = l.records leader.key := by
  unfold lend
  split
  · next hfollows =>
    simp only [follows, Bool.and_eq_true, decide_eq_true_eq] at hfollows
    rw [records_copied, records_set, Function.update_of_ne (Ne.symm hfollows.1)]
  · rfl

@[simp] theorem lent_nil (l : Ledger) (leader : Issue) : l.lent leader [] = l := by
  simp [lent]

/-- Lending to one issue after another never touches the record that is lent. -/
theorem lent_cons (l : Ledger) (leader i : Issue) (issues : List Issue) :
    l.lent leader (i :: issues) = (l.lend leader i).lent leader issues := by
  by_cases h : follows leader i = true
  -- The leader is none of its followers, so what is lent next is what was lent first.
  · have hkey : leader.key ≠ i.key := by
      simp only [follows, Bool.and_eq_true, decide_eq_true_eq] at h
      exact Ne.symm h.1
    have hlend : l.lend leader i = (l.set i.key (l.records leader.key)).copied 1 := if_pos h
    refine Ledger.ext (funext fun key => ?_) ?_
    · by_cases hi : i.key = key
      · subst hi
        simp [lent, hlend, h, hkey]
      · simp [lent, hlend, h, hi, hkey, Ne.symm hi]
    · simp only [lent, hlend, copied, counters_set, List.countP_cons, h, if_true, Counters.mk.injEq,
        true_and, and_true]
      omega
  · simp [lent, lend, h]

@[simp] theorem leader?_checked (l : Ledger) (n : Nat) (bucket : List Issue) :
    (l.checked n).leader? bucket = l.leader? bucket := rfl

@[simp] theorem examined_checked (l : Ledger) (n : Nat) (bucket : List Issue) :
    (l.checked n).examined bucket = l.examined bucket := rfl

theorem leader?_cons_of_dismissed {l : Ledger} {i : Issue} (h : l.dismissed i = true)
    (rest : List Issue) : l.leader? (i :: rest) = some i := List.find?_cons_of_pos h

theorem leader?_cons_of_not_dismissed {l : Ledger} {i : Issue} (h : l.dismissed i = false)
    (rest : List Issue) : l.leader? (i :: rest) = l.leader? rest :=
  List.find?_cons_of_neg (by simp [h])

theorem dismissed_of_leader? {l : Ledger} {bucket : List Issue} {leader : Issue}
    (h : l.leader? bucket = some leader) : l.dismissed leader = true := List.find?_some h

theorem mem_of_leader? {l : Ledger} {bucket : List Issue} {leader : Issue}
    (h : l.leader? bucket = some leader) : leader ∈ bucket := List.mem_of_find?_eq_some h

/-- A leader has a record that covers its own severity. -/
theorem record_of_leader? {l : Ledger} {bucket : List Issue} {leader : Issue}
    (h : l.leader? bucket = some leader) :
    ∃ r, l.records leader.key = some r ∧ leader.severity ≤ r.severity := by
  have hdismissed := dismissed_of_leader? h
  rw [dismissed, covers, Option.any_eq_true] at hdismissed
  obtain ⟨r, hr, hcovers⟩ := hdismissed
  exact ⟨r, hr, of_decide_eq_true hcovers⟩

@[simp] theorem examined_nil (l : Ledger) : l.examined [] = 0 := rfl

theorem examined_cons_of_dismissed {l : Ledger} {i : Issue} (h : l.dismissed i = true)
    (rest : List Issue) : l.examined (i :: rest) = 1 := by
  simp [examined, List.findIdx_cons, h]

theorem examined_cons_of_not_dismissed {l : Ledger} {i : Issue} (h : l.dismissed i = false)
    (rest : List Issue) : l.examined (i :: rest) = l.examined rest + 1 := by
  simp [examined, List.findIdx_cons, h]

/-- A bucket leaves the records of all other issues alone. -/
theorem records_align_of_notMem {l : Ledger} {bucket : List Issue} {key : IssueKey}
    (h : ∀ i ∈ bucket, i.key ≠ key) : (l.align bucket).records key = l.records key := by
  unfold align
  split
  · rfl
  · next leader _ =>
    have hnone : (bucket.any fun i => follows leader i && i.key == key) = false := by
      rw [List.any_eq_false]
      intro i hi
      simp [h i hi]
    simp only [lent, hnone, Bool.false_eq_true, if_false, records_checked]

/-- What happens to a bucket depends on the records of its issues alone. -/
theorem leader?_congr {l l' : Ledger} {bucket : List Issue}
    (h : ∀ i ∈ bucket, l'.records i.key = l.records i.key) :
    l'.leader? bucket = l.leader? bucket := by
  induction bucket with
  | nil => rfl
  | cons i rest ih =>
    have hi := dismissed_congr (h i List.mem_cons_self)
    have hrest := ih fun j hj => h j (List.mem_cons_of_mem _ hj)
    cases hdismissed : l.dismissed i with
    | true =>
      rw [leader?_cons_of_dismissed hdismissed, leader?_cons_of_dismissed (hi.trans hdismissed)]
    | false =>
      rw [leader?_cons_of_not_dismissed hdismissed,
        leader?_cons_of_not_dismissed (hi.trans hdismissed), hrest]

theorem examined_congr {l l' : Ledger} {bucket : List Issue}
    (h : ∀ i ∈ bucket, l'.records i.key = l.records i.key) :
    l'.examined bucket = l.examined bucket := by
  induction bucket with
  | nil => rfl
  | cons i rest ih =>
    have hi := dismissed_congr (h i List.mem_cons_self)
    have hrest := ih fun j hj => h j (List.mem_cons_of_mem _ hj)
    cases hdismissed : l.dismissed i with
    | true =>
      rw [examined_cons_of_dismissed hdismissed, examined_cons_of_dismissed (hi.trans hdismissed)]
    | false =>
      rw [examined_cons_of_not_dismissed hdismissed,
        examined_cons_of_not_dismissed (hi.trans hdismissed), hrest]

theorem records_align_congr {l l' : Ledger} {bucket : List Issue}
    (h : ∀ i ∈ bucket, l'.records i.key = l.records i.key) {key : IssueKey}
    (hkey : l'.records key = l.records key) :
    (l'.align bucket).records key = (l.align bucket).records key := by
  unfold align
  rw [leader?_congr h]
  cases hleader : l.leader? bucket with
  | none => exact hkey
  | some leader =>
    simp only [lent, records_checked, hkey, h leader (mem_of_leader? hleader)]

/-- The record of an issue whose key no other issue of the bucket has. -/
theorem records_align {l : Ledger} {bucket : List Issue} (hkeys : (bucket.map Issue.key).Nodup)
    {i : Issue} (hi : i ∈ bucket) :
    (l.align bucket).records i.key =
      match l.leader? bucket with
      | none => l.records i.key
      | some leader => if follows leader i then l.records leader.key else l.records i.key := by
  unfold align
  cases hleader : l.leader? bucket with
  | none => rfl
  | some leader =>
    have hany : (bucket.any fun j => follows leader j && j.key == i.key) = follows leader i := by
      rw [Bool.eq_iff_iff, List.any_eq_true]
      constructor
      · rintro ⟨j, hj, hfollows⟩
        obtain ⟨hfollows, hkey⟩ := Bool.and_eq_true_iff.mp hfollows
        rwa [← List.inj_on_of_nodup_map hkeys hj hi (eq_of_beq hkey)]
      · intro hfollows
        exact ⟨i, hi, by simp [hfollows]⟩
    simp only [lent, hany, records_checked]

/-- How many issues take a record over. -/
def followers (l : Ledger) (bucket : List Issue) : Nat :=
  match l.leader? bucket with
  | none => 0
  | some leader => bucket.countP (follows leader)

theorem followers_congr {l l' : Ledger} {bucket : List Issue}
    (h : ∀ i ∈ bucket, l'.records i.key = l.records i.key) :
    l'.followers bucket = l.followers bucket := by
  rw [followers, leader?_congr h, followers]

theorem counters_align (l : Ledger) (bucket : List Issue) :
    (l.align bucket).counters =
      { l.counters with
        checks := l.counters.checks + l.examined bucket
        copies := l.counters.copies + l.followers bucket } := by
  unfold align followers
  cases l.leader? bucket <;> rfl

/-! ### Buckets that have no issue in common -/

/-- Can every key of the bucket that the alignment has to spell be spelled? A store spells the keys
it is asked about, as far as it names issues by text; and both keys are spelled when a record is
lent. -/
structure Loggable (l : Ledger) (names : IssueKey → Prop) (bucket : List Issue) : Prop where
  examined : ∀ i ∈ bucket.take (l.examined bucket), names i.key
  lent : ∀ leader, l.leader? bucket = some leader → ∀ i ∈ bucket, follows leader i = true →
    leader.key.Printable ∧ i.key.Printable

theorem loggable_congr {l l' : Ledger} {names : IssueKey → Prop} {bucket : List Issue}
    (h : ∀ i ∈ bucket, l'.records i.key = l.records i.key) :
    l'.Loggable names bucket ↔ l.Loggable names bucket := by
  constructor
  · rintro ⟨hexamined, hlent⟩
    rw [examined_congr h] at hexamined
    rw [leader?_congr h] at hlent
    exact ⟨hexamined, hlent⟩
  · rintro ⟨hexamined, hlent⟩
    rw [← examined_congr h] at hexamined
    rw [← leader?_congr h] at hlent
    exact ⟨hexamined, hlent⟩

/-- What is left when buckets have been aligned one after another. -/
def alignAll (l : Ledger) (buckets : List (List Issue)) : Ledger := buckets.foldl align l

/-- Is each bucket loggable when its turn comes? -/
def AllLoggable (l : Ledger) (names : IssueKey → Prop) : List (List Issue) → Prop
  | [] => True
  | bucket :: rest => l.Loggable names bucket ∧ (l.align bucket).AllLoggable names rest

/-- Have no two of the buckets an issue in common? -/
def Apart (buckets : List (List Issue)) : Prop :=
  buckets.Pairwise fun b b' => ∀ i ∈ b, ∀ j ∈ b', i.key ≠ j.key

/-- Aligning a bucket leaves the records of the buckets behind it alone. -/
theorem Apart.agree {bucket : List Issue} {rest : List (List Issue)}
    (h : Apart (bucket :: rest)) (l : Ledger) :
    ∀ b ∈ rest, ∀ i ∈ b, (l.align bucket).records i.key = l.records i.key :=
  fun b hb i hi => records_align_of_notMem fun j hj => (List.pairwise_cons.mp h).1 b hb j hj i hi

theorem records_alignAll_of_notMem {l : Ledger} {buckets : List (List Issue)} {key : IssueKey}
    (h : ∀ b ∈ buckets, ∀ i ∈ b, i.key ≠ key) :
    (l.alignAll buckets).records key = l.records key := by
  induction buckets generalizing l with
  | nil => rfl
  | cons bucket rest ih =>
    rw [alignAll, List.foldl_cons, ← alignAll, ih fun b hb => h b (List.mem_cons_of_mem _ hb),
      records_align_of_notMem (h bucket List.mem_cons_self)]

/-- Only issues of the bucket can have a new record. -/
theorem finite_align {l : Ledger} (h : l.kept.Finite) (bucket : List Issue) :
    (l.align bucket).kept.Finite := by
  refine (h.union (bucket.map Issue.key).finite_toSet).subset fun key hkey => ?_
  by_cases hmem : key ∈ bucket.map Issue.key
  · exact .inr hmem
  · have hnot : ∀ i ∈ bucket, i.key ≠ key := fun i hi hi' => hmem (hi' ▸ List.mem_map_of_mem hi)
    have hkey : ((l.align bucket).records key).isSome := hkey
    rw [records_align_of_notMem hnot] at hkey
    exact .inl hkey

theorem finite_alignAll {l : Ledger} (h : l.kept.Finite) (buckets : List (List Issue)) :
    (l.alignAll buckets).kept.Finite := by
  induction buckets generalizing l with
  | nil => exact h
  | cons bucket rest ih => exact ih (finite_align h bucket)

theorem errors_alignAll (l : Ledger) (buckets : List (List Issue)) :
    (l.alignAll buckets).counters.errors = l.counters.errors := by
  induction buckets generalizing l with
  | nil => rfl
  | cons bucket rest ih =>
    rw [alignAll, List.foldl_cons, ← alignAll, ih, counters_align]

/-- **Each bucket is aligned as if it were the only one.** -/
theorem records_alignAll {l : Ledger} {buckets : List (List Issue)} (hapart : Apart buckets)
    {bucket : List Issue} (hbucket : bucket ∈ buckets) {i : Issue} (hi : i ∈ bucket) :
    (l.alignAll buckets).records i.key = (l.align bucket).records i.key := by
  induction buckets generalizing l with
  | nil => cases hbucket
  | cons first rest ih =>
    obtain ⟨hfirst, hrest⟩ := List.pairwise_cons.mp hapart
    rw [alignAll, List.foldl_cons, ← alignAll]
    rcases List.mem_cons.mp hbucket with rfl | hmem
    -- The buckets behind this one leave its issues alone, and so do those in front of it.
    · exact records_alignAll_of_notMem fun b hb j hj => (hfirst b hb i hi j hj).symm
    · rw [ih hrest hmem]
      exact records_align_congr (hapart.agree l bucket hmem) (hapart.agree l bucket hmem i hi)

theorem counters_alignAll {l : Ledger} {buckets : List (List Issue)} (hapart : Apart buckets) :
    (l.alignAll buckets).counters =
      { l.counters with
        checks := l.counters.checks + (buckets.map l.examined).sum
        copies := l.counters.copies + (buckets.map l.followers).sum } := by
  induction buckets generalizing l with
  | nil => rfl
  | cons bucket rest ih =>
    have hexamined : rest.map (l.align bucket).examined = rest.map l.examined :=
      List.map_congr_left fun b hb => examined_congr (hapart.agree l b hb)
    have hfollowers : rest.map (l.align bucket).followers = rest.map l.followers :=
      List.map_congr_left fun b hb => followers_congr (hapart.agree l b hb)
    rw [alignAll, List.foldl_cons, ← alignAll, ih (List.pairwise_cons.mp hapart).2,
      counters_align, hexamined, hfollowers]
    simp only [List.map_cons, List.sum_cons, Nat.add_assoc]

/-- Buckets that are apart are loggable when their turn comes if they are at the start. -/
theorem allLoggable_iff {l : Ledger} {names : IssueKey → Prop} {buckets : List (List Issue)}
    (hapart : Apart buckets) :
    l.AllLoggable names buckets ↔ ∀ b ∈ buckets, l.Loggable names b := by
  induction buckets generalizing l with
  | nil => exact ⟨fun _ => List.forall_mem_nil _, fun _ => trivial⟩
  | cons bucket rest ih =>
    rw [AllLoggable, ih (List.pairwise_cons.mp hapart).2, List.forall_mem_cons]
    exact and_congr_right fun _ => forall₂_congr fun b hb => loggable_congr (hapart.agree l b hb)

end Ledger

end IssueDigest
