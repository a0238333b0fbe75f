import IssueDigest.Proofs.FailedChanges
import IssueDigest.Proofs.Fleet
import IssueDigest.Proofs.Provenance
import Mathlib.Data.Finset.Card
import Mathlib.Data.Fintype.Defs
/-!
# Dismissals that overtake each other

A dismissal on a server makes two calls: it looks the record up, and then it sets a record that counts one
more than the one found. Stores that share a server make these calls in any order, and nothing holds what
was found until it is used. If another dismissal of the issue sets its record in between, that one is
overwritten by a record that does not count it.

`Race.step` is one of the two halves of a dismissal (`Store.dismiss_eq`), and a run is any sequence of
them. What a half can do to the counts is said once (`Half`); the invariant `Balanced` follows from it and
compares the count of one issue with the number of its dismissals.
-/

namespace IssueDigest

open Store

/-! ### The two halves of a dismissal -/

/-- How often a record that was found, if one was, says that the issue has been dismissed. -/
def counted : Option Record → Int
  | none => 0
  | some r => r.count

theorem Session.times_eq_counted (s : Session) (key : IssueKey) : s.times key = counted (s.record? key) := by
  rw [times]
  cases s.record? key <;> rfl

theorem Store.count_dismissal (previous : Option Record) (now : Moment) (severity : Int)
    (moment : Option Moment) : (dismissal previous now severity moment).count = counted previous + 1 := by
  cases previous <;> rfl

/-- What a dismissal does once it has looked the record up. -/
def Store.settle (key : IssueKey) (severity : Int) (moment : Option Moment) (previous : Option Record) :
    Action Record := do
  let r := dismissal previous (← get).world.now severity moment
  keep key r
  let name := (← get).store.name
  let text ← Act.lift key.write
  note .debug "Issue dismissed"
    [("backend", .string name), ("issue_key", .string text), ("severity_level", .int severity)]
  pure r

/-- Both halves together are a dismissal. -/
theorem Store.dismiss_eq (key : IssueKey) (severity : Int) (moment : Option Moment) :
    dismiss key severity moment = find key >>= settle key severity moment := by
  refine bind_congr fun previous => ?_
  cases previous <;> rfl

/-- The first half leaves the counts alone and finds the one there is. -/
theorem Store.times_of_find {s s' : Session} {key : IssueKey} {r : Except Fault (Option Record)}
    (hrun : (find key).run s = (r, s')) :
    s'.store.backing = s.store.backing ∧ s'.times = s.times ∧
      ∀ previous, r = .ok previous → counted previous = s.times key := by
  have hstill := still_of_find hrun
  obtain ⟨found, calls, hfind, hfound⟩ := run_find key s
  obtain ⟨rfl, rfl⟩ := Prod.mk.inj (hfind.symm.trans hrun)
  refine ⟨hstill.backing, funext fun k => ?_, fun previous hprevious => ?_⟩
  · rw [Session.times_eq_counted, Session.times_eq_counted, hstill.record?]
  · rw [hfound previous hprevious, Session.times_eq_counted]

/-- **The second half** sets the count to one more than was found, whatever it is by then, or fails and
leaves the counts alone. -/
theorem Store.times_of_settle {s s' : Session} {front : String} (hs : s.store.backing = .server front)
    {key : IssueKey} {severity : Int} {moment : Option Moment} {previous : Option Record}
    (hvalid : (moment.getD s.world.now).IsValid) {r : Except Fault Record}
    (hrun : (settle key severity moment previous).run s = (r, s')) :
    s'.store.backing = .server front ∧
      ((∃ e, r = .error e) ∧ s'.times = s.times ∨
        (∃ record, r = .ok record) ∧ s'.times = Function.update s.times key (counted previous + 1)) := by
  rw [settle, Act.run_get_bind] at hrun
  obtain ⟨e, s₁, hkeep, hstill⟩ | ⟨hkey, text, htext, hkeep⟩ :=
    run_keep_server hs key (dismissal previous s.world.now severity moment)
  · obtain ⟨rfl, rfl⟩ := Prod.mk.inj ((Act.run_bind_error hkeep).symm.trans hrun)
    refine ⟨hstill.backing.trans hs, .inl ⟨⟨e, rfl⟩, funext fun k => ?_⟩⟩
    rw [Session.times_eq_counted, Session.times_eq_counted, hstill.record?]
  · rw [Act.run_bind_ok hkeep, Act.run_get_bind, IssueKey.write_of_printable hkey] at hrun
    obtain ⟨rfl, rfl⟩ := Prod.mk.inj hrun
    refine ⟨hs, .inr ⟨⟨_, rfl⟩, funext fun k => ?_⟩⟩
    have hprintable := (Record.exists_write_iff _ Json.asciiLine).mp ⟨text, htext⟩
    obtain rfl := Except.ok.inj (htext.symm.trans (writeEntry_of_printable hprintable))
    have hrecord := record?_stored hs key
      (asString (Text.ofChars (dismissal previous s.world.now severity moment).line)) k
    rw [asString_ofChars, String.toList_ofList, readLine_line_of_valid hprintable hvalid] at hrecord
    rw [Session.times_eq_counted, asString_ofChars, Function.update_apply]
    refine (congrArg counted hrecord).trans ?_
    split
    · exact count_dismissal previous s.world.now severity moment
    · rw [Session.times_eq_counted]

/-! ### Halves in any order -/

/-- A dismissal that one of the stores is to make. -/
structure Order (ι : Type) where
  store : ι
  key : IssueKey
  severity : Int
  moment : Option Moment

/-- How far a dismissal has come. -/
inductive Stage where
  | waiting
  /-- The first half is over; this has been found. -/
  | looked (previous : Option Record)
  | done (r : Record)
  | failed (e : Fault)

namespace Stage

/-- Has the dismissal succeeded? -/
def isDone : Stage → Bool
  | done _ => true
  | _ => false

/-- Is the dismissal over? -/
def isOver : Stage → Bool
  | done _ | failed _ => true
  | _ => false

theorem isDone_of_isOver {stage : Stage} (h : stage.isOver = false) : stage.isDone = false := by
  cases stage with
  | waiting | looked => rfl
  | done | failed => cases h

end Stage

/-- Stores that share a server, and dismissals under way. -/
structure Race (ι κ : Type) where
  fleet : Fleet ι
  stage : κ → Stage

/-- How often each issue has been dismissed, and how far the dismissals have come. -/
structure Tally (κ : Type) where
  times : IssueKey → Int
  stage : κ → Stage

section Race

variable {ι κ : Type} [DecidableEq ι]

/-- Do all stores of the race keep their records under the front, and is this the tally? -/
structure Race.Shows (race : Race ι κ) (front : String) (t : Tally κ) : Prop where
  backing : ∀ i, (race.fleet.session i).store.backing = .server front
  times : ∀ i, (race.fleet.session i).times = t.times
  stage : race.stage = t.stage

/-- What one store leaves on the server all of them find. -/
theorem Race.Shows.put {race : Race ι κ} {front : String} {t : Tally κ} (h : race.Shows front t) (i : ι)
    {s : Session} (hs : s.store.backing = .server front) (stage : κ → Stage) :
    Race.Shows ⟨race.fleet.put i s, stage⟩ front ⟨s.times, stage⟩ := by
  have hput (j : ι) : ((race.fleet.put i s).session j).store.backing = .server front ∧
      ((race.fleet.put i s).session j).times = s.times := by
    by_cases hj : j = i
    · subst hj
      rw [Fleet.session_put_self]
      exact ⟨hs, rfl⟩
    · rw [Fleet.session_put_of_ne hj]
      refine ⟨h.backing j, funext fun key => ?_⟩
      exact @Session.Resumes.times s ((race.fleet.session j).withServer s.world.server)
        ⟨(h.backing j).trans hs.symm, rfl⟩ key
  exact ⟨fun j => (hput j).1, fun j => (hput j).2, rfl⟩

variable [DecidableEq κ]

/-- A dismissal goes on by a half, while its store's clock shows the moment. -/
def Race.step (orders : κ → Order ι) (race : Race ι κ) (c : κ) (now : Moment) : Race ι κ :=
  let order := orders c
  match race.stage c with
  | .waiting =>
    let (result, fleet) := race.fleet.act order.store do
      modify (Session.atMoment · now)
      find order.key
    ⟨fleet, Function.update race.stage c
      (match result with | .ok previous => .looked previous | .error e => .failed e)⟩
  | .looked previous =>
    let (result, fleet) := race.fleet.act order.store do
      modify (Session.atMoment · now)
      settle order.key order.severity order.moment previous
    ⟨fleet, Function.update race.stage c (match result with | .ok r => .done r | .error e => .failed e)⟩
  | .done _ | .failed _ => race

/-- Halves in the order of the list. -/
def Race.run (orders : κ → Order ι) (race : Race ι κ) (steps : List (κ × Moment)) : Race ι κ :=
  steps.foldl (fun race step => race.step orders step.1 step.2) race

/-- What a half of a dismissal can do to the tally. -/
inductive Half (orders : κ → Order ι) (c : κ) (t : Tally κ) : Tally κ → Prop where
  /-- It finds the count there is. -/
  | look (previous : Option Record) (hstage : t.stage c = .waiting)
      (hfound : counted previous = t.times (orders c).key) :
      Half orders c t ⟨t.times, Function.update t.stage c (.looked previous)⟩
  /-- It sets one more than the count that was found. -/
  | set (previous : Option Record) (r : Record) (hstage : t.stage c = .looked previous) :
      Half orders c t ⟨Function.update t.times (orders c).key (counted previous + 1),
        Function.update t.stage c (.done r)⟩
  /-- It fails. -/
  | fail (e : Fault) (hstage : (t.stage c).isOver = false) :
      Half orders c t ⟨t.times, Function.update t.stage c (.failed e)⟩
  /-- There is nothing left to do. -/
  | rest (hstage : (t.stage c).isOver = true) : Half orders c t t

/-- **One half of a dismissal** does what a half can do. -/
theorem Race.Shows.step {orders : κ → Order ι} {race : Race ι κ} {front : String} {t : Tally κ}
    (h : race.Shows front t) (c : κ) {now : Moment} (hnow : now.IsValid)
    (hmoment : ∀ m, (orders c).moment = some m → m.IsValid) :
    ∃ t', (race.step orders c now).Shows front t' ∧ Half orders c t t' := by
  have hvalid : ((orders c).moment.getD now).IsValid := by
    cases hm : (orders c).moment with
    | none => exact hnow
    | some m => exact hmoment m hm
  -- The store finds what is on the server when its clock has moved.
  have hbacking : ((race.fleet.session (orders c).store).atMoment now).store.backing = .server front :=
    h.backing (orders c).store
  have htimes : ((race.fleet.session (orders c).store).atMoment now).times = t.times :=
    h.times (orders c).store
  cases hc : race.stage c with
  | waiting =>
    have hstage : t.stage c = .waiting := h.stage ▸ hc
    cases hrun : (find (orders c).key).run ((race.fleet.session (orders c).store).atMoment now) with
    | mk r s =>
    obtain ⟨hs, hsame, hfound⟩ := times_of_find hrun
    rw [htimes] at hsame hfound
    have hput := h.put (orders c).store (hs.trans hbacking)
    rw [hsame] at hput
    cases r with
    | ok previous =>
      refine ⟨_, ?_, .look previous hstage (hfound previous rfl)⟩
      simpa [Race.step, hc, Fleet.act, hrun, h.stage] using hput _
    | error e =>
      refine ⟨_, ?_, .fail e (by rw [hstage]; rfl)⟩
      simpa [Race.step, hc, Fleet.act, hrun, h.stage] using hput _
  | looked previous =>
    have hstage : t.stage c = .looked previous := h.stage ▸ hc
    cases hrun : (settle (orders c).key (orders c).severity (orders c).moment previous).run
      ((race.fleet.session (orders c).store).atMoment now) with
    | mk r s =>
    obtain ⟨hs, hcases⟩ := times_of_settle hbacking (by exact hvalid) hrun
    rw [htimes] at hcases
    have hput := h.put (orders c).store hs
    rcases hcases with ⟨⟨e, rfl⟩, hsame⟩ | ⟨⟨r, rfl⟩, hset⟩
    · rw [hsame] at hput
      refine ⟨_, ?_, .fail e (by rw [hstage]; rfl)⟩
      simpa [Race.step, hc, Fleet.act, hrun, h.stage] using hput _
    · rw [hset] at hput
      refine ⟨_, ?_, .set previous r hstage⟩
      simpa [Race.step, hc, Fleet.act, hrun, h.stage] using hput _
  | done r =>
    refine ⟨t, ?_, .rest (by rw [← h.stage, hc]; rfl)⟩
    simpa [Race.step, hc] using h
  | failed e =>
    refine ⟨t, ?_, .rest (by rw [← h.stage, hc]; rfl)⟩
    simpa [Race.step, hc] using h

end Race

/-! ### Dismissals that set what others have not found -/

section Interrupts

variable {ι κ : Type} [DecidableEq κ]

/-- Does the first dismissal set its record when the second one has looked and not set its own? The list
says whose halves follow one another. -/
def Interrupts (l : List κ) (c d : κ) : Prop :=
  c ≠ d ∧ ∃ front, front ++ [c] <+: l ∧ front.count c = 1 ∧ front.count d = 1

instance (l : List κ) (c d : κ) : Decidable (Interrupts l c d) :=
  decidable_of_iff
    (c ≠ d ∧ ∃ front ∈ l.inits, front ++ [c] <+: l ∧ front.count c = 1 ∧ front.count d = 1)
    (and_congr_right fun _ => exists_congr fun front => and_iff_right_of_imp fun h =>
      (List.mem_inits front l).mpr ((List.prefix_append front [c]).trans h.1))

theorem interrupts_concat_iff {l : List κ} {a c d : κ} :
    Interrupts (l ++ [a]) c d ↔
      Interrupts l c d ∨ c = a ∧ c ≠ d ∧ l.count c = 1 ∧ l.count d = 1 := by
  constructor
  · rintro ⟨hne, front, hfront, hc, hd⟩
    rcases List.prefix_concat_iff.mp hfront with heq | hfront
    · obtain ⟨rfl, hac⟩ := List.append_inj' heq rfl
      exact .inr ⟨(List.cons.inj hac).1, hne, hc, hd⟩
    · exact .inl ⟨hne, front, hfront, hc, hd⟩
  · rintro (⟨hne, front, hfront, hc, hd⟩ | ⟨rfl, hne, hc, hd⟩)
    · exact ⟨hne, front, hfront.trans (List.prefix_append l [a]), hc, hd⟩
    · exact ⟨hne, l, List.prefix_rfl, hc, hd⟩

/-- A dismissal that interrupts has set its record. -/
theorem Interrupts.two_le_count {l : List κ} {c d : κ} (h : Interrupts l c d) : 2 ≤ l.count c := by
  obtain ⟨-, front, hfront, hc, -⟩ := h
  have hle := hfront.sublist.count_le c
  rw [List.count_append, List.count_singleton_self, hc] at hle
  exact hle

/-- A dismissal that has not looked yet is not interrupted. -/
theorem not_interrupts_of_count {l : List κ} {c d : κ} (h : l.count d = 0) : ¬Interrupts l c d := by
  rintro ⟨-, front, hfront, -, hd⟩
  have hle := ((List.prefix_append front [c]).trans hfront).sublist.count_le d
  omega

/-- Has a dismissal that has come so far gone on so often? -/
def Stage.Fits : Stage → Nat → Prop
  | waiting, n => n = 0
  | looked _, n => n = 1
  | done _, n => 2 ≤ n
  | failed _, _ => True

/-- Has each dismissal come as far as the list says that it has gone on? -/
def Follows (stage : κ → Stage) (l : List κ) : Prop := ∀ c, (stage c).Fits (l.count c)

theorem Follows.update {stage : κ → Stage} {l : List κ} {a : κ} {next : Stage} (h : Follows stage l)
    (hnext : next.Fits (l.count a + 1)) : Follows (Function.update stage a next) (l ++ [a]) := by
  intro c
  by_cases hc : c = a
  · subst hc
    rw [Function.update_self, List.count_append, List.count_singleton_self]
    exact hnext
  · rw [Function.update_of_ne hc, List.count_append, List.count_singleton, if_neg (by simpa using Ne.symm hc)]
    exact h c

theorem Follows.half {orders : κ → Order ι} {t t' : Tally κ} {l : List κ} {a : κ}
    (h : Follows t.stage l) (hhalf : Half orders a t t') : Follows t'.stage (l ++ [a]) := by
  have ha := h a
  cases hhalf with
  | look previous hstage =>
    rw [hstage] at ha
    exact h.update (congrArg (· + 1) ha)
  | set previous r hstage =>
    rw [hstage] at ha
    exact h.update (Nat.succ_le_succ ha.ge)
  | fail e => exact h.update trivial
  | rest hstage =>
    have hself (hfits : (t.stage a).Fits (l.count a + 1)) : Follows t.stage (l ++ [a]) := by
      have hupdate := h.update hfits
      rwa [Function.update_eq_self] at hupdate
    refine hself ?_
    cases hc : t.stage a with
    | waiting | looked => simp [hc, Stage.isOver] at hstage
    | done r =>
      rw [hc] at ha
      exact Nat.le_succ_of_le ha
    | failed e => trivial

end Interrupts

/-! ### Counts and dismissals -/

section Settled

variable {ι κ : Type} [Fintype κ] {orders : κ → Order ι} {key : IssueKey} {stage : κ → Stage}

/-- The dismissals of an issue that have succeeded. -/
def settled (orders : κ → Order ι) (key : IssueKey) (stage : κ → Stage) : Finset κ :=
  {c | (orders c).key = key ∧ (stage c).isDone = true}

theorem mem_settled {c : κ} :
    c ∈ settled orders key stage ↔ (orders c).key = key ∧ (stage c).isDone = true := by
  simp [settled]

variable [DecidableEq κ] {a : κ}

theorem settled_update (next : Stage)
    (h : (orders a).key = key → (stage a).isDone = false ∧ next.isDone = false) :
    settled orders key (Function.update stage a next) = settled orders key stage := by
  ext c
  rw [mem_settled, mem_settled]
  by_cases hc : c = a
  · subst hc
    rw [Function.update_self]
    refine and_congr_right fun hkey => ?_
    rw [(h hkey).1, (h hkey).2]
  · rw [Function.update_of_ne hc]

theorem settled_update_done (hkey : (orders a).key = key) (r : Record) :
    settled orders key (Function.update stage a (.done r)) = insert a (settled orders key stage) := by
  ext c
  rw [Finset.mem_insert, mem_settled, mem_settled]
  by_cases hc : c = a
  · subst hc
    simp [hkey, Stage.isDone]
  · simp [hc]

end Settled

section Balanced

variable {ι κ : Type} [DecidableEq κ] {orders : κ → Order ι} {key : IssueKey} {before count : Int}
  {l : List κ} {stage stage' : κ → Stage} {a c : κ} {previous : Option Record}

theorem Follows.count_of_looked (h : Follows stage l) (hc : stage c = .looked previous) :
    l.count c = 1 := by
  have hfits := h c
  rwa [hc] at hfits

variable [Fintype κ]

theorem Follows.two_le_of_mem (h : Follows stage l) (hc : c ∈ settled orders key stage) :
    2 ≤ l.count c := by
  have hfits := h c
  have hdone := (mem_settled.mp hc).2
  cases hstage : stage c with
  | waiting | looked | failed => simp [hstage, Stage.isDone] at hdone
  | done => rwa [hstage] at hfits

/-- **What holds between halves**, of the count of an issue and of the counts that are about to be used.
The count is one for each dismissal exactly if none of them was interrupted; what a dismissal has found is
still the count unless it has been interrupted, and then it has fallen behind. -/
structure Balanced (orders : κ → Order ι) (key : IssueKey) (before : Int) (l : List κ) (count : Int)
    (stage : κ → Stage) : Prop where
  le : count ≤ before + (settled orders key stage).card
  ge : before ≤ count
  gt : (settled orders key stage).Nonempty → before < count
  found : ∀ c previous, (orders c).key = key → stage c = .looked previous →
    before ≤ counted previous ∧
      ((∀ d ∈ settled orders key stage, ¬Interrupts l d c) → counted previous = count) ∧
      ((∃ d ∈ settled orders key stage, Interrupts l d c) →
        counted previous < before + (settled orders key stage).card)
  eq_iff : count = before + (settled orders key stage).card ↔
    ∀ c ∈ settled orders key stage, ∀ d ∈ settled orders key stage, ¬Interrupts l d c

namespace Balanced

theorem counted_le (h : Balanced orders key before l count stage) (hkey : (orders c).key = key)
    (hstage : stage c = .looked previous) :
    counted previous ≤ before + (settled orders key stage).card := by
  obtain ⟨-, heq, hlt⟩ := h.found c previous hkey hstage
  by_cases hint : ∃ d ∈ settled orders key stage, Interrupts l d c
  · exact (hlt hint).le
  · rw [heq fun d hd hd' => hint ⟨d, hd, hd'⟩]
    exact h.le

/-- A half that settles no dismissal of the issue changes nothing, but that a count may be found. -/
theorem keep (h : Balanced orders key before l count stage)
    (hsettled : settled orders key stage' = settled orders key stage)
    (hstage : ∀ c previous, (orders c).key = key → stage' c = .looked previous →
      stage c = .looked previous ∨ counted previous = count ∧ l.count c = 0)
    (ha : a ∈ settled orders key stage → l.count a ≠ 1) :
    Balanced orders key before (l ++ [a]) count stage' := by
  have hpairs {c d : κ} (hd : d ∈ settled orders key stage) :
      Interrupts (l ++ [a]) d c ↔ Interrupts l d c := by
    rw [interrupts_concat_iff]
    refine or_iff_left ?_
    rintro ⟨rfl, -, hcount, -⟩
    exact ha hd hcount
  constructor
  case le => rw [hsettled]; exact h.le
  case ge => exact h.ge
  case gt => rw [hsettled]; exact h.gt
  case found =>
    intro c previous hkey hlooked
    rw [hsettled]
    obtain hold | ⟨hfound, hcount⟩ := hstage c previous hkey hlooked
    · obtain ⟨hge, heq, hlt⟩ := h.found c previous hkey hold
      refine ⟨hge, fun hnone => heq fun d hd hint => hnone d hd ((hpairs hd).mpr hint), ?_⟩
      rintro ⟨d, hd, hint⟩
      exact hlt ⟨d, hd, (hpairs hd).mp hint⟩
    · refine ⟨hfound ▸ h.ge, fun _ => hfound, ?_⟩
      rintro ⟨d, hd, hint⟩
      exact absurd ((hpairs hd).mp hint) (not_interrupts_of_count hcount)
  case eq_iff =>
    rw [hsettled, h.eq_iff]
    exact forall₂_congr fun c _ => forall₂_congr fun d hd => not_congr (hpairs hd).symm

/-- When a dismissal is settled, the dismissals of the issue have not interrupted each other if they had not
before and none of them has interrupted this one. -/
theorem interrupts_insert (hfollows : Follows stage l) (ha : l.count a = 1) :
    (∀ c ∈ insert a (settled orders key stage), ∀ d ∈ insert a (settled orders key stage),
        ¬Interrupts (l ++ [a]) d c) ↔
      (∀ d ∈ settled orders key stage, ¬Interrupts l d a) ∧
        ∀ c ∈ settled orders key stage, ∀ d ∈ settled orders key stage, ¬Interrupts l d c := by
  constructor
  · intro h
    refine ⟨fun d hd hint => ?_, fun c hc d hd hint => ?_⟩
    · exact h a (Finset.mem_insert_self _ _) d (Finset.mem_insert_of_mem hd)
        (interrupts_concat_iff.mpr (.inl hint))
    · exact h c (Finset.mem_insert_of_mem hc) d (Finset.mem_insert_of_mem hd)
        (interrupts_concat_iff.mpr (.inl hint))
  · rintro ⟨hself, hothers⟩ c hc d hd hint
    rw [interrupts_concat_iff] at hint
    rcases Finset.mem_insert.mp hc with rfl | hc
    · rcases Finset.mem_insert.mp hd with rfl | hd
      · rcases hint with ⟨hne, -⟩ | ⟨-, hne, -⟩ <;> exact hne rfl
      · rcases hint with hint | ⟨rfl, hne, -⟩
        · exact hself d hd hint
        · exact hne rfl
    · have hcount := hfollows.two_le_of_mem hc
      rcases hint with hint | ⟨-, -, -, hone⟩
      · rcases Finset.mem_insert.mp hd with rfl | hd
        · have := hint.two_le_count
          omega
        · exact hothers c hc d hd hint
      · omega

/-- A half that settles a dismissal of the issue sets one more than that one has found. -/
theorem set (h : Balanced orders key before l count stage) (hfollows : Follows stage l) (r : Record)
    (hkey : (orders a).key = key) (hstage : stage a = .looked previous) :
    Balanced orders key before (l ++ [a]) (counted previous + 1)
      (Function.update stage a (.done r)) := by
  have ha : l.count a = 1 := hfollows.count_of_looked hstage
  have hnot : a ∉ settled orders key stage := fun hmem => by
    have := hfollows.two_le_of_mem hmem
    omega
  have hsettled := @settled_update_done ι κ _ orders key stage _ a hkey r
  have hcard : (settled orders key (Function.update stage a (.done r))).card =
      (settled orders key stage).card + 1 := by
    rw [hsettled, Finset.card_insert_of_notMem hnot]
  have hle := h.counted_le hkey hstage
  obtain ⟨hge, heq, hlt⟩ := h.found a previous hkey hstage
  constructor
  case le =>
    rw [hcard]
    push_cast
    omega
  case ge => omega
  case gt => exact fun _ => by omega
  case found =>
    intro c p hc hp
    have hca : c ≠ a := by
      rintro rfl
      rw [Function.update_self] at hp
      cases hp
    rw [Function.update_of_ne hca] at hp
    -- Whoever has looked by now is interrupted by this half.
    have hint : Interrupts (l ++ [a]) a c :=
      interrupts_concat_iff.mpr (.inr ⟨rfl, hca.symm, ha, hfollows.count_of_looked hp⟩)
    have hmem : a ∈ settled orders key (Function.update stage a (.done r)) :=
      hsettled ▸ Finset.mem_insert_self _ _
    refine ⟨(h.found c p hc hp).1, fun hnone => absurd hint (hnone a hmem), fun _ => ?_⟩
    have := h.counted_le hc hp
    rw [hcard]
    push_cast
    omega
  case eq_iff =>
    rw [hcard, hsettled, interrupts_insert hfollows ha, ← h.eq_iff]
    push_cast
    constructor
    · intro hfull
      have hself : ∀ d ∈ settled orders key stage, ¬Interrupts l d a := fun d hd hint => by
        have := hlt ⟨d, hd, hint⟩
        omega
      have := heq hself
      exact ⟨hself, by omega⟩
    · rintro ⟨hself, hcount⟩
      have := heq hself
      omega

/-- **One half of a dismissal** keeps the balance. -/
theorem half {t t' : Tally κ} (h : Balanced orders key before l (t.times key) t.stage)
    (hfollows : Follows t.stage l) (hhalf : Half orders a t t') :
    Balanced orders key before (l ++ [a]) (t'.times key) t'.stage := by
  have hfits := hfollows a
  cases hhalf with
  | look previous hstage hfound =>
    rw [hstage] at hfits
    refine h.keep (settled_update _ fun _ => by simp [hstage, Stage.isDone]) ?_ fun _ => by
      rw [hfits]
      decide
    intro c p hkey hp
    dsimp only at hp
    by_cases hc : c = a
    · subst hc
      rw [Function.update_self] at hp
      obtain rfl := Stage.looked.inj hp
      exact .inr ⟨hkey ▸ hfound, hfits⟩
    · rw [Function.update_of_ne hc] at hp
      exact .inl hp
  | set previous r hstage =>
    by_cases hkey : (orders a).key = key
    · dsimp only
      rw [hkey, Function.update_self]
      exact h.set hfollows r hkey hstage
    · dsimp only
      rw [Function.update_of_ne (Ne.symm hkey)]
      refine h.keep (settled_update _ fun hkey' => absurd hkey' hkey) ?_ fun hmem =>
        absurd (mem_settled.mp hmem).1 hkey
      intro c p hkey' hp
      have hc : c ≠ a := fun hc => hkey (hc ▸ hkey')
      rw [Function.update_of_ne hc] at hp
      exact .inl hp
  | fail e hstage =>
    have hdone := Stage.isDone_of_isOver hstage
    refine h.keep (settled_update _ fun _ => ⟨hdone, rfl⟩) ?_ fun hmem => by
      rw [(mem_settled.mp hmem).2] at hdone
      cases hdone
    intro c p _ hp
    dsimp only at hp
    by_cases hc : c = a
    · subst hc
      rw [Function.update_self] at hp
      cases hp
    · rw [Function.update_of_ne hc] at hp
      exact .inl hp
  | rest hstage =>
    refine h.keep rfl (fun c p _ hp => .inl hp) fun hmem => ?_
    have := hfollows.two_le_of_mem hmem
    omega

end Balanced

end Balanced

/-! ### Whole runs -/

namespace Race

variable {ι κ : Type} [DecidableEq ι] [DecidableEq κ] [Fintype κ] {orders : κ → Order ι} {race : Race ι κ}
  {front : String} {key : IssueKey} {steps : List (κ × Moment)}

/-- **The balance is kept** from half to half. -/
theorem Shows.run {t : Tally κ} {before : Int} {l : List κ} (h : race.Shows front t)
    (hfollows : Follows t.stage l) (hbalanced : Balanced orders key before l (t.times key) t.stage)
    (hsteps : ∀ step ∈ steps, step.2.IsValid) (horders : ∀ c m, (orders c).moment = some m → m.IsValid) :
    ∃ t', (race.run orders steps).Shows front t' ∧
      Balanced orders key before (l ++ steps.map Prod.fst) (t'.times key) t'.stage := by
  induction steps generalizing race t l with
  | nil => exact ⟨t, h, by rwa [List.map_nil, List.append_nil]⟩
  | cons step steps ih =>
    obtain ⟨hnow, hsteps⟩ := List.forall_mem_cons.mp hsteps
    obtain ⟨t', hshows, hhalf⟩ := h.step step.1 hnow (horders step.1)
    rw [List.map_cons, List.append_cons]
    exact ih hshows (hfollows.half hhalf) (hbalanced.half hfollows hhalf) hsteps

/-- **How often an issue has been dismissed** when stores that share a server have dismissed it, each in
two halves and in any order. The count has gone up by one for each dismissal that succeeded if, and only
if, none of these set its record while another one had looked and not yet set its own. In any case it has
gone up by no more, and by one at least if any succeeded. -/
theorem times_run (hbacking : ∀ i, (race.fleet.sessions i).store.backing = .server front)
    (hwaiting : ∀ c, race.stage c = .waiting) (hsteps : ∀ step ∈ steps, step.2.IsValid)
    (horders : ∀ c m, (orders c).moment = some m → m.IsValid) (i : ι) (key : IssueKey) :
    (((race.run orders steps).fleet.session i).times key =
        (race.fleet.session i).times key + (settled orders key (race.run orders steps).stage).card ↔
      ∀ c ∈ settled orders key (race.run orders steps).stage,
        ∀ d ∈ settled orders key (race.run orders steps).stage,
          ¬Interrupts (steps.map Prod.fst) d c) ∧
    ((race.run orders steps).fleet.session i).times key ≤
      (race.fleet.session i).times key + (settled orders key (race.run orders steps).stage).card ∧
    (race.fleet.session i).times key + min 1 (settled orders key (race.run orders steps).stage).card ≤
      ((race.run orders steps).fleet.session i).times key := by
  have hshows : race.Shows front ⟨(race.fleet.session i).times, race.stage⟩ := by
    refine ⟨hbacking, fun j => funext fun k => ?_, rfl⟩
    exact @Session.Resumes.times (race.fleet.session i) (race.fleet.session j)
      ⟨(hbacking j).trans (hbacking i).symm, rfl⟩ k
  have hnone : settled orders key race.stage = ∅ :=
    Finset.filter_eq_empty_iff.mpr fun c _ => by simp [hwaiting, Stage.isDone]
  have hfollows : Follows race.stage [] := fun c => by
    rw [hwaiting]
    rfl
  have hbalanced : Balanced orders key ((race.fleet.session i).times key) []
      ((race.fleet.session i).times key) race.stage := by
    refine ⟨?_, le_rfl, ?_, fun c previous _ hc => ?_, ?_⟩
    · simp [hnone]
    · simp [hnone]
    · rw [hwaiting] at hc
      cases hc
    · simp [hnone]
  obtain ⟨t', ⟨-, htimes, hstage⟩, hfinal⟩ := hshows.run hfollows hbalanced hsteps horders
  rw [htimes i, hstage]
  refine ⟨hfinal.eq_iff, hfinal.le, ?_⟩
  rcases Finset.eq_empty_or_nonempty (settled orders key t'.stage) with hempty | hsome
  · rw [hempty, Finset.card_empty]
    exact (add_zero _).trans_le hfinal.ge
  · have hcard := Finset.card_pos.mpr hsome
    have hgt := hfinal.gt hsome
    omega

/-- Two stores under one front, on a server that holds nothing, are about to dismiss an issue each. -/
def both : Race Bool Bool where
  fleet := ⟨.blank, fun _ => ⟨onServer "store" "front:", .blank⟩⟩
  stage _ := .waiting

/-- Each is to dismiss the same issue. -/
def twice (store : Bool) : Order Bool := ⟨store, (Dedup.duplicate "a" 0).key, 100, none⟩

/-- Halves at the beginning of a year. -/
def halves (l : List Bool) : List (Bool × Moment) := l.map fun c => (c, .newYear 2024)

theorem valid_halves (l : List Bool) : ∀ step ∈ halves l, step.2.IsValid := by
  have hnow : (Moment.newYear 2024).IsValid := ⟨rfl, rfl, by decide, nofun⟩
  intro step hstep
  obtain ⟨c, -, rfl⟩ := List.mem_map.mp hstep
  exact hnow

/-- One after the other, both dismissals count. -/
theorem times_run_both :
    (∀ step ∈ halves [true, true, false, false], step.2.IsValid) ∧
      ((both.run twice (halves [true, true, false, false])).fleet.session true).times
        (Dedup.duplicate "a" 0).key = 2 := by
  refine ⟨valid_halves _, ?_⟩
  have hcard : (settled twice (Dedup.duplicate "a" 0).key
      (both.run twice (halves [true, true, false, false])).stage).card = 2 := by decide +kernel
  have hbefore : (both.fleet.session true).times (Dedup.duplicate "a" 0).key = 0 := by decide +kernel
  have hiff := (@times_run Bool Bool _ _ _ twice both "front:" _ (fun _ => rfl) (fun _ => rfl)
    (valid_halves [true, true, false, false]) (fun _ _ => nofun) true (Dedup.duplicate "a" 0).key).1
  rw [hcard, hbefore] at hiff
  exact hiff.mpr (by decide +kernel)

/-- Where both look before either sets, one of them is lost. -/
theorem lost_both :
    (∀ c, ((both.run twice (halves [true, false, true, false])).stage c).isDone = true) ∧
      (both.fleet.session true).times (Dedup.duplicate "a" 0).key = 0 ∧
      ((both.run twice (halves [true, false, true, false])).fleet.session true).times
        (Dedup.duplicate "a" 0).key = 1 := by
  decide +kernel

end Race

end IssueDigest
