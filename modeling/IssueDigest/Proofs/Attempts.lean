import IssueDigest.Proofs.Durability
import IssueDigest.Proofs.Footprint
/-!
# One attempt to write at most

A move of a file store tries to write its file once, or not at all. The single operations write behind the
last thing that can fail before; the deduplicator works inside a block of its own and writes when it leaves
the block, if at all; and leaving a block is a write or nothing. So all that becomes of the file in a move
is said by one attempt (`Session.Tries`): which table was to be written, and what came of it. Where the
attempt fails the move does.
-/

namespace IssueDigest

open Store

namespace Session

/-- Is the store still one on the file at the path, and the disk as it was? -/
structure Rests (p : Path) (s s' : Session) : Prop where
  book : ∃ book, s'.store.backing = .file book ∧ book.path = p
  disk : s'.world.disk = s.world.disk

/-- Has the store tried once to write the table that it now holds, with this outcome? What the disk says of
the octets comes first, then whether these are all of the table. -/
def Tries (p : Path) (s s' : Session) (outcome : Except Fault Unit) : Prop :=
  ∃ book written, s'.store.backing = .file book ∧ book.path = p ∧
    s.world.disk.write p (octets book.records).1 = (s'.world.disk, written) ∧
    outcome = (written >>= fun _ => (octets book.records).2)

/-- Does the store leave the file alone, or try to write it once? If that fails so does the whole. -/
def TriesOnce {α : Type} (p : Path) (s s' : Session) (r : Except Fault α) : Prop :=
  s.Rests p s' ∨ ∃ outcome, s.Tries p s' outcome ∧ ∀ e, outcome = .error e → r = .error e

section Steps

variable {α β : Type} {p : Path} {s s' s'' : Session} {r : Except Fault α} {outcome : Except Fault Unit}

theorem Rests.of_book {book : FileBook} (hbook : s'.store.backing = .file book) (hpath : book.path = p)
    (hdisk : s'.world.disk = s.world.disk) : s.Rests p s' := ⟨⟨book, hbook, hpath⟩, hdisk⟩

theorem Tries.after (h : s'.Tries p s'' outcome) (hdisk : s'.world.disk = s.world.disk) :
    s.Tries p s'' outcome := by
  obtain ⟨book, written, hbook, hpath, hwrite, houtcome⟩ := h
  exact ⟨book, written, hbook, hpath, hdisk ▸ hwrite, houtcome⟩

theorem Tries.before (h : s.Tries p s' outcome) (hsame : s'.SameFile s'') : s.Tries p s'' outcome := by
  obtain ⟨book, written, hbook, hpath, hwrite, houtcome⟩ := h
  exact ⟨book, written, hsame.backing.trans hbook, hpath, hsame.disk ▸ hwrite, houtcome⟩

/-- What comes in front leaves the disk alone. -/
theorem TriesOnce.after (h : s'.TriesOnce p s'' r) (hdisk : s'.world.disk = s.world.disk) :
    s.TriesOnce p s'' r := by
  rcases h with hrests | ⟨outcome, htries, hfails⟩
  · exact .inl ⟨hrests.book, hrests.disk.trans hdisk⟩
  · exact .inr ⟨outcome, htries.after hdisk, hfails⟩

/-- What comes behind leaves store and disk alone, and does not hide a fault. -/
theorem TriesOnce.before {r' : Except Fault β} (h : s.TriesOnce p s' r) (hsame : s'.SameFile s'')
    (hfault : ∀ e, r = .error e → r' = .error e) : s.TriesOnce p s'' r' := by
  rcases h with ⟨⟨book, hbook, hpath⟩, hdisk⟩ | ⟨outcome, htries, hfails⟩
  · exact .inl (.of_book (hsame.backing.trans hbook) hpath (hsame.disk.trans hdisk))
  · exact .inr ⟨outcome, htries.before hsame, fun e he => hfault e (hfails e he)⟩

/-- The same fault may come out of something that would give back something else. -/
theorem TriesOnce.error {e : Fault} (h : s.TriesOnce p s' (.error e : Except Fault α)) :
    s.TriesOnce p s' (.error e : Except Fault β) :=
  h.before (.refl _) fun _ he => congrArg _ (Except.error.inj he)

theorem TriesOnce.map (h : s.TriesOnce p s' r) (f : α → β) : s.TriesOnce p s' (r.map f) := by
  refine h.before (.refl _) fun e he => ?_
  rw [he]
  rfl

end Steps

end Session

open Session

section Writing

variable {name : String} {counters : Counters} {book : FileBook} {world : World} {s s' : Session}

/-- **Writing the table** is an attempt with the outcome that it has. -/
theorem Store.tries_of_saveFile {r : Except Fault Unit} (hbook : s.store.backing = .file book)
    (h : (saveFile book).run s = (r, s')) : s.Tries book.path s' r := by
  obtain ⟨written, hwrite, hr, hdone⟩ := saveFile_run h
  cases r with
  | ok => exact ⟨_, written, hdone rfl, rfl, hwrite, hr⟩
  | error e => exact ⟨book, written, (backing_of_saveFile_error h).trans hbook, rfl, hwrite, hr⟩

theorem Store.triesOnce_of_saveFile {r : Except Fault Unit} (hbook : s.store.backing = .file book)
    (h : (saveFile book).run s = (r, s')) : s.TriesOnce book.path s' r :=
  .inr ⟨r, tries_of_saveFile hbook h, fun _ => id⟩

theorem Store.triesOnce_of_persist {r : Except Fault Unit} (h : (persist book).run s = (r, s')) :
    s.TriesOnce book.path s' r := by
  rcases Nat.eq_zero_or_pos book.depth with hdepth | hdepth
  · rw [run_persist_outside hdepth] at h
    exact (triesOnce_of_saveFile (s := s.setBacking (.file book)) rfl h).after rfl
  · rw [run_persist_inside hdepth] at h
    obtain ⟨-, rfl⟩ := Prod.mk.inj h
    exact .inl (.of_book rfl rfl rfl)

theorem Session.TakesOver.triesOnce {α : Type} {x : Action α} {r : Except Fault α}
    (h : s.TakesOver x book) (hrun : x.run s = (r, s')) : s.TriesOnce book.path s' r := by
  obtain ⟨s₁, rest, hsame, hx, hrest⟩ := h
  rw [hx, Act.run_bind] at hrun
  cases hpersist : (persist book).run s₁ with
  | mk result s₂ =>
  have hpersisted := (triesOnce_of_persist hpersist).after hsame.disk
  rw [hpersist] at hrun
  cases result with
  | error e =>
    obtain ⟨rfl, rfl⟩ := Prod.mk.inj hrun
    exact hpersisted.error
  | ok =>
    obtain ⟨a, s₃, hlast, hsame₃⟩ := hrest s₂
    obtain ⟨rfl, rfl⟩ := Prod.mk.inj (hlast.symm.trans hrun)
    exact hpersisted.before hsame₃ nofun

theorem Store.triesOnce_of_leaveBatch {r : Except Fault Unit}
    (h : leaveBatch.run ⟨⟨name, counters, .file book⟩, world⟩ = (r, s')) :
    Session.TriesOnce book.path ⟨⟨name, counters, .file book⟩, world⟩ s' r := by
  rw [run_leaveBatch_file] at h
  split at h
  · have hsaved := @triesOnce_of_saveFile { book with depth := book.depth - 1 } _ _ _ rfl h
    exact hsaved.after rfl
  · obtain ⟨-, rfl⟩ := Prod.mk.inj h
    exact .inl (.of_book rfl rfl rfl)

/-- **A run of the deduplicator** writes when its block is left. -/
theorem Dedup.triesOnce_run {issues : List Issue} {r : Except Fault (List Issue)}
    (h : (Dedup.run issues).run ⟨⟨name, counters, .file book⟩, world⟩ = (r, s')) :
    Session.TriesOnce book.path ⟨⟨name, counters, .file book⟩, world⟩ s' r := by
  obtain ⟨left, houtcome⟩ := Dedup.run_of_inside name counters world issues
  obtain ⟨result, counters', book', journal, hwithin, -, hinside, -⟩ :=
    Action.Inner.closed.align (buckets issues) name counters book.deeper (noted issues world)
      (Nat.succ_pos _)
  have hhere := houtcome book result _ hinside
  have hpath : book'.path = book.path := hwithin.path
  cases hleave : leaveBatch.run
      (⟨⟨name, counters', .file book'⟩, { noted issues world with journal }⟩ : Session) with
  | mk left' s₁ =>
  have hleft := (triesOnce_of_leaveBatch hleave).after
    (s := ⟨⟨name, counters, .file book⟩, world⟩) rfl
  rw [hpath] at hleft
  rw [hleave] at hhere
  cases left' with
  | ok =>
    obtain ⟨s'', hsame, hrun⟩ := hhere
    obtain ⟨rfl, rfl⟩ := Prod.mk.inj (hrun.symm.trans h)
    exact hleft.before hsame nofun
  | error e =>
    obtain ⟨rfl, rfl⟩ := Prod.mk.inj (Eq.symm hhere |>.trans h)
    exact hleft.error

/-- Every operation on a file store writes once at most. -/
theorem Op.triesOnce {op : Op} {r : Except Fault Outcome}
    (h : op.run.run ⟨⟨name, counters, .file book⟩, world⟩ = (r, s')) :
    Session.TriesOnce book.path ⟨⟨name, counters, .file book⟩, world⟩ s' r := by
  have hsingle (hop : op.IsSingle) :
      Session.TriesOnce book.path ⟨⟨name, counters, .file book⟩, world⟩ s' r := by
    cases hplan : op.plan book.records world.now with
    | none =>
      have hsame : Session.SameFile ⟨⟨name, counters, .file book⟩, world⟩ (op.run.run _).2 :=
        sameFile_of_plan hop hplan
      rw [h] at hsame
      exact .inl (.of_book hsame.backing rfl hsame.disk)
    | some records =>
      have htakes : Session.TakesOver ⟨⟨name, counters, .file book⟩, world⟩ op.run
          { book with records } := takesOver_of_plan hop hplan
      exact htakes.triesOnce h
  cases op with
  | dismiss | undismiss | check | get | copy | clear | size => exact hsingle trivial
  | enterBatch =>
    obtain ⟨-, rfl⟩ := Prod.mk.inj h
    exact .inl (.of_book rfl rfl rfl)
  | leaveBatch =>
    rw [Op.run, Act.run_map] at h
    obtain ⟨rfl, rfl⟩ := Prod.mk.inj h
    exact (triesOnce_of_leaveBatch (Act.run_eq_of_fst rfl)).map _
  | deduplicate issues =>
    rw [Op.run, Act.run_map] at h
    obtain ⟨rfl, rfl⟩ := Prod.mk.inj h
    exact (Dedup.triesOnce_run (Act.run_eq_of_fst rfl)).map _

/-- **A move of a file store** leaves the file alone, or tries once to write it, and fails if that does. -/
theorem Move.triesOnce {m : Move} {r : Except Fault Outcome} (hbook : s.store.backing = .file book)
    (h : m.run.run s = (r, s')) : s.TriesOnce book.path s' r := by
  obtain ⟨⟨name, counters, backing⟩, world⟩ := s
  obtain rfl : backing = .file book := hbook
  cases m with
  | turn t =>
    have hrun : t.op.run.run ⟨⟨name, counters, .file book⟩, { world with now := t.now }⟩ = (r, s') := h
    exact (Op.triesOnce hrun).after rfl
  | close =>
    rw [Move.run, Act.run_map] at h
    obtain ⟨rfl, rfl⟩ := Prod.mk.inj h
    exact (@triesOnce_of_saveFile book _ _ _ rfl (Act.run_eq_of_fst rfl)).map _
  | abort e =>
    have hthrow : (throw e : Action Outcome).run ⟨⟨name, counters, .file book⟩, world⟩ =
        (.error e, ⟨⟨name, counters, .file book⟩, world⟩) := rfl
    rw [Move.run, Act.run_andFinally hthrow] at h
    cases hleave : leaveBatch.run (⟨⟨name, counters, .file book⟩, world⟩ : Session) with
    | mk result s₁ =>
    rw [hleave] at h
    have hleft := triesOnce_of_leaveBatch hleave
    cases result with
    | ok =>
      obtain ⟨rfl, rfl⟩ := Prod.mk.inj h
      refine hleft.before (.refl _) fun e' he => ?_
      cases he
    | error e' =>
      obtain ⟨rfl, rfl⟩ := Prod.mk.inj h
      exact hleft.error

end Writing

end IssueDigest
