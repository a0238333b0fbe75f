import IssueDigest.Proofs.Blocks
/-!
# Blocks change nothing but when the file is written

A file store puts its writing off while a batch block is open. Two runs are compared: one with blocks
around some of the operations, nested in any way and left in order or by a failure, and the **plain**
one without any block. If no write fails in the plain run, both give the same answers and end with the
same store and the same files.

The invariant (`Session.Lags`) says how far the run with blocks is behind: it holds the same records and
has counted the same, and its disk is the plain one but for the last write, if that is pending. It has
made no more attempts to write than the plain run, so it meets no mishap either.

The other half is about the file while a block is open: it is left alone, and written once when the
outermost block is left if anything has been changed in it (`Session.WritesOnce`).
-/

namespace IssueDigest

open Store

/-! ### Scripts -/

/-- Operations, with blocks around some of them. -/
inductive Script where
  | done
  | op (t : Turn) (single : t.op.IsSingle) (rest : Script)
  | block (opened : Moment) (body : Script) (closing : Move) (leaves : closing.Leaves)
    (rest : Script)

namespace Script

/-- The moves of the script, entering and leaving blocks included. -/
def moves : Script → List Move
  | done => []
  | op t _ rest => .turn t :: rest.moves
  | block opened body closing _ rest =>
    .turn ⟨opened, .enterBatch⟩ :: (body.moves ++ closing :: rest.moves)

/-- Its operations alone. -/
def turns : Script → List Turn
  | done => []
  | op t _ rest => t :: rest.turns
  | block _ body _ _ rest => body.turns ++ rest.turns

/-- One script after another. -/
def append : Script → Script → Script
  | done, back => back
  | op t single rest, back => op t single (rest.append back)
  | block opened body closing leaves rest, back =>
    block opened body closing leaves (rest.append back)

instance : Append Script := ⟨append⟩

theorem turns_append (front back : Script) : (front ++ back).turns = front.turns ++ back.turns := by
  change (front.append back).turns = _
  induction front with
  | done => rfl
  | op t single rest ih => rw [append, turns, ih, turns, List.cons_append]
  | block opened body closing leaves rest ihbody ih =>
    rw [append, turns, ih, turns, List.append_assoc]

end Script

/-- What the move answers, if it is an operation on the records. -/
def Move.answer (m : Move) (s : Session) : List (Except Fault Outcome) :=
  match m with
  | turn ⟨_, .enterBatch⟩ | turn ⟨_, .leaveBatch⟩ | close | abort _ => []
  | turn t => [(t.run.run s).1]

/-- The answers of the operations among the moves. -/
def Session.answers (s : Session) : List Move → List (Except Fault Outcome)
  | [] => []
  | m :: rest => m.answer s ++ (s.after m).answers rest

theorem Move.answer_single {t : Turn} (h : t.op.IsSingle) (s : Session) :
    (Move.turn t).answer s = [(t.run.run s).1] := by
  obtain ⟨now, op⟩ := t
  cases op with
  | enterBatch | leaveBatch | deduplicate => exact h.elim
  | _ => rfl

theorem Move.Leaves.answer {m : Move} (h : m.Leaves) (s : Session) : m.answer s = [] := by
  cases m with
  | turn t =>
    obtain ⟨now, op⟩ := t
    obtain rfl : op = .leaveBatch := h
    rfl
  | close => exact h.elim
  | abort e => rfl

theorem Session.answers_append (s : Session) (front back : List Move) :
    s.answers (front ++ back) = s.answers front ++ (s.afterAll front).answers back := by
  induction front generalizing s with
  | nil => rfl
  | cons m front ih => rw [List.cons_append, answers, ih, answers, List.append_assoc]; rfl

/-- The session when a block has been entered, gone through and left. -/
def Session.afterBlock (s : Session) (opened : Moment) (body : Script) (closing : Move) : Session :=
  ((s.after (.turn ⟨opened, .enterBatch⟩)).afterAll body.moves).after closing

theorem Session.afterAll_block (s : Session) (opened : Moment) (body : Script) (closing : Move)
    (leaves : closing.Leaves) (rest : Script) :
    s.afterAll (Script.block opened body closing leaves rest).moves =
      (s.afterBlock opened body closing).afterAll rest.moves :=
  afterAll_append (s.after (.turn ⟨opened, .enterBatch⟩)) body.moves (closing :: rest.moves)

/-! ### Lagging behind -/

/-- Is the first disk the second one but for a table that is pending? It has seen fewer attempts to
write, and those that it has not seen yet meet no mishap. -/
structure Disk.Lags (d d' : Disk) (p : Path) (records : Table Text Record) (pending : Bool) :
    Prop where
  mishaps : d'.mishaps = d.mishaps
  attempts : d.attempts ≤ d'.attempts
  calm : ∀ n, d.attempts ≤ n → n < d'.attempts → d.mishaps n = none
  settled : pending = false → d'.nodes = d.nodes
  owed : pending = true → d.attempts < d'.attempts ∧ (octets records).2 = .ok () ∧
    ∃ place, d.writable p = .ok place ∧ d'.nodes = d.nodes.put place (.file (octets records).1)

namespace Disk.Lags

variable {d d' : Disk} {p : Path} {records changed : Table Text Record} {pending : Bool}
  {place : List String}

/-- The file that is pending is in the way of no other, so both disks have the same place for the next
one, and it makes them equal. -/
theorem free (h : d.Lags d' p records pending) (hplace : d'.writable p = .ok place) :
    d.writable p = .ok place ∧
      ∀ content, d'.nodes.put place (.file content) = d.nodes.put place (.file content) := by
  cases pending with
  | false =>
    have hnodes := h.settled rfl
    exact ⟨(writable_of_nodes hnodes p).symm.trans hplace, fun content => by rw [hnodes]⟩
  | true =>
    obtain ⟨-, -, owed, howed, hnodes⟩ := h.owed rfl
    obtain rfl : place = owed :=
      Except.ok.inj (hplace.symm.trans (writable_of_put_file hnodes howed))
    exact ⟨howed, fun content => by rw [hnodes, Table.put_put]⟩

theorem calm_succ (h : d.Lags d' p records pending) (hcalm : d'.mishaps d'.attempts = none) (n : Nat)
    (hle : d.attempts ≤ n) (hlt : n < d'.attempts + 1) : d.mishaps n = none := by
  rcases Nat.lt_or_eq_of_le (Nat.lt_succ_iff.mp hlt) with hbefore | rfl
  · exact h.calm n hle hbefore
  · rw [← h.mishaps]
    exact hcalm

/-- What the plain run writes may be put off. -/
theorem put_off (h : d.Lags d' p records pending) (hwrites : Writes d' p changed place) :
    d.Lags (d'.written place (octets changed).1) p changed true where
  mishaps := h.mishaps
  attempts := Nat.le_succ_of_le h.attempts
  calm := h.calm_succ hwrites.calm
  settled := nofun
  owed _ := by
    obtain ⟨hfree, hnodes⟩ := h.free hwrites.free
    exact ⟨Nat.lt_succ_of_le h.attempts, hwrites.stored, place, hfree, hnodes _⟩

/-- Or it is written at once. -/
theorem written (h : d.Lags d' p records pending) (hwrites : Writes d' p changed place) :
    Writes d p changed place ∧
      (d.written place (octets changed).1).Lags (d'.written place (octets changed).1) p changed
        false := by
  obtain ⟨hfree, hnodes⟩ := h.free hwrites.free
  refine ⟨⟨hwrites.stored, hfree, ?_⟩, ⟨h.mishaps, Nat.succ_le_succ h.attempts, ?_, ?_, nofun⟩⟩
  · exact h.calm_succ hwrites.calm _ (Nat.le_refl _) (Nat.lt_succ_of_le h.attempts)
  · exact fun n hle => h.calm_succ hwrites.calm n (Nat.le_of_succ_le hle)
  · exact fun _ => hnodes _

/-- **What has been put off can be made up for.** -/
theorem made_up (h : d.Lags d' p records true) :
    ∃ place, Writes d p records place ∧
      (d.written place (octets records).1).Lags d' p records false := by
  obtain ⟨hlt, hstored, place, hfree, hnodes⟩ := h.owed rfl
  refine ⟨place, ⟨hstored, hfree, h.calm _ (Nat.le_refl _) hlt⟩, ⟨h.mishaps, hlt, ?_, ?_, nofun⟩⟩
  · exact fun n hle => h.calm n (Nat.le_of_succ_le hle)
  · exact fun _ => hnodes

end Disk.Lags

/-- The book when no block is open and nothing is pending. -/
def FileBook.plain (book : FileBook) : FileBook := { book with depth := 0, pending := false }

/-- Is the first session, with so many blocks open, the second one but for what it has put off? -/
def Session.Lags (b p : Session) (depth : Nat) : Prop :=
  ∃ name counters book w w', b = ⟨⟨name, counters, .file book⟩, w⟩ ∧
    p = ⟨⟨name, counters, .file book.plain⟩, w'⟩ ∧ book.depth = depth ∧
    (book.depth = 0 → book.pending = false) ∧
    w.disk.Lags w'.disk book.path book.records book.pending

namespace Session.Lags

variable {b p : Session} {depth : Nat}

/-- **A single operation** gives the same answer in both sessions and keeps the lag. -/
theorem single (h : b.Lags p depth) {t : Turn} (hsingle : t.op.IsSingle)
    (hcalm : (Move.turn t).Unhindered p) :
    (Move.turn t).Unhindered b ∧ (t.run.run b).1 = (t.run.run p).1 ∧
      (b.after (.turn t)).Lags (p.after (.turn t)) depth := by
  obtain ⟨name, counters, book, w, w', rfl, rfl, rfl, hidle, hlags⟩ := h
  obtain ⟨r, f, g, hdoes⟩ := Op.exists_does book.records t.now hsingle
  have hplain : t.op.Does book.plain.records t.now r f g := hdoes
  have hdeeper : t.op.Does book.deeper.records t.now r f g := hdoes
  cases hplan : t.op.plan book.records t.now with
  | none =>
    have hb := Turn.run_idle hdoes name counters w hplan
    have hp := Turn.run_idle hplain name counters w' hplan
    have hd := Turn.run_idle hdeeper name counters w hplan
    refine ⟨(congrArg Prod.fst hb).trans (congrArg Prod.fst hd).symm,
      (congrArg Prod.fst hb).trans (congrArg Prod.fst hp).symm, ?_⟩
    rw [Session.after, Session.after, Move.run, hb, hp]
    exact ⟨name, f counters, book, _, _, rfl, rfl, rfl, hidle, hlags⟩
  | some changed =>
    obtain ⟨place, hwrites⟩ := Turn.writes_of_unhindered hplain name counters w' hplan rfl hcalm
    have hp := Turn.run_written hplain name counters w' hplan rfl hwrites
    have hd := Turn.run_inside hdeeper name counters w hplan (Nat.succ_pos _)
    rcases Nat.eq_zero_or_pos book.depth with hdepth | hdepth
    -- Outside all blocks both write.
    · obtain ⟨hwrites', hlags'⟩ := hlags.written hwrites
      have hb := Turn.run_written hdoes name counters w hplan hdepth hwrites'
      refine ⟨(congrArg Prod.fst hb).trans (congrArg Prod.fst hd).symm,
        (congrArg Prod.fst hb).trans (congrArg Prod.fst hp).symm, ?_⟩
      rw [Session.after, Session.after, Move.run, hb, hp]
      exact ⟨name, f counters, { book with records := changed, pending := false }, _, _, rfl, rfl,
        rfl, fun _ => rfl, hlags'⟩
    · have hb := Turn.run_inside hdoes name counters w hplan hdepth
      refine ⟨(congrArg Prod.fst hb).trans (congrArg Prod.fst hd).symm,
        (congrArg Prod.fst hb).trans (congrArg Prod.fst hp).symm, ?_⟩
      rw [Session.after, Session.after, Move.run, hb, hp]
      exact ⟨name, f counters, { book with records := changed, pending := true }, _, _, rfl, rfl,
        rfl, fun hzero => absurd hzero (Nat.pos_iff_ne_zero.mp hdepth), hlags.put_off hwrites⟩

/-- Entering a block keeps the lag. -/
theorem enter (h : b.Lags p depth) (opened : Moment) :
    (Move.turn ⟨opened, .enterBatch⟩).Unhindered b ∧
      (b.after (.turn ⟨opened, .enterBatch⟩)).Lags p (depth + 1) := by
  obtain ⟨name, counters, book, w, w', rfl, rfl, rfl, -, hlags⟩ := h
  refine ⟨rfl, name, counters, book.deeper, { w with now := opened }, w', rfl, rfl, rfl, nofun, hlags⟩

/-- **Leaving a block** makes up for what has been put off if it is the outermost one, and does not
fail. -/
theorem leaveBatch (h : b.Lags p depth) :
    ∃ b', Store.leaveBatch.run b = (.ok (), b') ∧ b'.Lags p (depth - 1) := by
  obtain ⟨name, counters, book, w, w', rfl, rfl, rfl, hidle, hlags⟩ := h
  by_cases hwrites : book.depth - 1 = 0 ∧ book.pending = true
  · rw [hwrites.2] at hlags
    obtain ⟨place, hwrites', hlags'⟩ := hlags.made_up
    exact ⟨_, run_leaveBatch_of_writes hwrites.1 hwrites.2 hwrites', name, counters,
      { book with depth := book.depth - 1, pending := false }, _, w', rfl, rfl, rfl, fun _ => rfl,
      hlags'⟩
  · exact ⟨_, run_leaveBatch_file.trans (if_neg hwrites), name, counters,
      { book with depth := book.depth - 1 }, w, w', rfl, rfl, rfl,
      fun hdepth => Bool.eq_false_of_not_eq_true fun hpending => hwrites ⟨hdepth, hpending⟩, hlags⟩

theorem atMoment (h : b.Lags p depth) (now : Moment) : (b.atMoment now).Lags p depth := by
  obtain ⟨name, counters, book, w, w', rfl, rfl, hdepth, hidle, hlags⟩ := h
  exact ⟨name, counters, book, { w with now }, w', rfl, rfl, hdepth, hidle, hlags⟩

/-- So does any move that leaves one. -/
theorem leave (h : b.Lags p depth) {m : Move} (hleaves : m.Leaves) :
    m.Unhindered b ∧ (b.after m).Lags p (depth - 1) := by
  have hok (now : Moment) : ∃ b', Store.leaveBatch.run (b.atMoment now) = (.ok (), b') ∧
      b'.Lags p (depth - 1) := (h.atMoment now).leaveBatch
  constructor
  · obtain ⟨name, counters, book, w, w', rfl, -, -, hidle, -⟩ := h
    refine hleaves.unhindered hidle fun now => ?_
    obtain ⟨b', hrun, -⟩ := hok now
    exact congrArg Prod.fst hrun
  · obtain ⟨now, hafter⟩ := hleaves.after b
    obtain ⟨b', hrun, hlags⟩ := hok now
    rw [hafter, hrun]
    exact hlags

/-- **A script** gives the same answers as its operations alone, keeps the lag, and closes the blocks
that it opens. -/
theorem script (h : b.Lags p depth) (script : Script)
    (hcalm : p.Unhindered (script.turns.map .turn)) :
    b.Unhindered script.moves ∧ b.answers script.moves = p.answers (script.turns.map .turn) ∧
      (b.afterAll script.moves).Lags (p.afterAll (script.turns.map .turn)) depth := by
  induction script generalizing b p depth with
  | done => exact ⟨trivial, rfl, h⟩
  | op t single rest ih =>
    obtain ⟨hturn, hrest⟩ := hcalm
    obtain ⟨hunhindered, hanswer, hlags⟩ := h.single single hturn
    obtain ⟨hunhindered', hanswers, hlags'⟩ := ih hlags hrest
    refine ⟨⟨hunhindered, hunhindered'⟩, ?_, hlags'⟩
    rw [Script.moves, Session.answers, Script.turns, List.map_cons, Session.answers,
      Move.answer_single single, Move.answer_single single, hanswer, hanswers]
  | block opened body closing leaves rest ihbody ih =>
    rw [Script.turns, List.map_append, unhindered_append] at hcalm
    obtain ⟨hcalmBody, hcalmRest⟩ := hcalm
    obtain ⟨hentered, hlags₁⟩ := h.enter opened
    obtain ⟨hbody, hanswersBody, hlags₂⟩ := ihbody hlags₁ hcalmBody
    obtain ⟨hleft, hlags₃⟩ := hlags₂.leave leaves
    obtain ⟨hrest, hanswersRest, hlags₄⟩ := ih hlags₃ hcalmRest
    refine ⟨⟨hentered, unhindered_append.mpr ⟨hbody, hleft, hrest⟩⟩, ?_, ?_⟩
    · rw [Script.moves, Session.answers, Session.answers_append, Session.answers, hanswersBody,
        leaves.answer, hanswersRest, Script.turns, List.map_append, Session.answers_append]
      rfl
    · rw [afterAll_block, Script.turns, List.map_append, afterAll_append]
      exact hlags₄

end Session.Lags

/-! ### The file while a block is open -/

/-- Is the session one on a file, with so many blocks open, and with something pending or not? -/
def Session.Open (s : Session) (depth : Nat) (pending : Bool) : Prop :=
  ∃ book, s.store.backing = .file book ∧ book.depth = depth ∧ book.pending = pending

namespace Session.Open

variable {s : Session} {n : Nat} {pending : Bool}

/-- Inside a block an operation leaves the disk alone; a change makes something pending. -/
theorem single (h : s.Open (n + 1) pending) {t : Turn} (hsingle : t.op.IsSingle) :
    (s.after (.turn t)).Open (n + 1) (pending || s.changes (.turn t)) ∧
      (s.after (.turn t)).world.disk = s.world.disk := by
  obtain ⟨⟨name, counters, backing⟩, world⟩ := s
  obtain ⟨book, rfl, hdepth, rfl⟩ := h
  obtain ⟨r, f, g, hdoes⟩ := Op.exists_does book.records t.now hsingle
  cases hplan : t.op.plan book.records t.now with
  | none =>
    rw [changes_turn, hplan, Option.isSome_none, Bool.or_false, Session.after, Move.run,
      Turn.run_idle hdoes name counters world hplan]
    exact ⟨⟨book, rfl, hdepth, rfl⟩, rfl⟩
  | some changed =>
    have hinside : 0 < book.depth := hdepth ▸ Nat.succ_pos n
    rw [changes_turn, hplan, Option.isSome_some, Bool.or_true, Session.after, Move.run,
      Turn.run_inside hdoes name counters world hplan hinside]
    exact ⟨⟨_, rfl, hdepth, rfl⟩, rfl⟩

theorem enter (h : s.Open n pending) (opened : Moment) :
    (s.after (.turn ⟨opened, .enterBatch⟩)).Open (n + 1) pending ∧
      (s.after (.turn ⟨opened, .enterBatch⟩)).world.disk = s.world.disk := by
  obtain ⟨book, hbook, rfl, rfl⟩ := h
  obtain ⟨hentered, hdisk⟩ := after_enter hbook opened
  exact ⟨⟨_, hentered, rfl, rfl⟩, hdisk⟩

/-- Leaving an inner block writes nothing. -/
theorem leave (h : s.Open (n + 2) pending) {m : Move} (hleaves : m.Leaves) :
    (s.after m).Open (n + 1) pending ∧ (s.after m).world.disk = s.world.disk := by
  obtain ⟨now, hafter⟩ := hleaves.after s
  obtain ⟨⟨name, counters, backing⟩, world⟩ := s
  obtain ⟨book, rfl, hdepth, rfl⟩ := h
  have hrun : leaveBatch.run (Session.atMoment ⟨⟨name, counters, .file book⟩, world⟩ now) =
      (.ok (), ⟨⟨name, counters, .file { book with depth := book.depth - 1 }⟩,
        { world with now }⟩) := by
    refine run_leaveBatch_file.trans (if_neg fun hwrites => ?_)
    have := hwrites.1
    omega
  rw [hafter, hrun]
  exact ⟨⟨_, rfl, by dsimp only; omega, rfl⟩, rfl⟩

/-- **Inside a block a whole script leaves the disk alone**, at each of its moves, and ends with
something pending if there was before or if it has changed something. -/
theorem script (h : s.Open (n + 1) pending) (script : Script) :
    (s.afterAll script.moves).Open (n + 1) (pending || s.changesAny script.moves) ∧
      ∀ front, front <+: script.moves → (s.afterAll front).world.disk = s.world.disk := by
  induction script generalizing s n pending with
  | done =>
    refine ⟨by rw [Script.moves, changesAny, Bool.or_false]; exact h, fun front hfront => ?_⟩
    rw [List.prefix_nil.mp hfront]
    rfl
  | op t single rest ih =>
    obtain ⟨hopen, hdisk⟩ := h.single single
    obtain ⟨hopen', hstill⟩ := ih hopen
    refine ⟨by rw [Script.moves, changesAny, ← Bool.or_assoc]; exact hopen', fun front hfront => ?_⟩
    rcases List.prefix_cons_iff.mp hfront with rfl | ⟨later, rfl, hlater⟩
    · rfl
    · exact (hstill later hlater).trans hdisk
  | block opened body closing leaves rest ihbody ih =>
    obtain ⟨hopen₁, hdisk₁⟩ := h.enter opened
    obtain ⟨hopen₂, hstill₂⟩ := ihbody hopen₁
    obtain ⟨hopen₃, hdisk₃⟩ := hopen₂.leave leaves
    obtain ⟨hopen₄, hstill₄⟩ := ih hopen₃
    constructor
    · rw [afterAll_block, Script.moves, changesAny, changesAny_append, changesAny, changes_enter,
        changes_leave _ leaves, Bool.false_or, Bool.false_or, ← Bool.or_assoc]
      exact hopen₄
    · intro front hfront
      rcases List.prefix_cons_iff.mp hfront with rfl | ⟨inner, rfl, hinner⟩
      · rfl
      -- A run that has entered the block has got somewhere in its body, or beyond it.
      have hentered (later : List Move) :
          s.afterAll (.turn ⟨opened, .enterBatch⟩ :: later) =
            (s.after (.turn ⟨opened, .enterBatch⟩)).afterAll later := rfl
      rw [hentered]
      have hbody := (hstill₂ _ List.prefix_rfl).trans hdisk₁
      rcases List.prefix_or_prefix_of_prefix hinner (List.prefix_append body.moves _) with
        hwithin | ⟨later, rfl⟩
      · exact (hstill₂ inner hwithin).trans hdisk₁
      · rw [List.prefix_append_right_inj] at hinner
        rw [afterAll_append]
        rcases List.prefix_cons_iff.mp hinner with rfl | ⟨beyond, rfl, hbeyond⟩
        · exact hbody
        · exact (hstill₄ beyond hbeyond).trans (hdisk₃.trans hbody)

end Session.Open

/-! ### Outermost blocks -/

/-- What becomes of the file when a script stands in an outermost block. It is left alone while the
block is open, and written once, with what the store then holds, when the block is left, if one of the
moves has changed something. -/
structure Session.WritesOnce (s : Session) (opened : Moment) (body : Script) (closing : Move) :
    Prop where
  still : ∀ front, front <+: body.moves →
    (s.afterAll (.turn ⟨opened, .enterBatch⟩ :: front)).world.disk = s.world.disk
  once : (s.after (.turn ⟨opened, .enterBatch⟩)).changesAny body.moves = true →
    ∃ book place, (s.afterBlock opened body closing).store.backing = .file book ∧
      s.world.disk.writable book.path = .ok place ∧
      (s.afterBlock opened body closing).world.disk =
        s.world.disk.written place (octets book.records).1
  never : (s.after (.turn ⟨opened, .enterBatch⟩)).changesAny body.moves = false →
    (s.afterBlock opened body closing).world.disk = s.world.disk

namespace Session.Lags

variable {b p : Session}

/-- Leaving the outermost block writes the table if it is pending. -/
theorem leave_pending (h : b.Lags p 1) (hopen : b.Open 1 true) {m : Move} (hleaves : m.Leaves) :
    ∃ book place, (b.after m).store.backing = .file book ∧
      b.world.disk.writable book.path = .ok place ∧
      (b.after m).world.disk = b.world.disk.written place (octets book.records).1 := by
  obtain ⟨now, hafter⟩ := hleaves.after b
  obtain ⟨name, counters, book, w, w', rfl, rfl, hdepth, -, hlags⟩ := h
  obtain ⟨book', hbacking, -, hpending⟩ := hopen
  obtain rfl := Backing.file.inj hbacking
  rw [hpending] at hlags
  obtain ⟨place, hwrites, -⟩ := hlags.made_up
  have hleave : Store.leaveBatch.run (Session.atMoment ⟨⟨name, counters, .file book⟩, w⟩ now) = _ :=
    run_leaveBatch_of_writes (by omega) hpending hwrites
  rw [hafter, hleave]
  exact ⟨_, place, rfl, hwrites.free, rfl⟩

end Session.Lags

/-- And writes nothing if nothing is. -/
theorem Session.Open.leave_settled {s : Session} {n : Nat} (hopen : s.Open n false) {m : Move}
    (hleaves : m.Leaves) : (s.after m).world.disk = s.world.disk := by
  obtain ⟨now, hafter⟩ := hleaves.after s
  obtain ⟨⟨name, counters, backing⟩, world⟩ := s
  obtain ⟨book, rfl, -, hpending⟩ := hopen
  have hleave : leaveBatch.run (atMoment ⟨⟨name, counters, .file book⟩, world⟩ now) = _ :=
    run_leaveBatch_file.trans (if_neg fun hwrites => by
      rw [hpending] at hwrites
      cases hwrites.2)
  rw [hafter, hleave]

/-- **In an outermost block the file is written once, or not at all.** -/
theorem Session.Lags.writesOnce {b p : Session} (h : b.Lags p 0) (opened : Moment) (body : Script)
    {closing : Move} (leaves : closing.Leaves) (hcalm : p.Unhindered (body.turns.map .turn)) :
    b.WritesOnce opened body closing := by
  have hopen : b.Open 0 false := by
    obtain ⟨name, counters, book, w, w', rfl, -, hdepth, hidle, -⟩ := h
    exact ⟨book, rfl, hdepth, hidle hdepth⟩
  obtain ⟨-, hlags₁⟩ := h.enter opened
  obtain ⟨-, -, hlags₂⟩ := hlags₁.script body hcalm
  obtain ⟨hopen₁, hdisk₁⟩ := hopen.enter opened
  obtain ⟨hopen₂, hstill⟩ := hopen₁.script body
  rw [Bool.false_or] at hopen₂
  have hbody : ((b.after (.turn ⟨opened, .enterBatch⟩)).afterAll body.moves).world.disk =
      b.world.disk := (hstill _ List.prefix_rfl).trans hdisk₁
  refine ⟨fun front hfront => (hstill front hfront).trans hdisk₁, fun hchanges => ?_,
    fun hchanges => ?_⟩
  · rw [hchanges] at hopen₂
    have hleft := hlags₂.leave_pending hopen₂ leaves
    rw [hbody] at hleft
    exact hleft
  · rw [hchanges] at hopen₂
    exact (hopen₂.leave_settled leaves).trans hbody

/-! ### With and without blocks -/

/-- A store that has just been opened lags behind itself by nothing. -/
theorem Store.lags_of_openFile {name path : String} {w w' : World} {store : Store}
    (h : (openFile name path).run w = (.ok store, w')) :
    Session.Lags ⟨store, w'⟩ ⟨store, w'⟩ 0 := by
  obtain ⟨records, errors, rfl, -, -⟩ := start_of_openFile h
  refine ⟨name, _, _, w', w', rfl, rfl, rfl, fun _ => rfl, rfl, Nat.le_refl _, ?_, fun _ => rfl, nofun⟩
  exact fun n hle hlt => absurd hlt (Nat.not_lt.mpr hle)

/-- **Blocks change nothing but when the file is written.** Let a script run on a store that has just
been opened, and let no write fail when its operations run without its blocks. Then none fails with
them, each operation gives the same answer, and the store, with its counters and records, and the files
are the same in the end. In each outermost block the file is left alone until the end, and written there
once if something has been changed in the block, else not at all. -/
theorem openFile_script {name path : String} {w w' : World} {store : Store}
    (hopen : (openFile name path).run w = (.ok store, w')) {script : Script}
    (hcalm : Session.Unhindered ⟨store, w'⟩ (script.turns.map .turn)) :
    Session.Unhindered ⟨store, w'⟩ script.moves ∧
      Session.answers ⟨store, w'⟩ script.moves =
        Session.answers ⟨store, w'⟩ (script.turns.map .turn) ∧
      (Session.afterAll ⟨store, w'⟩ script.moves).store =
        (Session.afterAll ⟨store, w'⟩ (script.turns.map .turn)).store ∧
      (Session.afterAll ⟨store, w'⟩ script.moves).world.disk.nodes =
        (Session.afterAll ⟨store, w'⟩ (script.turns.map .turn)).world.disk.nodes ∧
      ∀ before opened body closing leaves rest,
        script = before ++ Script.block opened body closing leaves rest →
          (Session.afterAll ⟨store, w'⟩ before.moves).WritesOnce opened body closing := by
  have hlags := lags_of_openFile hopen
  obtain ⟨hunhindered, hanswers, hend⟩ := hlags.script script hcalm
  refine ⟨hunhindered, hanswers, ?_⟩
  obtain ⟨name', counters, book, w₁, w₂, hblocks, hplain, hdepth, hidle, hdisk⟩ := hend
  have hpending := hidle hdepth
  have hbook : book.plain = book := by rw [FileBook.plain, ← hdepth, ← hpending]
  rw [hblocks, hplain, hbook]
  refine ⟨rfl, (hdisk.settled hpending).symm, ?_⟩
  rintro before opened body closing leaves rest rfl
  rw [Script.turns_append, List.map_append, Session.unhindered_append, Script.turns,
    List.map_append, Session.unhindered_append] at hcalm
  obtain ⟨hbefore, hbody, -⟩ := hcalm
  obtain ⟨-, -, hlags'⟩ := hlags.script before hbefore
  exact hlags'.writesOnce opened body leaves hbody

/-- A dismissal on its own. -/
def singly : Script :=
  .op ⟨.newYear 2024, .dismiss (Dedup.duplicate "a" 0).key 100 none⟩ trivial .done

/-- A dismissal, another one taken back in a block that fails, and a question. -/
def together : Script :=
  .op ⟨.newYear 2024, .dismiss (Dedup.duplicate "b" 0).key 300 none⟩ trivial <|
    .block (.newYear 2024)
      (.op ⟨.newYear 2024, .undismiss (Dedup.duplicate "a" 0).key⟩ trivial .done)
      (.abort .noCharacter) trivial <|
    .op ⟨.newYear 2024, .check (Dedup.duplicate "b" 0).key 300⟩ trivial .done

/-- The second in a block, after the first. -/
def nested : Script :=
  singly ++ Script.block (.newYear 2024) together (.turn ⟨.newYear 2024, .leaveBatch⟩) rfl .done

/-- Both on a new store, in an empty working directory. -/
theorem openFile_script_nested :
    ∃ store, (openFile "store" "d.json").run .blank = (.ok store, .blank) ∧
      Session.Unhindered ⟨store, .blank⟩ (nested.turns.map .turn) ∧
      Session.Unhindered ⟨store, .blank⟩ nested.moves ∧
      Session.answers ⟨store, .blank⟩ nested.moves =
        Session.answers ⟨store, .blank⟩ (nested.turns.map .turn) ∧
      (Session.afterAll ⟨store, .blank⟩ nested.moves).store =
        (Session.afterAll ⟨store, .blank⟩ (nested.turns.map .turn)).store ∧
      (Session.afterAll ⟨store, .blank⟩ nested.moves).world.disk.nodes =
        (Session.afterAll ⟨store, .blank⟩ (nested.turns.map .turn)).world.disk.nodes ∧
      (Session.afterAll ⟨store, .blank⟩ singly.moves).WritesOnce (.newYear 2024) together
        (.turn ⟨.newYear 2024, .leaveBatch⟩) := by
  have hopen : (openFile "store" "d.json").run .blank = (.ok fresh, .blank) :=
    run_openFile "store" ready_blank
  have hworks : Session.Works ⟨fresh, .blank⟩ := ⟨ready_blank.accepts, plain_empty⟩
  have hfits : (Session.ledger ⟨fresh, .blank⟩).FitsAll (nested.turns.map .turn) :=
    ⟨⟨Dedup.printable_duplicate _, ⟨by decide +kernel, by decide +kernel⟩, given_newYear⟩,
      ⟨Dedup.printable_duplicate _, ⟨by decide +kernel, by decide +kernel⟩, given_newYear⟩,
      Dedup.printable_duplicate _, Dedup.printable_duplicate _, trivial⟩
  have hcalm := (Session.unhindered hworks (fun _ => nofun) hfits).1
  obtain ⟨hunhindered, hanswers, hstore, hnodes, hblocks⟩ := openFile_script hopen hcalm
  exact ⟨_, hopen, hcalm, hunhindered, hanswers, hstore, hnodes,
    hblocks singly _ together _ rfl .done rfl⟩

end IssueDigest
