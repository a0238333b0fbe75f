import IssueDigest.Dismissal.Open
import IssueDigest.Proofs.AlignmentEffect
/-!
# All backends are one finite map

A memory store, a file store on a missing file and a server store without entries start out the same
and stay the same: after any operations whatsoever, each of them gives the results and shows the
records, the size and the counters of one finite map from issue keys to records.

The map is a ledger (`Turn.next`), and what an operation gives back is read off it (`Turn.result`),
without a word about texts, files or servers. What the operations must promise is that they **fit**:
the keys can be written, and the record that a dismissal leaves can be kept. The rest is the world's
part, and is asked of it once, at the start: no writing of the file and no call to the server fails.
-/

namespace IssueDigest

open Store

/-- An operation on a store. -/
inductive Op where
  | dismiss (key : IssueKey) (severity : Int) (moment : Option Moment)
  | undismiss (key : IssueKey)
  | check (key : IssueKey) (severity : Int)
  | get (key : IssueKey)
  | copy (source target : IssueKey)
  | clear
  | size
  | enterBatch
  | leaveBatch
  | deduplicate (issues : List Issue)

/-- What an operation gives back. -/
inductive Outcome where
  | done
  | record (r : Record)
  | found (r : Option Record)
  | answer (b : Bool)
  | count (n : Nat)
  | issues (left : List Issue)

/-- An operation, and the moment that the clock shows meanwhile. -/
structure Turn where
  now : Moment
  op : Op

/-- The operation on a store. -/
def Op.run : Op → Action Outcome
  | dismiss key severity moment => Outcome.record <$> Store.dismiss key severity moment
  | undismiss key => Outcome.answer <$> drop key
  | check key severity => Outcome.answer <$> isDismissed key severity
  | get key => Outcome.found <$> find key
  | copy source target => (fun _ => Outcome.done) <$> Store.copy source target
  | clear => (fun _ => Outcome.done) <$> Store.clear
  | size => Outcome.count <$> Store.size
  | enterBatch => (fun _ => Outcome.done) <$> Store.enterBatch
  | leaveBatch => (fun _ => Outcome.done) <$> Store.leaveBatch
  | deduplicate issues => Outcome.issues <$> Dedup.run issues

/-- The session when the clock has moved on. -/
def Session.atMoment (s : Session) (now : Moment) : Session :=
  { s with world := { s.world with now } }

/-- The operation on a store while the clock shows the moment. -/
def Turn.run (t : Turn) : Action Outcome := do
  modify (Session.atMoment · t.now)
  t.op.run

/-! ### The finite map -/

/-- What the operation gives back, read off the map. -/
noncomputable def Turn.result (t : Turn) (l : Ledger) : Outcome :=
  match t.op with
  | .dismiss key severity moment => .record (dismissal (l.records key) t.now severity moment)
  | .undismiss key => .answer (l.records key).isSome
  | .check key severity => .answer (l.covers key severity)
  | .get key => .found (l.records key)
  | .size => .count l.kept.ncard
  | .deduplicate issues => .issues (Dedup.survivors issues)
  | .copy _ _ | .clear | .enterBatch | .leaveBatch => .done

/-- The map after the operation. -/
def Turn.next (t : Turn) (l : Ledger) : Ledger :=
  match t.op with
  | .dismiss key severity moment =>
    l.set key (some (dismissal (l.records key) t.now severity moment))
  | .undismiss key => l.set key none
  | .check _ _ => l.checked 1
  | .copy source target =>
    match l.records source with
    | some r => (l.set target (some r)).copied 1
    | none => l
  | .clear => l.clear
  | .deduplicate issues => l.alignAll ((Dedup.buckets issues).map Prod.snd)
  | .get _ | .size | .enterBatch | .leaveBatch => l

/-- Was the moment read from a text, or taken from a clock that shows local time? -/
def Moment.Given (m : Moment) : Prop :=
  (∃ text, Moment.read text = .ok m) ∨ m.IsValid ∧ m.offset = none

/-- Can the keys of the operation be written, and can the record be kept that it leaves? -/
def Turn.Fits (t : Turn) (l : Ledger) : Prop :=
  match t.op with
  | .dismiss key severity moment =>
    key.Printable ∧ (dismissal (l.records key) t.now severity moment).Printable ∧
      (moment.getD t.now).Given
  | .undismiss key | .check key _ | .get key => key.Printable
  | .copy source target => source.Printable ∧ target.Printable
  | .deduplicate issues => ∀ i ∈ issues, i.key.Printable
  | .clear | .size | .enterBatch | .leaveBatch => True

/-- Does each operation fit when its turn comes? -/
def Ledger.Fits (l : Ledger) : List Turn → Prop
  | [] => True
  | t :: rest => t.Fits l ∧ (t.next l).Fits rest

theorem Moment.Given.storable {m : Moment} (h : m.Given) : m.Storable := by
  rcases h with ⟨text, hread⟩ | ⟨hvalid, hoffset⟩
  · exact storable_of_read hread
  · exact ⟨hvalid, fun o ho => nomatch hoffset.symm.trans ho⟩

/-- No operation makes the map infinite. -/
theorem Turn.finite_next {t : Turn} {l : Ledger} (h : l.kept.Finite) : (t.next l).kept.Finite := by
  obtain ⟨now, op⟩ := t
  cases op with
  | dismiss key => exact Ledger.finite_set h key _
  | undismiss key => exact Ledger.finite_set h key none
  | copy source target =>
    unfold next
    dsimp only
    split
    · exact Ledger.finite_set h target _
    · exact h
  | clear => exact Ledger.finite_clear l
  | deduplicate => exact Ledger.finite_alignAll h _
  | check | get | size | enterBatch | leaveBatch => exact h

/-- No operation counts a fault. -/
theorem Turn.errors_next (t : Turn) (l : Ledger) :
    (t.next l).counters.errors = l.counters.errors := by
  obtain ⟨now, op⟩ := t
  cases op with
  | copy =>
    unfold next
    dsimp only
    split <;> rfl
  | deduplicate => exact Ledger.errors_alignAll l _
  | dismiss | undismiss | check | get | clear | size | enterBatch | leaveBatch => rfl

/-! ### Stores in step with the map -/

/-- Does the store show what the map holds? -/
structure Session.Shows (s : Session) (l : Ledger) : Prop where
  records : ∀ key : IssueKey, key.Printable →
    ∃ s', (find key).run s = (.ok (l.records key), s')
  size : ∃ s', Store.size.run s = (.ok l.kept.ncard, s')
  finite : l.kept.Finite
  counters : s.store.counters = l.counters
  errors : s.store.counters.errors = 0

/-- Does the store show the map at the start and after each operation, and give its results? -/
def Session.Plays (s : Session) (l : Ledger) : List Turn → Prop
  | [] => s.Shows l
  | t :: rest => s.Shows l ∧ ∃ s', t.run.run s = (.ok (t.result l), s') ∧ s'.Plays (t.next l) rest

theorem Session.shows {s : Session} (hs : s.Works) (hown : s.Own) (hfinite : s.ledger.kept.Finite)
    (herrors : s.ledger.counters.errors = 0) : s.Shows s.ledger where
  records _ hkey := (find_yields hs (.inr hkey)).imp fun _ h => h.1
  size := (size_yields hs hown).imp fun _ h => h.1
  finite := hfinite
  counters := rfl
  errors := herrors

/-- **One operation** on a store that works gives the result of the map and leaves its ledger. -/
theorem Op.run_yields {t : Turn} {s : Session} (hs : s.Works) (hown : s.Own)
    (hnow : s.world.now = t.now) (hfits : t.Fits s.ledger) :
    s.Yields t.op.run (t.result s.ledger) (t.next s.ledger) := by
  obtain ⟨now, op⟩ := t
  cases op with
  | dismiss =>
    obtain ⟨hkey, hprintable, hgiven⟩ := hfits
    obtain rfl : s.world.now = now := hnow
    exact (dismiss_yields hs hkey
      (Session.takes_of_storable ⟨hprintable, hgiven.storable⟩)).map _
  | undismiss => exact (drop_yields hs (.inr hfits)).map _
  | check _ severity => exact (isDismissed_yields hs (.inr hfits) severity).map _
  | get => exact (find_yields hs (.inr hfits)).map _
  | copy source =>
    obtain ⟨hsource, htarget⟩ := hfits
    unfold Turn.next
    dsimp only
    cases hr : s.ledger.records source with
    | some r => exact (copy_yields hs (.inr hsource) (.inr htarget) hr).map _
    | none => exact (copy_yields_of_none hs hsource htarget hr).map _
  | clear => exact (clear_yields hs).map _
  | size => exact (size_yields hs hown).map _
  | enterBatch => exact (enterBatch_yields hs).map _
  | leaveBatch => exact (leaveBatch_yields hs).map _
  | deduplicate =>
    refine (Dedup.run_yields hs (Dedup.allLoggable_of_printable fun b hb i hi => ?_)).map _
    exact hfits i (Dedup.mem_of_mem_buckets hb hi)

/-- Whatever the clock shows, the store holds what it held. -/
theorem Session.Works.atMoment {s : Session} (h : s.Works) (now : Moment) :
    (s.atMoment now).Works := h

theorem Session.Own.atMoment {s : Session} (h : s.Own) (now : Moment) : (s.atMoment now).Own := h

/-- **One turn** on a store that works. -/
theorem Turn.run_ok {t : Turn} {s : Session} (hs : s.Works) (hown : s.Own)
    (hfits : t.Fits s.ledger) :
    ∃ s', t.run.run s = (.ok (t.result s.ledger), s') ∧ s'.Works ∧ s'.Own ∧
      s'.ledger = t.next s.ledger := by
  obtain ⟨s', hrun, hevolves, hl⟩ :=
    Op.run_yields (s := s.atMoment t.now) (hs.atMoment t.now) (hown.atMoment t.now) rfl hfits
  exact ⟨s', (Act.run_bind_ok rfl).trans hrun, hevolves.works, hevolves.own (hown.atMoment t.now), hl⟩

/-- **A store that works plays along** with the map, however long. -/
theorem Session.plays {s : Session} (hs : s.Works) (hown : s.Own) (hfinite : s.ledger.kept.Finite)
    (herrors : s.ledger.counters.errors = 0) {turns : List Turn} (hfits : s.ledger.Fits turns) :
    s.Plays s.ledger turns := by
  -- What carries over from turn to turn: the store works, and its ledger is the map.
  induction turns generalizing s with
  | nil => exact shows hs hown hfinite herrors
  | cons t turns ih =>
    obtain ⟨ht, hrest⟩ := hfits
    obtain ⟨s', hrun, hs', hown', hl⟩ := t.run_ok hs hown ht
    refine ⟨shows hs hown hfinite herrors, s', hrun, ?_⟩
    rw [← hl] at hrest ⊢
    refine ih hs' hown' ?_ ?_ hrest
    · rw [hl]
      exact t.finite_next hfinite
    · rw [hl, t.errors_next]
      exact herrors

/-! ### The three kinds at the start -/

/-- Is there no file at the path, but can one be written once its directory is there, now and from
now on? -/
structure World.Ready (w : World) (path : String) (disk : Disk) : Prop where
  directory : w.disk.ensureDirectory (Path.ofString path).parent = (disk, .ok ())
  missing : disk.holds (Path.ofString path) = .ok false
  accepts : disk.Accepts (Path.ofString path)

/-- Does the server answer from now on, and has it no entry of the store? -/
structure Server.Vacant (server : Server) (front : String) : Prop where
  calm : ∀ n c, server.calls ≤ n → server.outage n c = false
  vacant : server.namesUnder front = []

theorem Server.Vacant.entries {server : Server} {front : String} (h : server.Vacant front)
    (key : IssueKey) : server.entries.get? (front ++ key.render) = none := by
  have hnot : front ++ key.render ∉ server.namesUnder front := by
    rw [h.vacant]
    exact List.not_mem_nil
  rwa [name_mem_namesUnder, Option.not_isSome_iff_eq_none] at hnot

theorem finite_empty : Ledger.empty.kept.Finite := Ledger.finite_clear .empty

theorem plays_inMemory (name : String) (w : World) {turns : List Turn}
    (hfits : Ledger.empty.Fits turns) : Session.Plays ⟨inMemory name, w⟩ .empty turns :=
  Session.plays (s := ⟨inMemory name, w⟩) trivial trivial finite_empty rfl hfits

theorem plays_onFile (name : String) {path : Path} {w : World} (haccepts : w.disk.Accepts path)
    {turns : List Turn} (hfits : Ledger.empty.Fits turns) :
    Session.Plays ⟨onFile name path .empty 0, w⟩ .empty turns :=
  Session.plays (s := ⟨onFile name path .empty 0, w⟩) ⟨haccepts, plain_empty⟩ (fun _ => nofun)
    finite_empty rfl hfits

theorem plays_onServer (name : String) {front : String} {w : World}
    (hvacant : w.server.Vacant front) {turns : List Turn} (hfits : Ledger.empty.Fits turns) :
    Session.Plays ⟨onServer name front, w⟩ .empty turns := by
  have hempty : Session.ledger ⟨onServer name front, w⟩ = .empty := by
    refine Ledger.ext (funext fun key => ?_) rfl
    simp [Session.ledger, Session.record?, onServer, hvacant.entries, Ledger.empty]
  have hworks : Session.Works ⟨onServer name front, w⟩ := by
    refine ⟨hvacant.calm, fun key _ raw hraw => ?_⟩
    have hraw : w.server.entries.get? (front ++ key.render) = some raw := hraw
    rw [hvacant.entries] at hraw
    cases hraw
  have hown : Session.Own ⟨onServer name front, w⟩ := by
    intro n hn
    have hn : n ∈ w.server.namesUnder front := hn
    rw [hvacant.vacant] at hn
    cases hn
  rw [← hempty] at hfits ⊢
  refine Session.plays hworks hown ?_ rfl hfits
  rw [hempty]
  exact finite_empty

/-- On a missing file a store opens without records. -/
theorem run_openFile_of_missing (name : String) {path : String} {w : World} {disk : Disk}
    (hdirectory : w.disk.ensureDirectory (Path.ofString path).parent = (disk, .ok ()))
    (hmissing : disk.holds (Path.ofString path) = .ok false) :
    (openFile name path).run w =
      (.ok (onFile name (Path.ofString path) .empty 0), { w with disk }) := by
  rw [openFile, Act.run_get_bind, hdirectory]
  dsimp only
  rw [Act.run_set_bind, Act.run_bind_ok (Act.run_lift_ok () _), hmissing,
    Act.run_bind_ok (Act.run_lift_ok false _)]
  rfl

theorem run_openFile (name : String) {path : String} {w : World} {disk : Disk}
    (h : w.Ready path disk) :
    (openFile name path).run w =
      (.ok (onFile name (Path.ofString path) .empty 0), { w with disk }) :=
  run_openFile_of_missing name h.directory h.missing

/-- **The backends agree.** Whichever operations follow, in whatever order: a memory store, a file
store that was opened on a missing file, and a server store without entries all play along with the
one finite map that starts out empty, so their results, records, sizes and counters are the same. -/
theorem backends_agree {turns : List Turn} (hfits : Ledger.empty.Fits turns) (name : String)
    (w : World) :
    Session.Plays ⟨inMemory name, w⟩ .empty turns ∧
      (∀ path disk, w.Ready path disk → ∃ store,
        (openFile name path).run w = (.ok store, { w with disk }) ∧
          Session.Plays ⟨store, { w with disk }⟩ .empty turns) ∧
      ∀ front, w.server.Vacant front → Session.Plays ⟨onServer name front, w⟩ .empty turns := by
  refine ⟨plays_inMemory name w hfits, fun path disk hready => ?_, fun front hvacant => ?_⟩
  · exact ⟨_, run_openFile name hready, plays_onFile name hready.accepts hfits⟩
  · exact plays_onServer name hvacant hfits

/-- An empty working directory takes a file. -/
theorem ready_blank : World.blank.Ready "d.json" World.blank.disk := by
  have hpath : Path.ofString "d.json" = ⟨0, ["d.json"]⟩ := by simp [Path.ofString, Path.split]
  have hcheck : Disk.checkPath ⟨0, ["d.json"]⟩ = .ok () :=
    Disk.checkPath_of_notMem (by simp [Path.text])
  have hlocate : World.blank.disk.locate ⟨0, ["d.json"]⟩ = .ok ["d.json"] := rfl
  constructor
  · rw [hpath, Path.parent, Disk.ensureDirectory, Disk.checkPath_of_notMem (by simp [Path.text])]
    rfl
  · rw [hpath, Disk.holds, hcheck]
    dsimp only
    rw [hlocate]
    rfl
  · rw [hpath]
    exact ⟨⟨_, Disk.writable_eq_ok_iff.mpr ⟨hcheck, hlocate, nofun⟩⟩, fun _ _ => rfl⟩

/-- A new file store there. -/
def Store.fresh : Store := onFile "store" (Path.ofString "d.json") .empty 0

/-- A clock that shows local time can show the beginning of a year. -/
theorem given_newYear : (Moment.newYear 2024).Given := .inr ⟨⟨rfl, rfl, by decide, nofun⟩, rfl⟩

/-- A dismissal that a duplicate takes over within a batch block. -/
def visit : List Turn :=
  [.dismiss (Dedup.duplicate "a" 0).key 100 none, .enterBatch,
    .deduplicate [Dedup.duplicate "a" 0, Dedup.duplicate "b" 0], .leaveBatch,
    .check (Dedup.duplicate "b" 0).key 100, .size].map fun op => ⟨.newYear 2024, op⟩

/-- The three kinds play along with the visit in a world where nothing has happened yet. -/
theorem backends_agree_visit :
    Ledger.empty.Fits visit ∧
      Session.Plays ⟨inMemory "store", .blank⟩ .empty visit ∧
      (∃ store, (openFile "store" "d.json").run .blank = (.ok store, .blank) ∧
        Session.Plays ⟨store, .blank⟩ .empty visit) ∧
      Session.Plays ⟨onServer "store" "front:", .blank⟩ .empty visit := by
  have hfits : Ledger.empty.Fits visit := by
    have hgiven : (Moment.newYear 2024).Given := .inr ⟨⟨rfl, rfl, by decide, nofun⟩, rfl⟩
    refine ⟨⟨Dedup.printable_duplicate _, ⟨by decide +kernel, by decide +kernel⟩, hgiven⟩, trivial,
      fun i hi => ?_, trivial, Dedup.printable_duplicate _, trivial, trivial⟩
    rcases List.mem_pair.mp hi with rfl | rfl <;> exact Dedup.printable_duplicate _
  obtain ⟨hmemory, hfile, hserver⟩ := backends_agree hfits "store" .blank
  exact ⟨hfits, hmemory, hfile "d.json" _ ready_blank, hserver "front:" ⟨fun _ _ _ => rfl, rfl⟩⟩

end IssueDigest
