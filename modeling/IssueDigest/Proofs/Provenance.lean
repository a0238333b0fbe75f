import IssueDigest.Proofs.FailedChanges
import IssueDigest.Proofs.Interruption
import IssueDigest.Proofs.Layouts
/-!
# Where records come from

A store that starts out empty holds nothing but what it was told. After any moves (operations, blocks,
closing, moves that fail) each record stems from one dismissal: it has the severity and the moment of
that dismissal, and the dismissal was of the issue itself or of an issue that is linked to it by a
chain of duplicates (`Stems`). So an issue that is not linked to any dismissed one is not dismissed.

The invariant has to speak of all records and not only of those that cover an issue, because a record
that covers nobody now may be lent to somebody it covers. Of a run of the deduplicator it needs no
more than this: a record is lent within a bucket, one link further from where it came from, and what
has been overwritten or dropped is forgotten. In which order records are lent, to whom, and whether
the run comes to its end makes no difference.

Two things are said with care. A store on a server reads its moments back, so a moment whose offset is
a fraction of a second is found without the fraction (`Backend.Tells`). And copying a record by hand
is left out: it links whatever it is told to link.
-/

namespace IssueDigest

open Store

/-! ### What is found where a record was kept -/

namespace Backend

/-- Does a store of the kind find the one record where it has kept the other? A server store reads
back what it has written. -/
def Finds (kind : Backend) (kept found : Record) : Prop :=
  found = kept ∨ kind = .server ∧ Record.ofJson kept.toJson = .ok found

/-- Does a store of the kind tell this moment when it was given that one? It tells the same. A server
store reads back what it has written, so of a moment whose offset is not nought and below a second it
tells the one that is read, with nought for an offset. -/
def Tells (kind : Backend) (given told : Moment) : Prop :=
  told = given ∨
    kind = .server ∧ ¬given.Storable ∧ Moment.read (Text.ofChars given.write) = .ok told

theorem Finds.told {kind : Backend} {kept found : Record} (h : kind.Finds kept found) :
    found.severity = kept.severity ∧ found.count = kept.count ∧
      kind.Tells kept.since found.since := by
  obtain rfl | ⟨hkind, hread⟩ := h
  · exact ⟨rfl, rfl, .inl rfl⟩
  · rw [Record.ofJson_toJson_eq] at hread
    obtain ⟨since, hsince, rfl⟩ := map_eq_ok_iff.mp hread
    refine ⟨rfl, rfl, ?_⟩
    by_cases hstorable : kept.since.Storable
    · exact .inl (Except.ok.inj (hsince.symm.trans (Moment.read_write hstorable)))
    · exact .inr ⟨hkind, hstorable, hsince⟩

end Backend

namespace Session

/-- Has the session no record that there was not before? -/
structure GainsNone (s s' : Session) : Prop where
  kind : s'.kind = s.kind
  found : ∀ key r, s'.record? key = some r → s.record? key = some r

namespace GainsNone

variable {s s' s'' : Session}

theorem refl (s : Session) : s.GainsNone s := ⟨rfl, fun _ _ => id⟩

theorem trans (h : s.GainsNone s') (h' : s'.GainsNone s'') : s.GainsNone s'' :=
  ⟨h'.kind.trans h.kind, fun key r hr => h.found key r (h'.found key r hr)⟩

theorem of_eq (hkind : s'.kind = s.kind) (h : s'.record? = s.record?) : s.GainsNone s' :=
  ⟨hkind, fun _ _ hr => h ▸ hr⟩

/-- Dropping the records of some issues is no gain. -/
theorem of_if {dropped : IssueKey → Prop} [DecidablePred dropped] (hkind : s'.kind = s.kind)
    (h : ∀ key, s'.record? key = if dropped key then none else s.record? key) :
    s.GainsNone s' := by
  refine ⟨hkind, fun key r hr => ?_⟩
  rw [h] at hr
  split at hr
  · cases hr
  · exact hr

end GainsNone

theorem Still.gainsNone {s s' : Session} (h : s.Still s') : s.GainsNone s' := .of_eq h.kind h.record?

theorem Left.gainsNone {s s' : Session} (h : s.Left s') : s.GainsNone s' := .of_eq h.kind h.records

end Session

namespace Store

open Session

variable {s s' : Session} {key : IssueKey}

/-! ### Keeping and dropping, whether they succeed or not -/

/-- A table that is taken over is the one that is found, whether it could be written or not. -/
theorem record?_of_persist {book : FileBook} {r : Except Fault Unit}
    (hrun : (persist book).run s = (r, s')) :
    s'.kind = .file ∧ ∀ key, s'.record? key = book.records.get? (Text.ofString key.render) := by
  rcases Nat.eq_zero_or_pos book.depth with hdepth | hdepth
  · rw [run_persist_outside hdepth] at hrun
    obtain ⟨disk, hsave⟩ | ⟨e, disk, counters, journal, -, hsave⟩ :=
      run_saveFile_cases book (s.setBacking (.file book))
    · obtain ⟨-, rfl⟩ := Prod.mk.inj (hsave.symm.trans hrun)
      exact ⟨rfl, fun _ => rfl⟩
    · obtain ⟨-, rfl⟩ := Prod.mk.inj (hsave.symm.trans hrun)
      exact ⟨rfl, fun _ => rfl⟩
  · rw [run_persist_inside hdepth] at hrun
    obtain ⟨-, rfl⟩ := Prod.mk.inj hrun
    exact ⟨rfl, fun _ => rfl⟩

theorem gainsNone_of_deleteEntries {front : String} (hs : s.store.backing = .server front)
    {names : List String} {r : Except Fault Nat} (hrun : (deleteEntries names).run s = (r, s')) :
    s.GainsNone s' := by
  cases r with
  | error e => exact (still_of_deleteEntries hrun).gainsNone
  | ok n =>
    obtain ⟨⟨name, counters, backing⟩, world⟩ := s
    obtain rfl : backing = .server front := hs
    obtain ⟨⟨⟩, s₁, hcall, hrest⟩ := Act.run_bind_eq_ok hrun
    obtain hok | herror := run_call_cases .delete ⟨⟨name, counters, .server front⟩, world⟩
    · obtain ⟨-, rfl⟩ := Prod.mk.inj (hok.symm.trans hcall)
      obtain ⟨-, rfl⟩ := Prod.mk.inj hrest
      exact .of_if rfl fun key => record?_deleted names key
    · cases (Prod.mk.inj (herror.symm.trans hcall)).1

theorem gainsNone_of_drop {r : Except Fault Bool} (hrun : (drop key).run s = (r, s')) :
    s.GainsNone s' := by
  obtain ⟨⟨name, counters, backing⟩, world⟩ := s
  cases backing with
  | memory records =>
    obtain ⟨-, rfl⟩ := Prod.mk.inj hrun
    exact .of_if rfl fun k => Table.get?_erase _ _ _
  | file book =>
    by_cases hkey : key.Printable
    · by_cases hrecord : (book.records.get? (Text.ofString key.render)).isSome = true
      · rw [run_drop_file hkey hrecord] at hrun
        have hpersist {r' : Except Fault Unit} (h : (persist { book with
            records := book.records.erase (Text.ofString key.render) }).run
              ⟨⟨name, counters, .file book⟩, world⟩ = (r', s')) :
            Session.GainsNone ⟨⟨name, counters, .file book⟩, world⟩ s' := by
          obtain ⟨hkind, hrecords⟩ := record?_of_persist h
          have hdropped (k : IssueKey) : s'.record? k =
              if k = key then none
              else Session.record? ⟨⟨name, counters, .file book⟩, world⟩ k := by
            rw [hrecords, Table.get?_erase]
            simp only [IssueKey.text_injective.eq_iff]
            rfl
          exact .of_if hkind hdropped
        obtain ⟨e, h⟩ | ⟨⟨⟩, s₁, h, hrest⟩ := Act.run_bind_cases hrun
        · exact hpersist h
        · obtain ⟨-, rfl⟩ := Prod.mk.inj hrest
          exact hpersist h
      · rw [run_drop_file_of_none hkey hrecord] at hrun
        obtain ⟨-, rfl⟩ := Prod.mk.inj hrun
        exact .refl _
    · rw [run_drop_file_of_not hkey] at hrun
      obtain ⟨-, rfl⟩ := Prod.mk.inj hrun
      exact .refl _
  | server front =>
    cases r with
    | error e => exact (still_of_drop rfl hrun).gainsNone
    | ok present =>
      rw [drop, Act.run_get_bind] at hrun
      obtain ⟨entry, -, hrest⟩ := Act.run_lift_bind_eq_ok hrun
      obtain ⟨n, s₁, hdelete, hpure⟩ := Act.run_bind_eq_ok hrest
      obtain ⟨-, rfl⟩ := Prod.mk.inj hpure
      exact gainsNone_of_deleteEntries rfl hdelete

theorem gainsNone_of_clear {r : Except Fault Unit} (hrun : clear.run s = (r, s')) :
    s.GainsNone s' := by
  obtain ⟨⟨name, counters, backing⟩, world⟩ := s
  cases backing with
  | memory records =>
    obtain ⟨-, rfl⟩ := Prod.mk.inj hrun
    exact ⟨rfl, nofun⟩
  | file book =>
    have hpersist : (persist { book with records := .empty }).run
        ⟨⟨name, counters, .file book⟩, world⟩ = (r, s') := hrun
    obtain ⟨hkind, hrecords⟩ := record?_of_persist hpersist
    refine ⟨hkind, fun key r hr => ?_⟩
    rw [hrecords, Table.get?_empty] at hr
    cases hr
  | server front =>
    rw [clear, Act.run_get_bind] at hrun
    obtain ⟨e, hnames⟩ | ⟨names, s₁, hnames, hrest⟩ := Act.run_bind_cases hrun
    · exact (still_of_entryNames hnames).gainsNone
    · have hlisted := still_of_entryNames hnames
      refine hlisted.gainsNone.trans ?_
      split at hrest
      · obtain ⟨e, hdelete⟩ | ⟨n, s₂, hdelete, hpure⟩ := Act.run_bind_cases hrest
        · exact gainsNone_of_deleteEntries hlisted.backing hdelete
        · obtain ⟨-, rfl⟩ := Prod.mk.inj hpure
          exact gainsNone_of_deleteEntries hlisted.backing hdelete
      · obtain ⟨-, rfl⟩ := Prod.mk.inj hrest
        exact .refl _

theorem still_of_isDismissed {severity : Int} {r : Except Fault Bool}
    (hrun : (isDismissed key severity).run s = (r, s')) : s.Still s' := by
  obtain ⟨answer, calls, hask, -⟩ := run_isDismissed key severity s
  obtain ⟨-, rfl⟩ := Prod.mk.inj (hask.symm.trans hrun)
  exact ⟨(s.ledger.checked 1).counters, s.world.journal, calls, rfl, rfl⟩

theorem still_of_size {r : Except Fault Nat} (hrun : size.run s = (r, s')) : s.Still s' := by
  obtain ⟨⟨name, counters, backing⟩, world⟩ := s
  cases backing with
  | memory records =>
    obtain ⟨-, rfl⟩ := Prod.mk.inj hrun
    exact .refl _
  | file book =>
    obtain ⟨-, rfl⟩ := Prod.mk.inj hrun
    exact .refl _
  | server front =>
    rw [size, Act.run_get_bind] at hrun
    obtain ⟨e, hnames⟩ | ⟨names, s₁, hnames, hrest⟩ := Act.run_bind_cases hrun
    · exact still_of_entryNames hnames
    · obtain ⟨-, rfl⟩ := Prod.mk.inj hrest
      exact still_of_entryNames hnames

theorem gainsNone_of_enterBatch {r : Except Fault Unit} (hrun : enterBatch.run s = (r, s')) :
    s.GainsNone s' := by
  obtain ⟨⟨name, counters, backing⟩, world⟩ := s
  obtain ⟨-, rfl⟩ := Prod.mk.inj hrun
  cases backing <;> exact .of_eq rfl rfl

end Store

/-! ### One move -/

namespace Dedup

/-- Do two issues with these keys stand in one bucket of the list? -/
def Linked (issues : List Issue) (first second : IssueKey) : Prop :=
  ∃ d, ∃ i ∈ bucketOf issues d, ∃ j ∈ bucketOf issues d, i.key = first ∧ j.key = second

end Dedup

/-- Does the operation bring records, of its own or those of other issues? -/
def Op.Brings : Op → Prop
  | .dismiss _ _ _ | .copy _ _ | .deduplicate _ => True
  | _ => False

/-- An operation that gains no record gains none when the clock has moved on. -/
theorem Session.GainsNone.turn {α : Type} {op : Op} {x : Action α} {f : α → Outcome} {s : Session}
    {now : Moment} (hop : op.run = f <$> x)
    (h : ∀ {r s'}, x.run (s.atMoment now) = (r, s') → (s.atMoment now).GainsNone s') :
    s.GainsNone (s.after (.turn ⟨now, op⟩)) := by
  have hafter : s.after (.turn ⟨now, op⟩) = (op.run.run (s.atMoment now)).2 := rfl
  have hclock : s.GainsNone (s.atMoment now) := .of_eq rfl rfl
  rw [hafter, hop, Act.run_map_snd]
  exact hclock.trans (h (Act.run_eq_of_fst rfl))

/-- Any other operation gains no record. -/
theorem Op.gainsNone {op : Op} (hop : ¬op.Brings) (s : Session) (now : Moment) :
    s.GainsNone (s.after (.turn ⟨now, op⟩)) := by
  cases op with
  | dismiss | copy | deduplicate => exact absurd trivial hop
  | undismiss key => exact .turn rfl gainsNone_of_drop
  | check key severity => exact .turn rfl fun hrun => (still_of_isDismissed hrun).gainsNone
  | get key => exact .turn rfl fun hrun => (still_of_find hrun).gainsNone
  | clear => exact .turn rfl gainsNone_of_clear
  | size => exact .turn rfl fun hrun => (still_of_size hrun).gainsNone
  | enterBatch => exact .turn rfl gainsNone_of_enterBatch
  | leaveBatch => exact .turn rfl fun hrun => (left_leaveBatch hrun).gainsNone

/-- Is the move a dismissal? -/
def Move.dismisses : Move → Bool
  | turn ⟨_, .dismiss _ _ _⟩ => true
  | _ => false

/-- Do two issues with these keys stand in one bucket of a list that one of the moves deduplicates? -/
def Shared (moves : List Move) (first second : IssueKey) : Prop :=
  ∃ now issues, .turn ⟨now, .deduplicate issues⟩ ∈ moves ∧ Dedup.Linked issues first second

/-- Does the record of an issue stem from one of the dismissals? -/
structure Stems (kind : Backend) (moves : List Move) (key : IssueKey) (r : Record) : Prop where
  /-- One dismissal has given it its severity and its moment, and a chain of duplicates leads from the
  issue that was dismissed. -/
  dismissed : ∃ now first moment, .turn ⟨now, .dismiss first r.severity moment⟩ ∈ moves ∧
    kind.Tells (moment.getD now) r.since ∧ Relation.ReflTransGen (Shared moves) first key
  one : 1 ≤ r.count
  /-- It counts no more dismissals than there were. -/
  counted : r.count ≤ moves.countP Move.dismisses

section Stems

variable {kind : Backend} {moves : List Move} {key : IssueKey} {r : Record}

theorem Shared.append {first second : IssueKey} (h : Shared moves first second) (more : List Move) :
    Shared (moves ++ more) first second := by
  obtain ⟨now, issues, hmem, hlinked⟩ := h
  exact ⟨now, issues, List.mem_append_left _ hmem, hlinked⟩

theorem Stems.append (h : Stems kind moves key r) (more : List Move) :
    Stems kind (moves ++ more) key r := by
  obtain ⟨⟨now, first, moment, hmem, htells, hchain⟩, hone, hcounted⟩ := h
  refine ⟨⟨now, first, moment, List.mem_append_left _ hmem, htells,
    Relation.ReflTransGen.mono (fun _ _ hshared => hshared.append more) _ _ hchain⟩, hone, ?_⟩
  rw [List.countP_append]
  omega

/-- A record that is lent goes on from where it has got to. -/
theorem Stems.trans {key' : IssueKey} (h : Stems kind moves key r)
    (hchain : Relation.ReflTransGen (Shared moves) key key') : Stems kind moves key' r := by
  obtain ⟨⟨now, first, moment, hmem, htells, hfirst⟩, hone, hcounted⟩ := h
  exact ⟨⟨now, first, moment, hmem, htells, hfirst.trans hchain⟩, hone, hcounted⟩

end Stems

end IssueDigest
