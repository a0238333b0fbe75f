import IssueDigest.Proofs.FileSteps
/-!
# Steps that may fail anywhere

Any call to the server may fail here, an entry may be no record, and a key may have no text. Two things
hold all the same, for a store that keeps no file and for a file store in a batch block
(`Session.Inside`).

* A step that fails has changed nothing but counters, the journal and the number of calls
  (`Session.Still`).
* A step that succeeds has done to the records what the ledger says (`Session.Leads`).

A file store outside all blocks is left out, for it takes a table over before it writes it.
-/

namespace IssueDigest

open Store

namespace Session

/-! ### Sessions that differ in what is counted -/

/-- The session with other counters, another journal and another number of calls. -/
def marked (s : Session) (counters : Counters) (journal : Journal) (calls : Nat) : Session :=
  ⟨{ s.store with counters }, { s.world with journal, server := { s.world.server with calls } }⟩

/-- Is everything as it was, but for counters, the journal and the number of calls? Nothing was copied. -/
def Still (s s' : Session) : Prop :=
  ∃ counters journal calls, counters.copies = s.store.counters.copies ∧
    s' = s.marked counters journal calls

namespace Still

variable {s s' s'' : Session}

theorem refl (s : Session) : s.Still s :=
  ⟨s.store.counters, s.world.journal, s.world.server.calls, rfl, rfl⟩

theorem trans (h : s.Still s') (h' : s'.Still s'') : s.Still s'' := by
  obtain ⟨counters, journal, calls, hcopies, rfl⟩ := h
  obtain ⟨counters', journal', calls', hcopies', rfl⟩ := h'
  exact ⟨counters', journal', calls', hcopies'.trans hcopies, rfl⟩

theorem backing (h : s.Still s') : s'.store.backing = s.store.backing := by
  obtain ⟨counters, journal, calls, -, rfl⟩ := h
  rfl

theorem record? (h : s.Still s') : s'.record? = s.record? := by
  obtain ⟨counters, journal, calls, -, rfl⟩ := h
  rfl

theorem kind (h : s.Still s') : s'.kind = s.kind := by
  rw [Session.kind, h.backing, Session.kind]

theorem copies (h : s.Still s') : s'.store.counters.copies = s.store.counters.copies := by
  obtain ⟨counters, journal, calls, hcopies, rfl⟩ := h
  exact hcopies

end Still

theorem still_marked (s : Session) (journal : Journal) (calls : Nat) :
    s.Still (s.marked s.store.counters journal calls) :=
  ⟨s.store.counters, journal, calls, rfl, rfl⟩

theorem still_called (s : Session) : s.Still (called s) :=
  s.still_marked s.world.journal (s.world.server.calls + 1)

/-- The session when no call to the server fails any more. -/
def healed (s : Session) : Session :=
  { s with world := { s.world with server := { s.world.server with outage := fun _ _ => false } } }

/-- Can the entries of issues be read? -/
def Readable (s : Session) : Prop :=
  ∀ front, s.store.backing = .server front → ∀ key : IssueKey, key.Printable → ∀ raw,
    s.world.server.entries.get? (front ++ key.render) = some raw → ∃ r, readHeld raw = .ok r

theorem Still.readable {s s' : Session} (h : s.Still s') (hs : s.Readable) : s'.Readable := by
  obtain ⟨counters, journal, calls, -, rfl⟩ := h
  exact hs

/-- A server store works when no call fails any more, if the entries can be read. -/
theorem works_healed_iff {s : Session} {front : String} (hs : s.store.backing = .server front) :
    s.healed.Works ↔ s.Readable := by
  obtain ⟨⟨name, counters, backing⟩, world⟩ := s
  obtain rfl : backing = .server front := hs
  constructor
  · intro hworks front' hfront
    obtain rfl := Backing.server.inj hfront
    exact hworks.readable
  · intro hreadable
    exact ⟨fun _ _ _ => rfl, hreadable front rfl⟩

/-- How many blocks are open around a file store. -/
def depth? (s : Session) : Option Nat :=
  match s.store.backing with
  | .file book => some book.depth
  | _ => none

/-- Is the store in a block, if it keeps a file? -/
def Inside (s : Session) : Prop := s.depth? ≠ some 0

theorem Still.depth? {s s' : Session} (h : s.Still s') : s'.depth? = s.depth? := by
  rw [Session.depth?, h.backing, Session.depth?]

theorem Still.inside {s s' : Session} (h : s.Still s') : s'.Inside ↔ s.Inside := by
  rw [Inside, h.depth?, Inside]

/-- Does a session go on from another one, in as many blocks and as readable, with this ledger? -/
structure Leads (s s' : Session) (l : Ledger) : Prop where
  depth? : s'.depth? = s.depth?
  kind : s'.kind = s.kind
  readable : s.Readable → s'.Readable
  ledger : s'.ledger = l

theorem Leads.inside {s s' : Session} {l : Ledger} (h : s.Leads s' l) : s'.Inside ↔ s.Inside := by
  rw [Inside, h.depth?, Inside]

theorem exists_of_server {s : Session} (h : s.kind = .server) :
    ∃ front, s.store.backing = .server front := by
  obtain ⟨⟨name, counters, backing⟩, world⟩ := s
  cases backing with
  | memory records => cases h
  | file book => cases h
  | server front => exact ⟨front, rfl⟩

/-- What a server store holds has been read from a text. -/
theorem storable_of_server {s : Session} {front : String} (hs : s.store.backing = .server front)
    {key : IssueKey} {r : Record} (hr : s.record? key = some r) : r.Storable := by
  rw [Session.record?, hs] at hr
  obtain ⟨raw, -, hr⟩ := Option.bind_eq_some_iff.mp hr
  cases hline : readHeld raw with
  | error e =>
    rw [hline] at hr
    cases hr
  | ok r' =>
    rw [hline] at hr
    obtain rfl := Option.some.inj hr
    exact storable_of_readHeld hline

end Session

namespace Store

open Session

/-! ### Calls and questions -/

/-- A call is counted, whether it fails or not. -/
theorem run_call_cases (c : Call) (s : Session) :
    (call c).run s = (.ok (), called s) ∨ (call c).run s = (.error (.server "down"), called s) := by
  cases h : s.world.server.outage s.world.server.calls c with
  | false => exact .inl (run_call h)
  | true => exact .inr (run_call_of_outage h)

/-- What the server holds under a name, if it answers. -/
def fetch (server : Server) (entry : String) : Except Fault (Option Record) :=
  match server.answer? entry with
  | none => .ok none
  | some answer => (readEntry answer).map some

/-- When the call succeeds, looking a record up is fetching it. -/
theorem run_find_server {s : Session} {front entry : String} (hs : s.store.backing = .server front)
    {key : IssueKey} (hentry : entryName front key = .ok entry)
    (hcall : (call .get).run s = (.ok (), called s)) :
    (find key).run s = (fetch s.world.server entry, called s) := by
  obtain ⟨⟨name, counters, backing⟩, world⟩ := s
  obtain rfl : backing = .server front := hs
  have hsame : (called ⟨⟨name, counters, .server front⟩, world⟩).world.server.answer? entry =
      world.server.answer? entry := rfl
  rw [find, Act.run_get_bind]
  dsimp only
  rw [hentry, Act.run_bind_ok (Act.run_lift_ok _ _), Act.run_bind_ok hcall, Act.run_get_bind, hsame,
    fetch]
  cases world.server.answer? entry with
  | none => rfl
  | some answer =>
    dsimp only
    cases readEntry answer <;> rfl

/-- What is fetched is the record. -/
theorem eq_record?_of_fetch {s : Session} {front : String} (hs : s.store.backing = .server front)
    {key : IssueKey} {found : Option Record}
    (h : fetch s.world.server (front ++ key.render) = .ok found) : found = s.record? key := by
  rw [Session.record?, hs]
  rw [fetch] at h
  cases hanswer : s.world.server.answer? (front ++ key.render) with
  | none =>
    have hnone : s.world.server.entries.get? (front ++ key.render) = none := by
      simpa [Server.answer?] using hanswer
    rw [hanswer] at h
    obtain rfl := Except.ok.inj h
    simp [hnone]
  | some answer =>
    obtain ⟨raw, hraw, hread⟩ := readEntry_of_answer hanswer
    rw [hanswer] at h
    obtain ⟨r, hr, rfl⟩ := map_eq_ok_iff.mp h
    rw [hread] at hr
    simp [hraw, hr, Except.toOption]

/-- **Looking a record up** changes nothing but the number of calls, and what is found is the record. -/
theorem run_find (key : IssueKey) (s : Session) :
    ∃ r calls, (find key).run s = (r, s.marked s.store.counters s.world.journal calls) ∧
      ∀ found, r = .ok found → found = s.record? key := by
  obtain ⟨⟨name, counters, backing⟩, world⟩ := s
  cases backing with
  | memory records =>
    refine ⟨.ok (records.get? key), world.server.calls, rfl, fun found hfound => ?_⟩
    exact (Except.ok.inj hfound).symm
  | file book =>
    by_cases hkey : key.Printable
    · refine ⟨_, world.server.calls, run_find_file hkey, fun found hfound => ?_⟩
      exact (Except.ok.inj hfound).symm
    · refine ⟨_, world.server.calls, run_find_file_of_not hkey, fun found hfound => ?_⟩
      cases hfound
  | server front =>
    by_cases hkey : key.Printable
    · have hentry : entryName front key = .ok (front ++ key.render) := entryName_of_printable hkey
      rcases run_call_cases .get ⟨⟨name, counters, .server front⟩, world⟩ with hcall | hcall
      · refine ⟨_, world.server.calls + 1, run_find_server rfl hentry hcall, fun found hfound => ?_⟩
        exact @eq_record?_of_fetch ⟨⟨name, counters, .server front⟩, world⟩ front rfl key found hfound
      · refine ⟨.error (.server "down"), world.server.calls + 1, ?_, fun found hfound => ?_⟩
        · rw [find, Act.run_get_bind]
          dsimp only
          rw [hentry, Act.run_bind_ok (Act.run_lift_ok _ _), Act.run_bind_error hcall]
          rfl
        · cases hfound
    · have hentry : entryName front key = .error (.refused .integerUnwritable) := by
        rw [entryName, IssueKey.write_of_not_printable hkey]
        rfl
      refine ⟨.error (.refused .integerUnwritable), world.server.calls, ?_, fun found hfound => ?_⟩
      · rw [find, Act.run_get_bind]
        dsimp only
        rw [hentry]
        rfl
      · cases hfound

theorem still_of_find {key : IssueKey} {s s' : Session} {r : Except Fault (Option Record)}
    (hrun : (find key).run s = (r, s')) : s.Still s' := by
  obtain ⟨found, calls, hfind, -⟩ := run_find key s
  obtain ⟨-, rfl⟩ := Prod.mk.inj (hfind.symm.trans hrun)
  exact s.still_marked s.world.journal calls

/-- **A question** is counted, and its answer is that of the ledger. -/
theorem run_isDismissed (key : IssueKey) (severity : Int) (s : Session) :
    ∃ r calls, (isDismissed key severity).run s =
        (r, s.marked (s.ledger.checked 1).counters s.world.journal calls) ∧
      ∀ answer, r = .ok answer → answer = s.ledger.covers key severity := by
  obtain ⟨r, calls, hrun, hfound⟩ :=
    run_find key (s.count fun c => { c with checks := c.checks + 1 })
  rw [isDismissed, Act.run_modify_bind]
  cases r with
  | error e =>
    refine ⟨.error e, calls, Act.run_bind_error hrun, fun answer h => ?_⟩
    cases h
  | ok found =>
    obtain rfl := hfound found rfl
    rw [Act.run_bind_ok hrun]
    refine ⟨.ok (s.ledger.covers key severity), calls, ?_, fun answer h => (Except.ok.inj h).symm⟩
    have hsame : (s.count fun c => { c with checks := c.checks + 1 }).record? key =
        s.ledger.records key := rfl
    rw [hsame, Ledger.covers]
    cases s.ledger.records key <;> rfl

/-! ### Keeping and copying -/

/-- The session when the server has taken an entry. -/
def stored (s : Session) (name text : String) : Session :=
  { s with
    world := { s.world with
      server := { s.world.server with
        calls := s.world.server.calls + 1
        entries := s.world.server.entries.put name text } } }

/-- On the server a record is kept, or nothing is changed. -/
theorem run_keep_server {s : Session} {front : String} (hs : s.store.backing = .server front)
    (key : IssueKey) (r : Record) :
    (∃ e s', (keep key r).run s = (.error e, s') ∧ s.Still s') ∨
      key.Printable ∧ ∃ text, writeEntry r = .ok text ∧
        (keep key r).run s = (.ok (), stored s (front ++ key.render) (asString text)) := by
  obtain ⟨⟨name, counters, backing⟩, world⟩ := s
  obtain rfl : backing = .server front := hs
  rw [keep, Act.run_get_bind]
  dsimp only
  by_cases hkey : key.Printable
  · rw [entryName_of_printable hkey, Act.run_bind_ok (Act.run_lift_ok _ _)]
    cases hentry : writeEntry r with
    | error e => exact .inl ⟨e, _, rfl, .refl _⟩
    | ok text =>
      rw [Act.run_bind_ok (Act.run_lift_ok _ _)]
      rcases run_call_cases .set ⟨⟨name, counters, .server front⟩, world⟩ with hcall | hcall
      · exact .inr ⟨hkey, text, rfl, Act.run_tryCatch_ok (Act.run_bind_ok hcall)⟩
      -- The fault is counted and goes to the journal, and it is thrown again.
      · refine .inl ⟨.server "down", _, Act.run_tryCatch_error (Act.run_bind_error hcall), ?_⟩
        exact ⟨{ counters with errors := counters.errors + 1 }, _, world.server.calls + 1, rfl, rfl⟩
  · rw [entryName, IssueKey.write_of_not_printable hkey]
    exact .inl ⟨_, _, rfl, .refl _⟩

/-- What is stored is read back, and it is the record of no other issue. -/
theorem record?_stored {s : Session} {front : String} (hs : s.store.backing = .server front)
    (key : IssueKey) (text : String) (k : IssueKey) :
    (stored s (front ++ key.render) text).record? k =
      if k = key then (readLine text.toList).toOption else s.record? k := by
  obtain ⟨⟨name, counters, backing⟩, world⟩ := s
  obtain rfl : backing = .server front := hs
  by_cases hk : k = key
  · subst hk
    simp [stored, Session.record?, readHeld_encode]
  · have hne : front ++ k.render ≠ front ++ key.render :=
      fun h => hk (IssueKey.name_injective front h)
    simp [stored, Session.record?, hne, hk]

theorem ledger_stored {s : Session} {front : String} (hs : s.store.backing = .server front)
    (key : IssueKey) {r : Record} (hr : r.Storable) :
    (stored s (front ++ key.render) (String.ofList r.line)).ledger = s.ledger.set key (some r) := by
  refine Ledger.ext (funext fun k => ?_) rfl
  rw [records_ledger, record?_stored hs, String.toList_ofList, readLine_line hr,
    Ledger.records_set, Function.update_apply]
  rfl

theorem readable_stored {s : Session} {front : String} (key : IssueKey) {r : Record}
    (hr : r.Storable) (hs : s.Readable) :
    (stored s (front ++ key.render) (String.ofList r.line)).Readable := by
  intro front' hfront k hk raw hraw
  rw [stored, Table.get?_put] at hraw
  split at hraw
  · obtain rfl := Option.some.inj hraw
    exact ⟨r, by rw [readHeld_encode, String.toList_ofList, readLine_line hr]⟩
  · exact hs front' hfront k hk raw hraw

/-- In a block a file store keeps a record without writing it. -/
theorem run_keep_inside {name : String} {counters : Counters} {book : FileBook} {world : World}
    {key : IssueKey} (h : Session.Inside ⟨⟨name, counters, .file book⟩, world⟩)
    (hkey : key.Printable) (r : Record) :
    ∃ s', (keep key r).run ⟨⟨name, counters, .file book⟩, world⟩ = (.ok (), s') ∧
      Session.Leads ⟨⟨name, counters, .file book⟩, world⟩ s'
        ((ledger ⟨⟨name, counters, .file book⟩, world⟩).set key (some r)) := by
  have hdepth : 0 < book.depth := Nat.pos_of_ne_zero fun hzero => h (congrArg some hzero)
  refine ⟨_, (run_keep_file hkey r).trans (run_persist_inside (by exact hdepth) _), rfl, rfl, nofun,
    Ledger.ext (funext fun k => ?_) rfl⟩
  simp [ledger, Session.record?, Session.setBacking, Function.update_apply,
    IssueKey.text_injective.eq_iff]

section Inside

variable {s s' : Session} {key source target : IssueKey} {r : Record} {e : Fault}

/-- **A record that is not kept changes nothing.** -/
theorem still_of_keep (h : s.Inside) (hrun : (keep key r).run s = (.error e, s')) : s.Still s' := by
  obtain ⟨⟨name, counters, backing⟩, world⟩ := s
  cases backing with
  | memory records => cases (Prod.mk.inj hrun).1
  | file book =>
    by_cases hkey : key.Printable
    · obtain ⟨s₁, hkeep, -⟩ := run_keep_inside h hkey r
      cases (Prod.mk.inj (hkeep.symm.trans hrun)).1
    · rw [run_keep_file_of_not hkey] at hrun
      obtain ⟨-, rfl⟩ := Prod.mk.inj hrun
      exact .refl _
  | server front =>
    obtain ⟨e', s₁, hkeep, hstill⟩ | ⟨-, text, -, hkeep⟩ :=
      run_keep_server (s := ⟨⟨name, counters, .server front⟩, world⟩) rfl key r
    · obtain ⟨-, rfl⟩ := Prod.mk.inj (hkeep.symm.trans hrun)
      exact hstill
    · cases (Prod.mk.inj (hkeep.symm.trans hrun)).1

/-- **A record that is kept** is set in the ledger. -/
theorem leads_of_keep (h : s.Inside) (hr : s.kind = .server → r.Storable)
    (hrun : (keep key r).run s = (.ok (), s')) : s.Leads s' (s.ledger.set key (some r)) := by
  obtain ⟨⟨name, counters, backing⟩, world⟩ := s
  cases backing with
  | memory records =>
    obtain ⟨-, rfl⟩ := Prod.mk.inj hrun
    refine ⟨rfl, rfl, nofun, Ledger.ext (funext fun k => ?_) rfl⟩
    simp [ledger, Session.record?, Session.setBacking, Function.update_apply]
  | file book =>
    by_cases hkey : key.Printable
    · obtain ⟨s₁, hkeep, hleads⟩ := run_keep_inside h hkey r
      obtain ⟨-, rfl⟩ := Prod.mk.inj (hkeep.symm.trans hrun)
      exact hleads
    · rw [run_keep_file_of_not hkey] at hrun
      cases (Prod.mk.inj hrun).1
  | server front =>
    have hstorable : r.Storable := hr rfl
    obtain ⟨e', s₁, hkeep, -⟩ | ⟨-, text, htext, hkeep⟩ :=
      run_keep_server (s := ⟨⟨name, counters, .server front⟩, world⟩) rfl key r
    · cases (Prod.mk.inj (hkeep.symm.trans hrun)).1
    · obtain ⟨-, rfl⟩ := Prod.mk.inj (hkeep.symm.trans hrun)
      obtain rfl : text = Text.ofChars r.line :=
        Except.ok.inj (htext.symm.trans (writeEntry_of_printable hstorable.toPrintable))
      rw [asString_ofChars]
      exact ⟨rfl, rfl, readable_stored key hstorable, ledger_stored rfl key hstorable⟩

/-- **A copy that fails has changed nothing.** -/
theorem still_of_copy (h : s.Inside) (hrun : (copy source target).run s = (.error e, s')) :
    s.Still s' := by
  obtain hfind | ⟨found, s₁, hfind, hrest⟩ := Act.run_bind_eq_error hrun
  · exact still_of_find hfind
  have hfound := still_of_find hfind
  cases found with
  | none =>
    dsimp only at hrest
    rw [Act.run_get_bind] at hrest
    -- Only a key that has no text is left to fail.
    cases hsource : source.write with
    | error e' =>
      rw [hsource] at hrest
      obtain ⟨-, rfl⟩ := Prod.mk.inj hrest
      exact hfound
    | ok sourceText =>
      rw [hsource, Act.run_bind_ok (Act.run_lift_ok _ _)] at hrest
      cases htarget : target.write with
      | error e' =>
        rw [htarget] at hrest
        obtain ⟨-, rfl⟩ := Prod.mk.inj hrest
        exact hfound
      | ok targetText =>
        rw [htarget, Act.run_bind_ok (Act.run_lift_ok _ _)] at hrest
        cases (Prod.mk.inj hrest).1
  | some r =>
    obtain hkeep | ⟨⟨⟩, s₂, -, hcount⟩ := Act.run_bind_eq_error hrest
    · exact hfound.trans (still_of_keep (hfound.inside.mpr h) hkeep)
    · cases (Prod.mk.inj hcount).1

/-- **A copy that succeeds** has set the record of its source for its target, and is counted. -/
theorem leads_of_copy (h : s.Inside) (hr : s.record? source = some r)
    (hrun : (copy source target).run s = (.ok (), s')) :
    s.Leads s' ((s.ledger.set target (some r)).copied 1) := by
  obtain ⟨found, calls, hfind, hfound⟩ := run_find source s
  cases found with
  | error e' =>
    rw [copy, Act.run_bind_error hfind] at hrun
    cases (Prod.mk.inj hrun).1
  | ok found =>
    obtain rfl : found = some r := (hfound found rfl).trans hr
    rw [copy, Act.run_bind_ok hfind] at hrun
    dsimp only at hrun
    obtain ⟨⟨⟩, s₁, hkeep, hcount⟩ := Act.run_bind_eq_ok hrun
    obtain ⟨-, rfl⟩ := Prod.mk.inj hcount
    have hstorable : s.kind = .server → r.Storable := by
      intro hkind
      obtain ⟨front, hs⟩ := exists_of_server hkind
      exact storable_of_server hs hr
    obtain ⟨hdepth, hkind, hreadable, hledger⟩ :=
      leads_of_keep ((s.still_marked s.world.journal calls).inside.mpr h) hstorable hkeep
    exact ⟨hdepth, hkind, hreadable, congrArg (Ledger.copied · 1) hledger⟩

end Inside

end Store

end IssueDigest
