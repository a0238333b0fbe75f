import IssueDigest.Proofs.FileWriting
import IssueDigest.Proofs.Ledger
import IssueDigest.Settings.Basic
/-!
# What the stores do to their ledgers

Each kind of store keeps records in a form of its own: by issue, by key text, or as lines on a server
that are read on every look. `Session.ledger` forgets the form. This module proves, for every
operation and all three kinds at once, which result it gives and which ledger it leaves; what is
proved further on never looks at the kind again.

Three conditions stand for what the world must grant. A session **works** if nothing fails in it from
now on: the disk accepts the file and the table can be written, or the server answers and its lines
can be read. A store **names** an issue if it needs no text for it or the text can be written, and it
**takes** a record if it can keep it. Every operation leaves a session that works as before
(`Evolves`), so the conditions carry over from step to step.
-/

namespace IssueDigest

open Store

/-! ### Views and conditions -/

/-- Does the server answer from now on, and can the entries of issues be read? -/
structure Server.Works (server : Server) (front : String) : Prop where
  calm : ∀ n c, server.calls ≤ n → server.outage n c = false
  readable : ∀ key : IssueKey, key.Printable → ∀ raw,
    server.entries.get? (front ++ key.render) = some raw → ∃ r, readHeld raw = .ok r

theorem Server.mem_namesUnder_iff {server : Server} {front name : String} :
    name ∈ server.namesUnder front ↔
      name ∈ server.entries.keys ∧ front.toList.isPrefixOf name.toList = true :=
  List.mem_filter

namespace Session

/-- The kind of the store. -/
def kind (s : Session) : Backend :=
  match s.store.backing with
  | .memory _ => .memory
  | .file _ => .file
  | .server _ => .server

/-- What the store holds for an issue. -/
def record? (s : Session) (key : IssueKey) : Option Record :=
  match s.store.backing with
  | .memory records => records.get? key
  | .file book => book.records.get? (Text.ofString key.render)
  | .server front =>
    (s.world.server.entries.get? (front ++ key.render)).bind fun raw =>
      (readHeld raw).toOption

/-- What the store holds and has counted. -/
def ledger (s : Session) : Ledger := ⟨s.record?, s.store.counters⟩

@[simp] theorem records_ledger (s : Session) : s.ledger.records = s.record? := rfl

@[simp] theorem counters_ledger (s : Session) : s.ledger.counters = s.store.counters := rfl

/-- Does nothing fail from now on? -/
def Works (s : Session) : Prop :=
  match s.store.backing with
  | .memory _ => True
  | .file book => s.world.disk.Accepts book.path ∧ Plain book.records
  | .server front => s.world.server.Works front

/-- Does everything the store lists belong to an issue? -/
def Own (s : Session) : Prop :=
  match s.store.backing with
  | .memory _ => True
  | .file book => ∀ t ∈ book.records.keys, ∃ key : IssueKey, t = Text.ofString key.render
  | .server front => ∀ name ∈ s.world.server.namesUnder front,
      ∃ key : IssueKey, key.Printable ∧ name = front ++ key.render

/-- Can the store name the issue? -/
def Names (s : Session) (key : IssueKey) : Prop := s.kind = .memory ∨ key.Printable

/-- Can the store keep the record? -/
def Takes (s : Session) (r : Record) : Prop :=
  match s.kind with
  | .memory => True
  | .file => r.Printable
  | .server => r.Storable

/-- A session that works as an earlier one did. -/
structure Evolves (s s' : Session) : Prop where
  works : s'.Works
  kind : s'.kind = s.kind
  own : s.Own → s'.Own
  now : s'.world.now = s.world.now

theorem Evolves.refl {s : Session} (h : s.Works) : s.Evolves s := ⟨h, rfl, id, rfl⟩

theorem Evolves.trans {s s' s'' : Session} (h : s.Evolves s') (h' : s'.Evolves s'') :
    s.Evolves s'' :=
  ⟨h'.works, h'.kind.trans h.kind, h'.own ∘ h.own, h'.now.trans h.now⟩

/-- Stores of one kind name the same issues. -/
theorem names_of_kind {s s' : Session} (h : s'.kind = s.kind) : s'.Names = s.Names :=
  funext fun key => congrArg (fun kind => kind = Backend.memory ∨ key.Printable) h

theorem Evolves.names {s s' : Session} (h : s.Evolves s') {key : IssueKey} :
    s'.Names key ↔ s.Names key := by
  rw [names_of_kind h.kind]

theorem Evolves.takes {s s' : Session} (h : s.Evolves s') {r : Record} :
    s'.Takes r ↔ s.Takes r := by
  rw [Takes, h.kind, Takes]

/-- A store that is not kept in memory names issues by their text. -/
theorem Names.printable {s : Session} {key : IssueKey} (h : s.Names key) (hkind : s.kind ≠ .memory) :
    key.Printable :=
  h.resolve_left hkind

theorem takes_of_storable {s : Session} {r : Record} (h : r.Storable) : s.Takes r := by
  unfold Takes
  split
  · trivial
  · exact h.toPrintable
  · exact h

/-- **What a store holds it can keep again.** -/
theorem Works.takes {s : Session} (h : s.Works) {key : IssueKey} {r : Record}
    (hr : s.record? key = some r) : s.Takes r := by
  obtain ⟨⟨name, counters, backing⟩, world⟩ := s
  cases backing with
  | memory records => trivial
  | file book => exact h.2.printable hr
  | server front =>
    simp only [record?, Option.bind_eq_some_iff] at hr
    obtain ⟨raw, -, hr⟩ := hr
    cases hline : readHeld raw with
    | error e => simp [hline, Except.toOption] at hr
    | ok r' =>
      obtain rfl : r' = r := by simpa [hline, Except.toOption] using hr
      exact storable_of_readHeld hline

/-- Does the action succeed with a result, leaving a session that works and has the ledger? -/
def Yields {α : Type} (s : Session) (x : Action α) (a : α) (l : Ledger) : Prop :=
  ∃ s', x.run s = (.ok a, s') ∧ s.Evolves s' ∧ s'.ledger = l

section Yields

variable {α β : Type} {s : Session} {l l' : Ledger}

theorem Yields.pure (h : s.Works) (a : α) : s.Yields (Pure.pure a) a s.ledger :=
  ⟨s, rfl, .refl h, rfl⟩

/-- One action after another. -/
theorem Yields.bind {x : Action α} {f : α → Action β} {a : α} {b : β} (hx : s.Yields x a l)
    (hf : ∀ s', s.Evolves s' → s'.ledger = l → s'.Yields (f a) b l') : s.Yields (x >>= f) b l' := by
  obtain ⟨s₁, hrun, hevolves, hledger⟩ := hx
  obtain ⟨s₂, hrun', hevolves', hledger'⟩ := hf s₁ hevolves hledger
  exact ⟨s₂, (Act.run_bind_ok hrun).trans hrun', hevolves.trans hevolves', hledger'⟩

/-- An action whose run is known, and another one. -/
theorem Yields.run_bind {x : Action α} {f : α → Action β} {a : α} {b : β} {s₁ : Session}
    (hx : x.run s = (.ok a, s₁)) (h : s.Evolves s₁) (hf : s₁.Yields (f a) b l) :
    s.Yields (x >>= f) b l := by
  obtain ⟨s₂, hrun, hevolves, hledger⟩ := hf
  exact ⟨s₂, (Act.run_bind_ok hx).trans hrun, h.trans hevolves, hledger⟩

theorem Yields.map {x : Action α} {a : α} (h : s.Yields x a l) (f : α → β) :
    s.Yields (f <$> x) (f a) l := by
  obtain ⟨s', hrun, hevolves, hledger⟩ := h
  exact ⟨s', Act.run_map_ok hrun, hevolves, hledger⟩

theorem Yields.get_bind {f : Session → Action β} {b : β} (h : s.Yields (f s) b l) :
    s.Yields (get >>= f) b l := h

theorem Yields.lift_bind {x : Except Fault α} {a : α} (hx : x = .ok a) {f : α → Action β} {b : β}
    (h : s.Yields (f a) b l) : s.Yields (Act.lift x >>= f) b l := by
  subst hx
  exact h

end Yields

end Session

namespace Store

open Session

variable {s : Session} {key : IssueKey}

/-! ### Steps that change no record -/

theorem note_yields (h : s.Works) (level : Level) (message : Text)
    (context : List (String × Json)) : s.Yields (note level message context) () s.ledger :=
  ⟨_, rfl, ⟨h, rfl, id, rfl⟩, rfl⟩

theorem count_yields (h : s.Works) (f : Counters → Counters) :
    s.Yields (modify (Session.count · f)) () { s.ledger with counters := f s.ledger.counters } :=
  ⟨_, rfl, ⟨h, rfl, id, rfl⟩, rfl⟩

theorem entryName_of_printable (h : key.Printable) {front : String} :
    entryName front key = .ok (front ++ key.render) := by
  rw [entryName, IssueKey.write_of_printable h]
  rfl

/-- The session after one more call to the server. -/
def called (s : Session) : Session :=
  { s with
    world := { s.world with server := { s.world.server with calls := s.world.server.calls + 1 } } }

theorem run_call {c : Call} (h : s.world.server.outage s.world.server.calls c = false) :
    (call c).run s = (.ok (), called s) := by
  simp [call, World.call, Server.call, h, called]

theorem run_call_of_outage {c : Call} (h : s.world.server.outage s.world.server.calls c = true) :
    (call c).run s = (.error (.server "down"), called s) := by
  simp [call, World.call, Server.call, h, called]

theorem works_called {name front : String} {counters : Counters} {world : World}
    (h : world.server.Works front) :
    (called ⟨⟨name, counters, .server front⟩, world⟩).Works :=
  ⟨fun n c hn => h.calm n c (Nat.le_of_succ_le hn), h.readable⟩

/-- **Looking a record up** gives what the ledger says. -/
theorem find_yields (h : s.Works) (hkey : s.Names key) :
    s.Yields (find key) (s.ledger.records key) s.ledger := by
  obtain ⟨⟨name, counters, backing⟩, world⟩ := s
  cases backing with
  | memory records => exact .pure h _
  | file book =>
    have hwrite := IssueKey.write_of_printable (hkey.printable Backend.noConfusion)
    exact .get_bind (.lift_bind hwrite (.pure h _))
  | server front =>
    have hprintable : key.Printable := hkey.printable Backend.noConfusion
    refine .get_bind (.lift_bind (entryName_of_printable hprintable) ?_)
    refine .run_bind (run_call (h.calm _ _ (Nat.le_refl _))) ⟨works_called h, rfl, id, rfl⟩
      (.get_bind ?_)
    dsimp only [called]
    have hanswers (server : Server) (n : Nat) :
        { server with calls := n }.answer? = server.answer? := rfl
    rw [hanswers]
    cases hanswer : world.server.answer? (front ++ key.render) with
    -- The answer is text or octets; either way it is the line of the entry that is read.
    | none =>
      have hentry : world.server.entries.get? (front ++ key.render) = none := by
        simpa [Server.answer?] using hanswer
      have hnone : (ledger ⟨⟨name, counters, .server front⟩, world⟩).records key = none := by
        simp [ledger, record?, hentry]
      rw [hnone]
      exact .pure (works_called h) none
    | some answer =>
      obtain ⟨raw, hraw, hread⟩ := readEntry_of_answer hanswer
      obtain ⟨r, hr⟩ := h.readable key hprintable raw hraw
      have hsome : (ledger ⟨⟨name, counters, .server front⟩, world⟩).records key = some r := by
        simp [ledger, record?, hraw, hr, Except.toOption]
      rw [hsome]
      dsimp only
      rw [hread, hr]
      exact .pure (works_called h) (some r)

/-! ### Steps that write -/

/-- Writing the table changes neither it nor anything else that is seen. -/
theorem saveFile_yields {name : String} {counters : Counters} {book : FileBook} {world : World}
    (h : (⟨⟨name, counters, .file book⟩, world⟩ : Session).Works) :
    (⟨⟨name, counters, .file book⟩, world⟩ : Session).Yields (saveFile book) ()
      (ledger ⟨⟨name, counters, .file book⟩, world⟩) := by
  obtain ⟨haccepts, hplain⟩ := h
  obtain ⟨cs, -, hoctets⟩ := hplain.octets
  obtain ⟨disk, hdisk, haccepts'⟩ := haccepts.write (Utf8.encode cs)
  refine ⟨⟨⟨name, counters, .file { book with pending := false }⟩, { world with disk }⟩, ?_,
    ⟨⟨haccepts', hplain⟩, rfl, id, rfl⟩, rfl⟩
  rw [saveFile, Act.run_get_bind]
  simp only [hoctets, World.writeFile, hdisk]
  rfl

/-- Taking a table over makes it the one that is seen, whether it is written or left pending. -/
theorem persist_yields {name : String} {counters : Counters} {book book' : FileBook} {world : World}
    (h : (⟨⟨name, counters, .file book⟩, world⟩ : Session).Works) (hpath : book'.path = book.path)
    (hplain : Plain book'.records)
    (hown : (⟨⟨name, counters, .file book⟩, world⟩ : Session).Own →
      (⟨⟨name, counters, .file book'⟩, world⟩ : Session).Own) :
    (⟨⟨name, counters, .file book⟩, world⟩ : Session).Yields (persist book') ()
      (ledger ⟨⟨name, counters, .file book'⟩, world⟩) := by
  have hworks : (⟨⟨name, counters, .file book'⟩, world⟩ : Session).Works :=
    ⟨hpath ▸ h.1, hplain⟩
  by_cases hdepth : 0 < book'.depth
  · refine ⟨⟨⟨name, counters, .file { book' with pending := true }⟩, world⟩, ?_,
      ⟨hworks, rfl, hown, rfl⟩, rfl⟩
    simp [persist, hdepth, setBacking]
  · rw [persist, if_neg hdepth]
    exact .run_bind rfl ⟨hworks, rfl, hown, rfl⟩ (saveFile_yields hworks)

/-- **Keeping a record** sets it in the ledger. -/
theorem keep_yields (h : s.Works) (hkey : s.Names key) {r : Record} (hr : s.Takes r) :
    s.Yields (keep key r) () (s.ledger.set key (some r)) := by
  obtain ⟨⟨name, counters, backing⟩, world⟩ := s
  cases backing with
  | memory records =>
    refine ⟨⟨⟨name, counters, .memory (records.put key r)⟩, world⟩, rfl,
      ⟨trivial, rfl, id, rfl⟩, Ledger.ext (funext fun k => ?_) rfl⟩
    simp [ledger, record?, Function.update_apply]
  | file book =>
    have hprintable : key.Printable := hkey.printable Backend.noConfusion
    refine .get_bind (.lift_bind (IssueKey.write_of_printable hprintable) ?_)
    have hplain := h.2.put key.chars hr
    rw [← IssueKey.ofString_render] at hplain
    -- Different issues have different texts, so the record of no other one is replaced.
    have hledger : ledger ⟨⟨name, counters,
        .file { book with records := book.records.put (Text.ofString key.render) r }⟩, world⟩ =
        (ledger ⟨⟨name, counters, .file book⟩, world⟩).set key (some r) := by
      refine Ledger.ext (funext fun k => ?_) rfl
      simp [ledger, record?, Function.update_apply, IssueKey.text_injective.eq_iff]
    rw [← hledger]
    refine persist_yields h rfl hplain fun hown t ht => ?_
    -- An equation that is substituted here would make Lean unfold the text of the key.
    rcases Table.mem_keys_put.mp ht with heq | ht
    · exact ⟨key, heq⟩
    · exact hown t ht
  | server front =>
    have hprintable : key.Printable := hkey.printable Backend.noConfusion
    refine .get_bind (.lift_bind (entryName_of_printable hprintable) ?_)
    refine .lift_bind (writeEntry_of_printable hr.toPrintable) ?_
    refine ⟨⟨⟨name, counters, .server front⟩, { world with
      server := { world.server with
        calls := world.server.calls + 1
        entries := world.server.entries.put (front ++ key.render) (String.ofList r.line) } }⟩,
      ?_, ⟨⟨fun n c hn => h.calm n c (Nat.le_of_succ_le hn), fun k hk raw hraw => ?_⟩, rfl,
        fun hown t ht => ?_, rfl⟩, Ledger.ext (funext fun k => ?_) rfl⟩
    -- The call succeeds, so what is done about a failure is never done.
    · rw [← asString_ofChars]
      exact Act.run_tryCatch_ok (Act.run_bind_ok (run_call (h.calm _ _ (Nat.le_refl _))))
    · simp only [Table.get?_put, (IssueKey.name_injective front).eq_iff] at hraw
      split at hraw
      · obtain rfl := Option.some.inj hraw
        exact ⟨r, by rw [readHeld_encode, String.toList_ofList, readLine_line hr]⟩
      · exact h.readable k hk raw hraw
    · obtain ⟨hmem, hprefix⟩ := Server.mem_namesUnder_iff.mp ht
      rcases Table.mem_keys_put.mp hmem with rfl | hmem
      · exact ⟨key, hprintable, rfl⟩
      · exact hown t (Server.mem_namesUnder_iff.mpr ⟨hmem, hprefix⟩)
    · by_cases hk : k = key
      · subst hk
        simp [ledger, record?, readHeld_encode, readLine_line hr, Except.toOption]
      · have hne : front ++ k.render ≠ front ++ key.render :=
          fun h => hk (IssueKey.name_injective front h)
        simp [ledger, record?, hne, hk]

/-- The session after entries of the server were deleted. -/
def deleted (names : List String) (s : Session) : Session :=
  { s with
    world := { s.world with
      server := { s.world.server with
        calls := s.world.server.calls + 1
        entries := (names.filter fun name => (s.world.server.entries.get? name).isSome).foldl
          (fun t name => t.erase name) s.world.server.entries } } }

theorem run_deleteEntries {names : List String}
    (h : s.world.server.outage s.world.server.calls .delete = false) :
    (deleteEntries names).run s =
      (.ok (names.filter fun name => (s.world.server.entries.get? name).isSome).length,
        deleted names s) := by
  rw [deleteEntries, Act.run_bind_ok (run_call h)]
  rfl

theorem get?_deleted (names : List String) (s : Session) (name : String) :
    (deleted names s).world.server.entries.get? name =
      if name ∈ names then none else s.world.server.entries.get? name := by
  rw [deleted, Table.get?_foldl_erase]
  cases hname : s.world.server.entries.get? name with
  | none => simp [hname]
  | some raw => simp [hname]

theorem evolves_deleted (names : List String) (name : String) {front : String}
    (counters : Counters) {world : World} (h : world.server.Works front) :
    (⟨⟨name, counters, .server front⟩, world⟩ : Session).Evolves
      (deleted names ⟨⟨name, counters, .server front⟩, world⟩) := by
  refine ⟨⟨fun n c hn => h.calm n c (Nat.le_of_succ_le hn), fun k hk raw hraw => ?_⟩, rfl,
    fun hown t ht => ?_, rfl⟩
  · rw [get?_deleted] at hraw
    split at hraw
    · cases hraw
    · exact h.readable k hk raw hraw
  · obtain ⟨hmem, hprefix⟩ := Server.mem_namesUnder_iff.mp ht
    rw [Table.mem_keys_iff, get?_deleted] at hmem
    split at hmem
    · cases hmem
    · exact hown t (Server.mem_namesUnder_iff.mpr ⟨Table.mem_keys_iff.mpr hmem, hprefix⟩)

theorem record?_deleted (names : List String) {name front : String} {counters : Counters}
    {world : World} (k : IssueKey) :
    record? (deleted names ⟨⟨name, counters, .server front⟩, world⟩) k =
      if front ++ k.render ∈ names then none
      else record? ⟨⟨name, counters, .server front⟩, world⟩ k := by
  change ((deleted names ⟨⟨name, counters, .server front⟩, world⟩).world.server.entries.get?
    (front ++ k.render)).bind _ = _
  rw [get?_deleted]
  split <;> rfl

/-- On a server that works an issue has a record if there is an entry with its name. -/
theorem isSome_record?_server {name front : String} {counters : Counters} {world : World}
    (h : world.server.Works front) (hkey : key.Printable) :
    (record? ⟨⟨name, counters, .server front⟩, world⟩ key).isSome =
      (world.server.entries.get? (front ++ key.render)).isSome := by
  cases hraw : world.server.entries.get? (front ++ key.render) with
  | none => simp [record?, hraw]
  | some raw =>
    obtain ⟨r, hr⟩ := h.readable key hkey raw hraw
    simp [record?, hraw, hr, Except.toOption]

/-- **Dropping a record** tells whether there was one. -/
theorem drop_yields (h : s.Works) (hkey : s.Names key) :
    s.Yields (drop key) (s.ledger.records key).isSome (s.ledger.set key none) := by
  obtain ⟨⟨name, counters, backing⟩, world⟩ := s
  cases backing with
  | memory records =>
    refine ⟨⟨⟨name, counters, .memory (records.erase key)⟩, world⟩, rfl,
      ⟨trivial, rfl, id, rfl⟩, Ledger.ext (funext fun k => ?_) rfl⟩
    simp [ledger, record?, Function.update_apply]
  | file book =>
    have hwrite := IssueKey.write_of_printable (hkey.printable Backend.noConfusion)
    refine .get_bind (.lift_bind hwrite ?_)
    cases hrecord : book.records.get? (Text.ofString key.render) with
    | none =>
      have hnone : (ledger ⟨⟨name, counters, .file book⟩, world⟩).records key = none := hrecord
      rw [hnone, Ledger.set_eq_self hnone]
      exact .pure h false
    | some r =>
      have hsome : (ledger ⟨⟨name, counters, .file book⟩, world⟩).records key = some r := hrecord
      have hledger : ledger ⟨⟨name, counters,
          .file { book with records := book.records.erase (Text.ofString key.render) }⟩, world⟩ =
          (ledger ⟨⟨name, counters, .file book⟩, world⟩).set key none := by
        refine Ledger.ext (funext fun k => ?_) rfl
        simp [ledger, record?, Function.update_apply, IssueKey.text_injective.eq_iff]
      rw [hsome, ← hledger]
      refine .bind (persist_yields h rfl (h.2.erase _) fun hown t ht => ?_)
        fun s' hs' hl => hl ▸ .pure hs'.works true
      exact hown t (Table.mem_keys_erase.mp ht).2
  | server front =>
    have hprintable : key.Printable := hkey.printable Backend.noConfusion
    refine .get_bind (.lift_bind (entryName_of_printable hprintable) ?_)
    refine .run_bind (run_deleteEntries (h.calm _ _ (Nat.le_refl _))) (evolves_deleted _ _ _ h) ?_
    have hevolves := evolves_deleted [front ++ key.render] name counters h
    refine ⟨_, ?_, .refl hevolves.works, Ledger.ext (funext fun k => ?_) rfl⟩
    · rw [records_ledger, isSome_record?_server h hprintable, Act.run_pure, List.filter_singleton]
      dsimp only
      cases world.server.entries.get? (front ++ key.render) with
      | none => rfl
      | some raw => rfl
    · rw [records_ledger, Ledger.records_set, records_ledger, record?_deleted,
        Function.update_apply]
      simp [(IssueKey.name_injective front).eq_iff]

/-- The names of issues are among those the server lists, if they have an entry. -/
theorem name_mem_namesUnder {server : Server} {front : String} :
    front ++ key.render ∈ server.namesUnder front ↔
      (server.entries.get? (front ++ key.render)).isSome := by
  rw [Server.mem_namesUnder_iff, Table.mem_keys_iff]
  simp

theorem run_entryNames {front : String}
    (h : s.world.server.outage s.world.server.calls .list = false) :
    (entryNames front).run s = (.ok (s.world.server.namesUnder front), called s) := by
  rw [entryNames, Act.run_bind_ok (run_call h)]
  rfl

/-- **Clearing** leaves no record. -/
theorem clear_yields (h : s.Works) : s.Yields clear () s.ledger.clear := by
  obtain ⟨⟨name, counters, backing⟩, world⟩ := s
  cases backing with
  | memory records =>
    exact ⟨⟨⟨name, counters, .memory .empty⟩, world⟩, rfl, ⟨trivial, rfl, id, rfl⟩, rfl⟩
  | file book =>
    exact .get_bind (persist_yields h rfl plain_empty fun _ => nofun)
  | server front =>
    refine .get_bind (.run_bind (run_entryNames (h.calm _ _ (Nat.le_refl _)))
      ⟨works_called h, rfl, id, rfl⟩ ?_)
    -- Only what is listed is deleted, and what is not listed has no record to begin with.
    have hnone (key : IssueKey) (hkey : front ++ key.render ∉ world.server.namesUnder front) :
        record? ⟨⟨name, counters, .server front⟩, world⟩ key = none := by
      rw [name_mem_namesUnder, Option.not_isSome_iff_eq_none] at hkey
      simp [record?, hkey]
    by_cases hempty : world.server.namesUnder front = []
    · refine ⟨called ⟨⟨name, counters, .server front⟩, world⟩, by rw [hempty]; rfl,
        .refl (works_called h), Ledger.ext (funext fun key => ?_) rfl⟩
      exact hnone key (by simp [hempty])
    · have hcalled : (called ⟨⟨name, counters, .server front⟩, world⟩).Works := works_called h
      have hevolves := evolves_deleted (world.server.namesUnder front) name counters hcalled
      refine ⟨_, ?_, hevolves, Ledger.ext (funext fun key => ?_) rfl⟩
      · have hnot : (!(world.server.namesUnder front).isEmpty) = true := by simpa using hempty
        rw [if_pos hnot, Act.run_bind_ok (run_deleteEntries (hcalled.calm _ _ (Nat.le_refl _)))]
        rfl
      · rw [records_ledger, record?_deleted]
        by_cases hkey : front ++ key.render ∈ world.server.namesUnder front
        · rw [if_pos hkey]
          rfl
        · rw [if_neg hkey]
          exact hnone key hkey

/-- **The size** of a store is the number of issues that have a record. -/
theorem size_yields (h : s.Works) (hown : s.Own) :
    s.Yields size s.ledger.kept.ncard s.ledger := by
  obtain ⟨⟨name, counters, backing⟩, world⟩ := s
  cases backing with
  | memory records =>
    have hsize : records.size = (ledger ⟨⟨name, counters, .memory records⟩, world⟩).kept.ncard := by
      rw [← Table.length_keys]
      exact Table.length_eq_ncard Function.injective_id records.nodup
        (fun _ => Table.mem_keys_iff.symm) fun key _ => ⟨key, rfl⟩
    rw [← hsize]
    exact .get_bind (.pure h _)
  | file book =>
    have hsize : book.records.size =
        (ledger ⟨⟨name, counters, .file book⟩, world⟩).kept.ncard := by
      rw [← Table.length_keys]
      exact Table.length_eq_ncard IssueKey.text_injective book.records.nodup
        (fun _ => Table.mem_keys_iff.symm) hown
    rw [← hsize]
    exact .get_bind (.pure h _)
  | server front =>
    have hsize : (world.server.namesUnder front).length =
        (ledger ⟨⟨name, counters, .server front⟩, world⟩).kept.ncard := by
      have hnodup : (world.server.namesUnder front).Nodup := world.server.entries.nodup.filter _
      refine Table.length_eq_ncard (IssueKey.name_injective front) hnodup (fun key => ?_)
        fun n hn => (hown n hn).imp fun _ => And.right
      rw [Ledger.kept, Set.mem_ofPred_eq, records_ledger]
      constructor
      · intro hsome
        rw [name_mem_namesUnder]
        cases hraw : world.server.entries.get? (front ++ key.render) with
        | none => simp [record?, hraw] at hsome
        | some raw => rfl
      · intro hmem
        obtain ⟨key', hprintable, heq⟩ := hown _ hmem
        obtain rfl : key = key' := IssueKey.name_injective front heq
        rw [isSome_record?_server h hprintable]
        exact name_mem_namesUnder.mp hmem
    rw [← hsize]
    exact .get_bind (.run_bind (run_entryNames (h.calm _ _ (Nat.le_refl _)))
      ⟨works_called h, rfl, id, rfl⟩ (.pure (works_called h) _))

theorem close_yields (h : s.Works) : s.Yields close () s.ledger := by
  obtain ⟨⟨name, counters, backing⟩, world⟩ := s
  cases backing with
  | memory records => exact .pure h ()
  | file book => exact .get_bind (saveFile_yields h)
  | server front =>
    exact ⟨_, run_call (h.calm _ _ (Nat.le_refl _)), ⟨works_called h, rfl, id, rfl⟩, rfl⟩

/-! ### Batch blocks -/

theorem enterBatch_yields (h : s.Works) : s.Yields enterBatch () s.ledger := by
  obtain ⟨⟨name, counters, backing⟩, world⟩ := s
  cases backing with
  | memory records => exact ⟨_, rfl, .refl h, rfl⟩
  | file book =>
    exact ⟨⟨⟨name, counters, .file { book with depth := book.depth + 1 }⟩, world⟩, rfl,
      ⟨h, rfl, id, rfl⟩, rfl⟩
  | server front => exact ⟨_, rfl, .refl h, rfl⟩

/-- Leaving a block may write the table and changes nothing that is seen. -/
theorem leaveBatch_yields (h : s.Works) : s.Yields leaveBatch () s.ledger := by
  obtain ⟨⟨name, counters, backing⟩, world⟩ := s
  cases backing with
  | memory records => exact .pure h ()
  | file book =>
    have hworks : (⟨⟨name, counters, .file { book with depth := book.depth - 1 }⟩, world⟩ :
        Session).Works := h
    refine .get_bind (.run_bind rfl ⟨hworks, rfl, id, rfl⟩ ?_)
    split
    · exact saveFile_yields hworks
    · exact .pure hworks ()
  | server front => exact .pure h ()

/-- A block around an action does what the action does. -/
theorem batch_yields {α : Type} {body : Action α} {a : α} {l : Ledger} (h : s.Works)
    (hbody : ∀ s', s.Evolves s' → s'.ledger = s.ledger → s'.Yields body a l) :
    s.Yields (batch body) a l := by
  refine .bind (enterBatch_yields h) fun s' hs' hl => ?_
  obtain ⟨s₁, hrun, hevolves, hledger⟩ := hbody s' hs' hl
  obtain ⟨s₂, hrun', hevolves', hledger'⟩ := leaveBatch_yields hevolves.works
  refine ⟨s₂, ?_, hevolves.trans hevolves', hledger'.trans hledger⟩
  rw [Act.run_andFinally_ok hrun, Act.run_bind_ok hrun', Act.run_pure]

/-! ### What is done with issues -/

/-- **Asking** counts the question and gives what the ledger says. -/
theorem isDismissed_yields (h : s.Works) (hkey : s.Names key) (severity : Int) :
    s.Yields (isDismissed key severity) (s.ledger.covers key severity) (s.ledger.checked 1) := by
  -- The question is counted first, so the record is looked up one session later.
  refine .bind (count_yields h _) fun s' hs' hl => ?_
  have hrecord : s'.ledger.records key = s.ledger.records key := by rw [hl]
  refine .bind (find_yields hs'.works (hs'.names.mpr hkey)) fun s'' hs'' hl' => ?_
  have hledger : s''.ledger = s.ledger.checked 1 := hl'.trans hl
  rw [Ledger.covers, ← hrecord, ← hledger]
  cases s'.ledger.records key with
  | none => exact .pure hs''.works false
  | some r => exact .pure hs''.works (r.covers severity)

/-- **Copying** a record that is there sets it for the other issue and counts the copy. -/
theorem copy_yields {source target : IssueKey} {r : Record} (h : s.Works) (hsource : s.Names source)
    (htarget : s.Names target) (hr : s.ledger.records source = some r) :
    s.Yields (copy source target) () ((s.ledger.set target (some r)).copied 1) := by
  refine .bind (find_yields h hsource) fun s' hs' hl => ?_
  rw [hr]
  refine .bind (keep_yields hs'.works (hs'.names.mpr htarget) (hs'.takes.mpr (h.takes hr)))
    fun s'' hs'' hl' => ?_
  rw [← hl, ← hl']
  exact count_yields hs''.works _

/-- Without a record there is nothing to copy, only a warning. -/
theorem copy_yields_of_none {source target : IssueKey} (h : s.Works) (hsource : source.Printable)
    (htarget : target.Printable) (hr : s.ledger.records source = none) :
    s.Yields (copy source target) () s.ledger := by
  refine .bind (find_yields h (.inr hsource)) fun s' hs' hl => ?_
  rw [hr, ← hl]
  exact .get_bind (.lift_bind (IssueKey.write_of_printable hsource)
    (.lift_bind (IssueKey.write_of_printable htarget) (note_yields hs'.works _ _ _)))

/-- The record that a dismissal leaves. -/
def dismissal (previous : Option Record) (now : Moment) (severity : Int) (moment : Option Moment) :
    Record where
  since := moment.getD now
  severity := severity
  count := match previous with
    | some p => p.count + 1
    | none => 1

/-- **Dismissing** sets the new record and returns it. -/
theorem dismiss_yields (h : s.Works) (hkey : key.Printable) {severity : Int}
    {moment : Option Moment}
    (hr : s.Takes (dismissal (s.ledger.records key) s.world.now severity moment)) :
    s.Yields (dismiss key severity moment)
      (dismissal (s.ledger.records key) s.world.now severity moment)
      (s.ledger.set key (some (dismissal (s.ledger.records key) s.world.now severity moment))) := by
  refine .bind (find_yields h (.inr hkey)) fun s' hs' hl => .get_bind ?_
  rw [← hs'.now, ← hs'.takes, ← hl] at hr
  rw [← hs'.now, ← hl]
  refine .bind (keep_yields hs'.works (.inr hkey) hr) fun s'' hs'' hl' => .get_bind ?_
  refine .lift_bind (IssueKey.write_of_printable hkey) ?_
  refine .bind (note_yields hs''.works _ _ _) fun s₃ hs₃ hl₃ => ?_
  have hledger : s₃.ledger = s'.ledger.set key
      (some (dismissal (s'.ledger.records key) s'.world.now severity moment)) := hl₃.trans hl'
  rw [← hledger]
  exact .pure hs₃.works _

end Store

end IssueDigest
