import IssueDigest.Proofs.Fleet
/-!
# Stores under separate names

A store names its entries by a front of its own and the text of the issue, and lists them by that front.
Two stores whose fronts are no fronts of each other share no name, whatever the issues are called. So each
of them might as well have the server to itself: its results, its counters and its entries come out as if
it had run alone (`Fleet.runTurns_separate`), and entries that belong to neither stay.

The argument looks at one action of one store at a time. An action is **local** (`Action.Local`) if it
gives the same on two servers that agree under its front, leaves them in agreement there, and leaves
everything beside its front as it is. The calls to the server are local, and what is put together from
local actions is.
-/

namespace IssueDigest

open Store

/-! ### Some of the entries -/

namespace Entries

variable {κ α : Type} {keep keep' : κ → Bool} {key : κ}

/-- The entries with such a key. -/
def those (keep : κ → Bool) (entries : Entries κ α) : Entries κ α := entries.filter fun e => keep e.1

/-- What is among some keys is among fewer of them, too. -/
theorem those_eq_of_imp {entries entries' : Entries κ α} (h : ∀ k, keep k = true → keep' k = true)
    (hsame : entries.those keep' = entries'.those keep') : entries.those keep = entries'.those keep := by
  have hthose (entries : Entries κ α) : (entries.those keep').those keep = entries.those keep := by
    rw [those, those, List.filter_filter]
    refine List.filter_congr fun e _ => ?_
    cases hkeep : keep e.1 with
    | true => rw [h e.1 hkeep]; rfl
    | false => rfl
  rw [← hthose, hsame, hthose]

theorem those_comm (keep keep' : κ → Bool) (entries : Entries κ α) :
    (entries.those keep).those keep' = (entries.those keep').those keep :=
  List.filter_comm _ _ _

variable [DecidableEq κ]

theorem those_put (key : κ) (value : α) (entries : Entries κ α) :
    (entries.put key value).those keep =
      if keep key then (entries.those keep).put key value else entries.those keep := by
  induction entries with
  | nil => cases h : keep key <;> simp [those, put, h]
  | cons e rest ih =>
    obtain ⟨k, v⟩ := e
    by_cases hk : k = key
    · subst hk
      cases h : keep k <;> simp [those, put, h]
    · cases hkeep : keep k <;> cases h : keep key <;> simpa [those, put, hk, hkeep, h] using ih

theorem get?_those (h : keep key = true) (entries : Entries κ α) :
    get? key (entries.those keep) = get? key entries := by
  induction entries with
  | nil => rfl
  | cons e rest ih =>
    obtain ⟨k, v⟩ := e
    by_cases hk : k = key
    · subst hk
      simp [those, get?, h]
    · cases hkeep : keep k <;> simpa [those, get?, hk, hkeep] using ih

end Entries

theorem Table.entries_foldl_erase {κ α : Type} [DecidableEq κ] (keys : List κ) (t : Table κ α) :
    (keys.foldl (fun t key => t.erase key) t).entries = t.entries.those fun k => k ∉ keys := by
  induction keys generalizing t with
  | nil => simp [Entries.those]
  | cons key keys ih =>
    have herase : (t.erase key).entries = t.entries.filter fun e => e.1 ≠ key := rfl
    rw [List.foldl_cons, ih, herase, Entries.those, List.filter_filter, Entries.those]
    refine List.filter_congr fun e _ => ?_
    by_cases h : e.1 = key <;> simp [h]

/-! ### Under a front and beside it -/

/-- Does the name start with the front? -/
def standsUnder (front name : String) : Bool := front.toList.isPrefixOf name.toList

namespace Server

/-- The entries under a front, in order. -/
def under (server : Server) (front : String) : Entries String Held :=
  server.entries.entries.those (standsUnder front)

/-- The other entries, in order. -/
def beside (server : Server) (front : String) : Entries String Held :=
  server.entries.entries.those fun name => !standsUnder front name

/-- Does no call to the server fail? -/
def Calm (server : Server) : Prop := ∀ n c, server.outage n c = false

theorem namesUnder_eq (server : Server) (front : String) :
    server.namesUnder front = (server.under front).map Prod.fst := by
  rw [namesUnder, under, Entries.those, List.filter_map]
  rfl

end Server

namespace Server

/-- Is everything as it was, but for the entries under the front and the number of calls? -/
structure Keeps (front : String) (server server' : Server) : Prop where
  beside : server'.beside front = server.beside front
  inOctets : server'.inOctets = server.inOctets
  outage : server'.outage = server.outage

theorem Keeps.refl (front : String) (server : Server) : server.Keeps front server := ⟨rfl, rfl, rfl⟩

theorem Keeps.trans {front : String} {a b c : Server} (h : a.Keeps front b) (h' : b.Keeps front c) :
    a.Keeps front c :=
  ⟨h'.beside.trans h.beside, h'.inOctets.trans h.inOctets, h'.outage.trans h.outage⟩

theorem Keeps.get? {front : String} {a b : Server} (h : a.Keeps front b) {name : String}
    (hname : standsUnder front name = false) : b.entries.get? name = a.entries.get? name := by
  have hbeside : (!standsUnder front name) = true := by rw [hname]; rfl
  have hentry (server : Server) : server.entries.get? name = Entries.get? name (server.beside front) :=
    (@Entries.get?_those _ _ (fun name => !standsUnder front name) name _ hbeside _).symm
  rw [hentry, hentry, h.beside]

end Server

namespace Session

/-- Do two sessions of one store differ in nothing but the server, and agree there under the store's
front? No call to either server fails. -/
structure Alike (front : String) (s s' : Session) : Prop where
  backing : s.store.backing = .server front
  store : s'.store = s.store
  world : s'.world = { s.world with server := s'.world.server }
  under : s'.world.server.under front = s.world.server.under front
  inOctets : s'.world.server.inOctets = s.world.server.inOctets
  calm : s.world.server.Calm
  calm' : s'.world.server.Calm

end Session

/-- Under the front the servers hold the same. -/
theorem Session.Alike.get? {front : String} {s s' : Session} (h : s.Alike front s') {name : String}
    (hname : standsUnder front name = true) :
    s'.world.server.entries.get? name = s.world.server.entries.get? name := by
  have hentry (server : Server) : server.entries.get? name = Entries.get? name (server.under front) :=
    (Entries.get?_those hname _).symm
  rw [hentry, hentry, h.under]

/-- Under the front the servers hand over the same. -/
theorem Session.Alike.answer? {front : String} {s s' : Session} (h : s.Alike front s') {name : String}
    (hname : standsUnder front name = true) :
    s'.world.server.answer? name = s.world.server.answer? name := by
  rw [Server.answer?, Server.answer?, h.get? hname, h.inOctets]

/-- Does a store under the front look at nothing on the server but the entries there, and leave the others
as they are? -/
structure Action.Local {α : Type} (front : String) (x : Action α) : Prop where
  result : ∀ s s', s.Alike front s' → (x.run s').1 = (x.run s).1
  alike : ∀ s s', s.Alike front s' → (x.run s).2.Alike front (x.run s').2
  keeps : ∀ s s' : Session, s.Alike front s' → s.world.server.Keeps front (x.run s).2.world.server

namespace Action.Local

variable {α β : Type} {front : String} {x : Action α}

/-! ### Putting actions together -/

/-- On sessions that are alike a local action has one result and leaves sessions that are alike. -/
theorem runs (hx : Local front x) {s s' : Session} (h : s.Alike front s') :
    ∃ r s₁ s₁', x.run s = (r, s₁) ∧ x.run s' = (r, s₁') ∧ s₁.Alike front s₁' ∧
      s.world.server.Keeps front s₁.world.server :=
  ⟨(x.run s).1, (x.run s).2, (x.run s').2, rfl, Prod.ext (hx.result s s' h) rfl, hx.alike s s' h,
    hx.keeps s s' h⟩

theorem of_runs (h : ∀ s s' : Session, s.Alike front s' →
    ∃ r s₁ s₁', x.run s = (r, s₁) ∧ x.run s' = (r, s₁') ∧ s₁.Alike front s₁' ∧
      s.world.server.Keeps front s₁.world.server) : Local front x := by
  constructor
  case result =>
    intro s s' hs
    obtain ⟨r, s₁, s₁', hrun, hrun', -⟩ := h s s' hs
    rw [hrun, hrun']
  case alike =>
    intro s s' hs
    obtain ⟨r, s₁, s₁', hrun, hrun', halike, -⟩ := h s s' hs
    rwa [hrun, hrun']
  case keeps =>
    intro s s' hs
    obtain ⟨r, s₁, s₁', hrun, -, -, hkeeps⟩ := h s s' hs
    rwa [hrun]

theorem pure (a : α) : Local front (Pure.pure a : Action α) :=
  ⟨fun _ _ _ => rfl, fun _ _ h => h, fun _ _ _ => .refl _ _⟩

theorem throw (e : Fault) : Local front (MonadExcept.throw e : Action α) :=
  ⟨fun _ _ _ => rfl, fun _ _ h => h, fun _ _ _ => .refl _ _⟩

theorem lift (r : Except Fault α) : Local front (Act.lift r : Action α) := by
  cases r with
  | ok a => exact pure a
  | error e => exact throw e

/-- One action after another, where the second one goes by what the first one can give. -/
theorem bind_of {f : α → Action β} (hx : Local front x)
    (hf : ∀ a, (∃ s s', s.store.backing = .server front ∧ x.run s = (.ok a, s')) → Local front (f a)) :
    Local front (x >>= f) := by
  refine of_runs fun s s' h => ?_
  obtain ⟨r, s₁, s₁', hs, hs', halike, hkeeps⟩ := hx.runs h
  cases r with
  | error e =>
    exact ⟨.error e, s₁, s₁', Act.run_bind_error hs, Act.run_bind_error hs', halike, hkeeps⟩
  | ok a =>
    obtain ⟨r, s₂, s₂', hf₁, hf₁', halike₂, hkeeps₂⟩ := (hf a ⟨s, s₁, h.backing, hs⟩).runs halike
    exact ⟨r, s₂, s₂', (Act.run_bind_ok hs).trans hf₁, (Act.run_bind_ok hs').trans hf₁', halike₂,
      hkeeps.trans hkeeps₂⟩

theorem bind {f : α → Action β} (hx : Local front x) (hf : ∀ a, Local front (f a)) :
    Local front (x >>= f) :=
  hx.bind_of fun a _ => hf a

theorem lift_bind {r : Except Fault α} {f : α → Action β} (hf : ∀ a, r = .ok a → Local front (f a)) :
    Local front (Act.lift r >>= f) := by
  cases r with
  | ok a => exact hf a rfl
  | error e => exact throw e

theorem map (h : Local front x) (f : α → β) : Local front (f <$> x) := by
  rw [map_eq_pure_bind]
  exact h.bind fun a => pure (f a)

/-- Looking at the session, but for what is beside the front. -/
theorem get_bind {f : Session → Action β} (hsame : ∀ s s', s.Alike front s' → f s' = f s)
    (hf : ∀ s, s.store.backing = .server front → Local front (f s)) : Local front (get >>= f) := by
  refine of_runs fun s s' h => ?_
  rw [Act.run_get_bind, Act.run_get_bind, hsame s s' h]
  exact (hf s h.backing).runs h

/-- Changing the session, but for what is beside the front. -/
theorem modifies {g : Session → Session} (halike : ∀ s s', s.Alike front s' → (g s).Alike front (g s'))
    (hkeeps : ∀ s : Session, s.world.server.Keeps front (g s).world.server) :
    Local front (modify g : Action Unit) :=
  ⟨fun _ _ _ => rfl, halike, fun s _ _ => hkeeps s⟩

/-- Changing the session where the server has no part in it. -/
theorem modifies_own {g : Session → Session} (hbacking : ∀ s, (g s).store.backing = s.store.backing)
    (hserver : ∀ s, (g s).world.server = s.world.server)
    (hown : ∀ s server, g (s.withServer server) = (g s).withServer server) :
    Local front (modify g : Action Unit) := by
  refine modifies (fun s s' h => ?_) fun s => by rw [hserver]; exact .refl _ _
  have hsame : g s' = (g s).withServer s'.world.server := by
    rw [← hown s s'.world.server, Session.withServer, ← h.world, ← h.store]
  refine ⟨(hbacking s).trans h.backing, by rw [hsame]; rfl, by rw [hsame]; rfl, ?_, ?_, ?_, ?_⟩
  · rw [hserver, hserver]; exact h.under
  · rw [hserver, hserver]; exact h.inOctets
  · rw [hserver]; exact h.calm
  · rw [hserver]; exact h.calm'

theorem tryCatch {handle : Fault → Action α} (hx : Local front x) (hhandle : ∀ e, Local front (handle e)) :
    Local front (MonadExcept.tryCatch x handle) := by
  refine of_runs fun s s' h => ?_
  obtain ⟨r, s₁, s₁', hs, hs', halike, hkeeps⟩ := hx.runs h
  cases r with
  | ok a => exact ⟨.ok a, s₁, s₁', Act.run_tryCatch_ok hs, Act.run_tryCatch_ok hs', halike, hkeeps⟩
  | error e =>
    obtain ⟨r, s₂, s₂', he, he', halike₂, hkeeps₂⟩ := (hhandle e).runs halike
    exact ⟨r, s₂, s₂', (Act.run_tryCatch_error hs).trans he, (Act.run_tryCatch_error hs').trans he',
      halike₂, hkeeps.trans hkeeps₂⟩

/-! ### What stores do -/

theorem note (level : Level) (message : Text) (context : List (String × Json)) :
    Local front (Store.note level message context) :=
  modifies_own (fun _ => rfl) (fun _ => rfl) fun _ _ => rfl

theorem count (f : Counters → Counters) : Local front (modify (Session.count · f) : Action Unit) :=
  modifies_own (fun _ => rfl) (fun _ => rfl) fun _ _ => rfl

theorem atMoment (now : Moment) : Local front (modify (Session.atMoment · now) : Action Unit) :=
  modifies_own (fun _ => rfl) (fun _ => rfl) fun _ _ => rfl

theorem call (c : Call) : Local front (Store.call c) := by
  refine of_runs fun s s' h => ?_
  refine ⟨.ok (), called s, called s', run_call (h.calm _ c), run_call (h.calm' _ c), ?_, ⟨rfl, rfl, rfl⟩⟩
  obtain ⟨hbacking, hstore, hworld, hunder, hoctets, hcalm, hcalm'⟩ := h
  refine ⟨hbacking, hstore, ?_, hunder, hoctets, hcalm, hcalm'⟩
  simp only [called]
  rw [hworld]

/-- The name of an issue's entry starts with the front. -/
theorem standsUnder_of_entryName {key : IssueKey} {name : String} (h : entryName front key = .ok name) :
    standsUnder front name = true := by
  obtain ⟨text, -, rfl⟩ := map_eq_ok_iff.mp h
  rw [standsUnder, String.toList_append]
  exact List.isPrefixOf_iff_prefix.mpr (List.prefix_append _ _)

/-- **Looking a record up.** -/
theorem find (key : IssueKey) : Local front (Store.find key) := by
  refine get_bind (fun s s' h => by rw [h.store]) fun s hs => ?_
  rw [hs]
  refine lift_bind fun name hname => (call .get).bind fun _ => get_bind (fun s s' h => ?_) fun s _ => ?_
  · rw [h.answer? (standsUnder_of_entryName hname)]
  · cases s.world.server.answer? name with
    | none => exact pure none
    | some answer => exact (lift _).map some

/-- **Keeping a record.** -/
theorem keep (key : IssueKey) (r : Record) : Local front (Store.keep key r) := by
  refine get_bind (fun s s' h => by rw [h.store]) fun s hs => ?_
  rw [hs]
  refine lift_bind fun name hname => lift_bind fun entry _ =>
    tryCatch ((call .set).bind fun _ => ?_) fun e => ?_
  · have hunder := standsUnder_of_entryName hname
    refine modifies (fun s s' h => ?_) fun s => ?_
    · obtain ⟨hbacking, hstore, hworld, hsame, hoctets, hcalm, hcalm'⟩ := h
      refine ⟨hbacking, hstore, ?_, ?_, hoctets, hcalm, hcalm'⟩
      · dsimp only
        rw [hworld]
      · change Entries.those _ (Entries.put _ _ _) = Entries.those _ (Entries.put _ _ _)
        rw [Entries.those_put, Entries.those_put, if_pos hunder, if_pos hunder]
        exact congrArg _ hsame
    · refine ⟨?_, rfl, rfl⟩
      change Entries.those _ (Entries.put _ _ _) = _
      rw [Entries.those_put, if_neg (by simp [hunder])]
      rfl
  · exact (count _).bind fun _ => (note _ _ _).bind fun _ => throw e

/-- Deleting entries under the front. -/
theorem deleteEntries {names : List String} (hnames : ∀ name ∈ names, standsUnder front name = true) :
    Local front (Store.deleteEntries names) := by
  refine of_runs fun s s' h => ?_
  have hpresent : (names.filter fun name => (s'.world.server.entries.get? name).isSome) =
      names.filter fun name => (s.world.server.entries.get? name).isSome :=
    List.filter_congr fun name hname => by rw [h.get? (hnames name hname)]
  refine ⟨_, _, _, run_deleteEntries (h.calm _ .delete),
    hpresent ▸ run_deleteEntries (h.calm' _ .delete), ?_, ?_, rfl, rfl⟩
  · obtain ⟨hbacking, hstore, hworld, hsame, hoctets, hcalm, hcalm'⟩ := h
    refine ⟨hbacking, hstore, ?_, ?_, hoctets, hcalm, hcalm'⟩
    · dsimp only [deleted]
      rw [hworld, hpresent]
    · rw [deleted, deleted, hpresent, Server.under, Server.under, Table.entries_foldl_erase,
        Table.entries_foldl_erase, Entries.those_comm, Entries.those_comm _ _ s.world.server.entries.entries]
      exact congrArg _ hsame
  · rw [deleted, Server.beside, Table.entries_foldl_erase, Entries.those_comm]
    refine List.filter_eq_self.mpr fun e he => decide_eq_true fun hmem => ?_
    have hbeside : (!standsUnder front e.1) = true := (List.mem_filter.mp he).2
    rw [hnames e.1 (List.mem_filter.mp hmem).1] at hbeside
    cases hbeside

/-- **Dropping a record.** -/
theorem drop (key : IssueKey) : Local front (Store.drop key) := by
  refine get_bind (fun s s' h => by rw [h.store]) fun s hs => ?_
  rw [hs]
  refine lift_bind fun name hname => (deleteEntries ?_).bind fun n => pure _
  exact fun n hn => List.mem_singleton.mp hn ▸ standsUnder_of_entryName hname

theorem entryNames : Local front (Store.entryNames front) := by
  refine (call .list).bind fun _ => get_bind (fun s s' h => ?_) fun s _ => pure _
  rw [Server.namesUnder_eq, Server.namesUnder_eq, h.under]

theorem standsUnder_of_entryNames {names : List String}
    (h : ∃ s s', s.store.backing = .server front ∧ (Store.entryNames front).run s = (.ok names, s')) :
    ∀ name ∈ names, standsUnder front name = true := by
  obtain ⟨s, s', -, hrun⟩ := h
  obtain ⟨⟨⟩, s₁, -, hlisted⟩ := Act.run_bind_eq_ok hrun
  obtain rfl := Except.ok.inj (Prod.mk.inj hlisted).1
  exact fun name hname => (Server.mem_namesUnder_iff.mp hname).2

/-- **Dropping all records.** -/
theorem clear : Local front Store.clear := by
  refine get_bind (fun s s' h => by rw [h.store]) fun s hs => ?_
  rw [hs]
  refine entryNames.bind_of fun names hnames => ?_
  split
  · exact (deleteEntries (standsUnder_of_entryNames hnames)).bind fun _ => pure ()
  · exact pure ()

theorem size : Local front Store.size := by
  refine get_bind (fun s s' h => by rw [h.store]) fun s hs => ?_
  rw [hs]
  exact entryNames.bind fun names => pure _

theorem enterBatch : Local front Store.enterBatch := by
  refine modifies (fun s s' h => ?_) fun s => ?_
  · rw [h.store, h.backing]
    exact h
  · split <;> exact .refl _ _

theorem leaveBatch : Local front Store.leaveBatch := by
  refine get_bind (fun s s' h => by rw [h.store]) fun s hs => ?_
  rw [hs]
  exact pure ()

theorem isDismissed (key : IssueKey) (severity : Int) : Local front (Store.isDismissed key severity) := by
  refine (count _).bind fun _ => (find key).bind fun found => ?_
  cases found with
  | none => exact pure false
  | some r => exact pure _

theorem copy (source target : IssueKey) : Local front (Store.copy source target) := by
  refine (find source).bind fun found => ?_
  cases found with
  | none =>
    refine get_bind (fun s s' h => by rw [h.store]) fun s hs => ?_
    exact (lift _).bind fun _ => (lift _).bind fun _ => note _ _ _
  | some r => exact (keep target r).bind fun _ => count _

theorem dismiss (key : IssueKey) (severity : Int) (moment : Option Moment) :
    Local front (Store.dismiss key severity moment) := by
  refine (find key).bind fun previous => get_bind (fun s s' h => by rw [h.world]) fun s _ => ?_
  refine (keep key _).bind fun _ => get_bind (fun s s' h => by rw [h.store]) fun s _ => ?_
  exact (lift _).bind fun text => (note _ _ _).bind fun _ => pure _

theorem closed : Action.Closed (fun {_} x => Local front x) :=
  ⟨pure, bind, fun _ => lift _, note, isDismissed, copy⟩

theorem batch {body : Action α} (h : Local front body) : Local front (Store.batch body) := by
  refine enterBatch.bind fun _ => (tryCatch (h.map _) fun e => pure _).bind fun result => ?_
  exact leaveBatch.bind fun _ => lift result

theorem dedup (issues : List Issue) : Local front (Dedup.run issues) := by
  refine (note _ _ _).bind fun _ => (batch (closed.align _)).bind fun _ => ?_
  split
  · exact pure issues
  · exact (note _ _ _).bind fun _ => pure _

/-- **Every operation on a store is local.** -/
theorem op (o : Op) : Local front o.run := by
  cases o with
  | dismiss => exact (dismiss _ _ _).map _
  | undismiss => exact (drop _).map _
  | check => exact (isDismissed _ _).map _
  | get => exact (find _).map _
  | copy => exact (copy _ _).map _
  | clear => exact clear.map _
  | size => exact size.map _
  | enterBatch => exact enterBatch.map _
  | leaveBatch => exact leaveBatch.map _
  | deduplicate => exact (dedup _).map _

theorem turn (t : Turn) : Local front t.run := (atMoment t.now).bind fun _ => op t.op

end Action.Local

/-! ### Operations of several stores -/

/-- Is none of the fronts a front of another one? -/
def Fronts.Apart {ι : Type} (fronts : ι → String) : Prop :=
  ∀ i j, i ≠ j → ¬(fronts i).toList <+: (fronts j).toList

/-- No name starts with two fronts that are apart. -/
theorem Fronts.Apart.not_standsUnder {ι : Type} {fronts : ι → String} (h : Fronts.Apart fronts) {i j : ι}
    (hne : i ≠ j) {name : String} (hi : standsUnder (fronts i) name = true) :
    (!standsUnder (fronts j) name) = true := by
  rw [Bool.not_eq_true', Bool.eq_false_iff]
  intro hj
  rcases List.prefix_or_prefix_of_prefix (List.isPrefixOf_iff_prefix.mp hi)
    (List.isPrefixOf_iff_prefix.mp hj) with hfront | hfront
  · exact h i j hne hfront
  · exact h j i hne.symm hfront

namespace Fleet

variable {ι : Type} [DecidableEq ι] {fronts : ι → String} {f : Fleet ι} {i j : ι}

/-- What belongs to one of the stores, in order. -/
def ownOf {β : Type} (i : ι) (items : List (ι × β)) : List β :=
  (items.filter fun e => e.1 = i).map Prod.snd

theorem ownOf_cons_self {β : Type} (i : ι) (b : β) (items : List (ι × β)) :
    ownOf i ((i, b) :: items) = b :: ownOf i items := by
  simp [ownOf]

theorem ownOf_cons_of_ne {β : Type} (h : j ≠ i) (b : β) (items : List (ι × β)) :
    ownOf i ((j, b) :: items) = ownOf i items := by
  simp [ownOf, h]

/-- Is a store of the fleet, as far as it can tell, where the session is? -/
abbrev Seems (f : Fleet ι) (fronts : ι → String) (i : ι) (s : Session) : Prop :=
  (f.session i).Alike (fronts i) s

section Seems

variable {α : Type} {x : Action α} {s s' : Session}

/-- What a store does is the same by itself. -/
theorem Seems.act_self (h : f.Seems fronts i s) (hx : Action.Local (fronts i) x) :
    (f.act i x).1 = (x.run s).1 ∧ (f.act i x).2.Seems fronts i (x.run s).2 := by
  refine ⟨(hx.result _ _ h).symm, ?_⟩
  rw [Seems, snd_act, session_put_self]
  exact hx.alike _ _ h

/-- What another store does goes unnoticed. -/
theorem Seems.act_of_ne (h : f.Seems fronts i s) (h' : f.Seems fronts j s')
    (hapart : Fronts.Apart fronts) (hne : j ≠ i) (hx : Action.Local (fronts j) x) :
    (f.act j x).2.Seems fronts i s := by
  obtain ⟨hbeside, hoctets, houtage⟩ := hx.keeps _ _ h'
  rw [Seems, snd_act, session_put_of_ne hne.symm]
  obtain ⟨hbacking, hstore, hworld, hunder, hoctets', hcalm, hcalm'⟩ := h
  refine ⟨hbacking, hstore, hworld, ?_, hoctets'.trans hoctets.symm, ?_, hcalm'⟩
  · refine hunder.trans (Entries.those_eq_of_imp (fun name hname => ?_) hbeside).symm
    exact hapart.not_standsUnder hne.symm hname
  · exact fun n c => (congrFun (congrFun houtage n) c).trans (hcalm n c)

end Seems

theorem runTurns_cons (f : Fleet ι) (i : ι) (t : Turn) (rest : List (ι × Turn)) :
    f.runTurns ((i, t) :: rest) =
      ((i, (f.act i t.run).1) :: ((f.act i t.run).2.runTurns rest).1,
        ((f.act i t.run).2.runTurns rest).2) := rfl

/-- The store whose turn it is goes on as it would by itself, and the others stay. -/
theorem Seems.turn {alone : ι → Session} (hseems : ∀ i, f.Seems fronts i (alone i))
    (hapart : Fronts.Apart fronts) (j : ι) (t : Turn) (i : ι) :
    (f.act j t.run).2.Seems fronts i (Function.update alone j (t.run.run (alone j)).2 i) := by
  by_cases hi : i = j
  · subst hi
    rw [Function.update_self]
    exact ((hseems i).act_self (.turn t)).2
  · rw [Function.update_of_ne hi]
    exact (hseems i).act_of_ne (hseems j) hapart (Ne.symm hi) (.turn t)

/-- **Turn by turn** each store stays where it would be by itself. -/
theorem runTurns_seems {alone : ι → Session} (hseems : ∀ i, f.Seems fronts i (alone i))
    (hapart : Fronts.Apart fronts) (turns : List (ι × Turn)) (i : ι) :
    ownOf i (f.runTurns turns).1 = ((alone i).runTurns (ownOf i turns)).1 ∧
      (f.runTurns turns).2.Seems fronts i ((alone i).runTurns (ownOf i turns)).2 := by
  induction turns generalizing f alone with
  | nil => exact ⟨rfl, hseems i⟩
  | cons turn rest ih =>
    obtain ⟨j, t⟩ := turn
    obtain ⟨hresults, hrest⟩ := ih (Seems.turn hseems hapart j t)
    rw [runTurns_cons]
    by_cases hi : j = i
    · subst hi
      rw [Function.update_self] at hresults hrest
      rw [ownOf_cons_self, ownOf_cons_self, hresults, ((hseems j).act_self (.turn t)).1]
      exact ⟨rfl, hrest⟩
    · rw [Function.update_of_ne (Ne.symm hi)] at hresults hrest
      rw [ownOf_cons_of_ne hi, ownOf_cons_of_ne hi]
      exact ⟨hresults, hrest⟩

/-- Entries that belong to no store stay. -/
theorem get?_runTurns {alone : ι → Session} (hseems : ∀ i, f.Seems fronts i (alone i))
    (hapart : Fronts.Apart fronts) (turns : List (ι × Turn)) {name : String}
    (hname : ∀ i, standsUnder (fronts i) name = false) :
    (f.runTurns turns).2.server.entries.get? name = f.server.entries.get? name := by
  induction turns generalizing f alone with
  | nil => rfl
  | cons turn rest ih =>
    obtain ⟨j, t⟩ := turn
    rw [runTurns_cons]
    refine (ih (Seems.turn hseems hapart j t)).trans ?_
    exact ((Action.Local.turn t).keeps _ _ (hseems j)).get? (hname j)

/-- **Stores whose fronts are apart do not notice each other.** Whatever operations they carry out and in
whatever order these follow one another, what each store answers, what it counts and the entries under its
front are as if the operations of the others had not been, and entries under no front stay as they were. -/
theorem runTurns_separate (hbacking : ∀ i, (f.sessions i).store.backing = .server (fronts i))
    (hapart : Fronts.Apart fronts) (hcalm : f.server.Calm) (turns : List (ι × Turn)) :
    (∀ i, ownOf i (f.runTurns turns).1 = ((f.session i).runTurns (ownOf i turns)).1 ∧
        ((f.runTurns turns).2.session i).store = ((f.session i).runTurns (ownOf i turns)).2.store ∧
        (f.runTurns turns).2.server.under (fronts i) =
          ((f.session i).runTurns (ownOf i turns)).2.world.server.under (fronts i)) ∧
      ∀ name, (∀ i, standsUnder (fronts i) name = false) →
        (f.runTurns turns).2.server.entries.get? name = f.server.entries.get? name := by
  have hseems (i : ι) : f.Seems fronts i (f.session i) :=
    ⟨hbacking i, rfl, rfl, rfl, rfl, hcalm, hcalm⟩
  refine ⟨fun i => ?_, fun name hname => get?_runTurns hseems hapart turns hname⟩
  obtain ⟨hresults, halike⟩ := runTurns_seems hseems hapart turns i
  exact ⟨hresults, halike.store.symm, halike.under.symm⟩

/-- Two stores on a server that holds nothing. -/
def two : Fleet Bool where
  server := .blank
  sessions i := ⟨onServer "store" (if i then "a:" else "b:"), .blank⟩

/-- They take turns at the same visit. -/
theorem runTurns_separate_two :
    Fronts.Apart (fun i : Bool => if i then "a:" else "b:") ∧ two.server.Calm ∧
      ∀ i, ownOf i (two.runTurns (visit.flatMap fun t => [(true, t), (false, t)])).1 =
        ((two.session i).runTurns (ownOf i (visit.flatMap fun t => [(true, t), (false, t)]))).1 := by
  have hapart : Fronts.Apart (fun i : Bool => if i then "a:" else "b:") := by
    unfold Fronts.Apart
    decide +kernel
  have hcalm : two.server.Calm := fun _ _ => rfl
  exact ⟨hapart, hcalm, fun i => ((runTurns_separate (fun _ => rfl) hapart hcalm _).1 i).1⟩

end Fleet

end IssueDigest
