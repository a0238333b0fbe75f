import IssueDigest.Proofs.Choosing
import IssueDigest.Proofs.Letters
/-!
# The first store that can be used

One kind of store stands in for another in the order server, file, memory (`Backend.turn`). Of the kinds
from the one that is asked for on, `create` opens the first that can be used (`World.Offers`): the store
can be constructed, and a server answers besides.

The search is a loop over the candidates, and each attempt has to do with its own part of the world: with
the server, with the disk, or with nothing (`World.Untouched`). So an attempt that fails (`Attempt`)
changes nothing about what is offered behind it, and what the search finds can be read off the world in
front of it (`run_openFirst`). An attempt says this and that to the journal, but never that a store stands
in for another one; this is said at the end, where it is the case.
-/

namespace IssueDigest

open Store

/-! ### The order of the kinds -/

namespace Backend

/-- The turn of a kind: a server comes first, and memory comes last. -/
def turn : Backend → Nat
  | server => 0
  | file => 1
  | memory => 2

theorem turn_injective : Function.Injective turn := fun a b => by
  cases a <;> cases b <;> decide

theorem mem_candidates_iff {wanted kind : Backend} :
    kind ∈ wanted :: fallbacks wanted ↔ wanted.turn ≤ kind.turn := by
  cases wanted <;> cases kind <;> decide

theorem pairwise_turn (wanted : Backend) :
    (wanted :: fallbacks wanted).Pairwise fun a b => a.turn < b.turn := by
  cases wanted <;> decide

theorem nodup_candidates (wanted : Backend) : (wanted :: fallbacks wanted).Nodup :=
  (pairwise_turn wanted).imp fun hlt heq => by rw [heq] at hlt; exact lt_irrefl _ hlt

end Backend

/-! ### What is offered -/

/-- Makes a store of a kind; whether a server is there is not asked. -/
def Settings.construct (settings : Settings) : Backend → Act World Store
  | .server => openServer "redis" settings.serverUrl settings.front
  | .file => openFile "file" settings.filePath
  | .memory => pure (inMemory "memory")

/-- Does the server answer a ping, and with yes? -/
def Server.Answers (server : Server) : Prop :=
  server.outage server.calls .ping = false ∧ server.awake = true

/-- Can a store of the kind be constructed in the world, and does the server answer if it is one on a
server? -/
def World.Offers (w : World) (settings : Settings) (kind : Backend) : Prop :=
  (∃ store, ((settings.construct kind).run w).1 = .ok store) ∧ (kind = .server → w.server.Answers)

/-- Can a file store be constructed, or is it a refusal of the file system or of a value if it cannot? -/
def World.FileWithinReach (w : World) (settings : Settings) : Prop :=
  ∀ e, ((settings.construct .file).run w).1 = .error e → e.isOs = true ∨ e.isRefusal = true

/-- Is the part of the world that stores of the kind have to do with as it was? -/
def World.Untouched (w w' : World) : Backend → Prop
  | .server => w'.server = w.server
  | .file => w'.disk = w.disk
  | .memory => True

section Offers

variable {settings : Settings} {kind : Backend} {w w' w'' : World}

theorem World.untouched_of_journal {journal : Journal} :
    w.Untouched { w with journal } kind := by
  cases kind <;> trivial

theorem World.Untouched.trans (h : w.Untouched w' kind) (h' : w'.Untouched w'' kind) :
    w.Untouched w'' kind := by
  cases kind with
  | memory => trivial
  | file => exact Eq.trans h' h
  | server => exact Eq.trans h' h

/-- Only the part of the kind itself is touched. -/
theorem World.untouched_of_ne {other : Backend} (hother : other ≠ kind)
    (hserver : kind ≠ .server → w'.server = w.server) (hdisk : kind ≠ .file → w'.disk = w.disk) :
    w.Untouched w' other := by
  cases other with
  | server => exact hserver hother.symm
  | file => exact hdisk hother.symm
  | memory => trivial

/-- Whether a file store can be opened, and with which records, is a matter of the disk. -/
theorem Store.result_openFile (name path : String) (h : w'.disk = w.disk) :
    ((openFile name path).run w').1 = ((openFile name path).run w).1 := by
  rw [openFile, Act.run_get_bind, Act.run_get_bind, h]
  cases w.disk.ensureDirectory (Path.ofString path).parent with
  | mk disk made =>
  cases made with
  | error e => rfl
  | ok =>
    dsimp only
    rw [Act.run_set_bind, Act.run_set_bind, Act.run_bind_ok (Act.run_lift_ok () _),
      Act.run_bind_ok (Act.run_lift_ok () _)]
    cases disk.holds (Path.ofString path) with
    | error e => rfl
    | ok there =>
      rw [Act.run_bind_ok (Act.run_lift_ok there _), Act.run_bind_ok (Act.run_lift_ok there _)]
      split
      · rfl
      · split
        · rfl
        · split
          · rfl
          · rfl

theorem result_construct (h : w.Untouched w' kind) :
    ((settings.construct kind).run w').1 = ((settings.construct kind).run w).1 := by
  cases kind with
  | memory => rfl
  | file => exact result_openFile _ _ h
  | server =>
    rw [Settings.construct, run_openServer, run_openServer, show w'.server = w.server from h]

/-- What is offered of a kind is a matter of its own part of the world. -/
theorem offers_iff (h : w.Untouched w' kind) : w'.Offers settings kind ↔ w.Offers settings kind := by
  rw [World.Offers, World.Offers, result_construct h]
  refine and_congr_right fun _ => imp_congr_right fun hserver => ?_
  subst hserver
  rw [show w'.server = w.server from h]

theorem fileWithinReach_iff (h : w.Untouched w' .file) :
    w'.FileWithinReach settings ↔ w.FileWithinReach settings := by
  rw [World.FileWithinReach, World.FileWithinReach, result_construct h]

theorem offers_server_iff :
    w.Offers settings .server ↔ w.server.isUsable settings.serverUrl = true := by
  rw [World.Offers, Settings.construct, run_openServer, Server.isUsable, Server.Answers]
  cases w.server.checkAddress settings.serverUrl with
  | error e => simp [Except.map, Except.isOk, Except.toBool]
  | ok => simp [Except.map, Except.isOk, Except.toBool]

theorem result_construct_server (h : w.server.isUsable settings.serverUrl = true) :
    ((settings.construct .server).run w).1 = .ok (onServer "redis" settings.front) := by
  obtain ⟨store, hstore⟩ := (offers_server_iff.mpr h).1
  rw [Settings.construct, run_openServer] at hstore ⊢
  cases haddress : w.server.checkAddress settings.serverUrl with
  | error e =>
    rw [haddress] at hstore
    cases hstore
  | ok => rfl

theorem offers_file_iff : w.Offers settings .file ↔
    ∃ store, ((openFile "file" settings.filePath).run w).1 = .ok store := by
  rw [World.Offers, Settings.construct]
  exact and_iff_left nofun

/-- A memory store is always offered. -/
theorem offers_memory : w.Offers settings .memory := ⟨⟨inMemory "memory", rfl⟩, nofun⟩

end Offers

/-! ### Notices -/

/-- What a notice that a store stands in for another one begins with. -/
def noticeFront : Text := "Using fallback dismissal store"

/-- The entries of the journal that say that a store stands in for another one. -/
def Journal.notices (j : Journal) : List Entry :=
  j.entries.filter fun e => noticeFront.isPrefixOf e.message

/-- What is said besides: the kind of the store, and the kind that was asked for. -/
def noticeContext (wanted kind : Backend) : List (String × Json) :=
  [("backend", .string kind.word), ("primary_failed", .string wanted.word)]

/-- The notice that a store stands in for the one that was asked for. -/
def standsIn (wanted kind : Backend) : Entry :=
  ⟨.warning, Text.ofString ("Using fallback dismissal store | Context: \x7b\"backend\": \"" ++
    kind.word ++ "\", \"primary_failed\": \"" ++ wanted.word ++ "\"\x7d")⟩

/-- The entry that is made of a notice and what is said besides. -/
def noticeEntry (wanted kind : Backend) : Entry :=
  ⟨.warning, withContext noticeFront
    ((noticeContext wanted kind).map fun c => (Text.ofString c.1, c.2))⟩

theorem noticeEntry_eq {wanted kind : Backend} (h : wanted.turn < kind.turn) :
    noticeEntry wanted kind = standsIn wanted kind := by
  cases wanted with
  | memory => cases kind <;> exact absurd h (by decide)
  | file =>
    cases kind with
    | memory => decide +kernel
    | _ => exact absurd h (by decide)
  | server =>
    cases kind with
    | server => exact absurd h (by decide)
    | _ => decide +kernel

/-- Is the journal as it was, as far as its threshold and its notices go? -/
structure Journal.SaysAsMuch (j j' : Journal) : Prop where
  threshold : j'.threshold = j.threshold
  notices : j'.notices = j.notices

namespace Journal

variable {j : Journal} {message : Text}

theorem exists_withContext (message : Text) (context : Context) :
    ∃ rest, withContext message context = message ++ rest := by
  rw [withContext]
  split
  · exact ⟨[], (List.append_nil _).symm⟩
  · exact ⟨_, List.append_assoc _ _ _⟩

/-- A message with another first letter is no notice. -/
theorem saysAsMuch_note {c : CodePoint} (level : Level) (context : Context)
    (hhead : message.head? = some c) (hc : c ≠ .char 'U') :
    j.SaysAsMuch (j.note level message context) := by
  rw [note]
  split
  · refine ⟨rfl, ?_⟩
    obtain ⟨rest, hrest⟩ := exists_withContext message context
    obtain ⟨more, rfl⟩ := List.head?_eq_some_iff.mp hhead
    have hfront : noticeFront.isPrefixOf (withContext (c :: more) context) = false := by
      rw [hrest]
      exact Bool.and_eq_false_imp.mpr fun h => absurd (beq_iff_eq.mp h).symm hc
    rw [notices, List.filter_append, List.filter_singleton, hfront]
    exact List.append_nil _
  · exact ⟨rfl, rfl⟩

end Journal

/-- A notice is kept by a journal that keeps messages for information. -/
theorem World.notices_note {w : World} (hlevel : w.journal.threshold = .info)
    (wanted kind : Backend) :
    (w.note .warning noticeFront (noticeContext wanted kind)).journal.notices =
      w.journal.notices ++ [noticeEntry wanted kind] := by
  obtain ⟨rest, hrest⟩ := Journal.exists_withContext noticeFront
    ((noticeContext wanted kind).map fun c => (Text.ofString c.1, c.2))
  have hnotice : noticeFront.isPrefixOf (noticeEntry wanted kind).message = true := by
    rw [noticeEntry, hrest, List.isPrefixOf_iff_prefix]
    exact List.prefix_append _ _
  rw [World.note, Journal.note, hlevel, if_pos (by decide), ← noticeEntry, Journal.notices,
    List.filter_append, List.filter_singleton, hnotice]
  rfl

namespace Store

/-- What is said while a store is opened is no notice. -/
theorem head_of_openingMessages :
    ∀ message ∈ openingMessages, ∃ c, message.head? = some c ∧ c ≠ .char 'U' := by
  have hheads : ∀ message ∈ openingMessages,
      message.head?.any fun c => decide (c ≠ .char 'U') := by decide +kernel
  intro message hmessage
  have hany := hheads message hmessage
  cases hhead : message.head? with
  | none =>
    rw [hhead] at hany
    cases hany
  | some c =>
    rw [hhead] at hany
    exact ⟨c, rfl, of_decide_eq_true hany⟩

theorem survivesOpening_saysAsMuch (j : Journal) :
    SurvivesOpening fun w => j.SaysAsMuch w.journal where
  disk _ _ h := h
  call _ h := h
  note level message hmessage context w h := by
    obtain ⟨c, hhead, hc⟩ := head_of_openingMessages message hmessage
    have hkept : w.journal.SaysAsMuch (w.note level message context).journal :=
      Journal.saysAsMuch_note level _ hhead hc
    exact ⟨hkept.threshold.trans h.threshold, hkept.notices.trans h.notices⟩

/-! ### One attempt -/

/-- What trying to open a store of a kind comes to: the store that can be constructed if the kind is
offered, and none otherwise; what the other kinds have to do with is left alone. -/
structure Attempt (settings : Settings) (kind : Backend) (w : World) (found : Option Store)
    (w' : World) : Prop where
  run : (tryOpen settings kind).run w = (.ok found, w')
  some : ∀ store, found = some store → w.Offers settings kind ∧
    ((settings.construct kind).run w).1 = .ok store
  none : found = none → ¬ w.Offers settings kind
  elsewhere : ∀ other, other ≠ kind → w.Untouched w' other
  journal : w.journal.SaysAsMuch w'.journal

section Attempt

variable {settings : Settings} {kind : Backend} {w w' : World}

/-- The journal of an attempt is a matter of what opening says at all. -/
theorem saysAsMuch_of_tryOpen {r : Except Fault (Option Store)}
    (h : (tryOpen settings kind).run w = (r, w')) : w.journal.SaysAsMuch w'.journal := by
  have hkept := (survivesOpening_saysAsMuch w.journal).tryOpen settings kind w ⟨rfl, rfl⟩
  rwa [h] at hkept

theorem attempt_server (settings : Settings) (w : World) :
    ∃ found w', Attempt settings .server w found w' := by
  obtain ⟨server, journal, hrun⟩ := run_tryOpen_server settings w
  refine ⟨_, _, hrun, fun store hfound => ?_, fun hfound => ?_, fun other hother => ?_,
    saysAsMuch_of_tryOpen hrun⟩
  · split at hfound
    · next husable =>
      obtain rfl := Option.some.inj hfound
      exact ⟨offers_server_iff.mpr husable, result_construct_server husable⟩
    · cases hfound
  · rw [offers_server_iff]
    intro husable
    rw [if_pos husable] at hfound
    cases hfound
  · exact World.untouched_of_ne hother (fun hkind => absurd rfl hkind) fun _ => rfl

/-- A file store that cannot be opened, for a fault that is passed over, is none. -/
theorem attempt_file (hfile : w.FileWithinReach settings) :
    ∃ found w', Attempt settings .file w found w' := by
  have hserver : ((openFile "file" settings.filePath).run w).2.server = w.server :=
    preserves_openFile (P := fun w' => w'.server = w.server) _ _ (fun _ _ h => h)
      (fun _ _ h => h) w rfl
  cases hopen : (openFile "file" settings.filePath).run w with
  | mk r w₁ =>
  rw [hopen] at hserver
  cases r with
  | ok store =>
    have hrun : (tryOpen settings .file).run w = (.ok (some store), _) :=
      Act.run_tryCatch_ok (Act.run_bind_ok hopen)
    refine ⟨_, _, hrun, fun found hfound => ?_, nofun, fun other hother => ?_,
      saysAsMuch_of_tryOpen hrun⟩
    · obtain rfl := Option.some.inj hfound
      exact ⟨offers_file_iff.mpr ⟨store, congrArg Prod.fst hopen⟩, congrArg Prod.fst hopen⟩
    · exact World.untouched_of_ne hother (fun _ => hserver) fun hkind => absurd rfl hkind
  | error e =>
    have hpassed : isPassedOver e = true := by
      obtain he | he := hfile e (congrArg Prod.fst hopen)
      · simp [isPassedOver, he]
      · simp [isPassedOver, he]
    have hrun : (tryOpen settings .file).run w = (.ok none, w₁.note .error
        "Failed to create dismissal store"
        [("backend_type", .string Backend.file.word), ("error", .text e.message)]) := by
      refine (Act.run_tryCatch_error (Act.run_bind_error hopen)).trans ?_
      rw [if_pos hpassed]
      rfl
    refine ⟨_, _, hrun, nofun, fun _ hoffers => ?_, fun other hother => ?_,
      saysAsMuch_of_tryOpen hrun⟩
    · obtain ⟨store, hstore⟩ := offers_file_iff.mp hoffers
      rw [hopen] at hstore
      cases hstore
    · exact World.untouched_of_ne hother (fun _ => hserver) fun hkind => absurd rfl hkind

theorem attempt_memory (settings : Settings) (w : World) :
    ∃ found w', Attempt settings .memory w found w' := by
  have hrun : (tryOpen settings .memory).run w = (.ok (some (inMemory "memory")), _) := rfl
  refine ⟨_, _, hrun, fun found hfound => ?_, nofun, fun other hother => ?_,
    saysAsMuch_of_tryOpen hrun⟩
  · obtain rfl := Option.some.inj hfound
    exact ⟨offers_memory, rfl⟩
  · exact World.untouched_of_ne hother (fun _ => rfl) fun _ => rfl

/-- **Every attempt comes to an end**, with a store if the kind is offered. -/
theorem exists_attempt (hfile : kind = .file → w.FileWithinReach settings) :
    ∃ found w', Attempt settings kind w found w' := by
  cases kind with
  | server => exact attempt_server settings w
  | file => exact attempt_file (hfile rfl)
  | memory => exact attempt_memory settings w

end Attempt

/-! ### The search -/

section Search

variable {settings : Settings} {kind : Backend} {before after : List Backend} {w : World}

theorem run_openFirst_found {store : Store} {w' : World} (wanted : Backend) (rest : List Backend)
    (h : (tryOpen settings kind).run w = (.ok (some store), w')) :
    (openFirst settings wanted (kind :: rest)).run w =
      (.ok store, if kind = wanted then w'
        else w'.note .warning noticeFront (noticeContext wanted kind)) := by
  rw [openFirst, Act.run_bind_ok h]
  by_cases heq : kind = wanted
  · rw [if_pos heq]
    dsimp only
    rw [if_neg (not_not.mpr heq)]
    rfl
  · rw [if_neg heq]
    dsimp only
    rw [if_pos heq]
    rfl

/-- **What the search ends with.** The kinds in front of the first one that is offered are tried one by
one, this one's store is what is found, and no kind behind it is touched; a notice tells if it is not the
kind that was wanted. -/
theorem run_openFirst (wanted : Backend) (hnodup : (before ++ kind :: after).Nodup)
    (hbefore : ∀ other ∈ before, ¬ w.Offers settings other) (hkind : w.Offers settings kind)
    (hfile : .file ∈ before ++ kind :: after → w.FileWithinReach settings) :
    ∃ store w', (openFirst settings wanted (before ++ kind :: after)).run w = (.ok store, w') ∧
      ((settings.construct kind).run w).1 = .ok store ∧
      (∀ other, other ∉ before → other ≠ kind → w.Untouched w' other) ∧
      (w.journal.threshold = .info → w'.journal.notices =
        w.journal.notices ++ (if kind = wanted then [] else [noticeEntry wanted kind])) := by
  induction before generalizing w with
  | nil =>
    obtain ⟨found, w₁, hattempt⟩ := exists_attempt fun heq : kind = .file =>
      hfile (heq ▸ List.mem_cons_self)
    cases found with
    | none => exact absurd hkind (hattempt.none rfl)
    | some store =>
      refine ⟨store, _, run_openFirst_found wanted after hattempt.run, (hattempt.some store rfl).2,
        fun other _ hother => ?_, fun hlevel => ?_⟩
      · split
        · exact hattempt.elsewhere other hother
        · exact (hattempt.elsewhere other hother).trans World.untouched_of_journal
      · split
        · rw [List.append_nil, hattempt.journal.notices]
        · have hthreshold := hattempt.journal.threshold.trans hlevel
          rw [World.notices_note hthreshold, hattempt.journal.notices]
  | cons head before ih =>
    obtain ⟨hhead, hnodup⟩ := List.nodup_cons.mp hnodup
    obtain ⟨found, w₁, hattempt⟩ := exists_attempt fun heq : head = .file =>
      hfile (heq ▸ List.mem_cons_self)
    cases found with
    | some store => exact absurd (hattempt.some store rfl).1 (hbefore head List.mem_cons_self)
    | none =>
      -- The kinds behind are others, so what is offered of them is what it was.
      have hsame : ∀ other ∈ before ++ kind :: after, w.Untouched w₁ other := fun other hother =>
        hattempt.elsewhere other (ne_of_mem_of_not_mem hother hhead)
      have hmem : kind ∈ before ++ kind :: after :=
        List.mem_append_right _ List.mem_cons_self
      obtain ⟨store, w', hrun, hstore, huntouched, hnotices⟩ := ih (w := w₁) hnodup
        (fun other hother => (offers_iff (hsame other (List.mem_append_left _ hother))).not.mpr
          (hbefore other (List.mem_cons_of_mem _ hother)))
        ((offers_iff (hsame kind hmem)).mpr hkind)
        (fun hmem => (fileWithinReach_iff (hsame .file hmem)).mpr
          (hfile (List.mem_cons_of_mem _ hmem)))
      refine ⟨store, w', (run_openFirst_none hattempt.run).trans hrun,
        (result_construct (hsame kind hmem)).symm.trans hstore, fun other hother hne => ?_,
        fun hlevel => ?_⟩
      · obtain ⟨hfirst, hrest⟩ := not_or.mp (List.mem_cons.not.mp hother)
        exact (hattempt.elsewhere other hfirst).trans (huntouched other hrest hne)
      · rw [hnotices (hattempt.journal.threshold.trans hlevel), hattempt.journal.notices]

end Search

end Store

/-! ### What is asked for -/

/-- Is the kind the one of the settings, or, if the request says something, is this the word for it, in
letters of either case? -/
def Settings.Asks (settings : Settings) (request : Option Text) (wanted : Backend) : Prop :=
  match request with
  | none => settings.backend = wanted
  | some name => List.Forall₂ Text.SameLetter name (Text.ofString wanted.word)

namespace Store

variable {settings : Settings} {request : Option Text} {wanted : Backend} {w : World}

theorem wantedKind_of_asks (h : settings.Asks request wanted) :
    wantedKind settings request = .ok wanted := by
  cases request with
  | none => exact congrArg _ h
  | some name =>
    have hlower : name.lower = Text.ofString wanted.word := Text.lower_of_letters h
    cases name with
    | nil => cases wanted <;> cases h
    | cons c name =>
      rw [wantedKind, hlower]
      · cases wanted <;> rfl
      · exact List.cons_ne_nil c name

/-- The store is one of the first kind that is offered from the wanted one on; the kinds behind it, and
those in front of the wanted one, are left alone, and a journal that keeps messages for information says
exactly if it stands in for that one. -/
structure Picks (settings : Settings) (wanted kind : Backend) (w : World) (store : Store)
    (w' : World) : Prop where
  from_wanted : wanted.turn ≤ kind.turn
  offered : w.Offers settings kind
  first : ∀ other, wanted.turn ≤ other.turn → other.turn < kind.turn → ¬ w.Offers settings other
  constructed : ((settings.construct kind).run w).1 = .ok store
  untouched : ∀ other, other.turn < wanted.turn ∨ kind.turn < other.turn → w.Untouched w' other
  notices : w.journal.threshold = .info → w'.journal.notices =
    w.journal.notices ++ (if kind = wanted then [] else [standsIn wanted kind])

open Classical in
/-- Memory is a candidate in any case, so there is a first one that is offered. -/
theorem exists_first (settings : Settings) (wanted : Backend) (w : World) :
    ∃ before kind after, wanted :: fallbacks wanted = before ++ kind :: after ∧
      w.Offers settings kind ∧ ∀ other ∈ before, ¬ w.Offers settings other := by
  have hfound : ((wanted :: fallbacks wanted).find? fun kind =>
      decide (w.Offers settings kind)).isSome := by
    refine List.find?_isSome.mpr ⟨.memory, Backend.mem_candidates_iff.mpr ?_,
      decide_eq_true offers_memory⟩
    cases wanted <;> decide
  obtain ⟨kind, hkind⟩ := Option.isSome_iff_exists.mp hfound
  obtain ⟨hoffers, before, after, hcut, hbefore⟩ := List.find?_eq_some_iff_append.mp hkind
  refine ⟨before, kind, after, hcut, of_decide_eq_true hoffers, fun other hother => ?_⟩
  simpa using hbefore other hother

/-- **The first kind that can be used is picked.** Whatever the server does and wherever a file store can
be constructed or is refused by the file system or for a value, `create` comes back with a store: of the
kinds from the wanted one on, one of the first that is offered. What belongs to the kinds behind it is
not touched, and the journal says that it stands in for the wanted one exactly if it is another one. -/
theorem create_picks (hasks : settings.Asks request wanted) (hfile : w.FileWithinReach settings) :
    ∃ store kind w', (create settings request).run w = (.ok store, w') ∧
      Picks settings wanted kind w store w' := by
  obtain ⟨before, kind, after, hcut, hoffers, hbefore⟩ := exists_first settings wanted w
  have hnodup := Backend.nodup_candidates wanted
  have hturns := Backend.pairwise_turn wanted
  rw [hcut] at hnodup hturns
  obtain ⟨store, w', hrun, hstore, huntouched, hnotices⟩ :=
    run_openFirst wanted hnodup hbefore hoffers fun _ => hfile
  obtain ⟨-, hbehind, hfront⟩ := List.pairwise_append.mp hturns
  have hmem : kind ∈ wanted :: fallbacks wanted := hcut ▸ List.mem_append_right _ List.mem_cons_self
  have hcreate : (create settings request).run w = (.ok store, w') := by
    rw [create, wantedKind_of_asks hasks]
    exact (congrArg (fun kinds => (openFirst settings wanted kinds).run w) hcut).trans hrun
  refine ⟨store, kind, w', hcreate, Backend.mem_candidates_iff.mp hmem, hoffers,
    fun other hfrom hbefore' => ?_, hstore, fun other hother => ?_, fun hlevel => ?_⟩
  · have hother : other ∈ before ++ kind :: after :=
      hcut ▸ Backend.mem_candidates_iff.mpr hfrom
    obtain hother | hother := List.mem_append.mp hother
    · exact hbefore other hother
    · obtain rfl | hother := List.mem_cons.mp hother
      · exact absurd hbefore' (lt_irrefl _)
      · exact absurd ((List.pairwise_cons.mp hbehind).1 other hother) (lt_asymm hbefore')
  · refine huntouched other (fun hmem => ?_) (fun heq => ?_)
    · have hlt := hfront other hmem kind List.mem_cons_self
      have hle : wanted.turn ≤ other.turn :=
        Backend.mem_candidates_iff.mp (hcut ▸ List.mem_append_left _ hmem)
      omega
    · subst heq
      have hle := Backend.mem_candidates_iff.mp hmem
      omega
  · rw [hnotices hlevel]
    split
    · rfl
    · next hother =>
      have hlt : wanted.turn < kind.turn :=
        lt_of_le_of_ne (Backend.mem_candidates_iff.mp hmem) (Backend.turn_injective.ne (Ne.symm hother))
      rw [noticeEntry_eq hlt]

/-- With a server on which every call fails, a request in letters of both cases. -/
theorem create_picks_silent :
    let settings := { Settings.standard with filePath := "d.json" }
    let w := { World.blank with server := { Server.blank with outage := fun _ _ => true } }
    settings.Asks (some (Text.ofString "ReDiS")) .server ∧ w.FileWithinReach settings ∧
      ∃ store kind w',
        (create settings (some (Text.ofString "ReDiS"))).run w = (.ok store, w') ∧
          Picks settings .server kind w store w' := by
  intro settings w
  have hasks : settings.Asks (some (Text.ofString "ReDiS")) .server := by
    rw [Settings.Asks]
    decide +kernel
  have hfile : w.FileWithinReach settings := by
    have hopen := congrArg Prod.fst
      (run_openFile (w := w) "file" ⟨ready_blank.directory, ready_blank.missing, ready_blank.accepts⟩)
    intro e he
    cases hopen.symm.trans he
  exact ⟨hasks, hfile, create_picks hasks hfile⟩

end Store

end IssueDigest
