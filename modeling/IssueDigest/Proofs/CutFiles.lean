import IssueDigest.Proofs.Attempts
import IssueDigest.Proofs.Nesting
import IssueDigest.Proofs.Octets
import IssueDigest.Proofs.Opening
/-!
# Files that were cut off

The document is written in the place of the old one, so a write that fails half way leaves the first octets
of the new document and nothing of the old one. That happens when the disk fails, and it happens without any
fault of the disk when a key or an integer that was loaded cannot be stored.

What is left then is never taken for a document. Octets that end inside a character are refused, and so is a
text that ends inside a document (`Json.read_front`); the only front of a document that can be read is the
whole of it (`Store.readDocument_cut`). A store that is opened on such a file starts empty and counts an
error.

What a move leaves of the file follows, since a move tries to write once at most: the file is as it was, or
it holds a front of the document of the new records.
-/

namespace IssueDigest

/-! ### Octets cut off -/

namespace Utf8

/-- A character is recognised by its own octets: they are there, and what follows makes no difference. -/
theorem sign_append {lead : UInt8} {rest : List UInt8} {c : Char} {k : Nat}
    (h : sign lead rest = .char c k) (more : List UInt8) :
    k ≤ rest.length ∧ sign lead (rest ++ more) = .char c k := by
  -- No character has more than three octets behind its first.
  rcases rest with - | ⟨b₁, - | ⟨b₂, - | ⟨b₃, rest⟩⟩⟩
  all_goals
    simp only [sign, List.nil_append, List.cons_append] at h ⊢
    split_ifs at h
    all_goals cases h
    all_goals exact ⟨by simp, by simp only [*, if_true, if_false, Bool.false_eq_true]⟩

/-- **Octets that are cut off** are refused, or they are those of a front of the text. -/
theorem decodeFrom_take {cs : List Char} {n : Nat} {done : List Char} {position : Nat} {r : List Char}
    (h : decodeFrom done 0 position ((encode cs).take n) = .ok r) :
    ∃ front, front <+: cs ∧ encode front = (encode cs).take n ∧ r = done.reverse ++ front := by
  induction cs generalizing n done position with
  | nil =>
    rw [encode_nil, List.take_nil, decodeFrom] at h
    exact ⟨[], List.prefix_rfl, by rw [encode_nil, List.take_nil],
      by rw [List.append_nil, ← Except.ok.inj h]⟩
  | cons c cs ih =>
    obtain ⟨lead, tail, hchar, hsign⟩ := sign_encodeChar c
    rw [encode_cons, hchar, List.cons_append] at h ⊢
    cases n with
    | zero =>
      rw [List.take_zero, decodeFrom] at h
      exact ⟨[], List.nil_prefix, rfl, by rw [List.append_nil, ← Except.ok.inj h]⟩
    | succ n =>
      rw [List.take_succ_cons, decodeFrom] at h
      by_cases hn : tail.length ≤ n
      · obtain ⟨n, rfl⟩ := Nat.exists_eq_add_of_le hn
        rw [List.take_length_add_append, hsign] at h
        dsimp only at h
        rw [decodeFrom_skip] at h
        obtain ⟨front, hfront, hoctets, rfl⟩ := ih h
        refine ⟨c :: front, List.cons_prefix_cons.mpr ⟨rfl, hfront⟩, ?_, by simp⟩
        rw [encode_cons, hchar, hoctets, List.take_succ_cons, List.take_length_add_append,
          List.cons_append]
      · -- The octets end inside the character.
        have htake : (tail ++ encode cs).take n = tail.take n :=
          List.take_append_of_le_length (Nat.le_of_not_le hn)
        rw [htake] at h
        split at h
        · next c' k hcut =>
          obtain ⟨hlength, hwhole⟩ := sign_append hcut (tail.drop n)
          rw [List.take_append_drop] at hwhole
          have hsame := (hsign []).symm.trans ((congrArg (sign lead) (List.append_nil tail)).trans hwhole)
          obtain ⟨-, rfl⟩ := Sign.char.inj hsame
          rw [List.length_take] at hlength
          omega
        · cases h

theorem decode_take {cs cs' : List Char} {n : Nat} (h : decode ((encode cs).take n) = .ok cs') :
    cs' <+: cs ∧ encode cs' = (encode cs).take n := by
  obtain ⟨front, hfront, hoctets, rfl⟩ := decodeFrom_take h
  exact ⟨hfront, hoctets⟩

end Utf8

namespace Store

/-! ### Documents cut off -/

/-- Can all of the document be stored, and are the first so many octets all of it? -/
structure Whole (records : Table Text Record) (n : Nat) : Prop where
  plain : Plain records
  length : (octets records).1.length ≤ n

/-- What cannot be stored is not empty. -/
theorem render_ne_nil {token : Json.Token} {e : Fault} (h : octetsOf token = .error e) :
    token.render false ≠ [] := by
  intro hnil
  have hcheck : token.check = .ok () := by
    cases token with
    | int n =>
      rw [Json.Token.render, IssueKey.ofInt_eq_decimal] at hnil
      exact absurd (List.map_eq_nil_iff.mp hnil) (IssueKey.decimal_ne_nil n)
    | mark | text | float => rfl
  have hstored : octetsOf token = .ok (Utf8.encode []) := octetsOf_of_render hcheck hnil
  rw [h] at hstored
  cases hstored

/-- **What is stored of a document is a front of it**, and the whole of it only if all could be stored. -/
theorem octetsUpTo_front (tokens : List Json.Token) :
    ∃ cs, (octetsUpTo tokens).1 = Utf8.encode cs ∧
      Text.ofChars cs <+: tokens.flatMap (Json.Token.render false) ∧
      (Text.ofChars cs = tokens.flatMap (Json.Token.render false) → (octetsUpTo tokens).2 = .ok ()) := by
  induction tokens with
  | nil => exact ⟨[], rfl, List.nil_prefix, fun _ => rfl⟩
  | cons token tokens ih =>
    rw [octetsUpTo, List.flatMap_cons]
    split
    · next e he =>
      refine ⟨[], rfl, List.nil_prefix, fun hnil => ?_⟩
      exact absurd (List.append_eq_nil_iff.mp hnil.symm).1 (render_ne_nil he)
    · next bs hbs =>
      obtain ⟨hcheck, front, hfront⟩ := storable_iff.mp ⟨bs, hbs⟩
      obtain ⟨cs, hoctets, hprefix, hwhole⟩ := ih
      have hsame := Except.ok.inj (hbs.symm.trans (octetsOf_of_render hcheck hfront))
      have happend : Text.ofChars (front ++ cs) = Text.ofChars front ++ Text.ofChars cs :=
        List.map_append
      refine ⟨front ++ cs, ?_, ?_, fun heq => hwhole ?_⟩
      · change bs ++ (octetsUpTo tokens).1 = _
        rw [hsame, hoctets]
        exact List.flatMap_append.symm
      · rw [happend, hfront]
        exact (List.prefix_append_right_inj _).mpr hprefix
      · rw [happend, hfront] at heq
        exact List.append_cancel_left heq

/-- **A document that was cut off is refused**, wherever it was cut off and for whatever reason. -/
theorem readDocument_cut {records : Table Text Record} {n : Nat} (h : ¬Whole records n) :
    ∃ e, readDocument ((octets records).1.take n) = .error e ∧ isForgiven e = true := by
  have hread : ∃ e, (decodeText ((octets records).1.take n) >>= Json.read) = .error e := by
    cases hdecode : Utf8.decode ((octets records).1.take n) with
    | error defect =>
      exact ⟨_, bind_eq_error_iff.mpr (.inl (by rw [decodeText, hdecode]))⟩
    | ok front =>
      obtain ⟨cs, hoctets, hprefix, hwhole⟩ :=
        octetsUpTo_front ((documentOf records).tokens Json.sortedPage)
      have hoctets : (octets records).1 = Utf8.encode cs := hoctets
      rw [hoctets] at hdecode
      obtain ⟨hfront, hcut⟩ := Utf8.decode_take hdecode
      have hfrontPrefix : Text.ofChars front <+: Text.ofChars cs := hfront.map CodePoint.char
      have hproper : Text.ofChars front ≠ (documentOf records).render Json.sortedPage := by
        intro heq
        -- A front that is as long as the document is the document.
        have hsame : Text.ofChars front = Text.ofChars cs :=
          hfrontPrefix.eq_of_length_le (heq ▸ hprefix.length_le)
        have hchars : front = cs := List.map_injective_iff.mpr (fun _ _ => CodePoint.char.inj) hsame
        refine h ⟨plain_of_octets (hwhole (hsame.symm.trans heq)), ?_⟩
        rw [hchars] at hcut
        rw [hoctets, hcut, List.length_take]
        exact Nat.min_le_left _ _
      obtain ⟨e, he⟩ := Json.read_front (hfrontPrefix.trans hprefix) hproper
      refine ⟨e, bind_eq_error_iff.mpr (.inr ⟨unifyLines front, ?_, he⟩)⟩
      rw [decodeText, hoctets, hdecode]
  obtain ⟨e, he⟩ := hread
  have hrefuses : OnlyRefuses (decodeText ((octets records).1.take n) >>= Json.read) :=
    (onlyRefuses_decodeText _).bind Json.onlyRefuses_read
  exact ⟨e, bind_eq_error_iff.mpr (.inl he), hrefuses.isForgiven he⟩

end Store

open Store

/-! ### What a move leaves of the file -/

theorem Disk.read_of_nodes {d d' : Disk} (hnodes : d'.nodes = d.nodes) (p : Path) :
    d'.read p = d.read p := by
  simp only [read, locate_of_nodes hnodes, node?, hnodes]

theorem Store.startsWith_of_nodes {d d' : Disk} (hnodes : d'.nodes = d.nodes) (p : Path) :
    startsWith d' p = startsWith d p := by
  simp only [startsWith, Disk.holds_of_nodes hnodes, readFile, Disk.read_of_nodes hnodes]

/-- Does every store that is opened on the path start with these records? -/
def World.Finds (w : World) (path : String) (records : Table Text Record) : Prop :=
  ∀ name, ∃ errors w',
    (openFile name path).run w = (.ok (onFile name (Path.ofString path) records errors), w')

theorem Store.onFile_inj {name : String} {p : Path} {records records' : Table Text Record}
    {errors errors' : Nat} (h : onFile name p records errors = onFile name p records' errors') :
    records = records' := by
  obtain ⟨-, -, hbacking⟩ := Store.mk.inj h
  exact (FileBook.mk.inj (Backing.file.inj hbacking)).2.1

/-- Where the directory can be gone to the disk says what is found. -/
theorem World.finds_iff {w : World} {path : String} (hhoused : Housed w.disk (Path.ofString path))
    {records : Table Text Record} :
    w.Finds path records ↔ startsWith w.disk (Path.ofString path) = .ok records := by
  constructor
  · intro h
    obtain ⟨errors, w', hopen⟩ := h ""
    obtain ⟨found, errors', disk, journal, hstore, -, hmade, hstart⟩ := started_of_openFile hopen
    have hsame := Disk.ensureDirectory_of_hasDirectory hhoused.check hhoused.directory
    obtain ⟨rfl, -⟩ := Prod.mk.inj (hsame.symm.trans hmade)
    rw [onFile_inj hstore]
    exact hstart
  · intro hstart name
    obtain ⟨errors, w', hopen, -⟩ := run_openFile_of_startsWith name hhoused hstart
    exact ⟨errors, w', hopen⟩

section Finds

variable {w w' : World} {name path : String} {records records' : Table Text Record} {errors : Nat}

/-- What one store starts with is what every store finds. -/
theorem World.finds_of_openFile
    (h : (openFile name path).run w = (.ok (onFile name (Path.ofString path) records errors), w')) :
    w'.Finds path records := by
  obtain ⟨found, errors', hstore, hhoused, hstart⟩ := start_of_openFile h
  rw [onFile_inj hstore]
  exact (World.finds_iff hhoused).mpr hstart

theorem World.Finds.eq (hfinds : w.Finds path records)
    (h : (openFile name path).run w = (.ok (onFile name (Path.ofString path) records' errors), w')) :
    records = records' := by
  obtain ⟨errors', w'', hopen⟩ := hfinds name
  have hstore := (Prod.mk.inj (hopen.symm.trans h)).1
  exact onFile_inj (Except.ok.inj hstore)

end Finds

/-- Is the store one on the file at the path, the directory of which can be gone to? -/
structure Session.OnFile (s : Session) (p : Path) : Prop where
  book : ∃ book, s.store.backing = .file book ∧ book.path = p
  housed : Housed s.world.disk p

namespace Session

variable {s s' : Session} {p : Path}

theorem TriesOnce.onFile {α : Type} {r : Except Fault α} (h : s.TriesOnce p s' r)
    (hs : s.OnFile p) : s'.OnFile p := by
  rcases h with hrests | ⟨outcome, ⟨book, written, hbook, hpath, hwrite, -⟩, -⟩
  · exact ⟨hrests.book, hrests.disk ▸ hs.housed⟩
  · have hspares : s.world.disk.Spares (s.world.disk.write p (octets book.records).1).1 p :=
      .write _ _ _
    rw [hwrite] at hspares
    exact ⟨⟨book, hbook, hpath⟩, hs.housed.of_directories hspares.directories⟩

theorem OnFile.after (h : s.OnFile p) (m : Move) : (s.after m).OnFile p := by
  obtain ⟨book, hbook, rfl⟩ := h.book
  exact (m.triesOnce hbook (Act.run_eq_of_fst rfl)).onFile h

theorem OnFile.afterAll (h : s.OnFile p) (moves : List Move) : (s.afterAll moves).OnFile p := by
  induction moves generalizing s with
  | nil => exact h
  | cons m moves ih => exact ih (h.after m)

/-- Whoever tries to write leaves the disk as it is, or a front of the document. -/
theorem Tries.nodes_or_read {outcome : Except Fault Unit} (h : s.Tries p s' outcome) :
    s'.world.disk.nodes = s.world.disk.nodes ∨
      ∃ book n, s'.store.backing = .file book ∧
        s'.world.disk.read p = .ok ((octets book.records).1.take n) := by
  obtain ⟨book, written, hbook, -, hwrite, -⟩ := h
  cases written with
  | error e =>
    rcases Disk.nodes_or_read_of_write_error hwrite with hnodes | ⟨n, hread⟩
    · exact .inl hnodes
    · exact .inr ⟨book, n, hbook, hread⟩
  | ok =>
    refine .inr ⟨book, (octets book.records).1.length, hbook, ?_⟩
    rw [List.take_length]
    exact (Disk.read_of_write hwrite).2.1

theorem TriesOnce.nodes_or_read {α : Type} {r : Except Fault α} (h : s.TriesOnce p s' r) :
    s'.world.disk.nodes = s.world.disk.nodes ∨
      ∃ book n, s'.store.backing = .file book ∧
        s'.world.disk.read p = .ok ((octets book.records).1.take n) := by
  rcases h with hrests | ⟨outcome, htries, -⟩
  · exact .inl (congrArg Disk.nodes hrests.disk)
  · exact htries.nodes_or_read

end Session

/-- What is found where a document was cut off, and where it was not. -/
theorem Store.found_of_read {w : World} {path : String} {records : Table Text Record} {n : Nat}
    (hhoused : Housed w.disk (Path.ofString path))
    (hread : w.disk.read (Path.ofString path) = .ok ((octets records).1.take n)) :
    (Whole records n → (∀ e ∈ records.entries, e.2.since.Storable) →
      ∃ t, w.Finds path t ∧ ∀ k, t.get? k = records.get? k) ∧
    (¬Whole records n → ∀ name, ∃ w',
      (openFile name path).run w = (.ok (onFile name (Path.ofString path) .empty 1), w')) := by
  constructor
  · intro hwhole hmoments
    obtain ⟨t, ht, hget⟩ :=
      readDocument_octets (congrArg Prod.snd (octets_of_plain hwhole.plain).1) hmoments
    rw [List.take_of_length_le hwhole.length] at hread
    have hfile : readFile w.disk (Path.ofString path) = .ok t := by
      rw [readFile, hread]
      exact ht
    exact ⟨t, (World.finds_iff hhoused).mpr (startsWith_of_readFile hfile), hget⟩
  · intro hcut name
    obtain ⟨e, hdocument, hforgiven⟩ := readDocument_cut hcut
    have hmade := Disk.ensureDirectory_of_hasDirectory hhoused.check hhoused.directory
    rw [run_openFile_of_read name hmade hread, hdocument]
    exact ⟨_, if_pos hforgiven⟩

/-- **What a move that fails leaves of the file**, in every state that a store on it can come to and for
whatever reason the move fails. Either the file is as it was, and a store that is opened on it finds what it
would have found before. Or it holds the first octets of the document of the store's records. If these are
the whole document the records are found, and if not nothing is: every store that is opened on the path
starts empty, with one error. -/
theorem openFile_failed {name path : String} {w w' : World} {store : Store}
    (hopen : (openFile name path).run w = (.ok store, w')) (moves : List Move) {m : Move} {e : Fault}
    {s' : Session} (hfails : m.run.run (Session.afterAll ⟨store, w'⟩ moves) = (.error e, s')) :
    (s'.world.disk.read (Path.ofString path) =
        (Session.afterAll ⟨store, w'⟩ moves).world.disk.read (Path.ofString path) ∧
      ∀ records, (Session.afterAll ⟨store, w'⟩ moves).world.Finds path records →
        s'.world.Finds path records) ∨
    ∃ book n, s'.store.backing = .file book ∧
      s'.world.disk.read (Path.ofString path) = .ok ((octets book.records).1.take n) ∧
      (Whole book.records n → (∀ e ∈ book.records.entries, e.2.since.Storable) →
        ∃ t, s'.world.Finds path t ∧ ∀ k, t.get? k = book.records.get? k) ∧
      (¬Whole book.records n → ∀ again, ∃ w'', (openFile again path).run s'.world =
        (.ok (onFile again (Path.ofString path) .empty 1), w'')) := by
  obtain ⟨records, errors, rfl, hhoused, -⟩ := start_of_openFile hopen
  have hopened : Session.OnFile ⟨onFile name (Path.ofString path) records errors, w'⟩
      (Path.ofString path) := ⟨⟨_, rfl, rfl⟩, hhoused⟩
  have hbefore := hopened.afterAll moves
  obtain ⟨book, hbook, hpath⟩ := hbefore.book
  have htries := m.triesOnce hbook hfails
  rw [hpath] at htries
  have hafter := htries.onFile hbefore
  rcases htries.nodes_or_read with hnodes | ⟨book', n, hbook', hread⟩
  · refine .inl ⟨Disk.read_of_nodes hnodes _, fun found hfound => ?_⟩
    rw [World.finds_iff hbefore.housed, ← startsWith_of_nodes hnodes] at hfound
    exact (World.finds_iff hafter.housed).mpr hfound
  · exact .inr ⟨book', n, hbook', hread, found_of_read hafter.housed hread⟩

/-! ### Records that cannot be stored -/

/-- **Closing a store with records that cannot be stored** fails and leaves nothing to be found, although the
disk takes the file. -/
theorem Store.close_destroys {s : Session} {book : FileBook} {path : String} {place : List String}
    (hbook : s.store.backing = .file book) (hpath : book.path = Path.ofString path)
    (hhoused : Housed s.world.disk (Path.ofString path)) (hplain : ¬Plain book.records)
    (hfree : s.world.disk.writable (Path.ofString path) = .ok place)
    (hcalm : s.world.disk.mishaps s.world.disk.attempts = none) :
    ∃ e s', close.run s = (.error e, s') ∧ ∀ again, ∃ w,
      (openFile again path).run s'.world = (.ok (onFile again (Path.ofString path) .empty 1), w) := by
  have hclose : close.run s = (saveFile book).run s := by
    rw [close, Act.run_get_bind, hbook]
  cases hsave : (saveFile book).run s with
  | mk r s' =>
  have htries := triesOnce_of_saveFile hbook hsave
  obtain ⟨written, hwrite, hr, -⟩ := saveFile_run hsave
  rw [hpath] at hwrite htries
  obtain ⟨hdisk, rfl⟩ :=
    Prod.mk.inj ((Disk.write_of_writable hfree hcalm (octets book.records).1).symm.trans hwrite)
  have hafter := htries.onFile ⟨⟨book, hbook, hpath⟩, hhoused⟩
  have hread : s'.world.disk.read (Path.ofString path) =
      .ok ((octets book.records).1.take (octets book.records).1.length) := by
    rw [List.take_length]
    exact (Disk.read_of_write hwrite).2.1
  have hfound := (found_of_read hafter.housed hread).2 fun hwhole => hplain hwhole.plain
  cases hstored : (octets book.records).2 with
  | ok => exact absurd (plain_of_octets hstored) hplain
  | error e =>
    rw [hstored] at hr
    exact ⟨e, s', by rw [hclose, hsave, hr]; rfl, hfound⟩

/-- A document with two records, the key of the second one half of a pair. -/
def halved : List UInt8 :=
  Utf8.encode ("\x7b\"a\": \x7b\"dismissed_at\": \"2024-01-01\", " ++
    "\"max_severity_at_dismissal\": 1\x7d, \"\\ud800\": \x7b" ++
    "\"dismissed_at\": \"2024-01-01\", \"max_severity_at_dismissal\": 1\x7d\x7d").toList

/-- It is read, and cannot be written. -/
theorem readDocument_halved : ∃ records, readDocument halved = .ok records ∧
    records.get? (Text.ofString "a") = some ⟨.newYear 2024, 1, 1⟩ ∧ ¬Plain records := by
  have hentries : (readDocument halved).map Table.entries =
      .ok [(Text.ofString "a", ⟨.newYear 2024, 1, 1⟩), ([.half 0], ⟨.newYear 2024, 1, 1⟩)] := by
    decide +kernel
  obtain ⟨records, hread, hrecords⟩ := map_eq_ok_iff.mp hentries
  refine ⟨records, hread, ?_, fun hplain => ?_⟩
  · rw [Table.get?, hrecords]
    rfl
  · obtain ⟨⟨cs, hcs⟩, -⟩ := hplain ([.half 0], ⟨.newYear 2024, 1, 1⟩)
      (hrecords ▸ List.mem_cons_of_mem _ List.mem_cons_self)
    cases cs <;> cases hcs

/-- A store can be opened on it and finds the first record. Closing it fails. -/
theorem close_halved :
    ∃ records, (openFile "store" "d.json").run (.withFile halved) =
        (.ok (onFile "store" (Path.ofString "d.json") records 0), .withFile halved) ∧
      records.get? (Text.ofString "a") = some ⟨.newYear 2024, 1, 1⟩ ∧
      ∃ e s', close.run ⟨onFile "store" (Path.ofString "d.json") records 0, .withFile halved⟩ =
          (.error e, s') ∧
        ∀ again, ∃ w, (openFile again "d.json").run s'.world =
          (.ok (onFile again (Path.ofString "d.json") .empty 1), w) := by
  obtain ⟨records, hdocument, hrecord, hplain⟩ := readDocument_halved
  have hopen : (openFile "store" "d.json").run (.withFile halved) =
      (.ok (onFile "store" (Path.ofString "d.json") records 0), .withFile halved) :=
    run_openFile_of_decodes "store" (ensureDirectory_withFile halved) (read_withFile halved)
      (readDocument_eq_ok_iff.mp hdocument)
  obtain ⟨-, -, -, hhoused, -⟩ := start_of_openFile hopen
  have hpath : Path.ofString "d.json" = ⟨0, ["d.json"]⟩ := by simp [Path.ofString, Path.split]
  have hnode : (World.withFile halved).disk.node? ["d.json"] = some (.file halved) := rfl
  have hplace : (World.withFile halved).disk.writable ⟨0, ["d.json"]⟩ = .ok ["d.json"] :=
    Disk.writable_eq_ok_iff.mpr
      ⟨Disk.checkPath_of_notMem (by simp [Path.text]), rfl, by rw [hnode]; simp⟩
  rw [← hpath] at hplace
  exact ⟨records, hopen, hrecord, close_destroys rfl rfl hhoused hplain hplace rfl⟩

/-- What is left of the file there is a front of the document that was to be written. -/
theorem openFile_failed_halved :
    ∃ store e s' book n, (openFile "store" "d.json").run (.withFile halved) =
        (.ok store, .withFile halved) ∧
      Move.close.run.run (Session.afterAll ⟨store, .withFile halved⟩ []) = (.error e, s') ∧
      s'.store.backing = .file book ∧
      s'.world.disk.read (Path.ofString "d.json") = .ok ((octets book.records).1.take n) := by
  obtain ⟨records, hopen, hrecord, e, s', hclose, hfound⟩ := close_halved
  obtain ⟨store, hstore⟩ : ∃ store, store = onFile "store" (Path.ofString "d.json") records 0 := ⟨_, rfl⟩
  rw [← hstore] at hopen hclose
  have hfails : Move.close.run.run (Session.afterAll ⟨store, .withFile halved⟩ []) = (.error e, s') := by
    rw [Move.run, Act.run_map, Session.afterAll, List.foldl_nil, hclose]
    rfl
  refine ⟨store, e, s', ?_⟩
  rcases openFile_failed hopen [] hfails with ⟨-, hsame⟩ | ⟨book, n, hbook, hread, -⟩
  · -- The record is found no more, so the file is not what it was.
    obtain ⟨w, hagain⟩ := hfound ""
    have hempty := (hsame records (World.finds_of_openFile (hstore ▸ hopen))).eq hagain
    rw [hempty] at hrecord
    cases hrecord
  · exact ⟨book, n, hopen, hfails, hbook, hread⟩

/-- **A failed write destroys the document**: the record that was in the file is found no more. -/
theorem openFile_failed_destroys :
    ∃ store e s', (openFile "store" "d.json").run (.withFile halved) = (.ok store, .withFile halved) ∧
      (∃ records, (World.withFile halved).Finds "d.json" records ∧
        records.get? (Text.ofString "a") = some ⟨.newYear 2024, 1, 1⟩) ∧
      close.run ⟨store, .withFile halved⟩ = (.error e, s') ∧ s'.world.Finds "d.json" .empty := by
  obtain ⟨records, hopen, hrecord, e, s', hclose, hfound⟩ := close_halved
  refine ⟨_, e, s', hopen, ⟨records, World.finds_of_openFile hopen, hrecord⟩, hclose, fun again => ?_⟩
  obtain ⟨w, hagain⟩ := hfound again
  exact ⟨1, w, hagain⟩

end IssueDigest
