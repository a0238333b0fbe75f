import IssueDigest.Cli.Run
import IssueDigest.Proofs.Silence
import IssueDigest.Proofs.Taken
import Mathlib.Data.List.Find
/-!
# What a run prints

A run on the memory backend that ends well prints one page and nothing else. This module says which:
the issues that are left, in the order of the file, each as a line or as an object, and each with a
mark that depends on the names given and on the file alone (`Command.marks`).

The run is followed stage by stage. Opening the store and reading the file change the journal only
(`run_proceed`), and so does the work until the page is due (`work_ok`); a page is printed issue by
issue, and no question that is asked on the way changes a record.
-/

namespace IssueDigest

open Store

/-! ### The page -/

namespace Issue

/-- The line that shows the issue. -/
def line (i : Issue) (marked : Bool) : Text :=
  "[" ++ Text.ofInt i.severity ++ "] " ++ i.key.render ++ " " ++ i.title
    ++ (if marked then Text.ofString " (dismissed)" else [])

/-- The fields that show the issue, whatever the size of its user id. -/
def entries (i : Issue) : List (String × Json) :=
  [("issue_key", .string i.key.render), ("source_id", .string i.source.id),
    ("issue_id", .string i.id), ("user_id", .int i.user), ("severity_level", .int i.severity),
    ("title", .text i.title), ("deduplication_group", optional i.source.group),
    ("deduplication_id", optional i.mark)]

/-- The object that shows the issue. -/
def row (i : Issue) (marked : Bool) : Json := .record (i.entries ++ [("dismissed", .bool marked)])

theorem eq_entries_of_fields {i : Issue} {fields : List (String × Json)} (h : i.fields = .ok fields) :
    fields = i.entries := by
  obtain ⟨text, htext, h⟩ := bind_eq_ok_iff.mp h
  obtain rfl := Except.ok.inj h
  rw [IssueKey.eq_render_of_write htext]
  rfl

end Issue

namespace Command

/-- The page that shows issues, those of them marked that are to be. -/
def page (c : Command) (issues : List Issue) (marked : Issue → Bool) : Text :=
  if c.json then
    Json.render Json.asciiPage (.list (issues.map fun i => i.row (marked i))) ++ [.char '\n']
  else issues.flatMap fun i => i.line (marked i) ++ [.char '\n']

/-- The issues that are to be shown. -/
def shown (c : Command) (settings : Settings) (issues : List Issue) : List Issue :=
  if c.collapses settings then issues.filter (Dedup.comesFirst issues) else issues

/-- The first duplicate with the key that is named, in the order of the file. -/
def firstNamed? (c : Command) (issues : List Issue) (d : DedupKey) : Option Issue :=
  (Dedup.bucketOf issues d).find? fun i => namesKey c.dismissals i.key

/-- Is the issue to be marked as dismissed? It is if it is named, or else if duplicates are left out
and it is no more severe than the first of its duplicates that is named. -/
def marks (c : Command) (settings : Settings) (issues : List Issue) (i : Issue) : Bool :=
  namesKey c.dismissals i.key ||
    c.collapses settings &&
      (i.dedupKey?.bind (c.firstNamed? issues)).any fun first => i.severity ≤ first.severity

theorem page_congr {c : Command} {issues : List Issue} {marked marked' : Issue → Bool}
    (h : ∀ i ∈ issues, marked i = marked' i) : c.page issues marked = c.page issues marked' := by
  have hrows : issues.map (fun i => i.row (marked i)) = issues.map fun i => i.row (marked' i) :=
    List.map_congr_left fun i hi => by rw [h i hi]
  have hlines : (issues.flatMap fun i => i.line (marked i) ++ [.char '\n']) =
      issues.flatMap fun i => i.line (marked' i) ++ [.char '\n'] :=
    List.flatMap_congr fun i hi => by rw [h i hi]
  rw [page, hrows, hlines, page]

end Command

/-! ### Printing -/

theorem Json.eq_render_of_write {l : Layout} {v : Json} {t : Text} (h : v.write l = .ok t) :
    t = v.render l := by
  obtain ⟨-, -, h⟩ := bind_eq_ok_iff.mp h
  exact (Except.ok.inj h).symm

theorem World.print_nil (w : World) : w.print [] = w := by rw [print, List.append_nil]

theorem World.print_print (w : World) (t t' : Text) : (w.print t).print t' = w.print (t ++ t') := by
  rw [print, print, print, List.append_assoc]

theorem Action.run_ofWorld {α : Type} (x : Act World α) (s : Session) :
    (ofWorld x).run s = ((x.run s.world).1, { s with world := (x.run s.world).2 }) := by
  rw [ofWorld, Act.run_get_bind]
  match x.run s.world with
  | (.ok a, w) => rfl
  | (.error e, w) => rfl

theorem Act.run_printLine_kept {w : World} (h : w.encodes = false) (t : Text) :
    (printLine t).run w = (.ok (), w.print (t ++ [.char '\n'])) := by
  rw [printLine, Act.run_get_bind, h]
  rfl

/-- Where lines are encoded one with halves is refused. -/
theorem Act.run_printLine_encoded {w : World} (h : w.encodes = true) (t : Text) :
    (printLine t).run w = match encodeText t with
      | .ok _ => (.ok (), w.print (t ++ [.char '\n']))
      | .error e => (.error e, w) := by
  rw [printLine, Act.run_get_bind, h]
  cases encodeText t <;> rfl

theorem Action.printLine_ok {s s' : Session} {t : Text}
    (h : (ofWorld (Act.printLine t)).run s = (.ok (), s')) :
    s' = { s with world := s.world.print (t ++ [.char '\n']) } := by
  rw [run_ofWorld] at h
  obtain ⟨hresult, rfl⟩ := Prod.mk.inj h
  cases hencodes : s.world.encodes with
  | false => rw [Act.run_printLine_kept hencodes]
  | true =>
    rw [Act.run_printLine_encoded hencodes] at hresult ⊢
    cases htext : encodeText t with
    | ok bs => rfl
    | error e =>
      rw [htext] at hresult
      cases hresult

/-- Are the records what they were, and has the world changed by a text that was printed? -/
structure Session.Prints (s s' : Session) (t : Text) : Prop where
  backing : s'.store.backing = s.store.backing
  world : s'.world = s.world.print t

namespace Session.Prints

variable {s s' s'' : Session} {t t' : Text}

theorem trans (h : s.Prints s' t) (h' : s'.Prints s'' t') : s.Prints s'' (t ++ t') where
  backing := h'.backing.trans h.backing
  world := by rw [h'.world, h.world, World.print_print]

theorem kind (h : s.Prints s' t) : s'.kind = s.kind := by rw [Session.kind, h.backing, Session.kind]

theorem dismissed (h : s.Prints s' t) (hkind : s.kind = .memory) :
    s'.ledger.dismissed = s.ledger.dismissed := by
  obtain ⟨name, counters, records, world, rfl⟩ := Session.exists_of_memory hkind
  obtain ⟨⟨name', counters', backing'⟩, world'⟩ := s'
  obtain rfl : backing' = .memory records := h.backing
  rfl

end Session.Prints

section Print

variable {s s' : Session} (hkind : s.kind = .memory) {i : Issue}

include hkind

/-- A question prints nothing, and is answered from the ledger. -/
theorem Store.run_isDismissed_memory (i : Issue) :
    ∃ s', (isDismissed i.key i.severity).run s = (.ok (s.ledger.dismissed i), s') ∧
      s.Prints s' [] := by
  obtain ⟨name, counters, records, world, rfl⟩ := Session.exists_of_memory hkind
  refine ⟨⟨⟨name, { counters with checks := counters.checks + 1 }, .memory records⟩, world⟩, ?_,
    rfl, (World.print_nil _).symm⟩
  rw [isDismissed, Act.run_modify_bind]
  refine (Act.run_bind_ok rfl).trans ?_
  have hdismissed : (Session.ledger ⟨⟨name, counters, .memory records⟩, world⟩).dismissed i =
      ((records.get? i.key).any fun r => r.covers i.severity) := rfl
  rw [hdismissed]
  cases records.get? i.key <;> rfl

theorem issueLine_ok {t : Text} (h : (issueLine i).run s = (.ok t, s')) :
    t = i.line (s.ledger.dismissed i) ∧ s.Prints s' [] := by
  obtain ⟨s₁, hrun, hprints⟩ := run_isDismissed_memory hkind i
  rw [issueLine, Act.run_bind_ok hrun] at h
  obtain ⟨severity, hseverity, h⟩ := Act.run_lift_bind_eq_ok h
  obtain ⟨key, hkey, h⟩ := Act.run_lift_bind_eq_ok h
  obtain ⟨ht, rfl⟩ := Prod.mk.inj h
  obtain rfl := Except.ok.inj ht
  rw [Numeral.eq_ofInt_of_write hseverity, IssueKey.eq_render_of_write hkey]
  exact ⟨rfl, hprints⟩

theorem row_ok {v : Json} (h : (Command.row i).run s = (.ok v, s')) :
    v = i.row (s.ledger.dismissed i) ∧ s.Prints s' [] := by
  obtain ⟨fields, hfields, h⟩ := Act.run_lift_bind_eq_ok h
  obtain ⟨s₁, hrun, hprints⟩ := run_isDismissed_memory hkind i
  rw [Act.run_bind_ok hrun] at h
  obtain ⟨hv, rfl⟩ := Prod.mk.inj h
  obtain rfl := Except.ok.inj hv
  rw [Issue.eq_entries_of_fields hfields]
  exact ⟨rfl, hprints⟩

/-- The lines of the issues, one after another. -/
theorem forM_issueLine_ok {issues : List Issue}
    (h : (issues.forM fun i => do Action.ofWorld (Act.printLine (← issueLine i))).run s =
      (.ok (), s')) :
    s.Prints s' (issues.flatMap fun i => i.line (s.ledger.dismissed i) ++ [.char '\n']) := by
  induction issues generalizing s with
  | nil =>
    obtain ⟨-, rfl⟩ := Prod.mk.inj h
    exact ⟨rfl, (World.print_nil _).symm⟩
  | cons i issues ih =>
    obtain ⟨⟨⟩, s₂, hfirst, hrest⟩ := Act.run_bind_eq_ok h
    obtain ⟨t, s₁, hline, hprint⟩ := Act.run_bind_eq_ok hfirst
    obtain ⟨rfl, hprints⟩ := issueLine_ok hkind hline
    obtain rfl := Action.printLine_ok hprint
    have hprinted : s.Prints { s₁ with world := s₁.world.print _ }
        ([] ++ (i.line (s.ledger.dismissed i) ++ [.char '\n'])) := hprints.trans ⟨rfl, rfl⟩
    have hall := ih (hprinted.kind.trans hkind) hrest
    rw [hprinted.dismissed hkind] at hall
    exact hprinted.trans hall

/-- The rows of the issues, one after another. -/
theorem mapM_row_ok {issues : List Issue} {rows : List Json}
    (h : (issues.mapM Command.row).run s = (.ok rows, s')) :
    rows = (issues.map fun i => i.row (s.ledger.dismissed i)) ∧ s.Prints s' [] := by
  induction issues generalizing s rows with
  | nil =>
    obtain ⟨hrows, rfl⟩ := Prod.mk.inj h
    exact ⟨(Except.ok.inj hrows).symm, rfl, (World.print_nil _).symm⟩
  | cons i issues ih =>
    rw [List.mapM_cons] at h
    obtain ⟨v, s₁, hrow, h⟩ := Act.run_bind_eq_ok h
    obtain ⟨more, s₂, hmore, h⟩ := Act.run_bind_eq_ok h
    obtain ⟨hrows, rfl⟩ := Prod.mk.inj h
    obtain ⟨rfl, hprints⟩ := row_ok hkind hrow
    obtain ⟨rfl, hprints'⟩ := ih (hprints.kind.trans hkind) hmore
    rw [hprints.dismissed hkind] at hrows
    exact ⟨(Except.ok.inj hrows).symm, hprints.trans hprints'⟩

/-- **The page is printed**, and no record changes on the way. -/
theorem Command.present_ok {c : Command} {issues : List Issue}
    (h : (c.present issues).run s = (.ok (), s')) :
    s.Prints s' (c.page issues s.ledger.dismissed) := by
  rw [present] at h
  rw [page]
  split at h
  · next hjson =>
    obtain ⟨rows, s₁, hrows, h⟩ := Act.run_bind_eq_ok h
    obtain ⟨rfl, hprints⟩ := mapM_row_ok hkind hrows
    obtain ⟨text, htext, h⟩ := Act.run_lift_bind_eq_ok h
    obtain rfl := Json.eq_render_of_write htext
    obtain rfl := Action.printLine_ok h
    rw [if_pos hjson]
    exact hprints.trans ⟨rfl, rfl⟩
  · next hlines =>
    rw [if_neg hlines]
    exact forM_issueLine_ok hkind h

end Print

/-! ### The work on a store -/

theorem Session.works_of_kind {s : Session} (h : s.kind = .memory) : s.Works := by
  obtain ⟨name, counters, records, world, rfl⟩ := Session.exists_of_memory h
  trivial

namespace Command

variable {c : Command} {settings : Settings} {issues : List Issue}

/-- Leaving duplicates out chooses what is shown and dismisses what is aligned. -/
theorem select_ok {s s' : Session} {left : List Issue} (hkind : s.kind = .memory)
    (hkeys : (issues.map Issue.key).Nodup)
    (h : (c.select settings issues).run s = (.ok left, s')) :
    left = c.shown settings issues ∧ s'.kind = .memory ∧
      s'.world.printed = s.world.printed ∧ ∀ i ∈ issues,
        (s'.ledger.dismissed i = true ↔ s.ledger.dismissed i = true ∨
          c.collapses settings = true ∧ ∃ d leader, i.dedupKey? = some d ∧
            s.ledger.leader? (Dedup.bucketOf issues d) = some leader ∧
            i.severity ≤ leader.severity) := by
  rw [select] at h
  rw [shown]
  split at h
  · next hcollapses =>
    obtain ⟨hkind', hprinted⟩ := (Action.Silent.dedup issues).printed hkind h
    have hledger := Dedup.ledger_of_run (Session.works_of_kind hkind) h
    rw [if_pos hcollapses, Dedup.eq_survivors_of_run h, Dedup.survivors_eq_filter hkeys]
    refine ⟨rfl, hkind', hprinted, fun i hi => ?_⟩
    rw [hledger]
    exact (Dedup.dismissed_settle_iff hkeys hi).trans (or_congr_right (and_iff_right hcollapses).symm)
  · next hcollapses =>
    obtain ⟨hleft, rfl⟩ := Prod.mk.inj h
    rw [if_neg hcollapses]
    refine ⟨(Except.ok.inj hleft).symm, hkind, rfl, fun i _ => ?_⟩
    exact ⟨Or.inl, fun h => h.resolve_right fun h' => hcollapses h'.1⟩

/-- Once everything named is dismissed, the leader of a bucket is the first that is named. -/
theorem leader?_eq_firstNamed? {l : Ledger}
    (h : ∀ i ∈ issues, l.dismissed i = namesKey c.dismissals i.key) (d : DedupKey) :
    l.leader? (Dedup.bucketOf issues d) = c.firstNamed? issues d := by
  rw [Ledger.leader?, firstNamed?]
  exact List.find?_congr fun i hi => h i (Dedup.mem_bucketOf.mp hi).1

theorem mem_of_mem_shown {i : Issue} (h : i ∈ c.shown settings issues) : i ∈ issues := by
  rw [shown] at h
  split at h
  · exact List.mem_of_mem_filter h
  · exact h

/-- Issues that are dismissed because they are named, or because of the leader, are those to mark. -/
theorem dismissed_eq_marks {l l' : Ledger}
    (hnamed : ∀ i ∈ issues, l.dismissed i = namesKey c.dismissals i.key) {i : Issue}
    (hi : i ∈ issues)
    (h : l'.dismissed i = true ↔ l.dismissed i = true ∨
      c.collapses settings = true ∧ ∃ d leader, i.dedupKey? = some d ∧
        l.leader? (Dedup.bucketOf issues d) = some leader ∧ i.severity ≤ leader.severity) :
    l'.dismissed i = c.marks settings issues i := by
  rw [Bool.eq_iff_iff, h, hnamed i hi, marks]
  simp only [leader?_eq_firstNamed? hnamed, Bool.or_eq_true, Bool.and_eq_true, Option.any_eq_true,
    Option.bind_eq_some_iff, decide_eq_true_eq]
  refine or_congr_right (and_congr_right fun _ => ⟨?_, ?_⟩)
  · rintro ⟨d, first, hd, hfirst, hle⟩
    exact ⟨first, ⟨d, hd, hfirst⟩, hle⟩
  · rintro ⟨first, ⟨d, hd, hfirst⟩, hle⟩
    exact ⟨d, first, hd, hfirst, hle⟩

/-- The names are applied if no complaint about one of them is caught. -/
theorem applyDismissals_ok {s s' : Session}
    (h : (try
        applyDismissals issues c.dismissals
        pure none
      catch e =>
        if e.isRefusal then pure (some e.message) else throw e : Action (Option Text)).run s =
      (.ok none, s')) :
    (applyDismissals issues c.dismissals).run s = (.ok (), s') := by
  rw [Act.run_tryCatch] at h
  split at h
  · next hbody =>
    obtain ⟨hnone, rfl⟩ := Prod.mk.inj h
    obtain ⟨⟨⟩, s₁, happly, hpure⟩ := Act.run_bind_eq_ok hbody
    obtain ⟨-, rfl⟩ := Prod.mk.inj hpure
    exact happly
  · split at h
    · cases Except.ok.inj (Prod.mk.inj h).1
    · cases (Prod.mk.inj h).1

/-- Work that ends well has come through all its stages. -/
theorem work_stages {s s' : Session} (h : (c.work settings issues).run s = (.ok 0, s')) :
    ∃ s₁ s₂ s₃ left, (applyDismissals issues c.dismissals).run s = (.ok (), s₁) ∧
      (c.select settings issues).run s₁ = (.ok left, s₂) ∧
      (c.present left).run s₂ = (.ok (), s₃) ∧
      (do note .info "Dismissal store stats" (← stats); pure 0 : Action Nat).run s₃ = (.ok 0, s') := by
  obtain ⟨refusal, s₁, htry, h⟩ := Act.run_bind_eq_ok h
  cases refusal with
  | some message =>
    obtain ⟨_, s₂, -, h⟩ := Act.run_bind_eq_ok h
    cases Except.ok.inj (Prod.mk.inj h).1
  | none =>
    obtain ⟨left, s₂, hselect, h⟩ := Act.run_bind_eq_ok h
    obtain ⟨⟨⟩, s₃, hpresent, h⟩ := Act.run_bind_eq_ok h
    exact ⟨s₁, s₂, s₃, left, applyDismissals_ok htry, hselect, hpresent, h⟩

/-- **Work that ends well has printed the page.** -/
theorem work_ok {name : String} {w : World} {s' : Session} (hkeys : (issues.map Issue.key).Nodup)
    (h : (c.work settings issues).run ⟨inMemory name, w⟩ = (.ok 0, s')) :
    s'.kind = .memory ∧ s'.world.printed =
      w.printed ++ c.page (c.shown settings issues) (c.marks settings issues) := by
  obtain ⟨s₁, s₂, s₃, left, happly, hselect, hpresent, hstats⟩ := work_stages h
  obtain ⟨hkind₁, hprinted₁⟩ := (Action.Silent.applyDismissals _ _).printed rfl happly
  have hnamed : ∀ i ∈ issues, s₁.ledger.dismissed i = namesKey c.dismissals i.key := fun i hi =>
    (dismissed_of_applyDismissals (Session.works_of_kind rfl) rfl hkeys happly).2 i hi
  obtain ⟨rfl, hkind₂, hprinted₂, hdismissed⟩ := select_ok hkind₁ hkeys hselect
  have hpage := present_ok hkind₂ hpresent
  have hsilent : Action.Silent (do note .info "Dismissal store stats" (← stats); pure 0) :=
    Action.Silent.stats.bind fun _ => (Action.Silent.note _ _ _).bind fun _ => Action.Silent.pure 0
  obtain ⟨hkind', hprinted'⟩ := hsilent.printed (hpage.kind.trans hkind₂) hstats
  have hmarks : ∀ i ∈ c.shown settings issues, s₂.ledger.dismissed i = c.marks settings issues i :=
    fun i hi => dismissed_eq_marks hnamed (mem_of_mem_shown hi) (hdismissed i (mem_of_mem_shown hi))
  refine ⟨hkind', ?_⟩
  rw [hprinted', hpage.world, World.print, hprinted₂, hprinted₁, page_congr hmarks]

end Command

/-! ### A whole run -/

/-- Does the action change nothing of the world but the journal, when it succeeds with the result? -/
def World.Logs {α : Type} (w : World) (x : Act World α) (a : α) : Prop :=
  ∃ journal, x.run w = (.ok a, { w with journal })

/-- Does the action end in the same way in every world, and change nothing of it but the journal? -/
def Act.Aloof {α : Type} (x : Act World α) : Prop :=
  ∃ r, ∀ w, ∃ journal, x.run w = (r, { w with journal })

namespace Act.Aloof

variable {α β : Type}

theorem lift (x : Except Fault α) : Aloof (Act.lift x) :=
  ⟨x, fun w => ⟨w.journal, by cases x <;> rfl⟩⟩

theorem note (level : Level) (message : Text) (context : List (String × Json)) :
    Aloof (Act.note level message context) :=
  ⟨.ok (), fun w => ⟨(w.note level message context).journal, rfl⟩⟩

theorem bind {x : Act World α} {f : α → Act World β} (hx : x.Aloof) (hf : ∀ a, (f a).Aloof) :
    Aloof (x >>= f) := by
  obtain ⟨r, hx⟩ := hx
  cases r with
  | error e =>
    refine ⟨.error e, fun w => ?_⟩
    obtain ⟨journal, hrun⟩ := hx w
    exact ⟨journal, Act.run_bind_error hrun⟩
  | ok a =>
    obtain ⟨r', hf⟩ := hf a
    refine ⟨r', fun w => ?_⟩
    obtain ⟨journal, hrun⟩ := hx w
    obtain ⟨journal', hrun'⟩ := hf { w with journal }
    exact ⟨journal', (Act.run_bind_ok hrun).trans hrun'⟩

end Act.Aloof

/-- **What a file is read as depends on its octets alone**, and only the journal changes. -/
theorem Listing.load_reads (path : String) (w w' : World)
    (hread : w'.disk.read (Path.ofString path) = w.disk.read (Path.ofString path)) :
    ∃ journal, (load path).run w' = (((load path).run w).1, { w' with journal }) := by
  rw [load, Act.run_get_bind, Act.run_get_bind]
  dsimp only
  rw [hread]
  suffices h : ∀ x : Act World (List Issue), x.Aloof →
      ∃ journal, x.run w' = ((x.run w).1, { w' with journal }) by
    refine h _ ((Act.Aloof.lift _).bind fun text => ?_)
    cases Yaml.read depth text with
    | error e =>
      dsimp only
      split
      · exact (Act.Aloof.note _ _ _).bind fun _ => .lift (.error e)
      · exact .lift (.error e)
    | ok v =>
      exact (Act.Aloof.lift _).bind fun _ => (Act.Aloof.lift _).bind fun issues =>
        (Act.Aloof.note _ _ _).bind fun _ => .lift (.ok issues)
  rintro x ⟨r, hx⟩
  obtain ⟨journal, hrun⟩ := hx w
  rw [hrun]
  exact hx w'

/-- A file that has been read is read again wherever it holds the same octets. -/
theorem Listing.logs_load_of_read {w w' : World} {path : String} {issues : List Issue}
    (hread : ∀ bs, w.disk.read (Path.ofString path) = .ok bs →
      w'.disk.read (Path.ofString path) = .ok bs)
    (h : ((Listing.load path).run w).1 = .ok issues) : w'.Logs (Listing.load path) issues := by
  obtain ⟨bs, hbs⟩ : ∃ bs, w.disk.read (Path.ofString path) = .ok bs := by
    have hrun := Act.run_eq_of_fst h
    rw [Listing.load, Act.run_get_bind] at hrun
    obtain ⟨text, htext, -⟩ := Act.run_lift_bind_eq_ok hrun
    obtain ⟨bs, hbs, -⟩ := bind_eq_ok_iff.mp htext
    exact ⟨bs, hbs⟩
  obtain ⟨journal, hrun⟩ := load_reads path w w' ((hread bs hbs).trans hbs.symm)
  rw [h] at hrun
  exact ⟨journal, hrun⟩

/-- It does not depend on the journal. -/
theorem Listing.logs_load {w : World} {path : String} {issues : List Issue} (journal : Journal)
    (h : ((Listing.load path).run w).1 = .ok issues) :
    World.Logs { w with journal } (Listing.load path) issues :=
  logs_load_of_read (w := w) (fun _ => id) h

theorem Store.logs_create {settings : Settings} (h : settings.backend = .memory) (w : World) :
    w.Logs (Store.create settings none) (inMemory "memory") := by
  rw [World.Logs, Store.create, wantedKind, h, Act.run_bind_ok (Act.run_lift_ok _ _)]
  exact ⟨_, rfl⟩

theorem Store.run_runOn {α : Type} (store : Store) (action : Action α) (w : World) :
    (runOn store action).run w =
      ((action.run ⟨store, w⟩).1, (action.run ⟨store, w⟩).2.world) := by
  rw [runOn, Act.run_get_bind]
  match action.run ⟨store, w⟩ with
  | (.ok a, s) => rfl
  | (.error e, s) => rfl

namespace Command

variable {c : Command} {settings : Settings} {issues : List Issue} {w w' : World}

theorem problems_of_memory (h : settings.backend = .memory) : settings.problems = [] := by
  simp [Settings.problems, h]

theorem logs_of_announce {u : Unit} (h : (announce settings).run w = (.ok u, w')) :
    ∃ journal, w' = { w with journal } := by
  rw [announce, Act.run_get_bind] at h
  dsimp only at h
  rw [Act.run_set_bind] at h
  obtain ⟨_, -, h⟩ := Act.run_lift_bind_eq_ok h
  obtain ⟨-, rfl⟩ := Prod.mk.inj h
  exact ⟨_, rfl⟩

/-- Where the file can be read the work is done on the store that is created. -/
theorem run_proceed_of_create {store : Store} {w₁ w₂ : World}
    (hissues : (Listing.load c.file).run w = (.ok issues, w₁))
    (hcreate : (Store.create settings none).run w₁ = (.ok store, w₂)) :
    (c.proceed settings).run w =
      (runOn store (Act.andFinally (c.work settings issues) close)).run w₂ := by
  have hbody : (do pure (.ok (← Listing.load c.file)) : Act World (Except Text (List Issue))).run w =
      (.ok (.ok issues), w₁) := Act.run_bind_ok hissues
  rw [proceed, Act.run_bind_ok (Act.run_tryCatch_ok hbody), Act.run_bind_ok hcreate]

/-- On the memory backend that is a memory store. -/
theorem run_proceed (hmemory : settings.backend = .memory)
    (hissues : ((Listing.load c.file).run w).1 = .ok issues) :
    (c.proceed settings).run w =
      (runOn (inMemory "memory") (Act.andFinally (c.work settings issues) close)).run
        ((Store.create settings none).run ((Listing.load c.file).run w).2).2 := by
  obtain ⟨journal, hcreate⟩ := logs_create hmemory ((Listing.load c.file).run w).2
  rw [run_proceed_of_create (Act.run_eq_of_fst hissues) hcreate, hcreate]

theorem proceed_ok (hmemory : settings.backend = .memory)
    (hissues : w.Logs (Listing.load c.file) issues) (hkeys : (issues.map Issue.key).Nodup)
    (h : (c.proceed settings).run w = (.ok 0, w')) :
    w'.printed = w.printed ++ c.page (c.shown settings issues) (c.marks settings issues) := by
  obtain ⟨journal, hload⟩ := hissues
  obtain ⟨journal', hcreate⟩ := logs_create hmemory { w with journal }
  rw [run_proceed hmemory (by rw [hload]), hload, hcreate, run_runOn] at h
  obtain ⟨hstatus, rfl⟩ := Prod.mk.inj h
  obtain ⟨s, hwork, hclose⟩ := Act.run_andFinally_eq_ok (Act.run_eq_of_fst hstatus)
  obtain ⟨hkind, hprinted⟩ := work_ok hkeys hwork
  rw [(Action.Silent.close.printed hkind hclose).2, hprinted]

end Command

/-- **A run on the memory backend that ends well prints the page**: it shows the issues of the file,
duplicates left out or not, and marks those that are named and those that take over a dismissal. -/
theorem runProgram_prints {arguments : List String} {c : Command} {settings : Settings}
    {issues : List Issue} {w w' : World} (hcommand : Command.read arguments = .ok c)
    (hsettings : (Settings.found.run w).1 = .ok settings)
    (hmemory : (c.adjust settings).backend = .memory)
    (hissues : ((Listing.load c.file).run w).1 = .ok issues)
    (hkeys : (issues.map Issue.key).Nodup)
    (hrun : (runProgram arguments).run w = (.ok 0, w')) :
    w'.printed = w.printed ++ c.page (c.shown settings issues) (c.marks settings issues) := by
  rw [runProgram, hcommand] at hrun
  dsimp only at hrun
  obtain ⟨environment, hfound⟩ := Settings.exists_of_found hsettings
  rw [Command.run_of_found hfound] at hrun
  obtain ⟨u, w₁, hannounce, hrun⟩ := Act.run_bind_eq_ok hrun
  obtain ⟨journal, rfl⟩ := Command.logs_of_announce hannounce
  rw [Command.problems_of_memory hmemory] at hrun
  have hlogs : World.Logs { w with environment, journal } (Listing.load c.file) issues :=
    Listing.logs_load_of_read (w := w) (fun _ => id) hissues
  -- What is shown and marked does not depend on the backend that the command asks for.
  have hprinted := Command.proceed_ok hmemory hlogs hkeys hrun
  exact hprinted

/-- A file with two duplicates and an issue that has none. -/
def twinsFile : List UInt8 :=
  Utf8.encode ("sources:\n- \x7bid: s, deduplication_group: g\x7d\nissues:\n" ++
    "- \x7bsource_id: s, id: a, deduplication_id: m\x7d\n" ++
    "- \x7bsource_id: s, id: b, deduplication_id: m\x7d\n" ++
    "- \x7bsource_id: s, id: c\x7d\n").toList

/-- The issues of that file. -/
def twins : List Issue :=
  [Dedup.duplicate "a" 0, Dedup.duplicate "b" 0, { Dedup.duplicate "c" 0 with mark := none }]

/-- A world in which there is nothing but that file. -/
def World.twins : World :=
  { World.blank with disk := Disk.blank.put ["d.yaml"] (.file twinsFile) }

theorem Disk.read_twins : World.twins.disk.read (Path.ofString "d.yaml") = .ok twinsFile := by
  have hpath : Path.ofString "d.yaml" = ⟨0, ["d.yaml"]⟩ := by simp [Path.ofString, Path.split]
  rw [hpath]
  exact read_of_locate (checkPath_of_notMem (by simp [Path.text])) rfl rfl

theorem Listing.load_twins : ((Listing.load "d.yaml").run .twins).1 = .ok twins := by
  rw [Listing.load, Act.run_get_bind, Disk.read_twins]
  decide +kernel

theorem Settings.load_twins : Settings.load .twins [] = .ok .standard := by
  have hfile : Path.ofString ".env" = ⟨0, [".env"]⟩ := by simp [Path.ofString, Path.split]
  have hvariables : Settings.fileVariables .twins = .ok [] := by
    rw [Settings.fileVariables, Settings.variablesFile, hfile, Disk.read,
      Disk.checkPath_of_notMem (by simp [Path.text])]
    rfl
  rw [Settings.load, Settings.fields, hvariables]
  decide +kernel

theorem Settings.run_found_twins : found.run .twins = (.ok .standard, .twins) := by
  rw [run_found_of_none rfl, load_twins]

/-- The second of the two is dismissed, and the first is printed with the mark. -/
theorem runProgram_prints_twins :
    ∃ w', (runProgram ["d.yaml", "--dismiss", "s/b"]).run .twins = (.ok 0, w') ∧
      w'.printed = Text.ofString "[100] s/a/0  (dismissed)\n[100] s/c/0 \n" := by
  let c : Command := ⟨"d.yaml", none, ["s/b"], false, false⟩
  have hcommand : Command.read ["d.yaml", "--dismiss", "s/b"] = .ok c := by decide +kernel
  have hannounce : ((Command.announce (c.adjust .standard)).run .twins).1 = .ok () := by
    decide +kernel
  obtain ⟨journal, hjournal⟩ := Command.logs_of_announce (Act.run_eq_of_fst hannounce)
  obtain ⟨journal', hload⟩ := Listing.logs_load journal Listing.load_twins
  have hissues : ((Listing.load c.file).run
      ((Command.announce (c.adjust .standard)).run .twins).2).1 = .ok twins := by
    rw [hjournal, hload]
  have hread : ((Command.announce (c.adjust .standard)).run .twins).2.disk.read
      (Path.ofString c.file) = .ok twinsFile := by
    rw [hjournal]
    exact Disk.read_twins
  have hstatus : ((runProgram ["d.yaml", "--dismiss", "s/b"]).run .twins).1 = .ok 0 := by
    rw [runProgram, hcommand]
    dsimp only
    rw [Command.run_of_found Settings.run_found_twins, Command.start,
      Act.run_bind_ok (Act.run_eq_of_fst hannounce), Command.problems_of_memory rfl]
    dsimp only
    rw [Command.run_proceed rfl hissues, Listing.load, Act.run_get_bind, hread]
    decide +kernel
  have hrun := Act.run_eq_of_fst hstatus
  refine ⟨_, hrun, ?_⟩
  rw [runProgram_prints hcommand (congrArg Prod.fst Settings.run_found_twins) rfl Listing.load_twins
    (by decide +kernel) hrun]
  decide +kernel

end IssueDigest
