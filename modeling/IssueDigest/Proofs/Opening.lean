import IssueDigest.Proofs.Closing
/-!
# What opening makes of a file

Whatever octets the dismissal file holds, opening a store on it ends in one of three ways.

* The octets are an object of the notation, and each of its entries is a record. The store starts with
  these records (`Store.Decodes`).
* Some entry asks for the integer of an infinite number, and all entries in front of it are records. Then
  opening fails, for this fault alone is not forgiven (`Store.Overflows`).
* The file is damaged in any other way. The store starts empty, counts one error and warns once.

That there is no fourth way is a matter of which faults reading can end with. The readers of text, of the
notation, of integers and of moments only refuse (`OnlyRefuses`); taking a record apart adds two kinds of
fault that are forgiven, and the infinite number.
-/

namespace IssueDigest

open Store

/-! ### Readers that only refuse -/

/-- Is the step one that fails by refusing a value, if it fails? -/
def OnlyRefuses {α : Type} (x : Except Fault α) : Prop :=
  ∀ e, x = .error e → ∃ reason, e = .refused reason

namespace OnlyRefuses

variable {α β : Type}

theorem ok (a : α) : OnlyRefuses (.ok a) := fun _ h => nomatch h

theorem refused (reason : Reason) : OnlyRefuses (.error (.refused reason) : Except Fault α) :=
  fun _ h => ⟨reason, (Except.error.inj h).symm⟩

theorem bind {x : Except Fault α} {f : α → Except Fault β} (hx : OnlyRefuses x)
    (hf : ∀ a, OnlyRefuses (f a)) : OnlyRefuses (x >>= f) := by
  intro e h
  rcases bind_eq_error_iff.mp h with h | ⟨a, -, h⟩
  · exact hx e h
  · exact hf a e h

/-- A value that is refused is forgiven. -/
theorem isForgiven {x : Except Fault α} (hx : OnlyRefuses x) {e : Fault} (h : x = .error e) :
    Store.isForgiven e = true := by
  obtain ⟨reason, rfl⟩ := hx e h
  rfl

end OnlyRefuses

theorem onlyRefuses_decodeText (bs : List UInt8) : OnlyRefuses (decodeText bs) := by
  unfold decodeText
  split
  · exact .ok _
  · exact .refused _

theorem Numeral.onlyRefuses_read (t : Text) : OnlyRefuses (Numeral.read t) := by
  unfold Numeral.read readIn readPlain
  dsimp only
  split
  · exact .refused _
  split
  · exact .refused _
  split
  · exact .refused _
  · exact .ok _

theorem Date.onlyRefuses_check (d : Date) : OnlyRefuses d.check := by
  unfold Date.check
  repeat' split
  all_goals first | exact .refused _ | exact .ok _

theorem TimeOfDay.onlyRefuses_check (t : TimeOfDay) : OnlyRefuses t.check := by
  unfold TimeOfDay.check
  repeat' split
  all_goals first | exact .refused _ | exact .ok _

theorem onlyRefuses_checkOffset (total : Int) : OnlyRefuses (checkOffset total) := by
  unfold checkOffset
  split
  · exact .ok _
  · exact .refused _

theorem Moment.onlyRefuses_read (t : Text) : OnlyRefuses (Moment.read t) := by
  unfold Moment.read
  split
  · exact .refused _
  next parts date time offset _ =>
  have hparts : OnlyRefuses (parts.check date) := by
    unfold Iso.DateParts.check
    split
    · exact date.onlyRefuses_check
    · split
      · exact .refused _
      · exact date.onlyRefuses_check
  have hrest : OnlyRefuses (parts.check date >>= fun _ => time.check >>= fun _ =>
      (pure ⟨date, time, offset⟩ : Except Fault Moment)) :=
    hparts.bind fun _ => time.onlyRefuses_check.bind fun _ => .ok _
  cases offset with
  | none => exact hrest
  | some total => exact (onlyRefuses_checkOffset total).bind fun _ => hrest

namespace Json

/-- Does the stop stand for a value that is refused? -/
def Stop.Refuses : Stop → Prop
  | .syntaxAt _ _ => True
  | .fault f => ∃ reason, f = .refused reason

theorem Stop.Refuses.toFault {stop : Stop} (h : stop.Refuses) (source : List Char) :
    ∃ reason, stop.toFault source = .refused reason := by
  cases stop with
  | syntaxAt note left => exact ⟨_, rfl⟩
  | fault f => exact h

/-- If reading stops, does it stop over the notation or over a value that is refused? -/
def StopsRefusing {α : Type} (x : Except Stop α) : Prop := ∀ stop, x = .error stop → stop.Refuses

namespace StopsRefusing

variable {α β : Type}

theorem ok (a : α) : StopsRefusing (.ok a) := fun _ h => nomatch h

theorem syntaxAt (note : String) (left : Nat) :
    StopsRefusing (.error (.syntaxAt note left) : Except Stop α) :=
  fun _ h => Except.error.inj h ▸ trivial

theorem refused (reason : Reason) :
    StopsRefusing (.error (.fault (.refused reason)) : Except Stop α) :=
  fun _ h => Except.error.inj h ▸ ⟨reason, rfl⟩

theorem bind {x : Except Stop α} {f : α → Except Stop β} (hx : StopsRefusing x)
    (hf : ∀ a, StopsRefusing (f a)) : StopsRefusing (x >>= f) := by
  intro stop h
  rcases bind_eq_error_iff.mp h with h | ⟨a, -, h⟩
  · exact hx stop h
  · exact hf a stop h

theorem map {x : Except Stop α} (hx : StopsRefusing x) (f : α → β) : StopsRefusing (x.map f) := by
  intro stop h
  exact hx stop (map_eq_error_iff.mp h)

end StopsRefusing

/-- Every error in a text is one of the notation, and a character in front changes nothing. -/
theorem stopsRefusing_readText (start skip : Nat) (cs : List Char) :
    StopsRefusing (readText start skip cs) := by
  fun_induction readText start skip cs with
  | case1 => exact .syntaxAt _ _
  | case2 skip c rest ih => exact ih
  | case3 rest => exact .ok _
  | case4 => exact .syntaxAt _ _
  | case5 => exact .syntaxAt _ _
  | case6 => next ih => exact ih.map _
  | case7 => next ih => exact ih.map _
  | case8 => next ih => exact ih.map _
  | case9 => exact .syntaxAt _ _
  | case10 => exact .syntaxAt _ _
  | case11 => next ih => exact ih.map _

/-- A number stops over its notation or over more digits than are read. -/
theorem stopsRefusing_readNumber (cs : List Char) : StopsRefusing (readNumber cs) := by
  obtain ⟨body, -, hread⟩ := exists_readsNumber cs
  generalize readNumber cs = outcome at hread ⊢
  cases hread with
  | nothing => exact .syntaxAt _ _
  | tooLong => exact .refused _
  | int => exact .ok _
  | fraction => exact .ok _
  | exponent => exact .ok _

/-- A value, a list of items and a list of fields stop alike, for each takes the others from reading
with less fuel. -/
theorem stopsRefusing_readFuel (fuel : Nat) :
    (∀ cs, StopsRefusing (readValue fuel cs)) ∧ (∀ cs, StopsRefusing (readItems fuel cs)) ∧
      ∀ cs, StopsRefusing (readFields fuel cs) := by
  induction fuel with
  | zero => exact ⟨fun _ => .syntaxAt _ _, fun _ => .syntaxAt _ _, fun _ => .syntaxAt _ _⟩
  | succ fuel ih =>
    obtain ⟨ihValue, ihItems, ihFields⟩ := ih
    refine ⟨fun cs => ?value, fun cs => ?items, fun cs => ?fields⟩
    case value =>
      rw [readValue.eq_def]
      dsimp only
      split
      · exact (stopsRefusing_readText _ _ _).map _
      · split
        · exact .ok _
        · exact (ihItems _).map _
      · split
        · exact .ok _
        · exact (ihFields _).map _
      · split
        · exact .ok _
        · exact stopsRefusing_readNumber _
    case items =>
      rw [readItems.eq_def]
      dsimp only
      refine (ihValue cs).bind fun read => ?_
      split
      · exact .ok _
      · exact (ihItems _).bind fun _ => .ok _
      · exact .syntaxAt _ _
    case fields =>
      rw [readFields.eq_def]
      dsimp only
      split
      · refine (stopsRefusing_readText _ _ _).bind fun name => ?_
        split
        · refine (ihValue _).bind fun read => ?_
          split
          · exact .ok _
          · exact (ihFields _).bind fun _ => .ok _
          · exact .syntaxAt _ _
        · exact .syntaxAt _ _
      · exact .syntaxAt _ _

theorem onlyRefuses_read (source : List Char) : OnlyRefuses (Json.read source) := by
  unfold Json.read
  split
  · exact .refused _
  split
  · next stop hstop =>
    intro e h
    obtain rfl := Except.error.inj h
    exact ((stopsRefusing_readFuel _).1 _ stop hstop).toFault source
  · split
    · exact .ok _
    · exact .refused _

/-! ### Infinite numbers -/

/-- Is the value an infinite number? -/
def IsInfinite (v : Json) : Prop := ∃ x negative, v = .float x ∧ FloatClass.of x = .infinite negative

/-- The integer of a value cannot be had for its infinity exactly if it is infinite, and else for a
fault that is forgiven. -/
theorem toInt_eq_error {v : Json} {e : Fault} (h : v.toInt = .error e) :
    Store.isForgiven e = true ∨ e = .infinite ∧ v.IsInfinite := by
  cases v with
  | int n => cases h
  | bool b => cases h
  | text t => exact .inl ((Numeral.onlyRefuses_read t).isForgiven h)
  | float x =>
    rw [toInt, Numeral.ofFloat] at h
    split at h
    · obtain rfl := Except.error.inj h
      exact .inl rfl
    · next negative hx =>
      obtain rfl := Except.error.inj h
      exact .inr ⟨rfl, x, negative, rfl, hx⟩
    · cases h
  | null | list items | object fields =>
    obtain rfl := Except.error.inj h
    exact .inl rfl

theorem toInt_of_isInfinite {v : Json} (h : v.IsInfinite) : v.toInt = .error .infinite := by
  obtain ⟨x, negative, rfl, hx⟩ := h
  rw [toInt, Numeral.ofFloat, hx]

/-- A field is wanting for a fault that is forgiven. -/
theorem isForgiven_of_need {v : Json} {name : String} {e : Fault} (h : v.need name = .error e) :
    Store.isForgiven e = true := by
  cases v with
  | object fields =>
    rw [need] at h
    split at h
    · cases h
    · obtain rfl := Except.error.inj h
      rfl
  | _ =>
    obtain rfl := Except.error.inj h
    rfl

theorem isForgiven_of_toMoment {v : Json} {e : Fault} (h : v.toMoment = .error e) :
    Store.isForgiven e = true := by
  cases v with
  | text t => exact (Moment.onlyRefuses_read t).isForgiven h
  | _ =>
    obtain rfl := Except.error.inj h
    rfl

theorem need_eq_ok_iff {v x : Json} {name : String} :
    v.need name = .ok x ↔ v.field? name = some x := by
  refine ⟨field?_of_need, fun h => ?_⟩
  cases v with
  | object fields =>
    rw [need]
    rw [field?] at h
    rw [h]
  | _ => cases h

end Json

namespace Record

/-- The moment in an object. -/
def momentOf (v : Json) : Except Fault Moment := v.need "dismissed_at" >>= Json.toMoment

/-- The severity in an object. -/
def severityOf (v : Json) : Except Fault Int := v.need "max_severity_at_dismissal" >>= Json.toInt

/-- Does the object ask for the integer of an infinite number, with nothing wrong in front of it? -/
def Overflows (v : Json) : Prop :=
  (∃ since, momentOf v = .ok since) ∧
    ((∃ x, v.field? "max_severity_at_dismissal" = some x ∧ x.IsInfinite) ∨
      (∃ severity, severityOf v = .ok severity) ∧
        ∃ x, v.field? "dismiss_count" = some x ∧ x.IsInfinite)

theorem isForgiven_of_momentOf {v : Json} {e : Fault} (h : momentOf v = .error e) :
    Store.isForgiven e = true := by
  rcases bind_eq_error_iff.mp h with h | ⟨x, -, h⟩
  · exact Json.isForgiven_of_need h
  · exact Json.isForgiven_of_toMoment h

theorem severityOf_eq_error {v : Json} {e : Fault} (h : severityOf v = .error e) :
    Store.isForgiven e = true ∨
      e = .infinite ∧ ∃ x, v.field? "max_severity_at_dismissal" = some x ∧ x.IsInfinite := by
  rcases bind_eq_error_iff.mp h with h | ⟨x, hx, h⟩
  · exact .inl (Json.isForgiven_of_need h)
  · obtain hforgiven | ⟨rfl, hinfinite⟩ := Json.toInt_eq_error h
    · exact .inl hforgiven
    · exact .inr ⟨rfl, x, Json.field?_of_need hx, hinfinite⟩

/-- **An object is no record for a fault that is forgiven, or it overflows.** -/
theorem ofJson_eq_error {v : Json} {e : Fault} (h : ofJson v = .error e) :
    Store.isForgiven e = true ∨ e = .infinite ∧ Overflows v := by
  rcases bind_eq_error_iff.mp h with h | ⟨since, hsince, h⟩
  · exact .inl (isForgiven_of_momentOf h)
  rcases bind_eq_error_iff.mp h with h | ⟨severity, hseverity, h⟩
  · obtain hforgiven | ⟨rfl, hfield⟩ := severityOf_eq_error h
    · exact .inl hforgiven
    · exact .inr ⟨rfl, ⟨since, hsince⟩, .inl hfield⟩
  rcases bind_eq_error_iff.mp h with h | ⟨count, -, h⟩
  · obtain hforgiven | ⟨rfl, hcount⟩ := Json.toInt_eq_error h
    · exact .inl hforgiven
    · refine .inr ⟨rfl, ⟨since, hsince⟩, .inr ⟨⟨severity, hseverity⟩, ?_⟩⟩
      -- A count that is not there is 1, which is no infinite number.
      cases hfield : v.field? "dismiss_count" with
      | none =>
        rw [hfield] at hcount
        obtain ⟨x, negative, hx, -⟩ := hcount
        cases hx
      | some x =>
        rw [hfield] at hcount
        exact ⟨x, rfl, hcount⟩
  · cases h

theorem ofJson_of_overflows {v : Json} (h : Overflows v) : ofJson v = .error .infinite := by
  obtain ⟨⟨since, hsince⟩, hrest⟩ := h
  refine bind_eq_error_iff.mpr (.inr ⟨since, hsince, ?_⟩)
  obtain ⟨x, hx, hinfinite⟩ | ⟨⟨severity, hseverity⟩, x, hx, hinfinite⟩ := hrest
  · have hneed := Json.need_eq_ok_iff.mpr hx
    have hover := Json.toInt_of_isInfinite hinfinite
    exact bind_eq_error_iff.mpr (.inl (bind_eq_error_iff.mpr (.inr ⟨x, hneed, hover⟩)))
  · refine bind_eq_error_iff.mpr (.inr ⟨severity, hseverity, bind_eq_error_iff.mpr (.inl ?_)⟩)
    rw [hx]
    exact Json.toInt_of_isInfinite hinfinite

end Record

namespace Store

/-! ### Documents -/

/-- Do the octets stand for an object each entry of which is a record, and is the table that of these
records? -/
def Decodes (bs : List UInt8) (records : Table Text Record) : Prop :=
  ∃ fields, (decodeText bs >>= Json.read) = .ok (.object fields) ∧
    List.Forall₂ (fun f e => e.1 = f.1 ∧ Record.ofJson f.2 = .ok e.2) fields records.entries

/-- Do the octets stand for an object one entry of which overflows, behind entries that are records? -/
def Overflows (bs : List UInt8) : Prop :=
  ∃ before key v after,
    (decodeText bs >>= Json.read) = .ok (.object (before ++ (key, v) :: after)) ∧
      (∀ f ∈ before, ∃ r, Record.ofJson f.2 = .ok r) ∧ Record.Overflows v

theorem readRecords_eq_ok_iff {fields : List (Text × Json)} {entries : List (Text × Record)} :
    readRecords fields = .ok entries ↔
      List.Forall₂ (fun f e => e.1 = f.1 ∧ Record.ofJson f.2 = .ok e.2) fields entries := by
  induction fields generalizing entries with
  | nil =>
    rw [List.forall₂_nil_left_iff]
    exact ⟨fun h => (Except.ok.inj h).symm, fun h => congrArg _ h.symm⟩
  | cons f fields ih =>
    constructor
    · intro h
      obtain ⟨r, hr, h⟩ := bind_eq_ok_iff.mp h
      obtain ⟨more, hmore, h⟩ := bind_eq_ok_iff.mp h
      obtain rfl := Except.ok.inj h
      exact .cons ⟨rfl, hr⟩ (ih.mp hmore)
    · intro h
      obtain ⟨⟨key, r⟩, more, ⟨rfl, hr⟩, hmore, rfl⟩ := List.forall₂_cons_left_iff.mp h
      exact bind_eq_ok_iff.mpr ⟨r, hr, bind_eq_ok_iff.mpr ⟨more, ih.mpr hmore, rfl⟩⟩

/-- The first entry that is no record decides. -/
theorem readRecords_eq_error_iff {fields : List (Text × Json)} {e : Fault} :
    readRecords fields = .error e ↔
      ∃ before key v after, fields = before ++ (key, v) :: after ∧
        (∀ f ∈ before, ∃ r, Record.ofJson f.2 = .ok r) ∧ Record.ofJson v = .error e := by
  induction fields with
  | nil =>
    constructor
    · intro h
      cases h
    · rintro ⟨before, key, v, after, h, -⟩
      exact absurd h.symm (List.append_ne_nil_of_right_ne_nil _ (List.cons_ne_nil _ _))
  | cons f fields ih =>
    constructor
    · intro h
      rcases bind_eq_error_iff.mp h with h | ⟨r, hr, h⟩
      · exact ⟨[], f.1, f.2, fields, rfl, List.forall_mem_nil _, h⟩
      rcases bind_eq_error_iff.mp h with h | ⟨more, -, h⟩
      · obtain ⟨before, key, v, after, rfl, hbefore, hv⟩ := ih.mp h
        exact ⟨f :: before, key, v, after, rfl, List.forall_mem_cons.mpr ⟨⟨r, hr⟩, hbefore⟩, hv⟩
      · cases h
    · rintro ⟨before, key, v, after, hfields, hbefore, hv⟩
      cases before with
      | nil =>
        obtain ⟨rfl, rfl⟩ := List.cons.inj hfields
        exact bind_eq_error_iff.mpr (.inl hv)
      | cons g before =>
        obtain ⟨rfl, rfl⟩ := List.cons.inj hfields
        obtain ⟨⟨r, hr⟩, hbefore⟩ := List.forall_mem_cons.mp hbefore
        have hrest := ih.mpr ⟨before, key, v, after, rfl, hbefore, hv⟩
        exact bind_eq_error_iff.mpr (.inr ⟨r, hr, bind_eq_error_iff.mpr (.inl hrest)⟩)

/-- The names of an object that was read differ, so its records make a table as they are. -/
theorem tableOf_eq_ok_iff {cs : List Char} {fields : List (Text × Json)}
    (hread : Json.read cs = .ok (.object fields)) {records : Table Text Record} :
    tableOf (.object fields) = .ok records ↔ readRecords fields = .ok records.entries := by
  have hnodup : (fields.map Prod.fst).Nodup := by
    obtain ⟨pairs, rfl, -⟩ := Json.fields_of_read hread
    exact Table.nodup_ofPairs pairs
  have hentries {entries : List (Text × Record)} (h : readRecords fields = .ok entries) :
      (Table.ofPairs entries).entries = entries := by
    rw [Table.entries_ofPairs, Entries.ofPairs_of_nodup]
    rw [keys_of_readRecords h]
    exact hnodup
  constructor
  · intro h
    obtain ⟨entries, hrecords, rfl⟩ := map_eq_ok_iff.mp h
    rw [hentries hrecords]
    exact hrecords
  · intro h
    refine map_eq_ok_iff.mpr ⟨_, h, ?_⟩
    have hsame := hentries h
    cases hrecords : Table.ofPairs records.entries
    cases records
    rw [hrecords] at hsame
    cases hsame
    rfl

/-- **A document can be read exactly if it decodes**, and its table is that of the entries. -/
theorem readDocument_eq_ok_iff {bs : List UInt8} {records : Table Text Record} :
    readDocument bs = .ok records ↔ Decodes bs records := by
  constructor
  · intro h
    obtain ⟨v, hv, h⟩ := bind_eq_ok_iff.mp h
    cases v with
    | object fields =>
      obtain ⟨cs, -, hread⟩ := bind_eq_ok_iff.mp hv
      exact ⟨fields, hv, readRecords_eq_ok_iff.mp ((tableOf_eq_ok_iff hread).mp h)⟩
    | _ => cases h
  · rintro ⟨fields, hv, hrecords⟩
    obtain ⟨cs, -, hread⟩ := bind_eq_ok_iff.mp hv
    have htable := (tableOf_eq_ok_iff hread).mpr (readRecords_eq_ok_iff.mpr hrecords)
    exact bind_eq_ok_iff.mpr ⟨_, hv, htable⟩

/-- **A document that cannot be read has a fault that is forgiven, or it overflows.** -/
theorem readDocument_eq_error {bs : List UInt8} {e : Fault} (h : readDocument bs = .error e) :
    isForgiven e = true ∨ e = .infinite ∧ Overflows bs := by
  rcases bind_eq_error_iff.mp h with h | ⟨v, hv, h⟩
  · have hrefuses : OnlyRefuses (decodeText bs >>= Json.read) :=
      (onlyRefuses_decodeText bs).bind Json.onlyRefuses_read
    exact .inl (hrefuses.isForgiven h)
  cases v with
  | object fields =>
    have hrecords : readRecords fields = .error e := by
      cases hfields : readRecords fields with
      | ok entries =>
        rw [tableOf, hfields] at h
        cases h
      | error e' =>
        rw [tableOf, hfields] at h
        exact congrArg _ (Except.error.inj h)
    obtain ⟨before, key, v, after, rfl, hbefore, hfault⟩ := readRecords_eq_error_iff.mp hrecords
    obtain hforgiven | ⟨rfl, hover⟩ := Record.ofJson_eq_error hfault
    · exact .inl hforgiven
    · exact .inr ⟨rfl, before, key, v, after, hv, hbefore, hover⟩
  | _ =>
    obtain rfl := Except.error.inj h
    exact .inl rfl

theorem readDocument_of_overflows {bs : List UInt8} (h : Overflows bs) :
    readDocument bs = .error .infinite := by
  obtain ⟨before, key, v, after, hv, hbefore, hover⟩ := h
  refine bind_eq_error_iff.mpr (.inr ⟨_, hv, ?_⟩)
  have hrecords : readRecords (before ++ (key, v) :: after) = .error .infinite :=
    readRecords_eq_error_iff.mpr
      ⟨before, key, v, after, rfl, hbefore, Record.ofJson_of_overflows hover⟩
  rw [tableOf, hrecords]
  rfl

end Store

/-! ### Opening -/

/-- The world after a warning about its dismissal file. -/
def World.warned (w : World) (p : Path) (why : Text) : World :=
  w.note .warning "Ignoring unreadable dismissal file"
    [("path", .string p.text), ("error", .text why)]

section Open

variable {path : String} {w : World} {disk : Disk} {bs : List UInt8}

/-- Opening a store on a file that is there is a matter of reading its document. -/
theorem run_openFile_of_read (name : String)
    (hmade : w.disk.ensureDirectory (Path.ofString path).parent = (disk, .ok ()))
    (hread : disk.read (Path.ofString path) = .ok bs) :
    (openFile name path).run w =
      match readDocument bs with
      | .ok records => (.ok (onFile name (Path.ofString path) records 0), { w with disk })
      | .error e =>
        if isForgiven e then
          (.ok (onFile name (Path.ofString path) .empty 1),
            World.warned { w with disk } (Path.ofString path) e.message)
        else (.error e, { w with disk }) := by
  have hfile : readFile disk (Path.ofString path) = readDocument bs := by
    rw [readFile, hread]
    rfl
  rw [openFile, Act.run_get_bind, hmade]
  dsimp only
  rw [Act.run_set_bind, Act.run_bind_ok (Act.run_lift_ok () _), Disk.holds_of_read hread,
    Act.run_bind_ok (Act.run_lift_ok true _), if_neg (by simp), hfile]
  cases readDocument bs with
  | ok records => rfl
  | error e =>
    dsimp only
    split
    · rfl
    · rfl

section Outcomes

variable (name : String)
  (hmade : w.disk.ensureDirectory (Path.ofString path).parent = (disk, .ok ()))
  (hread : disk.read (Path.ofString path) = .ok bs)

include hmade hread

theorem run_openFile_of_decodes {records : Table Text Record} (h : Decodes bs records) :
    (openFile name path).run w =
      (.ok (onFile name (Path.ofString path) records 0), { w with disk }) := by
  rw [run_openFile_of_read name hmade hread, readDocument_eq_ok_iff.mpr h]

/-- An infinite number is not forgiven. -/
theorem run_openFile_of_overflows (h : Store.Overflows bs) :
    (openFile name path).run w = (.error .infinite, { w with disk }) := by
  rw [run_openFile_of_read name hmade hread, readDocument_of_overflows h]
  exact if_neg (by simp [isForgiven])

/-- Any other damage is. -/
theorem run_openFile_of_damaged (hnone : ¬∃ records, Decodes bs records)
    (hsound : ¬Store.Overflows bs) :
    ∃ why, (openFile name path).run w =
      (.ok (onFile name (Path.ofString path) .empty 1),
        World.warned { w with disk } (Path.ofString path) why) := by
  cases hdocument : readDocument bs with
  | ok records => exact absurd ⟨records, readDocument_eq_ok_iff.mp hdocument⟩ hnone
  | error e =>
    obtain hforgiven | ⟨-, h⟩ := readDocument_eq_error hdocument
    · refine ⟨e.message, ?_⟩
      rw [run_openFile_of_read name hmade hread, hdocument]
      exact if_pos hforgiven
    · exact absurd h hsound

end Outcomes

/-- **Opening a store on a file whose directory can be used** ends in one of three ways, whatever the
octets of the file are. If they decode, the store has exactly the decoded records and no errors. If an
entry overflows, opening fails. In every other case the store is empty, has met one error and has warned
once. A document may be nested to any depth here (`Json.read`). -/
theorem openFile_tolerates (name : String)
    (hmade : w.disk.ensureDirectory (Path.ofString path).parent = (disk, .ok ()))
    (hread : disk.read (Path.ofString path) = .ok bs) :
    (∀ records, Decodes bs records →
        (openFile name path).run w =
          (.ok (onFile name (Path.ofString path) records 0), { w with disk })) ∧
      ((¬∃ records, Decodes bs records) → ¬Store.Overflows bs →
        ∃ why, (openFile name path).run w =
          (.ok (onFile name (Path.ofString path) .empty 1),
            World.warned { w with disk } (Path.ofString path) why)) ∧
      (Store.Overflows bs → (openFile name path).run w = (.error .infinite, { w with disk })) ∧
      ((∃ store, ((openFile name path).run w).1 = .ok store) ↔ ¬Store.Overflows bs) := by
  refine ⟨fun records => run_openFile_of_decodes name hmade hread,
    run_openFile_of_damaged name hmade hread, run_openFile_of_overflows name hmade hread, ?_, ?_⟩
  · rintro ⟨store, hstore⟩ h
    rw [run_openFile_of_overflows name hmade hread h] at hstore
    cases hstore
  · intro hsound
    by_cases hsome : ∃ records, Decodes bs records
    · obtain ⟨records, h⟩ := hsome
      exact ⟨_, congrArg Prod.fst (run_openFile_of_decodes name hmade hread h)⟩
    · obtain ⟨why, h⟩ := run_openFile_of_damaged name hmade hread hsome hsound
      exact ⟨_, congrArg Prod.fst h⟩

end Open

/-- A world in which the dismissal file holds the octets. -/
def World.withFile (bs : List UInt8) : World :=
  { World.blank with disk := Disk.blank.put ["d.json"] (.file bs) }

theorem ensureDirectory_withFile (bs : List UInt8) :
    (World.withFile bs).disk.ensureDirectory (Path.ofString "d.json").parent =
      ((World.withFile bs).disk, .ok ()) := by
  have hpath : Path.ofString "d.json" = ⟨0, ["d.json"]⟩ := by simp [Path.ofString, Path.split]
  rw [hpath]
  exact Disk.ensureDirectory_of_hasDirectory
    (Disk.checkPath_of_notMem (by simp [Path.text, Path.parent])) rfl

theorem read_withFile (bs : List UInt8) :
    (World.withFile bs).disk.read (Path.ofString "d.json") = .ok bs := by
  have hpath : Path.ofString "d.json" = ⟨0, ["d.json"]⟩ := by simp [Path.ofString, Path.split]
  have hcheck : Disk.checkPath ⟨0, ["d.json"]⟩ = .ok () :=
    Disk.checkPath_of_notMem (by simp [Path.text])
  have hlocate : (World.withFile bs).disk.locate ⟨0, ["d.json"]⟩ = .ok ["d.json"] := rfl
  rw [hpath]
  exact Disk.read_of_locate hcheck hlocate rfl

/-- A store on a file with one bad entry starts empty, with one error and one warning. -/
theorem openFile_tolerates_damaged :
    (¬∃ records, Decodes damaged records) ∧ ¬Store.Overflows damaged ∧
      ∃ why, (openFile "store" "d.json").run (.withFile damaged) =
        (.ok (onFile "store" (Path.ofString "d.json") .empty 1),
          World.warned (.withFile damaged) (Path.ofString "d.json") why) := by
  have hnone : ¬∃ records, Decodes damaged records := by
    rintro ⟨records, h⟩
    have hdocument := readDocument_eq_ok_iff.mpr h
    rw [readDocument_damaged] at hdocument
    cases hdocument
  have hsound : ¬Store.Overflows damaged := by
    intro h
    have hdocument := readDocument_of_overflows h
    rw [readDocument_damaged] at hdocument
    cases hdocument
  have hopen := openFile_tolerates "store" (ensureDirectory_withFile damaged) (read_withFile damaged)
  exact ⟨hnone, hsound, hopen.2.1 hnone hsound⟩

/-- A document whose only entry has a severity beyond all floats. -/
def overflowing : List UInt8 :=
  Utf8.encode ("\x7b\"s/a/0\": \x7b\"dismissed_at\": \"2024-01-01\", " ++
    "\"max_severity_at_dismissal\": 1e999\x7d\x7d").toList

/-- On that document no store can be opened. -/
theorem openFile_not_tolerates_overflowing :
    (openFile "store" "d.json").run (.withFile overflowing) =
      (.error .infinite, .withFile overflowing) := by
  have hresult : (readDocument overflowing).map (fun _ => ()) = .error .infinite := by
    decide +kernel
  have hdocument : readDocument overflowing = .error .infinite := map_eq_error_iff.mp hresult
  rw [run_openFile_of_read "store" (ensureDirectory_withFile overflowing)
    (read_withFile overflowing), hdocument]
  exact if_neg (by simp [isForgiven])

end IssueDigest
