import IssueDigest.Document.Listing
import IssueDigest.Proofs.Letters
/-!
# Numbers given as text

The type of a source and the severity of an issue can be given as a number or as text. This module says
what becomes of a document when such a number is replaced by its decimal form (`ofEntries_respelled`): the
listing stays the same where the text is read as the number (`Slot.Reads`), which is not everywhere. Any
number is taken as a type or a severity, but the text of a type is read if it is made of digits that are not
too many, and the text of a severity if it is the number of a level; otherwise the document is refused for
this field.

A document around one of its numbers is a `Spot`, and what is checked there goes into the whole in a fixed
way (`Spot.checkFields_fill`). So a change of the number is a change of the outcome at one place: where it
is the same outcome, so is that of the whole, and where it is a complaint, this is one complaint more
(`Checked.Spoils`).
-/

namespace IssueDigest

/-! ### One complaint more -/

namespace Checked

variable {α β : Type} {c : Complaint}

/-- Is the second outcome the first one with one complaint more? A fault stays what it is. -/
inductive Spoils (c : Complaint) : Checked α → Checked α → Prop
  | fault (e : Fault) : Spoils c (.error e) (.error e)
  | sound (a : α) : Spoils c (.ok (.ok a)) (.ok (.error [c]))
  | flawed (cs ds : List Complaint) : Spoils c (.ok (.error (cs ++ ds))) (.ok (.error (cs ++ c :: ds)))

theorem Spoils.of_eq {cs ds es fs : List Complaint} (hes : es = cs ++ ds) (hfs : fs = cs ++ c :: ds) :
    Spoils c (.ok (.error es) : Checked α) (.ok (.error fs)) := by
  subst hes hfs
  exact .flawed cs ds

/-- A way in which a part goes into a whole: a complaint more about the part is one more about the
whole. -/
def Conveys (whole : Checked α → Checked β) : Prop :=
  ∀ c x x', Spoils c x x' → Spoils c (whole x) (whole x')

namespace Conveys

theorem comp {γ : Type} {outer : Checked β → Checked γ} {inner : Checked α → Checked β}
    (houter : Conveys outer) (hinner : Conveys inner) : Conveys fun x => outer (inner x) :=
  fun c x x' h => houter c _ _ (hinner c x x' h)

theorem map (f : α → β) : Conveys (map f) := by
  rintro c _ _ (e | a | ⟨cs, ds⟩)
  · exact .fault e
  · exact .sound (f a)
  · exact .flawed cs ds

theorem bothLeft (b : Checked β) : Conveys fun x : Checked α => both x b := by
  rintro c _ _ (e | a | ⟨cs, ds⟩)
  · exact .fault e
  · match b with
    | .error e => exact .fault e
    | .ok (.ok b) => exact .sound (a, b)
    | .ok (.error es) => exact .flawed [] es
  · match b with
    | .error e => exact .fault e
    | .ok (.ok b) => exact .flawed cs ds
    | .ok (.error es) =>
      exact .of_eq (List.append_assoc cs ds es) (List.append_assoc cs (c :: ds) es)

theorem bothRight (a : Checked α) : Conveys fun x : Checked β => both a x := by
  rintro c _ _ (e | b | ⟨cs, ds⟩)
  · match a with
    | .error e' => exact .fault e'
    | .ok a => exact .fault e
  · match a with
    | .error e => exact .fault e
    | .ok (.ok a) => exact .sound (a, b)
    | .ok (.error es) => exact .of_eq (List.append_nil es).symm rfl
  · match a with
    | .error e => exact .fault e
    | .ok (.ok a) => exact .flawed cs ds
    | .ok (.error es) =>
      exact .of_eq (List.append_assoc es cs ds).symm (List.append_assoc es cs (c :: ds)).symm

end Conveys

/-- An item goes into the list of all of them, wherever it stands. -/
theorem exists_conveys_items (check : Nat → Value → Checked α) (i : Nat) (before after : List Value) :
    ∃ whole : Checked α → Checked (List α), Conveys whole ∧
      ∀ v, items check i (before ++ v :: after) = whole (check (i + before.length) v) := by
  induction before generalizing i with
  | nil => exact ⟨_, (Conveys.map _).comp (.bothLeft (items check (i + 1) after)), fun v => rfl⟩
  | cons w before ih =>
    obtain ⟨whole, hconveys, hitems⟩ := ih (i + 1)
    refine ⟨_, (Conveys.map _).comp ((Conveys.bothRight (check i w)).comp hconveys), fun v => by
      rw [List.cons_append, items, hitems, List.length_cons, Nat.add_assoc, Nat.add_comm 1]⟩

end Checked

/-! ### A field among others -/

namespace Value

variable {name : String} {front back : List (Value × Value)}

theorem field?_append_cons (name : String) (front : List (Value × Value)) (e : Value × Value)
    (back : List (Value × Value)) : field? name (front ++ e :: back) =
      ((field? name back).or (if hasName name e then some e.2 else none)).or (field? name front) := by
  rw [field?, List.reverse_append, List.reverse_cons, List.find?_append, List.find?_append,
    List.find?_singleton, Option.map_or, Option.map_or]
  split <;> rfl

/-- The last field of a name counts. -/
theorem field?_of_last (v : Value) (h : field? name back = none) :
    field? name (front ++ (.text name, v) :: back) = some v := by
  rw [field?_append_cons, h]
  simp [hasName]

/-- A field is of no account for the others. -/
theorem field?_of_ne {other : String} (v : Value) (h : Text.ofString name ≠ Text.ofString other) :
    field? other (front ++ (.text name, v) :: back) =
      field? other (front ++ (.text name, .null) :: back) := by
  rw [field?_append_cons, field?_append_cons]
  simp [hasName, h]

theorem exists_of_field? {entries : List (Value × Value)} {v : Value}
    (h : field? name entries = some v) :
    ∃ front back, entries = front ++ (.text name, v) :: back ∧ field? name back = none := by
  obtain ⟨⟨key, _⟩, hfind, rfl⟩ := Option.map_eq_some_iff.mp h
  obtain ⟨hname, before, after, hcut, hbefore⟩ := List.find?_eq_some_iff_append.mp hfind
  obtain ⟨t, rfl, rfl⟩ : ∃ t, key = .text t ∧ t = Text.ofString name := by
    cases key with
    | text t => exact ⟨t, rfl, of_decide_eq_true hname⟩
    | _ => cases hname
  refine ⟨after.reverse, before.reverse, ?_, ?_⟩
  · have hentries := congrArg List.reverse hcut
    simpa using hentries
  · rw [field?, List.reverse_reverse, List.find?_eq_none.mpr fun e he => by simpa using hbefore e he]
    rfl

end Value

namespace Checked

variable {α : Type} {name other : String} {front back : List (Value × Value)} {path : List Step}
  {check : ValueCheck α} {default : α}

theorem required_of_ne (h : Text.ofString name ≠ Text.ofString other) (v : Value) :
    required path other check (front ++ (.text name, v) :: back) =
      required path other check (front ++ (.text name, .null) :: back) := by
  rw [required, required, Value.field?_of_ne v h]

theorem optional_of_ne (h : Text.ofString name ≠ Text.ofString other) (v : Value) :
    optional path other check default (front ++ (.text name, v) :: back) =
      optional path other check default (front ++ (.text name, .null) :: back) := by
  rw [optional, optional, Value.field?_of_ne v h]

theorem optional_of_last (h : Value.field? name back = none) (v : Value) :
    optional path name check default (front ++ (.text name, v) :: back) =
      place (path ++ [.field name]) (check v) := by
  rw [optional, Value.field?_of_last v h]

theorem entryList_of_ne {kind : String} {check : List Step → List (Value × Value) → Checked α}
    (h : Text.ofString name ≠ Text.ofString other) (v : Value) :
    entryList other kind check (front ++ (.text name, v) :: back) =
      entryList other kind check (front ++ (.text name, .null) :: back) := by
  rw [entryList, entryList, Value.field?_of_ne v h]

end Checked

/-! ### The numbers of a document -/

/-- The numbers of a document that can be given as text: the type of a source and the severity of an
issue. -/
inductive Slot where
  | type
  | severity
  deriving DecidableEq, Repr

namespace Slot

/-- The field of the document that lists the entries. -/
def list : Slot → String
  | type => "sources"
  | severity => "issues"

/-- The field of the entry. -/
def field : Slot → String
  | type => "type"
  | severity => "severity_level"

/-- How a value there is checked. -/
def check : Slot → ValueCheck Int
  | type => SourceKind.check
  | severity => Severity.check

/-- Is the decimal form of a number read as the number there? Digits are, unless they are too many, and of
severities those of the levels. -/
def Reads : Slot → Int → Prop
  | type, n => 0 ≤ n ∧ n < 10 ^ digitLimit
  | severity, n => ∃ s : Severity, s.level = n

/-- What is wrong with a decimal form that is not read. -/
def reason (slot : Slot) (n : Int) : Text :=
  match slot with
  | type =>
    if n < 0 then SourceKind.unknown (Text.ofInt n)
    else (Reason.integerTooLong (Nat.toDigits 10 n.natAbs).length).message
  | severity =>
    if n < 0 then (Reason.notMember .severity (Text.ofInt n).quoted).message
    else if Numeral.isWritable n then (Reason.notMember .severity (Text.ofInt n)).message
    else (Reason.integerTooLong (Nat.toDigits 10 n.natAbs).length).message

section Check

variable {n : Int}

/-- Any number is taken. -/
theorem check_int (slot : Slot) (n : Int) : slot.check (.int n) = .ok (.ok n) := by
  cases slot <;> rfl

theorem read_ofInt (n : Int) : Numeral.read (Text.ofInt n) =
    if Numeral.isWritable n then .ok n
    else .error (.refused (.integerTooLong (Nat.toDigits 10 n.natAbs).length)) := by
  rw [IssueKey.ofInt_eq_decimal]
  split
  · next h => exact Numeral.read_decimal h
  · next h => exact Numeral.read_decimal_of_long (Bool.eq_false_iff.mpr h)

theorem isWritable_iff_lt (h : 0 ≤ n) : Numeral.isWritable n = true ↔ n < 10 ^ digitLimit := by
  obtain ⟨m, rfl⟩ := Int.eq_ofNat_of_zero_le h
  rw [Numeral.isWritable_iff, Int.natAbs_natCast]
  exact_mod_cast Iff.rfl

/-- The text of a type: no name is a decimal form, so it is taken for a number if it is made of digits. -/
theorem check_type (n : Int) : type.check (.text (Text.ofInt n)) =
    if 0 ≤ n then ValueCheck.settle (Numeral.read (Text.ofInt n))
    else .ok (.error (.refused (SourceKind.unknown (Text.ofInt n)))) := by
  have hnames : ∀ kind ∈ SourceKind.all, ((Text.ofString kind.name).head?.any fun c =>
      decide (c.toNat ∉ 45 :: Text.digitCodes)) = true := by decide +kernel
  have hnone : SourceKind.ofName? (Text.ofInt n) = none :=
    List.find?_eq_none.mpr fun kind hkind => by
      simpa using Text.ne_ofInt (hnames kind hkind) n
  rw [check, SourceKind.check, Text.isNumeric_ofInt, Text.trim_upper_ofInt, hnone]
  simp only [decide_eq_true_eq]

/-- The text of a severity: no name is a decimal form, and a number must be that of a level. -/
theorem check_severity (n : Int) : severity.check (.text (Text.ofInt n)) =
    ValueCheck.settle (Severity.level <$>
      if 0 ≤ n then Numeral.read (Text.ofInt n) >>= Severity.ofLevel
      else .error (.refused (.notMember .severity (Text.ofInt n).quoted))) := by
  have hnames : ∀ s ∈ Severity.all, ((Text.ofString s.name).head?.any fun c =>
      decide (c.toNat ∉ 45 :: Text.digitCodes)) = true := by decide +kernel
  have hnone : (Severity.all.find? fun s => Text.ofString s.name = Text.ofInt n) = none :=
    List.find?_eq_none.mpr fun s hs => by simpa using Text.ne_ofInt (hnames s hs) n
  have hcheck : severity.check (.text (Text.ofInt n)) =
      ValueCheck.settle (Severity.level <$> Severity.ofText (Text.ofInt n)) := rfl
  rw [hcheck, Severity.ofText, Text.trim_upper_ofInt, hnone, Text.isNumeric_ofInt]
  simp only [decide_eq_true_eq]

theorem ofLevel_of_forall (h : ∀ s : Severity, s.level ≠ n) :
    Severity.ofLevel n = .error (.refused (.notMember .severity (Text.ofInt n))) := by
  have hnone : Severity.ofLevel? n = none :=
    List.find?_eq_none.mpr fun s _ => by simpa using h s
  rw [Severity.ofLevel, hnone]

/-- **A number that is read from its text** is the one that it is. -/
theorem check_of_reads {slot : Slot} (h : slot.Reads n) :
    slot.check (.text (Text.ofInt n)) = .ok (.ok n) := by
  cases slot with
  | type =>
    obtain ⟨hsign, hlength⟩ := h
    rw [check_type, if_pos hsign, read_ofInt, if_pos ((isWritable_iff_lt hsign).mpr hlength)]
    rfl
  | severity =>
    obtain ⟨s, rfl⟩ := h
    have hsign : 0 ≤ s.level := by cases s <;> decide
    have hlength : Numeral.isWritable s.level = true := by cases s <;> decide +kernel
    rw [check_severity, if_pos hsign, read_ofInt, if_pos hlength]
    cases s <;> rfl

/-- **Any other text of a number is refused.** -/
theorem check_of_not_reads {slot : Slot} (h : ¬ slot.Reads n) :
    slot.check (.text (Text.ofInt n)) = .ok (.error (.refused (slot.reason n))) := by
  cases slot with
  | type =>
    rw [check_type, reason]
    by_cases hsign : 0 ≤ n
    · have hlong : ¬ n < 10 ^ digitLimit := fun hlt => h ⟨hsign, hlt⟩
      rw [if_pos hsign, if_neg (not_lt.mpr hsign), read_ofInt,
        if_neg (mt (isWritable_iff_lt hsign).mp hlong)]
      rfl
    · rw [if_neg hsign, if_pos (not_le.mp hsign)]
  | severity =>
    rw [check_severity, reason]
    by_cases hsign : 0 ≤ n
    · have hlevel : ∀ s : Severity, s.level ≠ n := fun s hs => h ⟨s, hs⟩
      rw [if_pos hsign, if_neg (not_lt.mpr hsign), read_ofInt]
      split
      · have hread : ((.ok n : Except Fault Int) >>= Severity.ofLevel) = Severity.ofLevel n := rfl
        rw [hread, ofLevel_of_forall hlevel]
        rfl
      · rfl
    · rw [if_neg hsign, if_pos (not_le.mp hsign)]
      rfl

end Check

end Slot

/-! ### A document around one of its numbers -/

/-- A document around one of its numbers. The field of the document is the last of its name, and so is that
of the entry, so that they count. -/
structure Spot where
  slot : Slot
  /-- The fields of the document in front of the one that lists the entries. -/
  ahead : List (Value × Value)
  /-- Those behind it. -/
  behind : List (Value × Value)
  /-- The entries in front of the one with the number. -/
  before : List Value
  /-- Those behind it. -/
  after : List Value
  /-- The fields of the entry in front of that with the number. -/
  front : List (Value × Value)
  /-- Those behind it. -/
  back : List (Value × Value)
  listed : Value.field? slot.list behind = none
  last : Value.field? slot.field back = none

namespace Spot

/-- The entry with a value in the place of the number. -/
def entry (spot : Spot) (v : Value) : List (Value × Value) :=
  spot.front ++ (.text spot.slot.field, v) :: spot.back

/-- The document with a value in the place of the number. -/
def fill (spot : Spot) (v : Value) : List (Value × Value) :=
  spot.ahead ++
    (.text spot.slot.list, .list (spot.before ++ .map (spot.entry v) :: spot.after)) :: spot.behind

/-- The document with a number. -/
def asNumber (spot : Spot) (n : Int) : List (Value × Value) := spot.fill (.int n)

/-- The document with the decimal form of a number. -/
def asText (spot : Spot) (n : Int) : List (Value × Value) := spot.fill (.text (Text.ofInt n))

/-- The way to the entry. -/
def entryPath (spot : Spot) : List Step := [.field spot.slot.list, .item spot.before.length]

/-- The way to the number. -/
def path (spot : Spot) : List Step := spot.entryPath ++ [.field spot.slot.field]

/-- **Wherever a document has a number** for a type or a severity, it is the document around it. -/
theorem exists_spot {slot : Slot} {document fields : List (Value × Value)} {entries : List Value}
    {i : Nat} {n : Int} (hlist : Value.field? slot.list document = some (.list entries))
    (hentry : entries[i]? = some (.map fields)) (hnumber : Value.field? slot.field fields = some (.int n)) :
    ∃ spot : Spot, spot.slot = slot ∧ spot.before.length = i ∧ spot.asNumber n = document := by
  obtain ⟨ahead, behind, rfl, hlisted⟩ := Value.exists_of_field? hlist
  obtain ⟨front, back, rfl, hlast⟩ := Value.exists_of_field? hnumber
  obtain ⟨hi, hget⟩ := List.getElem?_eq_some_iff.mp hentry
  have hentries : entries.take i ++ .map (front ++ (.text slot.field, .int n) :: back) ::
      entries.drop (i + 1) = entries := by
    rw [← hget, List.getElem_cons_drop, List.take_append_drop]
  refine ⟨⟨slot, ahead, behind, entries.take i, entries.drop (i + 1), front, back, hlisted, hlast⟩, rfl,
    List.length_take_of_le hi.le, ?_⟩
  rw [asNumber, fill, entry]
  dsimp only
  rw [hentries]

end Spot

/-! ### What is checked at one place goes into the whole -/

section Carried

open Checked (Conveys)

variable {α : Type} {back : List (Value × Value)}

/-- What is found for the type of a source goes into what is found for the source. -/
theorem Source.exists_conveys (path : List Step) (front : List (Value × Value))
    (hlast : Value.field? "type" back = none) :
    ∃ whole : Checked Int → Checked Source, Conveys whole ∧ ∀ v,
      check path (front ++ (.text "type", v) :: back) =
        whole (.place (path ++ [.field "type"]) (SourceKind.check v)) := by
  let blank := front ++ (.text "type", .null) :: back
  refine ⟨_, (Conveys.map _).comp
    ((Conveys.bothRight (.required path "id" ValueCheck.name blank)).comp
      (.bothLeft (.optional path "deduplication_group" ValueCheck.optionalText none blank))), fun v => by
    rw [check, Checked.required_of_ne (by decide +kernel) v, Checked.optional_of_last hlast,
      Checked.optional_of_ne (by decide +kernel) v]⟩

/-- What is found for the severity of an issue goes into what is found for the issue. -/
theorem ListedIssue.exists_conveys (path : List Step) (front : List (Value × Value))
    (hlast : Value.field? "severity_level" back = none) :
    ∃ whole : Checked Int → Checked ListedIssue, Conveys whole ∧ ∀ v,
      check path (front ++ (.text "severity_level", v) :: back) =
        whole (.place (path ++ [.field "severity_level"]) (Severity.check v)) := by
  let blank := front ++ (.text "severity_level", .null) :: back
  refine ⟨_, (Conveys.map _).comp
    ((Conveys.bothRight (.required path "source_id" ValueCheck.name blank)).comp
      ((Conveys.bothRight (.required path "id" ValueCheck.name blank)).comp
        (.bothLeft (.both (.optional path "title" ValueCheck.text [] blank)
          (.both (.optional path "deduplication_id" ValueCheck.optionalText none blank)
            (.optional path "user_id" ValueCheck.int 0 blank)))))), fun v => by
    rw [check, Checked.required_of_ne (by decide +kernel) v, Checked.required_of_ne (by decide +kernel) v,
      Checked.optional_of_last hlast, Checked.optional_of_ne (by decide +kernel) v,
      Checked.optional_of_ne (by decide +kernel) v, Checked.optional_of_ne (by decide +kernel) v]⟩

/-- The entries of a list are checked one by one. -/
theorem Checked.exists_entryList_eq (name kind : String)
    (check : List Step → List (Value × Value) → Checked α) :
    ∃ entry : Nat → Value → Checked α,
      (∀ i fields, entry i (.map fields) = check [.field name, .item i] fields) ∧
      ∀ front members, Value.field? name back = none →
        entryList name kind check (front ++ (.text name, .list members) :: back) =
          items entry 0 members := by
  refine ⟨?entry, ?fields, fun front members hlisted => ?list⟩
  case list => rw [entryList, Value.field?_of_last _ hlisted]
  case fields => exact fun i fields => rfl

/-- What is found for an entry goes into what is found for the document. -/
theorem Checked.exists_conveys_entryList (name kind : String) (front : List (Value × Value))
    {check : List Step → List (Value × Value) → Checked α} {entry : Value → List (Value × Value)}
    {part : Value → Checked Int} (before after : List Value)
    (hentry : ∃ whole : Checked Int → Checked α, Conveys whole ∧ ∀ v,
      check [.field name, .item before.length] (entry v) = whole (part v))
    (hlisted : Value.field? name back = none) :
    ∃ whole : Checked Int → Checked (List α), Conveys whole ∧ ∀ v,
      entryList name kind check
        (front ++ (.text name, .list (before ++ .map (entry v) :: after)) :: back) =
        whole (part v) := by
  obtain ⟨inner, hinner, hparts⟩ := hentry
  obtain ⟨checkItem, hfields, hlist⟩ := exists_entryList_eq name kind check
  obtain ⟨outer, houter, hitems⟩ := exists_conveys_items checkItem 0 before after
  refine ⟨_, houter.comp hinner, fun v => ?_⟩
  rw [hlist front _ hlisted, hitems, Nat.zero_add, hfields, hparts]

/-- The two lists of a document are checked one after the other. -/
theorem Listing.exists_checkFields_eq :
    ∃ f : List Source × List ListedIssue → Listing, ∀ entries, checkFields entries =
      Checked.map f ((Checked.entryList "sources" "SourceSpec" Source.check entries).both
        (.entryList "issues" "IssueSpec" ListedIssue.check entries)) :=
  ⟨_, fun _ => rfl⟩

/-- **What is found for a number goes into what is found for the document.** -/
theorem Spot.checkFields_fill (spot : Spot) :
    ∃ whole : Checked Int → Checked Listing, Conveys whole ∧ ∀ v,
      Listing.checkFields (spot.fill v) = whole (.place spot.path (spot.slot.check v)) := by
  obtain ⟨slot, ahead, behind, before, after, front, back, hlisted, hlast⟩ := spot
  obtain ⟨f, hlists⟩ := Listing.exists_checkFields_eq
  have hne : Text.ofString "sources" ≠ Text.ofString "issues" := by decide +kernel
  cases slot with
  | type =>
    obtain ⟨whole, hwhole, hlist⟩ := Checked.exists_conveys_entryList "sources" "SourceSpec" ahead
      before after (Source.exists_conveys [.field "sources", .item before.length] front hlast) hlisted
    refine ⟨_, (Conveys.map f).comp ((Conveys.bothLeft (.entryList "issues" "IssueSpec" ListedIssue.check
      (ahead ++ (.text "sources", .null) :: behind))).comp hwhole), fun v => (hlists _).trans ?_⟩
    exact congrArg₂ (fun sources issues => Checked.map f (sources.both issues)) (hlist v)
      (Checked.entryList_of_ne hne _)
  | severity =>
    obtain ⟨whole, hwhole, hlist⟩ := Checked.exists_conveys_entryList "issues" "IssueSpec" ahead
      before after (ListedIssue.exists_conveys [.field "issues", .item before.length] front hlast) hlisted
    refine ⟨_, (Conveys.map f).comp ((Conveys.bothRight (.entryList "sources" "SourceSpec" Source.check
      (ahead ++ (.text "issues", .null) :: behind))).comp hwhole), fun v => (hlists _).trans ?_⟩
    exact congrArg₂ (fun sources issues => Checked.map f (sources.both issues))
      (Checked.entryList_of_ne hne.symm _) (hlist v)

end Carried

namespace Listing

/-- Is the document accepted? -/
def Accepts (entries : List (Value × Value)) : Prop := ∃ l, ofEntries entries = .ok l

section Outcome

variable {entries entries' : List (Value × Value)} {c : Complaint}

theorem ofEntries_congr (hkeys : Value.hasTextKeys entries' = Value.hasTextKeys entries)
    (h : checkFields entries' = checkFields entries) : ofEntries entries' = ofEntries entries := by
  rw [ofEntries, ofEntries, hkeys, h]

/-- One complaint more is one too many: the document is refused, and for this alone if it was accepted
without. -/
theorem ofEntries_of_spoils (hkeys : Value.hasTextKeys entries' = Value.hasTextKeys entries)
    (h : Checked.Spoils c (checkFields entries) (checkFields entries')) :
    ¬ Accepts entries' ∧ (Accepts entries → ofEntries entries' = refuse [c]) := by
  rw [Accepts, Accepts, ofEntries, ofEntries, hkeys]
  cases Value.hasTextKeys entries with
  | false => exact ⟨nofun, nofun⟩
  | true =>
    generalize checkFields entries = outcome at h
    generalize checkFields entries' = outcome' at h
    cases h with
    | fault e => exact ⟨nofun, nofun⟩
    | sound l => exact ⟨nofun, fun _ => rfl⟩
    | flawed cs ds => exact ⟨nofun, nofun⟩

end Outcome

end Listing

namespace Spot

theorem hasTextKeys_fill (spot : Spot) (v w : Value) :
    Value.hasTextKeys (spot.fill v) = Value.hasTextKeys (spot.fill w) := by
  rw [fill, fill, Value.hasTextKeys, Value.hasTextKeys, List.all_append, List.all_append, List.all_cons,
    List.all_cons]

end Spot

/-- **A number as text.** Wherever a document has a number for the type of a source or the severity of an
issue, its decimal form in the place of the number gives the same listing where it is read as the number.
Where it is not, the document is refused, and if it is accepted with the number, then for this field
alone. -/
theorem Listing.ofEntries_respelled (spot : Spot) (n : Int) :
    (spot.slot.Reads n → ofEntries (spot.asText n) = ofEntries (spot.asNumber n)) ∧
    (¬ spot.slot.Reads n → ¬ Accepts (spot.asText n) ∧
      (Accepts (spot.asNumber n) → ofEntries (spot.asText n) =
        refuse [⟨spot.path, .refused (spot.slot.reason n)⟩])) := by
  obtain ⟨whole, hconveys, hfill⟩ := spot.checkFields_fill
  have hkeys := spot.hasTextKeys_fill (.text (Text.ofInt n)) (.int n)
  have hnumber : checkFields (spot.asNumber n) = whole (.ok (.ok n)) := by
    rw [Spot.asNumber, hfill, Slot.check_int]
    rfl
  constructor
  · intro hreads
    refine ofEntries_congr hkeys ?_
    rw [hnumber, Spot.asText, hfill, Slot.check_of_reads hreads]
    rfl
  · intro hreads
    refine ofEntries_of_spoils hkeys ?_
    rw [hnumber, Spot.asText, hfill, Slot.check_of_not_reads hreads]
    exact hconveys _ _ _ (.sound n)

/-- A document with one source and one issue, around the severity of the issue. -/
def Spot.single : Spot where
  slot := .severity
  ahead := [(.text "sources", .list [.map [(.text "id", .text "s")]])]
  behind := []
  before := []
  after := []
  front := [(.text "source_id", .text "s"), (.text "id", .text "a")]
  back := []
  listed := rfl
  last := rfl

/-- **The text of a number between two levels is refused**, and the number is not. -/
theorem Listing.ofEntries_halfway :
    Accepts (Spot.single.asNumber 250) ∧ ¬ Accepts (Spot.single.asText 250) := by
  have hnumber : (ofEntries (Spot.single.asNumber 250)).isOk = true := by decide +kernel
  have htext : (ofEntries (Spot.single.asText 250)).isOk = false := by decide +kernel
  constructor
  · cases h : ofEntries (Spot.single.asNumber 250) with
    | ok l => exact ⟨l, h⟩
    | error e =>
      rw [h] at hnumber
      cases hnumber
  · rintro ⟨l, hl⟩
    rw [hl] at htext
    cases htext

end IssueDigest
