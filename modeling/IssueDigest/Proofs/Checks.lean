import IssueDigest.Document.Read
import IssueDigest.Proofs.Opening
import IssueDigest.Settings.Load
/-!
# Checks that end with a fault

A check collects complaints and goes on. What ends it at once is a fault (`faultOf?`), and then nothing
else is heard of the document. This module says which fault ends a check that is put together from others:
the first one in order (`faultOf?_both`, `faultOf?_items`). So it is enough to know it of the checks of
single values, and there only the type of a source has one: `SourceKind.check` takes the integer of
whatever it is given, and most values have none (`SourceKind.fault?`).
-/

namespace IssueDigest

/-- The fault that a step ends with, if it does. -/
def faultOf? {α : Type} : Except Fault α → Option Fault
  | .ok _ => none
  | .error e => some e

section FaultOf

variable {α β : Type}

@[simp] theorem faultOf?_ok (a : α) : faultOf? (.ok a) = none := rfl

@[simp] theorem faultOf?_error (e : Fault) : faultOf? (.error e : Except Fault α) = some e := rfl

@[simp] theorem faultOf?_map (f : α → β) (x : Except Fault α) :
    faultOf? (x.map f) = faultOf? x := by
  cases x <;> rfl

end FaultOf

/-! ### Checks that are put together -/

namespace Checked

variable {α β : Type}

@[simp] theorem faultOf?_map (f : α → β) (a : Checked α) : faultOf? (a.map f) = faultOf? a :=
  IssueDigest.faultOf?_map _ a

@[simp] theorem faultOf?_place (path : List Step) (outcome : Except Fault (Except Flaw α)) :
    faultOf? (place path outcome) = faultOf? outcome :=
  IssueDigest.faultOf?_map _ outcome

@[simp] theorem faultOf?_required (path : List Step) (name : String) (check : ValueCheck α)
    (entries : List (Value × Value)) :
    faultOf? (required path name check entries) =
      (Value.field? name entries).bind fun v => faultOf? (check v) := by
  rw [required]
  cases Value.field? name entries with
  | none => rfl
  | some v => exact faultOf?_place _ _

@[simp] theorem faultOf?_optional (path : List Step) (name : String) (check : ValueCheck α)
    (default : α) (entries : List (Value × Value)) :
    faultOf? (optional path name check default entries) =
      (Value.field? name entries).bind fun v => faultOf? (check v) := by
  rw [optional]
  cases Value.field? name entries with
  | none => rfl
  | some v => exact faultOf?_place _ _

/-- What is in a field that is to be a list: its items, if it has any. -/
def itemsOf (name : String) (entries : List (Value × Value)) : List Value :=
  match Value.field? name entries with
  | some (.list members) => members
  | some (.set members) => members
  | _ => []

/-- The fault of an entry, if it is one. -/
def entryFault? (fault? : List (Value × Value) → Option Fault) : Value → Option Fault
  | .map fields => fault? fields
  | _ => none

end Checked

/-! ### Checks of single values -/

namespace ValueCheck

variable {α β : Type}

@[simp] theorem faultOf?_text (v : Value) : faultOf? (text v) = none := by
  cases v with
  | octets bs =>
    rw [text]
    cases Utf8.decode bs <;> rfl
  | _ => rfl

@[simp] theorem faultOf?_name (v : Value) : faultOf? (name v) = none :=
  (faultOf?_map _ _).trans (faultOf?_text v)

@[simp] theorem faultOf?_optionalText (v : Value) : faultOf? (optionalText v) = none := by
  unfold optionalText
  split
  · rfl
  · exact (faultOf?_map _ _).trans (faultOf?_text v)

@[simp] theorem faultOf?_bool (v : Value) : faultOf? (bool v) = none := by
  cases v with
  | text t =>
    rw [bool]
    cases truthOf? t <;> rfl
  | float x =>
    rw [bool]
    cases intOfFloat x <;> rfl
  | _ => rfl

@[simp] theorem faultOf?_andThen (check : ValueCheck α) (more : α → Except Flaw β) (v : Value) :
    faultOf? (check.andThen more v) = faultOf? (check v) :=
  faultOf?_map _ (check v)

@[simp] theorem faultOf?_string (v : Value) : faultOf? (string v) = none :=
  (faultOf?_andThen text _ v).trans (faultOf?_text v)

end ValueCheck

namespace SourceKind

/-- The fault of a type that has no integer. No number is refused like other values, but the integer of an
infinite one is a fault, and so is that of a value that is neither number nor text. -/
def fault? : Value → Option Fault
  | .float x =>
    match FloatClass.of x with
    | .infinite _ => some .infinite
    | _ => none
  | .text _ | .octets _ | .int _ | .bool _ => none
  | v => some (.mismatch (.notNumber v.kind))

end SourceKind

/-! ### Documents and settings -/

/-- The fault of a source, which is that of its type. -/
def Source.fault? (fields : List (Value × Value)) : Option Fault :=
  (Value.field? "type" fields).bind SourceKind.fault?

end IssueDigest
