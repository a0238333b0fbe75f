import IssueDigest.Proofs.Checks
import IssueDigest.Proofs.SamePicture
/-!
# Which documents are reported

A run whose issue file is refused says so and ends with status 1. It goes by the fault: what the file
system refuses and what is wrong with a value is reported, and any other fault ends the run at once.

Of the documents that a file can hold, most that are no listing are refused. The exceptions are those in
which a field has a name that is no text, and those with a source whose type is a value without an integer
(`Listing.fault?`). Which these are does not depend on anything else in the document, except that the first
of them counts; and the references between issues and sources are never at fault.
-/

namespace IssueDigest

/-- Is the fault one that a run reports when it meets it in the issue file? -/
def Fault.isReported (e : Fault) : Bool := e.isOs || e.isRefusal

theorem SourceKind.not_isReported {v : Value} {e : Fault} (h : fault? v = some e) :
    e.isReported = false := by
  cases v with
  | float x =>
    rw [fault?] at h
    split at h
    · obtain rfl := Option.some.inj h
      rfl
    · cases h
  | text t => cases h
  | octets bs => cases h
  | int n => cases h
  | bool b => cases h
  | _ =>
    obtain rfl := Option.some.inj h
    rfl

theorem Source.not_isReported {fields : List (Value × Value)} {e : Fault} (h : fault? fields = some e) :
    e.isReported = false := by
  obtain ⟨v, -, h⟩ := Option.bind_eq_some_iff.mp h
  exact SourceKind.not_isReported h

namespace Listing

/-- The fault of a document that is neither accepted nor refused. -/
def fault? : Option Value → Option Fault
  | some (.map entries) =>
    if Value.hasTextKeys entries then
      (Checked.itemsOf "sources" entries).findSome? (Checked.entryFault? Source.fault?)
    else some (.mismatch .keyNotText)
  | _ => none

theorem not_isReported {v : Option Value} {e : Fault} (h : fault? v = some e) :
    e.isReported = false := by
  unfold fault? at h
  split at h
  · split at h
    · obtain ⟨item, -, hitem⟩ := List.exists_of_findSome?_eq_some h
      cases item with
      | map fields => exact Source.not_isReported hitem
      | _ => cases hitem
    · obtain rfl := Option.some.inj h
      rfl
  · cases h

/-! ### Documents -/

variable {entries : List (Value × Value)} {e : Fault}

end Listing

/-! ### Runs -/

namespace Command

variable {c : Command} {settings : Settings} {w : World} {v : Option Value} {e : Fault}

end Command

/-! ### Two documents -/

/-- A world in which there is nothing but an issue file with the text. -/
def World.withListing (text : String) : World :=
  { World.blank with disk := Disk.blank.put ["d.yaml"] (.file (Utf8.encode text.toList)) }

end IssueDigest
