import IssueDigest.Calendar.Iso
import IssueDigest.Json.Value
import IssueDigest.Number.Numeral
/-!
# Dismissal records

A record says when an issue was dismissed, up to which severity, and how often. It is written as an
object of three fields and read from any object that has the first two; numbers may come as text, as
truth values or with a fraction, which is cut off.
-/

namespace IssueDigest

/-- The dismissal of one issue. -/
structure Record where
  /-- When it was last dismissed. -/
  since : Moment
  /-- Its severity at that moment; a more severe issue is shown again. -/
  severity : Int
  /-- How often it was dismissed. -/
  count : Int
  deriving DecidableEq, Repr, Inhabited

namespace Json

/-- The integer that a value stands for, a fraction cut off. -/
def toInt : Json → Except Fault Int
  | .int n => .ok n
  | .bool b => .ok (if b then 1 else 0)
  | .text t => Numeral.read t
  | .float x => Numeral.ofFloat x
  | v => .error (.mismatch (.notNumber v.kind))

/-- A field of an object; a value without fields is of the wrong kind. -/
def need (name : String) : Json → Except Fault Json
  | .object fields =>
    match Entries.get? (Text.ofString name) fields with
    | some v => .ok v
    | none => .error (.lacks name)
  | v => .error (.mismatch (.noFields v.kind))

/-- The moment that a value stands for. -/
def toMoment : Json → Except Fault Moment
  | .text t => Moment.read t
  | _ => .error (.mismatch .dateNotText)

end Json

namespace Record

/-- The record as an object. -/
def toJson (r : Record) : Json :=
  .record
    [("dismissed_at", .text (.ofChars r.since.write)), ("max_severity_at_dismissal", .int r.severity),
      ("dismiss_count", .int r.count)]

/-- The record that an object stands for. -/
def ofJson (v : Json) : Except Fault Record := do
  let since ← v.need "dismissed_at" >>= Json.toMoment
  let severity ← v.need "max_severity_at_dismissal" >>= Json.toInt
  let count ← ((v.field? "dismiss_count").getD (.int 1)).toInt
  pure ⟨since, severity, count⟩

/-- Does the record cover an issue of this severity? -/
def covers (r : Record) (severity : Int) : Bool := severity ≤ r.severity

end Record

end IssueDigest
