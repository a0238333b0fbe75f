import IssueDigest.Number.Binary
import IssueDigest.Table
import IssueDigest.Fault
/-!
# Values of the object notation

Integers of any size and floats are kept apart, and objects keep the order of their fields.
-/

namespace IssueDigest

/-- A value of the object notation. -/
inductive Json where
  | null
  | bool (b : Bool)
  | int (n : Int)
  | float (x : Float)
  | text (t : Text)
  | list (items : List Json)
  | object (fields : List (Text × Json))
  deriving Inhabited

namespace Json

/-- The kind of a value, as messages name it. -/
def kind : Json → Kind
  | null => .null
  | bool _ => .bool
  | int _ => .int
  | float _ => .float
  | text _ => .text
  | list _ => .list
  | object _ => .map

/-- A string as a value. -/
def string (s : String) : Json := text (Text.ofString s)

/-- An object with fields whose names hold no halves. -/
def record (fields : List (String × Json)) : Json :=
  object (fields.map fun f => (Text.ofString f.1, f.2))

/-- The value of a field of an object. -/
def field? (name : String) : Json → Option Json
  | object fields => Entries.get? (Text.ofString name) fields
  | _ => none

end Json

end IssueDigest
