import IssueDigest.Calendar.Date
import IssueDigest.Json.Value
import IssueDigest.Number.Binary
/-!
# Values of a document

What an issue file can hold. A mapping is its entries in order of arrival, and any value but a
collection can be a key. The names of fields are keys that are texts; of entries with one name the
last counts, as everywhere.
-/

namespace IssueDigest

/-- A value of a document. -/
inductive Value where
  | null
  | bool (b : Bool)
  | int (n : Int)
  | float (x : Float)
  | text (t : Text)
  | octets (bs : List UInt8)
  | date (d : Date)
  | timestamp (m : Moment)
  | list (items : List Value)
  | map (entries : List (Value × Value))
  | set (items : List Value)
  deriving Inhabited

namespace Value

/-- The kind of a value. -/
def kind : Value → Kind
  | null => .null
  | bool _ => .bool
  | int _ => .int
  | float _ => .float
  | text _ => .text
  | octets _ => .octets
  | date _ => .date
  | timestamp _ => .timestamp
  | list _ => .list
  | map _ => .map
  | set _ => .set

/-- Is there nothing in the value: is it null, false, zero or empty? -/
def isVoid : Value → Bool
  | null => true
  | bool b => !b
  | int n => n == 0
  | float x => x == 0.0
  | text t => t.isEmpty
  | octets bs => bs.isEmpty
  | list items => items.isEmpty
  | map entries => entries.isEmpty
  | set items => items.isEmpty
  | date _ | timestamp _ => false

mutual

/-- A value of the object notation as a value of a document. -/
def ofJson : Json → Value
  | .null => null
  | .bool b => bool b
  | .int n => int n
  | .float x => float x
  | .text t => text t
  | .list items => list (ofItems items)
  | .object fields => map (ofFields fields)

/-- Items of the object notation. -/
def ofItems : List Json → List Value
  | [] => []
  | v :: rest => ofJson v :: ofItems rest

/-- Fields of the object notation. -/
def ofFields : List (Text × Json) → List (Value × Value)
  | [] => []
  | (name, v) :: rest => (text name, ofJson v) :: ofFields rest

end

/-- The integer that a number is. -/
def integer? : Value → Option Int
  | bool b => some (if b then 1 else 0)
  | int n => some n
  | float x => (FloatClass.of x).int?
  | _ => none

/-- Are the values the same as keys? Numbers are compared by size, and moments with an offset by the
instant. -/
def isSame : Value → Value → Bool
  | null, null => true
  | text s, text t => s = t
  | octets a, octets b => a = b
  | date d, date e => d = e
  | timestamp m, timestamp n =>
    match m.offset, n.offset with
    | some _, some _ => m.instant = n.instant
    | none, none => m = n
    | _, _ => false
  | float x, float y => x == y || (x.isNaN && y.isNaN)
  | v, w =>
    match v.integer?, w.integer? with
    | some a, some b => a = b
    | _, _ => false

/-- The values without those that are the same as one in front of them. -/
def distinct (vs : List Value) : List Value :=
  (vs.foldl (fun kept v => if kept.any (isSame v) then kept else v :: kept) []).reverse

/-- The entry whose key is this text. -/
def hasName (name : Text) : Value × Value → Bool
  | (text t, _) => t = name
  | _ => false

/-- The value of a field. -/
def field? (name : String) (entries : List (Value × Value)) : Option Value :=
  (entries.reverse.find? (hasName name)).map Prod.snd

/-- Are all keys texts? -/
def hasTextKeys (entries : List (Value × Value)) : Bool :=
  entries.all fun e => e.1.kind = .text

end Value

end IssueDigest
