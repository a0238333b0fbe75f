import IssueDigest.Json.Value
import IssueDigest.Number.Numeral
import IssueDigest.Number.Shortest
import IssueDigest.Text.Case
/-!
# Severities

Four levels, each with a name and a number. A level is named in either case, with blanks around it,
or given by its number, as an integer, a float or digits.
-/

namespace IssueDigest

/-- How severe an issue is. -/
inductive Severity where
  | unspecified
  | information
  | recommendation
  | criticalWarning
  deriving DecidableEq, Repr, Inhabited

namespace Severity

/-- All levels, in ascending order. -/
def all : List Severity := [unspecified, information, recommendation, criticalWarning]

/-- The number of a level. -/
def level : Severity → Int
  | unspecified => 100
  | information => 200
  | recommendation => 300
  | criticalWarning => 400

/-- The name of a level. -/
def name : Severity → String
  | unspecified => "UNSPECIFIED"
  | information => "INFORMATION"
  | recommendation => "RECOMMENDATION"
  | criticalWarning => "CRITICAL_WARNING"

/-- The level of a number. -/
def ofLevel? (n : Int) : Option Severity := all.find? fun s => s.level = n

/-- The level of a number; others are refused. -/
def ofLevel (n : Int) : Except Fault Severity :=
  match ofLevel? n with
  | some s => .ok s
  | none => .error (.refused (.notMember .severity (Text.ofInt n)))

/-- The level that a text names. -/
def ofText (t : Text) : Except Fault Severity :=
  let word := t.trim.upper
  match all.find? fun s => Text.ofString s.name = word with
  | some s => .ok s
  | none =>
    if word.isNumeric then Numeral.read word >>= ofLevel
    else .error (.refused (.notMember .severity t.quoted))

end Severity

/-- The words for numbers that are not finite, inside messages. -/
def shownWords : SpecialWords where
  nan := "nan"
  infinity := "inf"

mutual

/-- A value as a message shows it. -/
def Json.shown : Json → Text
  | .null => "None"
  | .bool true => "True"
  | .bool false => "False"
  | .int n => Text.ofInt n
  | .float x => writeFloat shownWords x
  | .text t => t.quoted
  | .list items => "[" ++ Text.joinWith ", " (shownItems items) ++ "]"
  | .object fields => "\x7b" ++ Text.joinWith ", " (shownFields fields) ++ "\x7d"

/-- Items as a message shows them. -/
def shownItems : List Json → List Text
  | [] => []
  | v :: rest => v.shown :: shownItems rest

/-- Fields as a message shows them. -/
def shownFields : List (Text × Json) → List Text
  | [] => []
  | (name, v) :: rest => (name.quoted ++ ": " ++ v.shown) :: shownFields rest

end

/-- The level that a value stands for. -/
def Severity.ofJson : Json → Except Fault Severity
  | .text t => ofText t
  | .int n => ofLevel n
  | .float x =>
    match (FloatClass.of x).int? >>= ofLevel? with
    | some s => .ok s
    | none => .error (.refused (.notMember .severity (Json.float x).shown))
  | v => .error (.refused (.notMember .severity v.shown))

end IssueDigest
