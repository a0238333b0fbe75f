import IssueDigest.Document.Check
import IssueDigest.Issue.Basic
import IssueDigest.Issue.Severity
/-!
# Listings

An issue file lists sources, and issues sorted by priority, each with the id of its source. The
fields are checked one by one; only if all of them are fine are the references: no two sources share
an id, and every issue names a source that is listed. `Listing.issues` then joins each issue with
its source.
-/

namespace IssueDigest

/-- An issue as it is listed. -/
structure ListedIssue where
  /-- The id of its source. -/
  sourceId : String
  id : String
  severity : Int
  title : Text
  mark : Option Text
  user : Int
  deriving DecidableEq, Repr, Inhabited

/-- The sources and issues of an issue file. -/
structure Listing where
  sources : List Source
  issues : List ListedIssue
  deriving DecidableEq, Repr, Inhabited

namespace SourceKind

/-- The type that a word in capitals stands for. -/
def ofName? (t : Text) : Option SourceKind := all.find? fun k => Text.ofString k.name = t

/-- The wording for a text that names no type. -/
def unknown (t : Text) : Text := "Unknown source type: " ++ t

/-- The number of the type that a value stands for: a name in either case with blanks around it, or
any value that has an integer, digits of any script included. -/
def check : ValueCheck Int
  | .text t =>
    if t.isNumeric then ValueCheck.settle (Numeral.read t)
    else
      match ofName? t.trim.upper with
      | some kind => .ok (.ok kind.code)
      | none => .ok (.error (.refused (unknown t)))
  | .octets bs => ValueCheck.settle (Numeral.readOctets bs)
  | .int n => .ok (.ok n)
  | .bool b => .ok (.ok (if b then 1 else 0))
  | .float x => ValueCheck.settle (Numeral.ofFloat x)
  | v => .error (.mismatch (.notNumber v.kind))

end SourceKind

/-- The severity that a value stands for: the level that a text names, or any integer. -/
def Severity.check : ValueCheck Int
  | .text t => ValueCheck.settle (Severity.level <$> Severity.ofText t)
  | v => ValueCheck.int v

namespace Source

/-- The source of an entry. -/
def check (path : List Step) (entries : List (Value × Value)) : Checked Source :=
  Checked.map (fun (id, type, group) => ⟨id, type, group⟩)
    (.both (.required path "id" ValueCheck.name entries)
      (.both (.optional path "type" SourceKind.check SourceKind.dynamic.code entries)
        (.optional path "deduplication_group" ValueCheck.optionalText none entries)))

end Source

namespace ListedIssue

/-- The issue of an entry. -/
def check (path : List Step) (entries : List (Value × Value)) : Checked ListedIssue :=
  Checked.map (fun (sourceId, id, severity, title, mark, user) =>
      ⟨sourceId, id, severity, title, mark, user⟩)
    (.both (.required path "source_id" ValueCheck.name entries)
      (.both (.required path "id" ValueCheck.name entries)
        (.both (.optional path "severity_level" Severity.check Severity.unspecified.level entries)
          (.both (.optional path "title" ValueCheck.text [] entries)
            (.both (.optional path "deduplication_id" ValueCheck.optionalText none entries)
              (.optional path "user_id" ValueCheck.int 0 entries))))))

end ListedIssue

namespace Listing

/-- The sources and issues of a document, their references aside. -/
def checkFields (entries : List (Value × Value)) : Checked Listing :=
  Checked.map (fun (sources, issues) => ⟨sources, issues⟩)
    (.both (.entryList "sources" "SourceSpec" Source.check entries)
      (.entryList "issues" "IssueSpec" ListedIssue.check entries))

/-- The ids of the sources. -/
def sourceIds (l : Listing) : List String := l.sources.map Source.id

/-- The ids that issues name and no source has, each once, sorted by code point. -/
def unknownIds (l : Listing) : List String :=
  ((l.issues.map ListedIssue.sourceId).filter fun id => !l.sourceIds.contains id).eraseDups.mergeSort
    fun a b => !Text.before b a

/-- What is wrong with the references, if anything. -/
def flaw? (l : Listing) : Option Flaw :=
  if !decide l.sourceIds.Nodup then some (.refused "source ids must be unique")
  else if l.unknownIds.isEmpty then none
  else
    some (.refused ("issues reference unknown sources: "
      ++ Text.quotedList (l.unknownIds.map Text.ofString)))

/-- The complaints about a document, as a fault. -/
def refuse {α : Type} (complaints : List Complaint) : Except Fault α :=
  .error (.invalid "IssueFile" complaints)

/-- The listing of a document, whose entries these are. -/
def ofEntries (entries : List (Value × Value)) : Except Fault Listing := do
  if !Value.hasTextKeys entries then throw (.mismatch .keyNotText)
  match ← checkFields entries with
  | .error complaints => refuse complaints
  | .ok listing =>
    match listing.flaw? with
    | some flaw => refuse [⟨[], flaw⟩]
    | none => pure listing

/-- The source with an id; of several, the last one. -/
def source? (l : Listing) (id : String) : Option Source := l.sources.reverse.find? fun s => s.id = id

/-- A listed issue with its source. -/
def join (l : Listing) (i : ListedIssue) : Except Fault Issue :=
  match l.source? i.sourceId with
  | some source => .ok ⟨source, i.id, i.severity, i.title, i.mark, i.user⟩
  | none => .error (.lacks i.sourceId)

/-- The issues with their sources, in order. -/
def joined (l : Listing) : Except Fault (List Issue) := l.issues.mapM l.join

end Listing

end IssueDigest
