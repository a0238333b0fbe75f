import IssueDigest.Document.Listing
import IssueDigest.Host.World
import IssueDigest.Yaml.Object
/-!
# Reading an issue file

An issue file holds a mapping with the sources and the issues, or nothing. It is read in pieces of
8192 octets. A text that is not in the document format is logged, and so are the numbers of sources
and issues when all went well.
-/

namespace IssueDigest.Listing

/-- How many octets are read at a time. -/
def pieceSize : Nat := 8192

/-- How deep a document is looked at: the fields of an entry are three levels down, and of what is
deeper only the kind matters. -/
def depth : Nat := 3

/-- The characters of a document. -/
def decodeDocument (bs : List UInt8) : Except Fault (List Char) :=
  match Utf8.decodePieces pieceSize (bs.length / pieceSize + 1) [] bs with
  | .ok cs => .ok (unifyLines cs)
  | .error defect => .error (.refused (.badOctets defect))

/-- The listing of a document; a value in which there is nothing counts as a mapping without
entries. -/
def ofValue? : Option Value → Except Fault Listing
  | none => ofEntries []
  | some (.map entries) => ofEntries entries
  | some v => if v.isVoid then ofEntries [] else .error (.refused .notAMapping)

/-- The issues of the file at a path, with their sources. -/
def load (path : String) : Act World (List Issue) := do
  let p := Path.ofString path
  let shown : List (String × Json) := [("path", .string p.text)]
  let text ← Act.lift ((← get).disk.read p >>= decodeDocument)
  match Yaml.read depth text with
  | .error e =>
    if e = .refused .badYaml then
      Act.note .error "Failed to parse issue file" (shown ++ [("error", .text e.message)])
    throw e
  | .ok v =>
    let listing ← Act.lift (ofValue? v)
    let issues ← Act.lift listing.joined
    Act.note .info "Loaded issue file"
      (shown ++ [("source_count", .int listing.sources.length), ("issue_count", .int issues.length)])
    pure issues

end IssueDigest.Listing
