import IssueDigest.Number.Numeral
import IssueDigest.Text.Percent
/-!
# Issue keys

An issue is identified by the source that reported it, its id there and the user it concerns. The
written form is `source/issue/user` with both ids percent-escaped, so that exactly two slashes occur
in it. Reading takes any spelling of the escapes and leaves out user 0 on request.
-/

namespace IssueDigest

/-- The identity of an issue for one user; also the unit of dismissal. -/
structure IssueKey where
  /-- The id of the source. -/
  source : String
  /-- The id of the issue at its source. -/
  issue : String
  /-- The user concerned. -/
  user : Int
  deriving DecidableEq, Repr, Inhabited

namespace IssueKey

/-- The parts of a text between slashes. -/
def splitSlash : List Char → List (List Char)
  | [] => [[]]
  | c :: rest =>
    if c = '/' then [] :: splitSlash rest
    else
      match splitSlash rest with
      | [] => [[c]]
      | part :: parts => (c :: part) :: parts

/-- An integer in decimal. -/
def decimal : Int → List Char
  | .ofNat n => Nat.toDigits 10 n
  | .negSucc n => '-' :: Nat.toDigits 10 (n + 1)

/-- The written form, whatever the size of the user id. -/
def chars (k : IssueKey) : List Char :=
  Percent.encode k.source.toList ++ '/' :: Percent.encode k.issue.toList ++ '/' :: decimal k.user

/-- The written form as a string, whatever the size of the user id. -/
def render (k : IssueKey) : String := String.ofList k.chars

/-- The written form, unless the user id has too many digits. -/
def write (k : IssueKey) : Except Fault String :=
  if Numeral.isWritable k.user then .ok k.render else .error (.refused .integerUnwritable)

/-- The key that a text stands for. -/
def read (s : String) : Except Fault IssueKey :=
  let id (part : List Char) := String.ofList (Percent.decode part)
  match splitSlash s.toList with
  | [source, issue] =>
    if source.isEmpty || issue.isEmpty then .error (.refused (.badKey s))
    else .ok ⟨id source, id issue, 0⟩
  | [source, issue, user] =>
    if source.isEmpty || issue.isEmpty || user.isEmpty then .error (.refused (.badKey s))
    else (Numeral.read (Text.ofChars user)).map fun n => ⟨id source, id issue, n⟩
  | _ => .error (.refused (.badKey s))

end IssueKey

end IssueDigest
