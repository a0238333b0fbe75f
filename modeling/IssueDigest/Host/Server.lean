import IssueDigest.Fault
import IssueDigest.Table
/-!
# The server

A shared server holds octets by name, those of a text as a rule. Each call is one step, and a schedule
says which calls fail, counted from the first; a call that fails does nothing. An entry is handed over
as text or as octets, whichever the client asks for. The names that start with a given text are listed
in one call, and entries are deleted several at a time. Which addresses a client takes for those of a
server is up to the client, and so it is a part of the server here.
-/

namespace IssueDigest

/-- The calls that a server answers. -/
inductive Call where
  | ping
  | get
  | set
  | delete
  | list
  | close
  deriving DecidableEq, Repr

/-- What a server holds under a name. -/
structure Held where
  octets : List UInt8
  deriving DecidableEq, Repr

/-- A text is held as its octets. -/
instance : Coe String Held := ⟨fun s => ⟨Utf8.encode s.toList⟩⟩

/-- What is held, as it is shown. -/
instance : CoeOut Held String := ⟨fun raw => String.ofList (Utf8.decodeLossy raw.octets)⟩

/-- What is handed over for an entry. -/
inductive Answer where
  /-- The text itself. -/
  | text (s : String)
  /-- The octets of the text. -/
  | octets (bs : List UInt8)
  deriving DecidableEq, Repr

/-- What is handed over in place of octets where a text is asked for. Where they are none they are left
to whoever reads them, who will find that out. -/
def Held.asText (raw : Held) : Answer :=
  match Utf8.decode raw.octets with
  | .ok cs => .text (String.ofList cs)
  | .error _ => .octets raw.octets

/-- A server and how it answers. -/
structure Server where
  /-- What it holds. -/
  entries : Table String Held
  /-- Are entries handed over as octets? -/
  inOctets : Bool
  /-- Does it answer a ping with yes? -/
  awake : Bool
  /-- How many calls there have been. -/
  calls : Nat
  /-- The calls that fail, by number and kind. -/
  outage : Nat → Call → Bool
  /-- What is said against an address, if anything is. -/
  refusal : String → Option Text

namespace Server

/-- The schemes that a server's address can have. -/
def schemes : List String := ["redis://", "rediss://", "unix://"]

/-- What is said against an address without a known scheme. -/
def missingScheme (url : String) : Option Text :=
  if schemes.any fun s => s.toList.isPrefixOf url.toList then none
  else
    some "Redis URL must specify one of the following schemes (redis://, rediss://, unix://)"

/-- A server that holds nothing, on which no call fails, and whose address may be any with a known
scheme. -/
def blank : Server := ⟨.empty, false, true, 0, fun _ _ => false, missingScheme⟩

instance : Inhabited Server := ⟨blank⟩

/-- Makes a call: the server after it, and whether the call fails. -/
def call (s : Server) (c : Call) : Server × Except Fault Unit :=
  ({ s with calls := s.calls + 1 },
    if s.outage s.calls c then .error (.server "down") else .ok ())

/-- What is handed over for the entry with a name. -/
def answer? (s : Server) (name : String) : Option Answer :=
  (s.entries.get? name).map fun raw => if s.inOctets then .octets raw.octets else raw.asText

/-- The names that start with a text. -/
def namesUnder (s : Server) (front : String) : List String :=
  (s.entries.entries.map Prod.fst).filter fun name => front.toList.isPrefixOf name.toList

/-- Refuses an address that something is said against. -/
def checkAddress (s : Server) (url : String) : Except Fault Unit :=
  match s.refusal url with
  | none => .ok ()
  | some note => .error (.refused (.badAddress note))

end Server

end IssueDigest
