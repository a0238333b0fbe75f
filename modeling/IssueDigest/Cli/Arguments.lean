import IssueDigest.Cli.Usage
import IssueDigest.Text.Digit
/-!
# Reading the command line

Each argument reads as an operand, as an option or as a stranger, which looks like an option but is
none. The names of options may be cut short as long as they stay unique; behind `--` everything is an
operand. The first operand that is not the value of an option is the file; operands and strangers
that are left over are a mistake, but only after every other one.
-/

namespace IssueDigest

/-- What a run is asked to do. -/
structure Command where
  /-- The issue file, as it was given. -/
  file : String
  /-- The kind of dismissal store, if not that of the settings. -/
  backend : Option Backend
  /-- The issues to dismiss, as they were named. -/
  dismissals : List String
  /-- Are duplicates left in, whatever the settings say? -/
  keepAll : Bool
  /-- Are the issues shown as a list of objects? -/
  json : Bool
  deriving DecidableEq, Repr

/-- What is wrong with a command line. -/
inductive Mistake where
  /-- An argument is the start of several options. -/
  | ambiguous (argument : String) (candidates : List Switch)
  /-- An option lacks its value. -/
  | valueMissing (switch : Switch)
  /-- An option that wants no value has one. -/
  | valueUnwanted (switch : Switch) (value : String)
  /-- There is no such kind of store. -/
  | noSuchBackend (value : String)
  /-- No file was named. -/
  | fileMissing
  /-- Some arguments are left over. -/
  | leftOver (arguments : List String)
  deriving DecidableEq, Repr

/-- The wording of a mistake. -/
def Mistake.message : Mistake → Text
  | ambiguous argument candidates =>
    "ambiguous option: " ++ argument ++ " could match "
      ++ ", ".intercalate (candidates.map Switch.name)
  | valueMissing switch => "argument " ++ switch.title ++ ": expected one argument"
  | valueUnwanted switch value =>
    "argument " ++ switch.title ++ ": ignored explicit argument " ++ (Text.ofString value).quoted
  | noSuchBackend value =>
    "argument " ++ Switch.backend.title ++ ": invalid choice: " ++ (Text.ofString value).quoted
      ++ " (choose from "
      ++ ", ".intercalate (Backend.all.map fun b => "'" ++ b.word ++ "'") ++ ")"
  | fileMissing => "the following arguments are required: file"
  | leftOver arguments => "unrecognized arguments: " ++ " ".intercalate arguments

/-- Why a command line asks for no run. -/
inductive Halt where
  /-- It asks for the help. -/
  | help
  /-- It is mistaken. -/
  | mistake (m : Mistake)
  deriving DecidableEq, Repr

/-- How an argument reads. -/
inductive Part where
  | operand (text : String)
  /-- Everything behind it is an operand. -/
  | divider
  /-- An option, and the value attached to it if there is one. -/
  | option (switch : Switch) (attached : Option String)
  /-- It looks like an option but is none. -/
  | stranger (text : String)
  deriving DecidableEq, Repr

namespace Part

/-- The text that divides options from operands. -/
def dividerText : String := "--"

/-- Is the text a number with a minus sign in front, and perhaps a line end behind? -/
def isNegative (text : String) : Bool :=
  let isDigit (c : Char) : Bool := (CodePoint.decimal? (.char c)).isSome
  match text.toList with
  | '-' :: digits =>
    let digits := if digits.getLast? = some '\n' then digits.dropLast else digits
    match digits.dropWhile isDigit with
    | [] => !digits.isEmpty
    | '.' :: decimals => !decimals.isEmpty && decimals.all isDigit
    | _ => false
  | _ => false

/-- What stands in front of the first `=`, and what behind it if there is one. -/
def splitValue (cs : List Char) : List Char × Option String :=
  match cs.dropWhile (· != '=') with
  | _ :: value => (cs.takeWhile (· != '='), some (String.ofList value))
  | [] => (cs, none)

/-- The value that is attached to the short form of the help, which may be repeated; letters that
are no option are none. -/
def shortValue? : List Char → Option String
  | '=' :: value => some (String.ofList value)
  | '-' :: rest => some (String.ofList ('-' :: rest))
  | 'h' :: rest => shortValue? rest
  | _ => none

/-- An argument that starts like an option but is none: one with a blank in it is an operand. -/
def unnamed (text : String) : Part := if text.contains ' ' then operand text else stranger text

/-- How an argument reads that is not the divider. -/
def read (text : String) : Except Mistake Part :=
  match text.toList with
  | '-' :: '-' :: rest =>
    let (name, value) := splitValue ('-' :: '-' :: rest)
    match Switch.all.filter fun s => name.isPrefixOf s.name.toList with
    | [] => .ok (unnamed text)
    | [switch] => .ok (option switch value)
    | candidates => .error (.ambiguous text candidates)
  | '-' :: 'h' :: rest => .ok (option .help (shortValue? rest))
  | '-' :: _ :: _ => .ok (if isNegative text then operand text else unnamed text)
  | _ => .ok (operand text)

/-- How the arguments read. -/
def readAll : List String → Except Mistake (List Part)
  | [] => .ok []
  | text :: rest =>
    if text = dividerText then .ok (divider :: rest.map operand)
    else do
      let part ← read text
      let parts ← readAll rest
      pure (part :: parts)

end Part

/-- What is known of a command so far. -/
structure Draft where
  file : Option String
  backend : Option Backend
  dismissals : List String
  keepAll : Bool
  json : Bool
  /-- The arguments that are left over. -/
  leftOver : List String
  deriving DecidableEq, Repr

namespace Draft

/-- Before anything is known. -/
def empty : Draft := ⟨none, none, [], false, false, []⟩

/-- Leaves an argument over. -/
def leave (d : Draft) (text : String) : Draft := { d with leftOver := d.leftOver ++ [text] }

/-- Takes an operand: the first is the file. -/
def takeOperand (d : Draft) (text : String) : Draft :=
  if d.file.isNone then { d with file := some text } else d.leave text

/-- Takes an option without a value. -/
def takeSwitch (d : Draft) : Switch → Except Halt Draft
  | .help => .error .help
  | .keepAll => .ok { d with keepAll := true }
  | .json => .ok { d with json := true }
  | switch => .error (.mistake (.valueMissing switch))

/-- Takes an option with a value. -/
def takeValue (d : Draft) (value : String) : Switch → Except Halt Draft
  | .backend =>
    match Backend.ofWord? value with
    | some backend => .ok { d with backend := some backend }
    | none => .error (.mistake (.noSuchBackend value))
  | .dismiss => .ok { d with dismissals := d.dismissals ++ [value] }
  | switch => .error (.mistake (.valueUnwanted switch value))

/-- Takes the parts of a command line. The divider next to the operand that is the file belongs to
it; any other is left over. -/
def take : Draft → List Part → Except Halt Draft
  | d, [] => .ok d
  | d, .stranger text :: rest => take (d.leave text) rest
  | d, .operand text :: .divider :: rest =>
    if d.file.isNone then take (d.takeOperand text) rest
    else take ((d.leave text).leave Part.dividerText) rest
  | d, .operand text :: rest => take (d.takeOperand text) rest
  | d, .divider :: .operand text :: rest =>
    if d.file.isNone then take (d.takeOperand text) rest
    else take ((d.leave Part.dividerText).leave text) rest
  | d, .divider :: rest => take (d.leave Part.dividerText) rest
  | d, .option switch (some value) :: rest => do take (← d.takeValue value switch) rest
  | d, .option switch none :: .operand text :: rest =>
    if switch.wantsValue then do take (← d.takeValue text switch) rest
    else do take (← d.takeSwitch switch) (.operand text :: rest)
  | d, .option switch none :: rest => do take (← d.takeSwitch switch) rest

/-- The command, if a file is named and nothing is left over. -/
def finish (d : Draft) : Except Halt Command :=
  match d.file with
  | none => .error (.mistake .fileMissing)
  | some file =>
    if d.leftOver.isEmpty then .ok ⟨file, d.backend, d.dismissals, d.keepAll, d.json⟩
    else .error (.mistake (.leftOver d.leftOver))

end Draft

/-- The command that the arguments stand for. -/
def Command.read (arguments : List String) : Except Halt Command :=
  match Part.readAll arguments with
  | .error m => .error (.mistake m)
  | .ok parts => do (← Draft.empty.take parts).finish

end IssueDigest
