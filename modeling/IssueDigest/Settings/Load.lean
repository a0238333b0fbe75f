import IssueDigest.Document.Check
import IssueDigest.Settings.Basic
import IssueDigest.Settings.VariableFile
/-!
# Where settings come from

A setting is given directly, or else by a variable of the environment, or else by one of the file
`.env`; otherwise it has its standard value. The names of variables are taken in small letters, and
of several that are then the same the last one counts. All settings are checked, in one order, and
all complaints are kept.

Before the program looks for its settings it takes the variables of the file beside it into the
environment (`takeVariables`), one by one, and those of the environment stay as they are. A variable
that the environment cannot hold ends this, and the variables in front of it have been taken.
-/

namespace IssueDigest

namespace ValueCheck

/-- The words for false and true. -/
def truths : List (Bool × List String) :=
  [(false, ["0", "off", "f", "false", "n", "no"]), (true, ["1", "on", "t", "true", "y", "yes"])]

/-- The truth value that a word in either case stands for. -/
def truthOf? (t : Text) : Option Bool :=
  t.string?.bind fun s => (truths.find? fun w => w.2.contains s.toLower).map Prod.fst

/-- The truth value of an integer of 64 bits; others are no candidates. -/
def truthOfInt (n : Int) : Except Flaw Bool :=
  if n = 0 then .ok false
  else if n = 1 then .ok true
  else if -int64Limit ≤ n && n < int64Limit then .error .unreadableBool
  else .error .notBool

/-- The truth value of a value. -/
def bool : ValueCheck Bool
  | .bool b => .ok (.ok b)
  | .int n => .ok (truthOfInt n)
  | .float x =>
    match intOfFloat x with
    | .ok n => .ok (truthOfInt n)
    | .error _ => .ok (.error .notBool)
  | .text t =>
    match truthOf? t with
    | some b => .ok (.ok b)
    | none => .ok (.error .unreadableBool)
  | _ => .ok (.error .notBool)

/-- A check, followed by another one of what the value stands for. -/
def andThen {α β : Type} (check : ValueCheck α) (more : α → Except Flaw β) : ValueCheck β :=
  fun v => Except.map (fun r => r.bind more) (check v)

/-- The text of a value as a string. -/
def string : ValueCheck String :=
  andThen text fun t =>
    match t.string? with
    | some s => .ok s
    | none => .error .unreadableText

end ValueCheck

namespace Settings

/-- The file of variables. -/
def variablesFile : String := ".env"

/-- The levels that can be set. -/
def levels : List Level := [.debug, .info, .warning, .error, .critical]

/-- The wording for a word that is none of those there are. -/
def notOneOf (what : String) (t : Text) (words : List String) : Flaw :=
  .refused ("Invalid " ++ what ++ ": " ++ t ++ ". Valid options: "
    ++ Text.quotedList (words.map Text.ofString))

/-- The level that a word in any case stands for. -/
def levelOf (t : Text) : Except Flaw Level :=
  match levels.find? fun l => Text.ofString l.name = t.upper with
  | some level => .ok level
  | none => .error (notOneOf "log level" t (levels.map Level.name))

/-- The kind of store that a word in any case stands for. -/
def backendOf (t : Text) : Except Flaw Backend :=
  match Backend.ofWord? t.lower with
  | some backend => .ok backend
  | none => .error (notOneOf "dismissal backend" t (Backend.all.map Backend.word))

/-- The settings of fields. -/
def check (fields : List (Value × Value)) : Checked Settings :=
  let field {α : Type} (name : String) (check : ValueCheck α) (default : α) : Checked α :=
    .optional [] name check default fields
  Checked.map (fun (level, layout, collapse, backend, filePath, serverUrl, front) =>
      ⟨level, layout, collapse, backend, filePath, serverUrl, front⟩)
    (.both (field "log_level" (ValueCheck.text.andThen levelOf) standard.level)
      (.both (field "log_format" ValueCheck.string standard.layout)
        (.both (field "dedup_enabled" ValueCheck.bool standard.collapse)
          (.both (field "dismissal_backend" (ValueCheck.text.andThen backendOf) standard.backend)
            (.both (field "dismissal_file_path" ValueCheck.string standard.filePath)
              (.both (field "dismissal_redis_url" ValueCheck.string standard.serverUrl)
                (field "dismissal_redis_key_prefix" ValueCheck.name standard.front)))))))

/-- The variables of the file, by name in small letters; none if there is no such file. -/
def fileVariables (w : World) : Except Fault (Entries Text (Option Text)) :=
  match w.disk.read (Path.ofString variablesFile) with
  | .error _ => .ok []
  | .ok bs => do
    let text ← decodeText bs
    pure (Entries.ofPairs ((VariableFile.read .file w.environment text).map fun (name, value) =>
      ((Text.ofChars name).lower, value.map Text.ofChars)))

/-- The variables of the environment, by name in small letters. -/
def environmentVariables (w : World) : Entries Text Text :=
  Entries.ofPairs (w.environment.map fun (name, value) =>
    ((Text.ofString name).lower, Text.ofString value))

/-- The fields that the world and those given directly make together; of several with one name the
last counts. -/
def fields (w : World) (given : List (Text × Json)) : Except Fault (List (Value × Value)) := do
  let fromFile ← fileVariables w
  let field (name value : Text) : Value × Value := (.text name, .text value)
  pure ((fromFile.filterMap fun (name, value) => value.map (field name))
    ++ (environmentVariables w).map (fun (name, value) => field name value)
    ++ Value.ofFields given)

/-- The settings of a run, some of them given directly. -/
def load (w : World) (given : List (Text × Json)) : Except Fault Settings := do
  match ← check (← fields w given) with
  | .ok settings => pure settings
  | .error complaints => throw (.invalid "Config" complaints)

/-! ### The file beside the program -/

/-- The variable of the environment that says whether the file beside the program is left alone. -/
def disabling : String := "PYTHON_DOTENV_DISABLED"

/-- Is the file beside the program left alone? The word for it may be in either case. -/
def isDisabled (environment : List (String × String)) : Bool :=
  (Entries.get? disabling environment).any fun value =>
    ["1", "true", "t", "yes", "y"].any fun word =>
      (Text.ofString value).upper.lower = Text.ofString word

/-- Refuses a variable that no environment can hold. -/
def checkVariable (name value : List Char) : Except Fault Unit :=
  if name.contains '\x00' || value.contains '\x00' then .error (.refused .nulInVariable)
  else if name.contains '=' then .error (.refused .badVariable)
  else .ok ()

/-- Takes a variable into the environment, unless it is there already or has no value. -/
def takeVariable (name : List Char) (value : Option (List Char)) : Act World Unit := do
  let w ← get
  match value with
  | none => pure ()
  | some value =>
    if (Entries.get? (String.ofList name) w.environment).isSome then pure ()
    else
      Act.lift (checkVariable name value)
      set { w with environment := w.environment ++ [(String.ofList name, String.ofList value)] }

/-- Takes the variables of the file beside the program into the environment. -/
def takeVariables : Act World Unit := do
  let w ← get
  match w.nearby with
  | none => pure ()
  | some bs =>
    if isDisabled w.environment then pure ()
    else
      let text ← Act.lift (decodeText bs)
      (VariableFile.read .environment w.environment text).forM fun v => takeVariable v.1 v.2

/-- The settings that the program finds. -/
def found : Act World Settings := do
  takeVariables
  Act.lift (load (← get) [])

end Settings

end IssueDigest
