import IssueDigest.Table
import IssueDigest.Text.Blank
/-!
# Files of variables

A file of variables has one setting on each line: a name, an equals sign and a value, perhaps with
`export` in front and a comment behind. The name may stand between single quotes. The value may be
quoted either way, in which case it may go over several lines and hold a few escapes. A line that is
no setting is passed over. A name without an equals sign is a variable without a value.

Inside a value `${NAME}` stands for another variable, `${NAME:-text}` for a text if there is none.
The variables of the file that come before count, and those of the environment; which of the two count
first is up to whoever reads the file.

A function that reads part of a line returns what is left, and so does one that fails, for the rest
of the line is passed over from there.
-/

namespace IssueDigest.VariableFile

/-- Is the character a blank? -/
def isBlank (c : Char) : Bool := (CodePoint.char c).isBlank

/-- Does the character end a line? -/
def isLineEnd (c : Char) : Bool := c == '\n' || c == '\r'

/-- Is the character a blank that ends no line? -/
def isInlineBlank (c : Char) : Bool := isBlank c && !isLineEnd c

/-- The text without `export` and blanks in front. -/
def skipExport (cs : List Char) : List Char :=
  let word := "export".toList
  let rest := cs.drop word.length
  if word.isPrefixOf cs && (rest.head?.any isInlineBlank) then rest.dropWhile isInlineBlank else cs

/-- Reads a name; none in front of a comment. -/
def readName (cs : List Char) : Except (List Char) (Option (List Char) × List Char) :=
  match cs with
  | '#' :: _ => .ok (none, cs)
  | '\'' :: rest =>
    let name := rest.takeWhile (· != '\'')
    match rest.drop name.length with
    | _ :: after => if name.isEmpty then .error cs else .ok (some name, after)
    | [] => .error cs
  | _ =>
    let name := cs.takeWhile fun c => c != '=' && c != '#' && !isBlank c
    if name.isEmpty then .error cs else .ok (some name, cs.drop name.length)

/-- The text up to the closing quote, and what follows it. A quote behind a backslash closes the text
only if no other quote does. -/
def splitQuoted (quote : Char) : List Char → Option (List Char × List Char)
  | [] => none
  | ['\\'] => none
  | '\\' :: c :: rest =>
    if c == quote then
      match splitQuoted quote rest with
      | some (text, after) => some ('\\' :: c :: text, after)
      | none => some (['\\'], rest)
    else (splitQuoted quote (c :: rest)).map fun (text, after) => ('\\' :: text, after)
  | c :: rest =>
    if c == quote then some ([], rest)
    else (splitQuoted quote rest).map fun (text, after) => (c :: text, after)

/-- The character of an escape between single quotes. -/
def singleEscape? : Char → Option Char
  | '\\' => some '\\'
  | '\'' => some '\''
  | _ => none

/-- The character of an escape between double quotes. -/
def doubleEscape? : Char → Option Char
  | '\\' => some '\\'
  | '\'' => some '\''
  | '"' => some '"'
  | 'a' => some '\x07'
  | 'b' => some '\x08'
  | 'f' => some '\x0c'
  | 'n' => some '\n'
  | 'r' => some '\r'
  | 't' => some '\t'
  | 'v' => some '\x0b'
  | _ => none

/-- The text with its escapes resolved. -/
def unescape (escape? : Char → Option Char) : List Char → List Char
  | '\\' :: c :: rest =>
    match escape? c with
    | some x => x :: unescape escape? rest
    | none => '\\' :: unescape escape? (c :: rest)
  | c :: rest => c :: unescape escape? rest
  | [] => []

/-- The text up to the first blank in front of a number sign. -/
def dropComment : List Char → List Char
  | c :: '#' :: rest => if isBlank c then [] else c :: dropComment ('#' :: rest)
  | c :: rest => c :: dropComment rest
  | [] => []

/-- The text without blanks at its end. -/
def trimEnd (cs : List Char) : List Char := (cs.reverse.dropWhile isBlank).reverse

/-- Reads a value. -/
def readValue (cs : List Char) : Except (List Char) (List Char × List Char) :=
  let quoted (quote : Char) (escape? : Char → Option Char) (rest : List Char) :
      Except (List Char) (List Char × List Char) :=
    match splitQuoted quote rest with
    | some (text, after) => .ok (unescape escape? text, after)
    | none => .error cs
  match cs with
  | '\'' :: rest => quoted '\'' singleEscape? rest
  | '"' :: rest => quoted '"' doubleEscape? rest
  | _ =>
    let line := cs.takeWhile fun c => !isLineEnd c
    .ok (trimEnd (dropComment line), cs.drop line.length)

/-- Passes a comment and the end of the line. -/
def endLine (cs : List Char) : Except (List Char) (List Char) :=
  let cs :=
    match cs.dropWhile isInlineBlank with
    | '#' :: rest => rest.dropWhile fun c => !isLineEnd c
    | _ => cs
  match cs.dropWhile isInlineBlank with
  | [] => .ok []
  | c :: rest => if isLineEnd c then .ok rest else .error cs

/-- A variable, and its value, if it has one. -/
abbrev Setting := List Char × Option (List Char)

/-- Reads a line, whose blanks in front are gone already. -/
def readLine (cs : List Char) : Except (List Char) (Option Setting × List Char) := do
  let (name, cs) ← readName (skipExport cs)
  let (value, cs) ←
    match cs.dropWhile isInlineBlank with
    | '=' :: rest => do
      let (value, cs) ← readValue (rest.dropWhile isInlineBlank)
      pure (some value, cs)
    | cs => pure (none, cs)
  let cs ← endLine cs
  pure (name.map fun name => (name, value), cs)

/-- The settings of a text in order. Every line takes up a character. -/
def readLines : Nat → List Char → List Setting
  | 0, _ => []
  | fuel + 1, cs =>
    match cs.dropWhile isBlank with
    | [] => []
    | cs =>
      match readLine cs with
      | .ok (some setting, rest) => setting :: readLines fuel rest
      | .ok (none, rest) => readLines fuel rest
      | .error rest => readLines fuel ((rest.dropWhile fun c => !isLineEnd c).drop 1)

/-- A reference to a variable. -/
structure Reference where
  name : List Char
  /-- What stands for the variable if there is none. -/
  fallback : List Char
  /-- How many characters it takes up. -/
  width : Nat

/-- The reference behind a dollar sign and an opening brace, with `taken` characters in front. -/
def reference? (cs : List Char) (taken : Nat) : Option Reference :=
  let name := cs.takeWhile fun c => c != '\x7d' && c != ':'
  match cs.drop name.length with
  | '\x7d' :: _ => some ⟨name, [], taken + name.length + 1⟩
  | ':' :: '-' :: rest =>
    let fallback := rest.takeWhile (· != '\x7d')
    if rest.length = fallback.length then none
    else some ⟨name, fallback, taken + name.length + 2 + fallback.length + 1⟩
  | _ => none

/-- The text with its references resolved; `skip` characters belong to one that was resolved
already. -/
def expand (lookup : List Char → Option (Option (List Char))) : Nat → List Char → List Char
  | _, [] => []
  | skip + 1, _ :: rest => expand lookup skip rest
  | 0, c :: rest =>
    let found := match c, rest with
      | '$', '\x7b' :: body => reference? body 1
      | _, _ => none
    match found with
    | some r =>
      (match lookup r.name with
        | some value => value.getD []
        | none => r.fallback) ++ expand lookup r.width rest
    | none => c :: expand lookup 0 rest

/-- Whose variable a reference means where the file and the environment have one of that name. -/
inductive Precedence where
  | file
  | environment
  deriving DecidableEq, Repr

/-- What a reference stands for, if there is such a variable. -/
def lookup (precedence : Precedence) (environment : List (String × String))
    (known : Entries (List Char) (Option (List Char))) (name : List Char) :
    Option (Option (List Char)) :=
  let outer := (Entries.get? (String.ofList name) environment).map fun v => some v.toList
  match precedence with
  | .file => (known.get? name).or outer
  | .environment => outer.or (known.get? name)

/-- The settings with their references resolved, those in front being known. -/
def resolve (precedence : Precedence) (environment : List (String × String)) :
    Entries (List Char) (Option (List Char)) → List Setting → Entries (List Char) (Option (List Char))
  | known, [] => known
  | known, (name, value) :: rest =>
    let value := value.map (expand (lookup precedence environment known) 0)
    resolve precedence environment (known.put name value) rest

/-- The variables of a text, and their values, if they have any. -/
def read (precedence : Precedence) (environment : List (String × String)) (text : List Char) :
    Entries (List Char) (Option (List Char)) :=
  resolve precedence environment [] (readLines (text.length + 1) text)

end IssueDigest.VariableFile
