import IssueDigest.Text.Quoted
import IssueDigest.Text.Utf8
/-!
# Faults

Everything that can go wrong, by cause. A `Fault` is one of

* a value that is refused, with the `Reason`;
* a refusal of the file system (`OsRefusal`) or of the server;
* a field that a mapping lacks, a value of the wrong kind (`Mismatch`), a number that is too large;
* a document or a set of settings with `Complaint`s about its fields.

The wording of each stands in one place, the function `message` of its type. Callers that degrade
on some faults and let others through go by the constructor.
-/

namespace IssueDigest

/-- The kinds of values that a data file can hold, as messages name them. -/
inductive Kind where
  | null
  | bool
  | int
  | float
  | text
  | list
  | map
  | octets
  | date
  | timestamp
  | set
  deriving DecidableEq, Repr

/-- The word for a kind of value. -/
def Kind.word : Kind → String
  | null => "NoneType"
  | bool => "bool"
  | int => "int"
  | float => "float"
  | text => "str"
  | list => "list"
  | map => "dict"
  | octets => "bytes"
  | date => "datetime.date"
  | timestamp => "datetime.datetime"
  | set => "set"

/-- Why a value of the wrong kind cannot be used. -/
inductive Mismatch where
  /-- A date was expected as text. -/
  | dateNotText
  /-- A number was expected. -/
  | notNumber (got : Kind)
  /-- Fields were asked of a value that has none. -/
  | noFields (got : Kind)
  /-- A mapping has a key that cannot be the name of a field. -/
  | keyNotText
  /-- A context name is the name of a parameter. -/
  | nameTaken (name : Text)
  deriving DecidableEq, Repr

/-- The wording of a mismatch. -/
def Mismatch.message : Mismatch → Text
  | dateNotText => "fromisoformat: argument must be str"
  | notNumber got =>
    "int() argument must be a string, a bytes-like object or a real number, not '" ++ got.word ++ "'"
  | noFields .list => "list indices must be integers or slices, not str"
  | noFields .text => "string indices must be integers, not 'str'"
  | noFields got => "'" ++ got.word ++ "' object is not subscriptable"
  | keyNotText => "keywords must be strings"
  | nameTaken name => "got multiple values for argument '" ++ name ++ "'"

/-- The part of a date or time that is out of range. -/
inductive ClockPart where
  | month
  | day
  | hour
  | minute
  | second
  deriving DecidableEq, Repr

/-- The wording for a part that is out of range. -/
def ClockPart.message : ClockPart → String
  | month => "month must be in 1..12"
  | day => "day is out of range for month"
  | hour => "hour must be in 0..23"
  | minute => "minute must be in 0..59"
  | second => "second must be in 0..59"

/-- The closed sets of names that a value is looked up in. -/
inductive Scale where
  /-- The severities. -/
  | severity
  /-- The kinds of dismissal store. -/
  | backend
  deriving DecidableEq, Repr

/-- The word for a set of names. -/
def Scale.word : Scale → String
  | severity => "SeverityLevel"
  | backend => "DismissalBackendType"

/-- Why a value is refused. -/
inductive Reason where
  /-- The text is no integer in this base. -/
  | notInteger (base : Nat) (shown : Text)
  /-- The text has more decimal digits than are read. -/
  | integerTooLong (digits : Nat)
  /-- The integer has more decimal digits than are written. -/
  | integerUnwritable
  /-- The text is no number. -/
  | notFloat (text : Text)
  /-- The float is no number, so no integer either. -/
  | integerOfNaN
  /-- The text is no issue key. -/
  | badKey (text : Text)
  /-- The value, as shown, is in no set of names. -/
  | notMember (scale : Scale) (shown : Text)
  /-- The text is no date. -/
  | badDate (text : Text)
  /-- A part of a date or time is out of range. -/
  | outOfRange (part : ClockPart)
  /-- The year is out of range. -/
  | badYear (year : Nat)
  /-- The offset from universal time, as shown, reaches a whole day. -/
  | badOffset (shown : Text)
  /-- The text is not in the object notation; the note says where. -/
  | badJson (note : Text)
  /-- The text is not in the document format. -/
  | badYaml
  /-- An escape names no code point. -/
  | badCodePoint
  /-- The octets are no text. -/
  | badOctets (defect : Utf8.Defect)
  /-- The text has a run of halves, from a position on, and cannot be stored. -/
  | unstorable (position : Nat) (run : Text)
  /-- The dismissal file holds no object. -/
  | notAnObject
  /-- The issue file holds no mapping. -/
  | notAMapping
  /-- The path has a NUL in it. -/
  | nulInPath
  /-- The variable has a NUL in its name or value. -/
  | nulInVariable
  /-- The name of the variable has an equals sign in it. -/
  | badVariable
  /-- The address of the server is turned down, for the reason worded. -/
  | badAddress (note : Text)
  /-- There is no such level of messages. -/
  | unknownLevel (name : Text)
  /-- The layout of log lines has no field. -/
  | badLayout (layout : Text)
  deriving DecidableEq, Repr

/-- How many decimal digits an integer may have to be read or written. -/
def digitLimit : Nat := 4300

/-- The wording of a run of halves that cannot be stored. -/
def unstorableMessage (position : Nat) : Text → Text
  | [c] =>
    "'utf-8' codec can't encode character '" ++ Text.quoteCode '\'' c ++ "' in position "
      ++ Text.ofNat position ++ ": surrogates not allowed"
  | run =>
    "'utf-8' codec can't encode characters in position " ++ Text.ofNat position ++ "-"
      ++ Text.ofNat (position + run.length - 1) ++ ": surrogates not allowed"

/-- The wording of a defect in octets. -/
def defectMessage (d : Utf8.Defect) : Text :=
  let flaw :=
    match d.flaw with
    | .badStart => "invalid start byte"
    | .badContinuation => "invalid continuation byte"
    | .cut => "unexpected end of data"
  match d.octets with
  | [b] =>
    "'utf-8' codec can't decode byte 0x" ++ Text.ofChars (Text.hexDigits 2 b.toNat)
      ++ " in position " ++ Text.ofNat d.position ++ ": " ++ flaw
  | bs =>
    "'utf-8' codec can't decode bytes in position " ++ Text.ofNat d.position ++ "-"
      ++ Text.ofNat (d.position + bs.length - 1) ++ ": " ++ flaw

/-- The wording of a reason. -/
def Reason.message : Reason → Text
  | notInteger base shown =>
    "invalid literal for int() with base " ++ Text.ofNat base ++ ": " ++ shown.take 200
  | integerTooLong digits =>
    "Exceeds the limit (4300 digits) for integer string conversion: value has "
      ++ Text.ofNat digits ++ " digits; use sys.set_int_max_str_digits() to increase the limit"
  | integerUnwritable =>
    "Exceeds the limit (4300 digits) for integer string conversion; use sys.set_int_max_str_digits() to increase the limit"
  | notFloat text => "could not convert string to float: " ++ text.quoted
  | integerOfNaN => "cannot convert float NaN to integer"
  | badKey text => "Invalid issue key: " ++ text.quoted
  | notMember scale shown => shown ++ " is not a valid " ++ scale.word
  | badDate text => "Invalid isoformat string: " ++ text.quoted
  | outOfRange part => part.message
  | badYear year => "year " ++ Text.ofNat year ++ " is out of range"
  | badOffset shown =>
    "offset must be a timedelta strictly between -timedelta(hours=24) and timedelta(hours=24), not "
      ++ shown ++ "."
  | badJson note => note
  | badYaml => "YAML parse error"
  | badCodePoint => "chr() arg not in range(0x110000)"
  | badOctets defect => defectMessage defect
  | unstorable position run => unstorableMessage position run
  | notAnObject => "dismissal file must contain a JSON object"
  | notAMapping => "issue file must contain a mapping with 'sources' and 'issues'"
  | nulInPath => "embedded null byte"
  | nulInVariable => "embedded null byte"
  | badVariable => "illegal environment variable name"
  | badAddress note => note
  | unknownLevel name => "Unknown level: " ++ name.quoted
  | badLayout layout => "Invalid format '" ++ layout ++ "' for '%' style"

/-- Why the file system refuses. -/
inductive OsCause where
  | noEntry
  | denied
  | entryExists
  | notDirectory
  | isDirectory
  | noSpace
  | nameTooLong
  deriving DecidableEq, Repr

/-- The number of a cause. -/
def OsCause.number : OsCause → Nat
  | noEntry => 2
  | denied => 13
  | entryExists => 17
  | notDirectory => 20
  | isDirectory => 21
  | noSpace => 28
  | nameTooLong => 36

/-- The wording of a cause. -/
def OsCause.word : OsCause → String
  | noEntry => "No such file or directory"
  | denied => "Permission denied"
  | entryExists => "File exists"
  | notDirectory => "Not a directory"
  | isDirectory => "Is a directory"
  | noSpace => "No space left on device"
  | nameTooLong => "File name too long"

/-- A refusal of the file system. -/
structure OsRefusal where
  /-- Why it refuses. -/
  cause : OsCause
  /-- The path concerned, as it was asked for. -/
  path : String
  deriving DecidableEq, Repr

/-- The wording of a refusal. -/
def OsRefusal.message (r : OsRefusal) : Text :=
  "[Errno " ++ Text.ofNat r.cause.number ++ "] " ++ r.cause.word ++ ": "
    ++ (Text.ofString r.path).quoted

/-- A step on the way from a document to one of its parts. -/
inductive Step where
  /-- Into a field. -/
  | field (name : String)
  /-- Into an item of a list. -/
  | item (index : Nat)
  deriving DecidableEq, Repr

/-- What is wrong with a part of a document. -/
inductive Flaw where
  /-- The field is required. -/
  | missing
  /-- A list is expected. -/
  | notList
  /-- An entry of this kind is expected. -/
  | notEntry (entry : String)
  /-- A text is expected. -/
  | notText
  /-- The text holds no code point. -/
  | tooShort
  /-- The text holds halves, or the octets are no text. -/
  | unreadableText
  /-- An integer is expected. -/
  | notInt
  /-- The text is no integer. -/
  | unreadableInt
  /-- The integer is too long to be read. -/
  | intTooLong
  /-- The number has a fractional part. -/
  | fractionalInt
  /-- The number is not finite. -/
  | notFinite
  /-- A truth value is expected. -/
  | notBool
  /-- The value names no truth value. -/
  | unreadableBool
  /-- The value is refused, for the reason worded. -/
  | refused (why : Text)
  deriving DecidableEq, Repr

/-- The code of a flaw. -/
def Flaw.code : Flaw → String
  | missing => "missing"
  | notList => "list_type"
  | notEntry _ => "model_type"
  | notText => "string_type"
  | tooShort => "string_too_short"
  | unreadableText => "string_unicode"
  | notInt => "int_type"
  | unreadableInt => "int_parsing"
  | intTooLong => "int_parsing_size"
  | fractionalInt => "int_from_float"
  | notFinite => "finite_number"
  | notBool => "bool_type"
  | unreadableBool => "bool_parsing"
  | refused _ => "value_error"

/-- The wording of a flaw. -/
def Flaw.message : Flaw → Text
  | missing => "Field required"
  | notList => "Input should be a valid list"
  | notEntry entry => "Input should be a valid dictionary or instance of " ++ entry
  | notText => "Input should be a valid string"
  | tooShort => "String should have at least 1 character"
  | unreadableText =>
    "Input should be a valid string, unable to parse raw data as a unicode string"
  | notInt => "Input should be a valid integer"
  | unreadableInt => "Input should be a valid integer, unable to parse string as an integer"
  | intTooLong => "Unable to parse input string as an integer, exceeded maximum size"
  | fractionalInt => "Input should be a valid integer, got a number with a fractional part"
  | notFinite => "Input should be a finite number"
  | notBool => "Input should be a valid boolean"
  | unreadableBool => "Input should be a valid boolean, unable to interpret input"
  | refused why => "Value error, " ++ why

/-- A complaint about one part of a document; no step leads to the whole. -/
structure Complaint where
  /-- The way to the part. -/
  path : List Step
  /-- What is wrong with it. -/
  flaw : Flaw
  deriving DecidableEq, Repr

/-- Everything that can go wrong. -/
inductive Fault where
  /-- A value is refused. -/
  | refused (reason : Reason)
  /-- The document or the settings so named have flaws. -/
  | invalid (subject : String) (complaints : List Complaint)
  /-- The file system refuses. -/
  | os (refusal : OsRefusal)
  /-- The server refuses. -/
  | server (note : String)
  /-- A mapping lacks the field. -/
  | lacks (field : Text)
  /-- A value is of the wrong kind. -/
  | mismatch (why : Mismatch)
  /-- An infinite number has no integer. -/
  | infinite
  /-- A number is too large for a code point. -/
  | hugeCodePoint
  /-- A text has no such form, so nothing can be asked of the match. -/
  | noMatch
  /-- A text is empty where a character is needed. -/
  | noCharacter
  deriving DecidableEq, Repr

/-- The first line of the wording of complaints. -/
def complaintsHead (subject : String) (n : Nat) : Text :=
  Text.ofNat n ++ (if n = 1 then " validation error for " else " validation errors for ") ++ subject

/-- The wording of a fault; of complaints, the first line. -/
def Fault.message : Fault → Text
  | refused reason => reason.message
  | invalid subject complaints => complaintsHead subject complaints.length
  | os refusal => refusal.message
  | server note => note
  | lacks field => field.quoted
  | mismatch why => why.message
  | infinite => "cannot convert float infinity to integer"
  | hugeCodePoint => "number too large for a code point"
  | noMatch => "the text has no such form"
  | noCharacter => "string index out of range"

/-- Is the fault a refused value, complaints about a document included? -/
def Fault.isRefusal : Fault → Bool
  | refused _ => true
  | invalid _ _ => true
  | _ => false

/-- Is the fault a refusal of the file system? -/
def Fault.isOs : Fault → Bool
  | os _ => true
  | _ => false

/-- Is the fault a refusal of the server? -/
def Fault.isServer : Fault → Bool
  | server _ => true
  | _ => false

end IssueDigest
