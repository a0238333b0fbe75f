import IssueDigest.Host.World
/-!
# Settings

What a run is configured with. Settings are well-formed one by one; `problems` says what is wrong
with them together: the server needs an address of its own kind, and the file needs a path.
-/

namespace IssueDigest

/-- The kinds of dismissal store. -/
inductive Backend where
  | memory
  | file
  | server
  deriving DecidableEq, Repr, Inhabited

namespace Backend

/-- All kinds. -/
def all : List Backend := [memory, file, server]

/-- The word for a kind. -/
def word : Backend → String
  | memory => "memory"
  | file => "file"
  | server => "redis"

/-- The kind that a word in small letters stands for. -/
def ofWord? (t : Text) : Option Backend := all.find? fun b => Text.ofString b.word = t

end Backend

/-- What a run is configured with. -/
structure Settings where
  /-- From which level on messages are kept. -/
  level : Level
  /-- The layout of log lines. -/
  layout : String
  /-- Are duplicates left out? -/
  collapse : Bool
  backend : Backend
  /-- The path of the dismissal file. -/
  filePath : String
  /-- The address of the server. -/
  serverUrl : String
  /-- What the names of entries on the server start with. -/
  front : String
  deriving DecidableEq, Repr, Inhabited

namespace Settings

/-- The settings of a run that says nothing about them. -/
def standard : Settings where
  level := .info
  layout := Journal.standardLayout
  collapse := true
  backend := .memory
  filePath := ".safetyhub/dismissals.json"
  serverUrl := "redis://localhost:6379"
  front := "safetyhub:dismissal:"

/-- What is wrong with the settings together. -/
def problems (s : Settings) : List String :=
  let isAddress := ["redis://", "rediss://"].any fun p => p.toList.isPrefixOf s.serverUrl.toList
  (if s.backend = .server && !isAddress then
      ["DISMISSAL_REDIS_URL must be a valid Redis URL (redis://...)"]
    else [])
    ++ (if s.backend = .file && (Text.ofString s.filePath).trim.isEmpty then
        ["DISMISSAL_FILE_PATH is required for the file backend"]
      else [])

/-- The settings that are logged when a run starts. -/
def context (s : Settings) : List (String × Json) :=
  [("dedup_enabled", .bool s.collapse), ("dismissal_backend", .string s.backend.word),
    ("dismissal_file_path", .string s.filePath), ("dismissal_redis_url", .string s.serverUrl),
    ("log_level", .string s.level.name)]

end Settings

end IssueDigest
