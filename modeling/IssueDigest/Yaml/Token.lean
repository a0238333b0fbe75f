import IssueDigest.Text.CodePoint
/-!
# Tokens

The pieces of a document in order. Blocks are told apart by how far they are indented, and the
tokens that open and close them stand for no character of their own.
-/

namespace IssueDigest.Yaml

/-- The kind of a node as it is written: a handle and the rest behind it, or the whole. -/
structure TagName where
  /-- The handle, between exclamation marks. -/
  handle : Option (List Char)
  /-- The rest, or the whole. -/
  suffix : List Char
  deriving DecidableEq, Repr

/-- The version of the format. -/
structure Version where
  major : Int
  minor : Int
  deriving DecidableEq, Repr

/-- A piece of a document. -/
inductive Token where
  /-- The version of the format is set. -/
  | version (v : Version)
  /-- A handle is set to stand for the start of tags. -/
  | handle (name start : List Char)
  /-- Something else is set, which does not matter. -/
  | directive
  | documentStart
  | documentEnd
  | blockList
  | blockMap
  | blockEnd
  | flowList
  | flowListEnd
  | flowMap
  | flowMapEnd
  /-- A hyphen in front of an item. -/
  | item
  /-- A comma. -/
  | comma
  /-- A key follows. -/
  | key
  /-- The value of a key follows. -/
  | value
  /-- A node that was named before. -/
  | alias (name : List Char)
  /-- The name of the node that follows. -/
  | anchor (name : List Char)
  /-- The tag of the node that follows. -/
  | tag (name : TagName)
  /-- A scalar, and whether it is written without quotes on its line. -/
  | scalar (plain : Bool) (text : Text)
  /-- The end of the text. -/
  | finish
  deriving DecidableEq, Repr

end IssueDigest.Yaml
