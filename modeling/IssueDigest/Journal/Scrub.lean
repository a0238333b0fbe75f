import IssueDigest.Text.Blank
/-!
# Scrubbing

Log lines can carry what users typed, so five kinds of secrets are replaced before a line is
written: mail addresses, two forms of access tokens, long runs of letters and digits, and the rest
of an address behind `http://` or `https://`. Each is a `Pattern`: how much of a text, from its
front, belongs to a match. They are replaced one after the other, each from left to right.
-/

namespace IssueDigest.Scrub

/-- How many code points of a match stand at the front of a text, if one does. -/
abbrev Pattern := Text → Option Nat

/-- Is the code point an ASCII letter? -/
def isLetter (c : CodePoint) : Bool := c.satisfies Char.isAlpha

/-- Is the code point an ASCII letter or digit? -/
def isAlnum (c : CodePoint) : Bool := c.satisfies Char.isAlphanum

/-- May the code point stand before the `@` of a mail address? -/
def isLocal (c : CodePoint) : Bool :=
  c.satisfies fun x => x.isAlphanum || x == '.' || x == '_' || x == '%' || x == '+' || x == '-'

/-- May the code point stand in the domain of a mail address? -/
def isDomain (c : CodePoint) : Bool := c.satisfies fun x => x.isAlphanum || x == '.' || x == '-'

/-- May the code point stand behind the scheme of a web address? -/
def isAddress (c : CodePoint) : Bool := !c.isBlank && c != .char '"'

/-- The length of the longest run at the front that satisfies the test. -/
def run (test : CodePoint → Bool) (t : Text) : Nat := (t.takeWhile test).length

/-- A run at the front of at least so many code points, all of it. -/
def runOf (test : CodePoint → Bool) (least : Nat) (t : Text) : Option Nat :=
  let n := run test t
  if least ≤ n then some n else none

/-- What is left behind a literal front. -/
def after (literal : String) (t : Text) : Option Text :=
  if (Text.ofString literal).isPrefixOf t then some (t.drop literal.length) else none

/-- The length of the longest domain at the front that ends in a point and at least two letters, one
code point or more being in front of the point; `behind` says whether there is one yet. -/
def domainLength (behind : Bool) : Text → Option Nat
  | [] => none
  | c :: rest =>
    if !isDomain c then none
    else
      match domainLength true rest with
      | some n => some (n + 1)
      | none =>
        if behind && c == .char '.' then (runOf isLetter 2 rest).map (· + 1) else none

/-- A mail address. -/
def mail : Pattern := fun t =>
  let n := run isLocal t
  match t.drop n with
  | .char '@' :: domain =>
    if n = 0 then none else (domainLength false domain).map (n + 1 + ·)
  | _ => none

/-- An access token that starts with `sk-`. -/
def secretKey : Pattern := fun t => (after "sk-" t >>= runOf isAlnum 20).map (3 + ·)

/-- An access token that starts with `ghp_`. -/
def accessToken : Pattern := fun t =>
  (after "ghp_" t >>= runOf isAlnum 36).map fun _ => 40

/-- A long run of letters and digits. -/
def token : Pattern := runOf isAlnum 32

/-- A web address. -/
def address : Pattern := fun t =>
  match (after "https://" t >>= runOf isAddress 1).map (8 + ·) with
  | some n => some n
  | none => (after "http://" t >>= runOf isAddress 1).map (7 + ·)

/-- The text with every match replaced, from left to right; `skip` code points belong to a match
that was replaced already. -/
def replaceFrom (pattern : Pattern) (replacement : Text) : Nat → Text → Text
  | _, [] => []
  | skip + 1, _ :: rest => replaceFrom pattern replacement skip rest
  | 0, c :: rest =>
    match pattern (c :: rest) with
    | some n => replacement ++ replaceFrom pattern replacement (n - 1) rest
    | none => c :: replaceFrom pattern replacement 0 rest

/-- The text with every match replaced. -/
def replace (pattern : Pattern) (replacement : String) (t : Text) : Text :=
  replaceFrom pattern replacement 0 t

/-- The text without its secrets. -/
def scrub (t : Text) : Text :=
  replace address "<url>" <| replace token "<token>" <| replace accessToken "<github-token>" <|
    replace secretKey "<api-key>" <| replace mail "<email>" t

end IssueDigest.Scrub
