import IssueDigest.Text.CodePoint
/-!
# Octets of a text

Texts are stored as octets, one to four for each scalar value. Reading goes octet by octet: `sign`
says what starts at an octet, either a scalar value or a defect, and how many of the octets after it
belong to it. A defect covers the longest run that could still have become a character, so that
reading resumes at the first octet that rules it out. `decode` refuses the first defect and
`decodeLossy` writes one replacement character for each.
-/

namespace IssueDigest.Utf8

/-- The octets of a scalar value. -/
def encodeChar (c : Char) : List UInt8 :=
  let n := c.toNat
  if n < 0x80 then [n.toUInt8]
  else if n < 0x800 then [(0xC0 + n / 0x40).toUInt8, (0x80 + n % 0x40).toUInt8]
  else if n < 0x10000 then
    [(0xE0 + n / 0x1000).toUInt8, (0x80 + n / 0x40 % 0x40).toUInt8, (0x80 + n % 0x40).toUInt8]
  else
    [(0xF0 + n / 0x40000).toUInt8, (0x80 + n / 0x1000 % 0x40).toUInt8,
      (0x80 + n / 0x40 % 0x40).toUInt8, (0x80 + n % 0x40).toUInt8]

/-- The octets of a list of scalar values. -/
def encode (cs : List Char) : List UInt8 := cs.flatMap encodeChar

/-- Why octets are no character. -/
inductive Flaw where
  /-- No character starts with this octet. -/
  | badStart
  /-- The octet that follows does not continue the character. -/
  | badContinuation
  /-- The octets end inside the character. -/
  | cut
  deriving DecidableEq, Repr

/-- What starts at an octet. -/
inductive Sign where
  /-- A character that takes `tail` octets after its first. -/
  | char (c : Char) (tail : Nat)
  /-- A defect of `tail` octets after its first. -/
  | broken (flaw : Flaw) (tail : Nat)
  deriving Repr

/-- Does the octet continue a character? -/
def continues (b : UInt8) : Bool := 0x80 ≤ b && b ≤ 0xBF

/-- The six bits that an octet adds to a character. -/
def payload (b : UInt8) : Nat := b.toNat % 0x40

/-- The limits of the second octet of a character, which shut out overlong forms, surrogates and
numbers above the last code point. -/
def secondLimits (lead : UInt8) : UInt8 × UInt8 :=
  if lead == 0xE0 then (0xA0, 0xBF)
  else if lead == 0xED then (0x80, 0x9F)
  else if lead == 0xF0 then (0x90, 0xBF)
  else if lead == 0xF4 then (0x80, 0x8F)
  else (0x80, 0xBF)

/-- May the octet be the second one after `lead`? -/
def isSecond (lead b : UInt8) : Bool :=
  (secondLimits lead).1 ≤ b && b ≤ (secondLimits lead).2

/-- What starts at the octet `lead`, which the octets `rest` follow. -/
def sign (lead : UInt8) (rest : List UInt8) : Sign :=
  if lead < 0x80 then .char (Char.ofNat lead.toNat) 0
  else if lead < 0xC2 || 0xF4 < lead then .broken .badStart 0
  else if lead < 0xE0 then
    match rest with
    | [] => .broken .cut 0
    | b :: _ =>
      if continues b then .char (Char.ofNat ((lead.toNat - 0xC0) * 0x40 + payload b)) 1
      else .broken .badContinuation 0
  else if lead < 0xF0 then
    match rest with
    | [] => .broken .cut 0
    | [b] => if isSecond lead b then .broken .cut 1 else .broken .badContinuation 0
    | b :: c :: _ =>
      if !isSecond lead b then .broken .badContinuation 0
      else if !continues c then .broken .badContinuation 1
      else
        .char (Char.ofNat ((lead.toNat - 0xE0) * 0x1000 + payload b * 0x40 + payload c)) 2
  else
    match rest with
    | [] => .broken .cut 0
    | [b] => if isSecond lead b then .broken .cut 1 else .broken .badContinuation 0
    | [b, c] =>
      if !isSecond lead b then .broken .badContinuation 0
      else if !continues c then .broken .badContinuation 1
      else .broken .cut 2
    | b :: c :: d :: _ =>
      if !isSecond lead b then .broken .badContinuation 0
      else if !continues c then .broken .badContinuation 1
      else if !continues d then .broken .badContinuation 2
      else
        .char (Char.ofNat ((lead.toNat - 0xF0) * 0x40000 + payload b * 0x1000 + payload c * 0x40
          + payload d)) 3

/-- A defect in octets: what is wrong, where, and the octets concerned. -/
structure Defect where
  /-- What is wrong. -/
  flaw : Flaw
  /-- How many octets stand before the defect. -/
  position : Nat
  /-- The octets of the defect. -/
  octets : List UInt8
  deriving DecidableEq, Repr

/-- Reads octets, `skip` of which belong to what was read before them, at a position; `done` holds
the characters read so far in reverse. -/
def decodeFrom (done : List Char) : Nat → Nat → List UInt8 → Except Defect (List Char)
  | _, _, [] => .ok done.reverse
  | skip + 1, position, _ :: rest => decodeFrom done skip (position + 1) rest
  | 0, position, b :: rest =>
    match sign b rest with
    | .char c tail => decodeFrom (c :: done) tail (position + 1) rest
    | .broken flaw tail => .error ⟨flaw, position, b :: rest.take tail⟩

/-- The scalar values that the octets stand for. -/
def decode (bs : List UInt8) : Except Defect (List Char) := decodeFrom [] 0 0 bs

/-- Are these the first two octets of a surrogate and no more? -/
def isOpenSurrogate : List UInt8 → Bool
  | [a, b] => a == 0xED && 0xA0 ≤ b && b ≤ 0xBF
  | _ => false

/-- Reads octets that come in pieces of a size, those of a character that was cut off in front of the
next piece, and so those of a surrogate. The positions of defects are counted from there. -/
def decodePieces (size : Nat) : Nat → List UInt8 → List UInt8 → Except Defect (List Char)
  | 0, carried, rest => decode (carried ++ rest)
  | fuel + 1, carried, rest =>
    let octets := carried ++ rest.take size
    match decode octets with
    | .ok cs =>
      if rest.isEmpty then .ok cs else (decodePieces size fuel [] (rest.drop size)).map (cs ++ ·)
    | .error defect =>
      let isOpen := defect.flaw = .cut || isOpenSurrogate (octets.drop defect.position)
      if isOpen && !rest.isEmpty then do
        let cs ← decode (octets.take defect.position)
        let more ← decodePieces size fuel (octets.drop defect.position) (rest.drop size)
        pure (cs ++ more)
      else .error defect

/-- Reads octets, `skip` of which belong to what was read before them, with a replacement character
for every defect. -/
def decodeLossyFrom : Nat → List UInt8 → List Char
  | _, [] => []
  | skip + 1, _ :: rest => decodeLossyFrom skip rest
  | 0, b :: rest =>
    match sign b rest with
    | .char c tail => c :: decodeLossyFrom tail rest
    | .broken _ tail => '\uFFFD' :: decodeLossyFrom tail rest

/-- The scalar values that the octets stand for, with a replacement character for every defect. -/
def decodeLossy (bs : List UInt8) : List Char := decodeLossyFrom 0 bs

end IssueDigest.Utf8
