/-
This file writes sequences of bytes as sequences of characters, each byte as the
character of its number. Scripts and tools work on bytes, but their texts read best
as characters; written this way a sequence of bytes can be compared with a literal
and loses nothing, not even where it is no well-formed UTF-8.
-/

import Golden.Files.Tree

namespace Golden

/-- Bytes, each as the character of its number. -/
abbrev Octets := List Char

namespace Octets

/-- The octets of bytes. -/
def ofBytes (bytes : Bytes) : Octets :=
  bytes.map fun byte => Char.ofNat byte.toNat

/-- The bytes that octets stand for. -/
def toBytes (octets : Octets) : Bytes :=
  octets.map fun octet => octet.toNat.toUInt8

/-- The octets of a text in UTF-8. -/
def ofText (text : String) : Octets :=
  ofBytes (Text.encode text.toList)

/-- The text that octets encode, with a mark for each part that is ill-formed. -/
def toText (octets : Octets) : String :=
  String.ofList (Text.decodeLossy (toBytes octets))

/-- The path that octets name. -/
def toPath (octets : Octets) : Path := ⟨toText octets⟩

/-- The octets of a number in decimal digits. -/
def ofNat (number : Nat) : Octets :=
  (Nat.toDigits 10 number)

/-- The octets of an integer in decimal digits. -/
def ofInt (number : Int) : Octets :=
  if number < 0 then '-' :: ofNat number.natAbs else ofNat number.natAbs

/-- Whether a text comes before another one. -/
def comesBefore : Octets → Octets → Bool
  | [], right => !right.isEmpty
  | _ :: _, [] => false
  | left :: lefts, right :: rights =>
    left < right || (left = right && comesBefore lefts rights)

/-- Whether a text comes before another one or is the same. -/
def isOrdered (left right : Octets) : Bool :=
  !comesBefore right left

end Octets

end Golden
