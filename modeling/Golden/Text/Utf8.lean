/-
This file reads and writes UTF-8. Writing is the concatenation of the encodings
of the characters. Strict reading refuses ill-formed bytes; lenient reading puts
one replacement character in the place of each maximal part of an ill-formed
sequence, so that no well-formed character is ever swallowed with it. Either way,
what writing produced is read back unchanged.
-/

namespace Golden.Text

/-! ### Writing -/

/-- The UTF-8 encoding of a text. -/
def encode (text : List Char) : List UInt8 :=
  text.flatMap String.utf8EncodeChar

/-- The number of bytes in the UTF-8 encoding of a text. -/
def byteLength : List Char → Nat
  | [] => 0
  | character :: rest => character.utf8Size + byteLength rest

theorem byteLength_append (left right : List Char) :
    byteLength (left ++ right) = byteLength left + byteLength right := by
  induction left with
  | nil => simp [byteLength]
  | cons character rest inductionHypothesis =>
    rw [List.cons_append, byteLength, byteLength, inductionHypothesis, Nat.add_assoc]

/-! ### Reading one character -/

/-- The character that a sequence of bytes starts with, if its first bytes encode one. -/
def leading? (bytes : List UInt8) : Option Char :=
  (bytes.take 4).toByteArray.utf8DecodeChar? 0

theorem toByteArray_append (left right : List UInt8) :
    (left ++ right).toByteArray = left.toByteArray ++ right.toByteArray := by
  ext1
  simp

/-- An encoded character is the one that is read. -/
theorem leading?_encode_append (character : Char) (rest : List UInt8) :
    leading? (String.utf8EncodeChar character ++ rest) = some character := by
  have short : (String.utf8EncodeChar character).length ≤ 4 := by
    rw [String.length_utf8EncodeChar]
    exact Char.utf8Size_le_four character
  rw [leading?, List.take_append, List.take_of_length_le short, toByteArray_append]
  exact ByteArray.utf8DecodeChar?_utf8EncodeChar_append

/-- Whether a byte may follow the first byte of an encoded character. -/
def isTail (byte : UInt8) : Bool :=
  0x80 ≤ byte && byte ≤ 0xBF

/-- The second bytes that may follow the first byte of a three- or four-byte character. -/
def isSecond (first second : UInt8) : Bool :=
  if first = 0xE0 then 0xA0 ≤ second && second ≤ 0xBF
  else if first = 0xED then 0x80 ≤ second && second ≤ 0x9F
  else if first = 0xF0 then 0x90 ≤ second && second ≤ 0xBF
  else if first = 0xF4 then 0x80 ≤ second && second ≤ 0x8F
  else 0xE1 ≤ first && first ≤ 0xF3 && isTail second

/-- How many bytes the ill-formed sequence at the start takes: the longest part of it with which
some character's encoding begins, and one byte when there is none. -/
def brokenLength : List UInt8 → Nat
  | first :: second :: rest =>
    if isSecond first second then
      match rest with
      | third :: _ => if 0xF0 ≤ first && isTail third then 3 else 2
      | [] => 2
    else 1
  | _ => 1

/-! ### Reading a sequence -/

/-- The text that a sequence of bytes encodes, if it is well formed. -/
def decode? : List UInt8 → Option (List Char)
  | [] => some []
  | first :: rest =>
    match leading? (first :: rest) with
    | some character => (decode? (rest.drop (character.utf8Size - 1))).map (character :: ·)
    | none => none
termination_by bytes => bytes.length
decreasing_by rw [List.length_drop, List.length_cons]; omega

/-- The text that a sequence of bytes encodes, with U+FFFD for each ill-formed part. -/
def decodeLossy : List UInt8 → List Char
  | [] => []
  | first :: rest =>
    match leading? (first :: rest) with
    | some character => character :: decodeLossy (rest.drop (character.utf8Size - 1))
    | none => '\uFFFD' :: decodeLossy (rest.drop (brokenLength (first :: rest) - 1))
termination_by bytes => bytes.length
decreasing_by all_goals (rw [List.length_drop, List.length_cons]; omega)

/-- The bytes after an encoded character, seen from its second byte. -/
theorem utf8EncodeChar_split (character : Char) :
    ∃ first tail, String.utf8EncodeChar character = first :: tail ∧
      tail.length = character.utf8Size - 1 := by
  have length := String.length_utf8EncodeChar character
  have positive := Char.utf8Size_pos character
  cases equation : String.utf8EncodeChar character with
  | nil => simp [equation] at length; omega
  | cons first tail =>
    refine ⟨first, tail, rfl, ?_⟩
    simp [equation] at length
    omega

/-- Strict reading undoes writing. -/
theorem decode?_encode (text : List Char) : decode? (encode text) = some text := by
  induction text with
  | nil => simp [encode, decode?]
  | cons character rest inductionHypothesis =>
    obtain ⟨first, tail, split, length⟩ := utf8EncodeChar_split character
    have head := leading?_encode_append character (encode rest)
    have written : encode (character :: rest) = first :: (tail ++ encode rest) := by
      simp [encode, split]
    rw [split, List.cons_append] at head
    rw [written, decode?, head]
    simp [← length, inductionHypothesis]

/-- Lenient reading undoes writing. -/
theorem decodeLossy_encode (text : List Char) : decodeLossy (encode text) = text := by
  induction text with
  | nil => simp [encode, decodeLossy]
  | cons character rest inductionHypothesis =>
    obtain ⟨first, tail, split, length⟩ := utf8EncodeChar_split character
    have head := leading?_encode_append character (encode rest)
    have written : encode (character :: rest) = first :: (tail ++ encode rest) := by
      simp [encode, split]
    rw [split, List.cons_append] at head
    rw [written, decodeLossy, head]
    simp [← length, inductionHypothesis]

end Golden.Text
