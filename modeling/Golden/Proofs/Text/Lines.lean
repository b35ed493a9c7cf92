/-
This file compares the two ways in which lines are cut. A text is read from its
front: up to its first line feed stands one line, and the rest of the text holds
the others; what has no line feed is a line by itself. Bytes are cut in the same
manner, and since no encoded character but the line feed holds the byte of a line
feed, encoding a text does not move its cuts. The two ways part at one place only.
A last line without a line feed keeps a carriage return at its end as text, and
loses it as bytes; so they agree on exactly the texts that do not end in one.

Bytes need not be those of a text. Whatever bytes lines have been written as, with
terminators of any kind between them, the cuts give back the lines, unless one of
them could be taken for two or has at its end what looks like part of a terminator.
-/

import Golden.Text.Lines
import Golden.Text.Utf8
import Mathlib.Data.List.Basic

namespace Golden.Text

/-! ### Reading a text from its front -/

/-- Every list is empty, or has no separator, or is a part without separator, a separator and a
list of which the same can be said. -/
theorem cases_at_separator {α : Type} (separator : α) {motive : List α → Prop}
    (empty : motive []) (unclosed : ∀ line, separator ∉ line → line ≠ [] → motive line)
    (closed : ∀ line rest, separator ∉ line → motive rest →
      motive (line ++ separator :: rest)) (symbols : List α) : motive symbols := by
  by_cases separated : separator ∈ symbols
  · obtain ⟨line, rest, split, clean⟩ := List.eq_append_cons_of_mem separated
    rw [split]
    exact closed line rest clean (cases_at_separator separator empty unclosed closed rest)
  · by_cases nothing : symbols = []
    · exact nothing ▸ empty
    · exact unclosed symbols separated nothing
termination_by symbols.length
decreasing_by rw [split, List.length_append, List.length_cons]; omega

theorem chunks_of_not_mem {line : List Char} (clean : '\n' ∉ line) (nonempty : line ≠ []) :
    chunks line = [line] := by
  induction line with
  | nil => exact absurd rfl nonempty
  | cons character rest inductionHypothesis =>
    rw [List.mem_cons, not_or] at clean
    rw [chunks, if_neg (Ne.symm clean.1)]
    cases rest with
    | nil => rfl
    | cons second others => rw [inductionHypothesis clean.2 (List.cons_ne_nil _ _)]

theorem chunks_append_lineFeed {line : List Char} (clean : '\n' ∉ line) (rest : List Char) :
    chunks (line ++ '\n' :: rest) = (line ++ ['\n']) :: chunks rest := by
  induction line with
  | nil => rw [List.nil_append, chunks, if_pos rfl]; rfl
  | cons character others inductionHypothesis =>
    rw [List.mem_cons, not_or] at clean
    rw [List.cons_append, chunks, if_neg (Ne.symm clean.1), inductionHypothesis clean.2]
    rfl

theorem lines_of_not_mem {line : List Char} (clean : '\n' ∉ line) (nonempty : line ≠ []) :
    lines line = [line] := by
  have unclosed : line.getLast? ≠ some '\n' := fun last => clean (List.mem_of_getLast? last)
  rw [lines, chunks_of_not_mem clean nonempty, List.map_singleton, withoutTerminator,
    if_neg unclosed]

theorem lines_append_lineFeed {line : List Char} (clean : '\n' ∉ line) (rest : List Char) :
    lines (line ++ '\n' :: rest) = dropFinal '\r' line :: lines rest := by
  rw [lines, chunks_append_lineFeed clean, List.map_cons, withoutTerminator,
    if_pos List.getLast?_concat, List.dropLast_concat, lines]

theorem mem_of_mem_dropFinal {α : Type} [DecidableEq α] {final symbol : α} {symbols : List α}
    (member : symbol ∈ dropFinal final symbols) : symbol ∈ symbols := by
  unfold dropFinal at member
  split at member
  · exact List.dropLast_subset symbols member
  · exact member

/-- A line has no line feed in it. -/
theorem lineFeed_not_mem_of_mem_lines {text line : List Char} (member : line ∈ lines text) :
    '\n' ∉ line := by
  induction text using cases_at_separator '\n' with
  | empty => cases member
  | unclosed only clean nonempty =>
    rw [lines_of_not_mem clean nonempty, List.mem_singleton] at member
    exact member ▸ clean
  | closed first rest clean inductionHypothesis =>
    rw [lines_append_lineFeed clean] at member
    rcases List.mem_cons.mp member with rfl | later
    · exact fun inside => clean (mem_of_mem_dropFinal inside)
    · exact inductionHypothesis later

/-! ### Closed texts -/

/-- A text is closed when no line is left open at its end. -/
def ClosedText (text : List Char) : Prop :=
  text = [] ∨ text.getLast? = some '\n'

instance : DecidablePred ClosedText :=
  fun text => inferInstanceAs (Decidable (text = [] ∨ text.getLast? = some '\n'))

theorem closedText_append_lineFeed_iff (line rest : List Char) :
    ClosedText (line ++ '\n' :: rest) ↔ ClosedText rest := by
  unfold ClosedText
  cases rest with
  | nil => simp
  | cons first others =>
    rw [List.append_cons, List.getLast?_append_of_ne_nil _ (List.cons_ne_nil _ _)]
    simp

/-- Two texts, one after the other, are closed when the second one is, and where nothing stands in
the second one when the first one is. -/
theorem closedText_append_iff (front rest : List Char) :
    ClosedText (front ++ rest) ↔ ClosedText rest ∧ (rest = [] → ClosedText front) := by
  by_cases nothing : rest = []
  · rw [nothing, List.append_nil]
    exact ⟨fun closed => ⟨.inl rfl, fun _ => closed⟩, fun closed => closed.2 rfl⟩
  · unfold ClosedText
    rw [List.getLast?_append_of_ne_nil front nothing]
    simp [nothing]

theorem ClosedText.append {front rest : List Char} (closed : ClosedText front)
    (closedRest : ClosedText rest) : ClosedText (front ++ rest) :=
  (closedText_append_iff front rest).mpr ⟨closedRest, fun _ => closed⟩

/-- A closed text is empty, or it is a line, its line feed and a closed text. -/
theorem ClosedText.cases_at_lineFeed {motive : (text : List Char) → ClosedText text → Prop}
    (empty : motive [] (.inl rfl))
    (closed : ∀ line rest (closedText : ClosedText rest), '\n' ∉ line → motive rest closedText →
      motive (line ++ '\n' :: rest) ((closedText_append_lineFeed_iff line rest).mpr closedText))
    {text : List Char} (closedText : ClosedText text) : motive text closedText := by
  induction text using cases_at_separator '\n' with
  | empty => exact empty
  | unclosed line clean nonempty =>
    rcases closedText with nothing | last
    · exact absurd nothing nonempty
    · exact absurd (List.mem_of_getLast? last) clean
  | closed line rest clean inductionHypothesis =>
    exact closed line rest ((closedText_append_lineFeed_iff line rest).mp closedText) clean
      (inductionHypothesis _)

theorem chunks_append_of_closedText {front : List Char} (closed : ClosedText front)
    (rest : List Char) : chunks (front ++ rest) = chunks front ++ chunks rest := by
  induction closed using ClosedText.cases_at_lineFeed with
  | empty => rfl
  | closed line others _ clean inductionHypothesis =>
    rw [List.append_assoc, List.cons_append, chunks_append_lineFeed clean,
      chunks_append_lineFeed clean, inductionHypothesis, List.cons_append]

theorem length_chunks_of_closedText {text : List Char} (closed : ClosedText text) :
    (chunks text).length = text.count '\n' := by
  induction closed using ClosedText.cases_at_lineFeed with
  | empty => rfl
  | closed line others _ clean inductionHypothesis =>
    rw [chunks_append_lineFeed clean, List.length_cons, inductionHypothesis, List.count_append,
      List.count_cons_self, List.count_eq_zero.mpr clean, Nat.zero_add]

/-! ### Reading bytes from their front -/

theorem byteLines_of_not_mem {line : List UInt8} (clean : 10 ∉ line) (nonempty : line ≠ []) :
    byteLines line = [dropFinal 13 line] := by
  have unclosed : line.getLast? ≠ some 10 := fun last => clean (List.mem_of_getLast? last)
  rw [byteLines, if_neg (by simpa using nonempty), dropFinal_of_ne unclosed,
    List.splitOn_eq_singleton clean, List.map_singleton]

theorem dropFinal_append_cons {α : Type} [DecidableEq α] (final : α) (front : List α)
    {symbols : List α} (nonempty : symbols ≠ []) :
    dropFinal final (front ++ symbols) = front ++ dropFinal final symbols := by
  unfold dropFinal
  rw [List.getLast?_append_of_ne_nil front nonempty, List.dropLast_append_of_ne_nil nonempty]
  split <;> rfl

theorem splitOn_append_cons {α : Type} [DecidableEq α] {separator : α} {line : List α}
    (clean : separator ∉ line) (rest : List α) :
    (line ++ separator :: rest).splitOn separator = line :: rest.splitOn separator := by
  rw [List.splitOn_eq_splitOnP, List.splitOnP_append_cons line rest (by simp),
    ← List.splitOn_eq_splitOnP, ← List.splitOn_eq_splitOnP, List.splitOn_eq_singleton clean,
    List.singleton_append]

/-- Pieces that are each closed by a separator are what it cuts, and nothing stands behind the last
of them. -/
theorem splitOn_flatMap_append {α : Type} [DecidableEq α] {separator : α} {lines : List (List α)}
    (clean : ∀ line ∈ lines, separator ∉ line) :
    (lines.flatMap fun line => line ++ [separator]).splitOn separator = lines ++ [[]] := by
  induction lines with
  | nil => rfl
  | cons line rest inductionHypothesis =>
    rw [List.flatMap_cons, List.append_assoc, List.singleton_append,
      splitOn_append_cons (clean line List.mem_cons_self),
      inductionHypothesis fun other member => clean other (List.mem_cons_of_mem _ member),
      List.cons_append]

theorem byteLines_append_lineFeed {line : List UInt8} (clean : 10 ∉ line) (rest : List UInt8) :
    byteLines (line ++ 10 :: rest) = dropFinal 13 line :: byteLines rest := by
  rw [byteLines, if_neg (by simp)]
  cases rest with
  | nil =>
    rw [dropFinal_append_self, List.splitOn_eq_singleton clean]
    rfl
  | cons first others =>
    rw [List.append_cons, dropFinal_append_cons 10 _ (List.cons_ne_nil _ _), ← List.append_cons,
      splitOn_append_cons clean, List.map_cons, byteLines, if_neg (by simp)]

/-! ### Bytes in which lines are written -/

/-- What may close a line: a line feed, or a carriage return and a line feed. -/
def terminators : List (List UInt8) := [[10], [13, 10]]

/-- Bytes are written with lines when every line stands in them with a terminator of its own choice
behind it. The last line may have none if it is not empty. -/
inductive Written : List UInt8 → List (List UInt8) → Prop
  | nothing : Written [] []
  | unclosed {line : List UInt8} (nonempty : line ≠ []) : Written line [line]
  | closed (line : List UInt8) {terminator bytes : List UInt8} {lines : List (List UInt8)}
      (closing : terminator ∈ terminators) (rest : Written bytes lines) :
      Written (line ++ terminator ++ bytes) (line :: lines)

/-- A line can be told from its terminator when it has no line feed, and no carriage return at its
end. -/
def IsPlainLine (line : List UInt8) : Prop :=
  10 ∉ line ∧ line.getLast? ≠ some 13

instance : DecidablePred IsPlainLine :=
  fun line => inferInstanceAs (Decidable (10 ∉ line ∧ line.getLast? ≠ some 13))

/-- Bytes are cut into the lines with which they were written, whatever closes each of them. -/
theorem byteLines_of_written {bytes : List UInt8} {lines : List (List UInt8)}
    (written : Written bytes lines) (plain : ∀ line ∈ lines, IsPlainLine line) :
    byteLines bytes = lines := by
  induction written with
  | nothing => rfl
  | unclosed nonempty =>
    obtain ⟨clean, last⟩ := List.forall_mem_singleton.mp plain
    rw [byteLines_of_not_mem clean nonempty, dropFinal_of_ne last]
  | closed line closing rest inductionHypothesis =>
    obtain ⟨⟨clean, last⟩, others⟩ := List.forall_mem_cons.mp plain
    rw [terminators, List.mem_pair] at closing
    rcases closing with rfl | rfl
    · rw [List.append_assoc, List.singleton_append, byteLines_append_lineFeed clean,
        dropFinal_of_ne last, inductionHypothesis others]
    · have returned : 10 ∉ line ++ [13] := by simpa using clean
      rw [List.append_cons line, List.append_assoc, List.singleton_append,
        byteLines_append_lineFeed returned, dropFinal_append_self, inductionHypothesis others]

/-! ### The bytes of a text -/

theorem encode_nil : encode [] = [] := rfl

theorem encode_append (left right : List Char) :
    encode (left ++ right) = encode left ++ encode right :=
  List.flatMap_append

theorem encode_cons (character : Char) (rest : List Char) :
    encode (character :: rest) = String.utf8EncodeChar character ++ encode rest :=
  List.flatMap_cons

theorem encode_injective {left right : List Char} (same : encode left = encode right) :
    left = right := by
  have read := congrArg decode? same
  rw [decode?_encode, decode?_encode] at read
  exact Option.some_inj.mp read

/-- The byte that encodes a character below 128. -/
def plainByte (character : Char) : UInt8 := UInt8.ofNat character.toNat

theorem utf8EncodeChar_of_plain {character : Char} (plain : character.toNat < 128) :
    String.utf8EncodeChar character = [plainByte character] := by
  have bound : character.val.toNat ≤ 127 := Nat.le_of_lt_succ plain
  unfold String.utf8EncodeChar
  rw [if_pos bound]
  rfl

/-- The byte of a character below 128 stands in no other character's encoding. -/
theorem eq_of_plainByte_mem {character other : Char} (plain : character.toNat < 128)
    (member : plainByte character ∈ String.utf8EncodeChar other) : other = character := by
  have value (number : Nat) (bound : number < 256) : (UInt8.ofNat number).toNat = number := by
    rw [UInt8.toNat_ofNat', Nat.mod_eq_of_lt bound]
  have byteValue := value character.toNat (by omega)
  unfold String.utf8EncodeChar at member
  dsimp only at member
  split at member
  next single =>
    have same := congrArg UInt8.toNat (List.mem_singleton.mp member)
    rw [value _ (by omega), plainByte, byteValue] at same
    exact Char.ext (UInt32.toNat.inj same.symm)
  next =>
    -- Every byte of a longer encoding is at least 128.
    obtain ⟨number, high, bound, equal⟩ : ∃ number, 128 ≤ number ∧ number < 256 ∧
        plainByte character = UInt8.ofNat number := by
      split at member
      · simp only [List.mem_cons, List.not_mem_nil, or_false] at member
        rcases member with equal | equal <;> exact ⟨_, by omega, by omega, equal⟩
      · split at member
        · simp only [List.mem_cons, List.not_mem_nil, or_false] at member
          rcases member with equal | equal | equal <;> exact ⟨_, by omega, by omega, equal⟩
        · simp only [List.mem_cons, List.not_mem_nil, or_false] at member
          rcases member with equal | equal | equal | equal <;>
            exact ⟨_, by omega, by omega, equal⟩
    have same := congrArg UInt8.toNat equal
    rw [value _ bound, plainByte, byteValue] at same
    omega

theorem plainByte_mem_encode_iff {character : Char} (plain : character.toNat < 128)
    (text : List Char) : plainByte character ∈ encode text ↔ character ∈ text := by
  rw [encode, List.mem_flatMap]
  constructor
  · rintro ⟨other, member, inside⟩
    exact eq_of_plainByte_mem plain inside ▸ member
  · intro member
    refine ⟨character, member, ?_⟩
    rw [utf8EncodeChar_of_plain plain]
    exact List.mem_singleton_self _

/-- A character below 128 is dropped from the end of a text as its byte is from the bytes. -/
theorem dropFinal_encode {character : Char} (plain : character.toNat < 128) (text : List Char) :
    dropFinal (plainByte character) (encode text) = encode (dropFinal character text) := by
  rcases List.eq_nil_or_concat' text with rfl | ⟨front, last, rfl⟩
  · rfl
  · have encoded : encode (front ++ [last]) = encode front ++ String.utf8EncodeChar last := by
      rw [encode_append, encode_cons]
      exact congrArg (encode front ++ ·) (List.append_nil _)
    by_cases same : last = character
    · rw [same] at encoded ⊢
      rw [encoded, utf8EncodeChar_of_plain plain, dropFinal_append_self, dropFinal_append_self]
    · have other : (encode (front ++ [last])).getLast? ≠ some (plainByte character) := by
        obtain ⟨first, tail, split, -⟩ := utf8EncodeChar_split last
        rw [encoded, List.getLast?_append_of_ne_nil _ (by rw [split]; exact List.cons_ne_nil _ _)]
        exact fun final => same (eq_of_plainByte_mem plain (List.mem_of_getLast? final))
      rw [dropFinal_of_ne other, dropFinal_of_ne]
      rw [List.getLast?_concat]
      exact fun equal => same (Option.some_inj.mp equal)

/-! ### The lines of the bytes of a text -/

theorem byteLines_encode_of_not_mem {line : List Char} (clean : '\n' ∉ line)
    (nonempty : line ≠ []) : byteLines (encode line) = [encode (dropFinal '\r' line)] := by
  have cleanBytes : 10 ∉ encode line := fun inside =>
    clean ((@plainByte_mem_encode_iff '\n' (by decide) line).mp inside)
  have nonemptyBytes : encode line ≠ [] := fun nothing =>
    nonempty (encode_injective (nothing.trans encode_nil.symm))
  rw [byteLines_of_not_mem cleanBytes nonemptyBytes]
  exact congrArg (fun bytes => [bytes]) (@dropFinal_encode '\r' (by decide) line)

theorem byteLines_encode_append_lineFeed {line : List Char} (clean : '\n' ∉ line)
    (rest : List Char) : byteLines (encode (line ++ '\n' :: rest)) =
      encode (dropFinal '\r' line) :: byteLines (encode rest) := by
  have cleanBytes : 10 ∉ encode line := fun inside =>
    clean ((@plainByte_mem_encode_iff '\n' (by decide) line).mp inside)
  have encoded : encode (line ++ '\n' :: rest) = encode line ++ 10 :: encode rest :=
    encode_append line ('\n' :: rest)
  rw [encoded, byteLines_append_lineFeed cleanBytes]
  exact congrArg (· :: _) (@dropFinal_encode '\r' (by decide) line)

theorem dropFinal_eq_self_iff {α : Type} [DecidableEq α] (final : α) (symbols : List α) :
    dropFinal final symbols = symbols ↔ symbols.getLast? ≠ some final := by
  constructor
  · rintro same last
    rw [dropFinal, if_pos last] at same
    have shorter := congrArg List.length same
    have positive := List.length_pos_of_mem (List.mem_of_getLast? last)
    rw [List.length_dropLast] at shorter
    omega
  · exact dropFinal_of_ne

/-- Text and bytes are cut into the same lines exactly when the text does not end in a carriage
return. -/
theorem byteLines_encode_eq_iff (text : List Char) :
    byteLines (encode text) = (lines text).map encode ↔ text.getLast? ≠ some '\r' := by
  induction text using cases_at_separator '\n' with
  | empty => simp [byteLines, encode, lines, chunks]
  | unclosed line clean nonempty =>
    rw [byteLines_encode_of_not_mem clean nonempty, lines_of_not_mem clean nonempty,
      ← dropFinal_eq_self_iff]
    constructor
    · intro same
      exact encode_injective (List.cons.inj same).1
    · intro same
      rw [same, List.map_singleton]
  | closed line rest clean inductionHypothesis =>
    rw [byteLines_encode_append_lineFeed clean, lines_append_lineFeed clean, List.map_cons,
      List.cons_inj_right, inductionHypothesis]
    cases rest with
    | nil => simp
    | cons first others =>
      rw [List.append_cons, List.getLast?_append_of_ne_nil _ (List.cons_ne_nil _ _)]

end Golden.Text
