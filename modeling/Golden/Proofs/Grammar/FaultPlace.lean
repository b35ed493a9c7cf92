/-
This file says where the fault of a source is reported to be. A source cannot be read
exactly when one of its lines is neither blank nor has an arrow, and the report is then
about the first such line. It tells the number of the line, and where the text of the
line begins in the bytes of the source and how long it is.

Lines are counted and their bytes summed up as they were cut, with their terminators,
but the length is that of the text alone. That the three numbers belong together is
shown on the source itself, cut into what stands before the line, its text, the carriage
returns that end it, and the rest from its line feed on. The induction is on the lines:
a line without a fault goes to the front of the lines before the one that is reported.
-/

import Golden.Proofs.Grammar.Canonical
import Mathlib.Data.String.Basic

namespace Golden.Grammar

open Golden.Text

/-! ### Lines without an arrow -/

/-- A line lacks an arrow when it should have one: something is left of it when it is trimmed. -/
def LacksArrow (line : List Char) : Prop :=
  trim line ≠ [] ∧ ¬ arrow <:+: line

instance : DecidablePred LacksArrow :=
  fun line => inferInstanceAs (Decidable (trim line ≠ [] ∧ ¬ arrow <:+: line))

theorem readLine_eq_malformed_iff (line : List Char) :
    readLine line = .malformed ↔ LacksArrow line := by
  unfold readLine LacksArrow
  rw [← cutAtArrow?_eq_none_iff, ne_eq, ← List.isEmpty_iff]
  by_cases blank : (trim line).isEmpty = true
  · simp [blank]
  · cases cutAtArrow? line <;> simp [blank]

theorem isBlank_of_isTerminator {character : Char} (ends : isTerminator character = true) :
    isBlank character = true := by
  simp only [isTerminator, Bool.or_eq_true, decide_eq_true_eq] at ends
  rcases ends with rfl | rfl <;> decide

/-- What ends a line is no part of an arrow. -/
theorem not_mem_arrow_of_isTerminator {character : Char} (ends : isTerminator character = true) :
    character ∉ arrow := by
  simp only [isTerminator, Bool.or_eq_true, decide_eq_true_eq] at ends
  rcases ends with rfl | rfl <;> decide

/-- Symbols of which a part has none lie outside every occurrence of the part. -/
theorem isInfix_append_iff_of_disjoint {part front back : List Char} (nonempty : part ≠ [])
    (apart : ∀ symbol ∈ back, symbol ∉ part) : part <:+: front ++ back ↔ part <:+: front := by
  rw [List.infix_append_iff]
  refine ⟨?_, .inl⟩
  rintro (inside | later | ⟨left, right, split, ends, starts⟩)
  · exact inside
  · obtain ⟨first, rest, rfl⟩ := List.exists_cons_of_ne_nil nonempty
    exact absurd List.mem_cons_self (apart first (later.subset List.mem_cons_self))
  · cases right with
    | nil =>
      rw [List.append_nil] at split
      exact split ▸ ends.isInfix
    | cons first rest =>
      have member : first ∈ part := split ▸ List.mem_append_right left List.mem_cons_self
      exact absurd member (apart first (starts.subset List.mem_cons_self))

/-- A line lacks an arrow with or without what ends it. -/
theorem lacksArrow_append_iff {text ending : List Char}
    (ends : ∀ character ∈ ending, isTerminator character = true) :
    LacksArrow (text ++ ending) ↔ LacksArrow text := by
  unfold LacksArrow
  rw [ne_eq, ne_eq, trim_eq_nil_iff, trim_eq_nil_iff, isInfix_append_iff_of_disjoint (by decide)
    fun character member => not_mem_arrow_of_isTerminator (ends character member),
    List.forall_mem_append, and_iff_left fun character member =>
      isBlank_of_isTerminator (ends character member)]

/-! ### The text of a line -/

/-- The text of a line: the line without what ends it. -/
def textOf (line : List Char) : List Char :=
  dropTrailing isTerminator line

/-- A line consists of its text and the carriage returns at its end. -/
theorem exists_returns {line : List Char} (clean : '\n' ∉ line) :
    ∃ returns, line = textOf line ++ returns ∧ (∀ character ∈ returns, character = '\r') ∧
      (textOf line).getLast? ≠ some '\r' := by
  have split := List.rdropWhile_append_rtakeWhile (p := isTerminator) (l := line)
  rw [textOf, dropTrailing_eq_rdropWhile]
  refine ⟨line.rtakeWhile isTerminator, split.symm, fun character member => ?_, fun last => ?_⟩
  · have ends := List.mem_rtakeWhile_imp member
    rw [isTerminator, Bool.or_eq_true, decide_eq_true_eq, decide_eq_true_eq] at ends
    rcases ends with rfl | rfl
    · exact absurd (split ▸ List.mem_append_right _ member) clean
    · rfl
  · have nonempty : line.rdropWhile isTerminator ≠ [] := by
      intro nothing
      rw [nothing] at last
      cases last
    have kept := List.rdropWhile_last_not isTerminator line nonempty
    rw [List.getLast?_eq_some_getLast nonempty] at last
    rw [Option.some.inj last] at kept
    exact kept (by decide)

/-- A line lacks an arrow exactly when its text does. -/
theorem lacksArrow_textOf_iff (line : List Char) : LacksArrow (textOf line) ↔ LacksArrow line := by
  have split := List.rdropWhile_append_rtakeWhile (p := isTerminator) (l := line)
  have ends : ∀ character ∈ line.rtakeWhile isTerminator, isTerminator character = true :=
    fun character => List.mem_rtakeWhile_imp
  rw [textOf, dropTrailing_eq_rdropWhile, ← lacksArrow_append_iff ends, split]

/-- What ends a line is no part of its text. -/
theorem textOf_append {text ending : List Char}
    (ends : ∀ character ∈ ending, isTerminator character = true) :
    textOf (text ++ ending) = textOf text := by
  induction ending using List.reverseRecOn with
  | nil => rw [List.append_nil]
  | append_singleton front last inductionHypothesis =>
    obtain ⟨endsFront, endsLast⟩ := List.forall_mem_append.mp ends
    rw [← inductionHypothesis endsFront, ← List.append_assoc, textOf, textOf,
      dropTrailing_eq_rdropWhile, dropTrailing_eq_rdropWhile]
    exact List.rdropWhile_concat_pos isTerminator _ last (endsLast last (List.mem_singleton_self _))

/-! ### The fault of a source, line by line -/

theorem firstFault?_cons (number offset : Nat) (chunk : List Char) (rest : List (List Char)) :
    firstFault? number offset (chunk :: rest) =
      if LacksArrow chunk then some ⟨number, offset, byteLength (textOf chunk)⟩
      else firstFault? (number + 1) (offset + byteLength chunk) rest := by
  have malformed : readLine (dropTrailing isTerminator chunk) = .malformed ↔ LacksArrow chunk :=
    (readLine_eq_malformed_iff _).trans (lacksArrow_textOf_iff chunk)
  rw [firstFault?]
  simp only [malformed]
  rfl

/-- The fault of a source that is one open line. -/
theorem faultOf?_of_not_mem {line : List Char} (clean : '\n' ∉ line) (nonempty : line ≠ []) :
    faultOf? line =
      if LacksArrow line then some ⟨1, 0, byteLength (textOf line)⟩ else none := by
  rw [faultOf?, chunks_of_not_mem clean nonempty, firstFault?_cons, firstFault?]

/-- The fault of a source is in its first line, or else in the lines behind it. -/
theorem faultOf?_append_lineFeed {line : List Char} (clean : '\n' ∉ line) (rest : List Char) :
    faultOf? (line ++ '\n' :: rest) =
      if LacksArrow line then some ⟨1, 0, byteLength (textOf line)⟩
      else (faultOf? rest).map (MissingArrow.behind 1 (byteLength (line ++ ['\n']))) := by
  have ends : ∀ character ∈ ['\n'], isTerminator character = true :=
    List.forall_mem_singleton.mpr rfl
  rw [faultOf?, faultOf?, chunks_append_lineFeed clean, firstFault?_cons, firstFault?_add,
    textOf_append ends]
  simp only [lacksArrow_append_iff ends]

/-- A source has a fault exactly when one of its lines lacks an arrow. -/
theorem exists_faultOf?_iff (source : List Char) :
    (∃ place, faultOf? source = some place) ↔ ∃ line ∈ source.splitOn '\n', LacksArrow line := by
  induction source using cases_at_separator '\n' with
  | empty => exact iff_of_false (by rintro ⟨place, ⟨⟩⟩) (by decide)
  | unclosed line clean nonempty =>
    rw [faultOf?_of_not_mem clean nonempty, List.splitOn_eq_singleton clean]
    by_cases lacks : LacksArrow line <;> simp [lacks]
  | closed line rest clean inductionHypothesis =>
    rw [faultOf?_append_lineFeed clean, splitOn_append_cons clean, List.exists_mem_cons_iff,
      ← inductionHypothesis]
    by_cases lacks : LacksArrow line <;> simp [lacks]

/-! ### The place of the fault -/

/-- A source is cut at the line that a place is about: into what stands before the line, its text,
the carriage returns behind the text, and the rest from the line feed on. -/
structure MissingArrow.PointsAt (place : MissingArrow)
    (source front text returns rest : List Char) : Prop where
  split : source = front ++ text ++ returns ++ rest
  /-- The line begins where the source does, or right behind a line feed. -/
  begins : ClosedText front
  /-- The line ends where the source does, or right before a line feed. -/
  ends : rest = [] ∨ rest.head? = some '\n'
  /-- Nothing but carriage returns is left out at the end of the line, -/
  returned : ∀ character ∈ returns, character = '\r'
  /-- and all of them are. -/
  trimmed : text.getLast? ≠ some '\r'
  onOneLine : '\n' ∉ text
  lacks : LacksArrow text
  first : ∀ earlier ∈ front.splitOn '\n', ¬ LacksArrow earlier
  line : place.line = front.count '\n' + 1
  offset : place.offset = byteLength front
  length : place.length = byteLength text

/-- The place of a fault in the first line. -/
theorem exists_pointsAt_first {line rest : List Char} (clean : '\n' ∉ line)
    (lacks : LacksArrow line) (ends : rest = [] ∨ rest.head? = some '\n') :
    ∃ returns, MissingArrow.PointsAt ⟨1, 0, byteLength (textOf line)⟩ (line ++ rest) []
      (textOf line) returns rest := by
  obtain ⟨returns, split, returned, trimmed⟩ := exists_returns clean
  have front : textOf line <+: line := dropTrailing_isPrefix isTerminator line
  exact ⟨returns,
    { split := by rw [List.nil_append, ← split]
      begins := .inl rfl
      ends := ends
      returned := returned
      trimmed := trimmed
      onOneLine := fun inside => clean (front.subset inside)
      lacks := (lacksArrow_textOf_iff line).mpr lacks
      first := by decide
      line := rfl
      offset := rfl
      length := rfl }⟩

/-- The place of a fault when one more line without a fault stands before the others. -/
theorem MissingArrow.PointsAt.behind {place : MissingArrow}
    {source front text returns rest line : List Char}
    (points : place.PointsAt source front text returns rest) (clean : '\n' ∉ line)
    (sound : ¬ LacksArrow line) :
    (place.behind 1 (byteLength (line ++ ['\n']))).PointsAt (line ++ '\n' :: source)
      (line ++ '\n' :: front) text returns rest :=
  { points with
    split := by
      rw [points.split]
      simp
    begins := (closedText_append_lineFeed_iff line front).mpr points.begins
    first := by
      rw [splitOn_append_cons clean]
      exact List.forall_mem_cons.mpr ⟨sound, points.first⟩
    line := by
      rw [MissingArrow.behind, points.line, List.count_append, List.count_cons_self,
        List.count_eq_zero.mpr clean, Nat.zero_add]
    offset := by
      rw [List.append_cons line '\n' front, byteLength_append _ front, ← points.offset]
      exact Nat.add_comm _ _ }

/-- The fault of a source is placed at its first line that lacks an arrow. -/
theorem exists_pointsAt_of_faultOf?_eq_some {source : List Char} {place : MissingArrow}
    (fault : faultOf? source = some place) :
    ∃ front text returns rest, place.PointsAt source front text returns rest := by
  induction source using cases_at_separator '\n' generalizing place with
  | empty => cases fault
  | unclosed line clean nonempty =>
    rw [faultOf?_of_not_mem clean nonempty] at fault
    split at fault
    next lacks =>
      obtain rfl := Option.some.inj fault
      obtain ⟨returns, points⟩ := exists_pointsAt_first clean lacks (.inl rfl)
      rw [List.append_nil] at points
      exact ⟨[], _, returns, [], points⟩
    next => cases fault
  | closed line rest clean inductionHypothesis =>
    rw [faultOf?_append_lineFeed clean] at fault
    split at fault
    next lacks =>
      obtain rfl := Option.some.inj fault
      obtain ⟨returns, points⟩ := exists_pointsAt_first clean lacks (.inr List.head?_cons)
      exact ⟨[], _, returns, _, points⟩
    next sound =>
      obtain ⟨later, found, rfl⟩ := Option.map_eq_some_iff.mp fault
      obtain ⟨front, text, returns, others, points⟩ := inductionHypothesis found
      exact ⟨_, text, returns, others, points.behind clean sound⟩

/-! ### The marked part of a source -/

theorem byteLength_eq_utf8Len (text : List Char) : byteLength text = String.utf8Len text := by
  induction text with
  | nil => rfl
  | cons character rest inductionHypothesis =>
    rw [byteLength, String.utf8Len_cons, inductionHypothesis, Nat.add_comm]

/-- The number of bytes in the front of a text is the number of a character boundary. -/
theorem isValid_byteLength {source : String} {front rest : List Char}
    (split : source.toList = front ++ rest) :
    String.Pos.Raw.IsValid source ⟨byteLength front⟩ := by
  rw [String.Pos.Raw.isValid_iff_exists_append]
  refine ⟨String.ofList front, String.ofList rest, ?_, ?_⟩
  · rw [← String.ofList_append, ← split, String.ofList_toList]
  · rw [byteLength_eq_utf8Len, String.rawEndPos, String.utf8ByteSize_ofList]

/-- The bytes between two parts of a text are those of the part between them. -/
theorem extract_byteLength {source : String} {front text rest : List Char}
    (split : source.toList = front ++ text ++ rest) :
    String.Pos.Raw.extract source ⟨byteLength front⟩ ⟨byteLength front + byteLength text⟩ =
      String.ofList text := by
  rw [← String.ofList_toList (s := source), split, byteLength_eq_utf8Len, byteLength_eq_utf8Len]
  exact String.extract_of_valid front text rest

/-- The fault of a source is its first line that is neither blank nor has an arrow; a source
without such a line can be read. What is reported is the place of this line. Its number is one more
than that of the line feeds before the offset, the offset is that of its first byte, and from there
its text reaches as far as the length says: the whole line but for its terminator. Both ends lie
between characters and within the source. -/
theorem fault_is_first_line_without_arrow (source : String) :
    ((∃ place, parse source = .error place) ↔
      ∃ line ∈ source.toList.splitOn '\n', LacksArrow line) ∧
    ∀ place, parse source = .error place →
      (∃ front text returns rest,
        place.PointsAt source.toList front text returns rest ∧
        String.Pos.Raw.extract source 0 ⟨place.offset⟩ = String.ofList front ∧
        String.Pos.Raw.extract source ⟨place.offset⟩ ⟨place.offset + place.length⟩ =
          String.ofList text) ∧
      place.offset + place.length ≤ source.utf8ByteSize ∧
      String.Pos.Raw.IsValid source ⟨place.offset⟩ ∧
      String.Pos.Raw.IsValid source ⟨place.offset + place.length⟩ := by
  constructor
  · rw [← exists_faultOf?_iff]
    exact exists_congr fun place => parse_eq_error_iff source place
  · intro place failed
    obtain ⟨front, text, returns, rest, points⟩ :=
      exists_pointsAt_of_faultOf?_eq_some ((parse_eq_error_iff source place).mp failed)
    have begins : source.toList = [] ++ front ++ (text ++ returns ++ rest) := by
      rw [points.split]
      simp
    have marked : source.toList = front ++ text ++ (returns ++ rest) := by
      rw [points.split]
      simp
    have last := isValid_byteLength marked
    rw [byteLength_append] at last
    rw [points.offset, points.length]
    refine ⟨⟨front, text, returns, rest, points, ?_, extract_byteLength marked⟩, last.le_rawEndPos,
      isValid_byteLength begins, last⟩
    have before := extract_byteLength begins
    rw [show byteLength [] = 0 from rfl, Nat.zero_add] at before
    exact before

/-- A rule in characters of several bytes, a line with a blank of three bytes, and two lines without
an arrow. -/
def faultySource : String := "é->ü\r\n\u3000\nß = x\r\r\nA\nB->b"

/-- The first line without an arrow is marked from behind the blank line on, without the carriage
returns at its end. -/
theorem fault_behind_blank_line :
    parse faultySource = .error ⟨3, 12, 6⟩ ∧
    ['ß', ' ', '=', ' ', 'x', '\r', '\r'] ∈ faultySource.toList.splitOn '\n' ∧
    LacksArrow ['ß', ' ', '=', ' ', 'x', '\r', '\r'] ∧
    String.Pos.Raw.extract faultySource ⟨12⟩ ⟨18⟩ = "ß = x" ∧
    String.Pos.Raw.IsValid faultySource ⟨12⟩ ∧ String.Pos.Raw.IsValid faultySource ⟨18⟩ := by
  have failed : parse faultySource = .error ⟨3, 12, 6⟩ :=
    (parse_eq_error_iff _ _).mpr (by decide +kernel)
  obtain ⟨-, -, first, last⟩ := (fault_is_first_line_without_arrow faultySource).2 _ failed
  exact ⟨failed, by decide +kernel, by decide, by decide +kernel, first, last⟩

end Golden.Grammar
