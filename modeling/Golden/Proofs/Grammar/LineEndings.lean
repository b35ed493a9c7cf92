/-
This file proves that the style in which lines are ended does not matter. Before each
line feed of a source any number of carriage returns may be put in, another number on
every line. They become part of the end of the line and not of its text, so every line
says what it said before: the same rules are read, and a fault is found on the same line
with the same length. Only its offset grows, by the carriage returns on the lines before.

Carriage returns elsewhere are not put in: in the middle of a line they would belong to
its text.
-/

import Golden.Grammar.Expansion
import Golden.Proofs.Grammar.FaultPlace
import Mathlib.Algebra.BigOperators.Group.Finset.Basic

namespace Golden.Grammar

open Golden.Text

/-! ### Carriage returns before line feeds -/

/-- A text with carriage returns put in before every line feed, as many as are said for the line
that the line feed ends. The first line has the number zero. -/
def withReturns (returns : Nat → Nat) : List Char → List Char
  | [] => []
  | character :: rest =>
    if character = '\n' then
      List.replicate (returns 0) '\r' ++
        '\n' :: withReturns (fun number => returns (number + 1)) rest
    else character :: withReturns returns rest

theorem withReturns_of_not_mem {line : List Char} (clean : '\n' ∉ line) (returns : Nat → Nat) :
    withReturns returns line = line := by
  induction line with
  | nil => rfl
  | cons character rest inductionHypothesis =>
    obtain ⟨other, cleanRest⟩ := not_or.mp (List.mem_cons.not.mp clean)
    rw [withReturns, if_neg (Ne.symm other), inductionHypothesis cleanRest]

theorem withReturns_append_lineFeed {line : List Char} (clean : '\n' ∉ line)
    (returns : Nat → Nat) (rest : List Char) :
    withReturns returns (line ++ '\n' :: rest) =
      line ++ List.replicate (returns 0) '\r' ++
        '\n' :: withReturns (fun number => returns (number + 1)) rest := by
  induction line with
  | nil => rw [List.nil_append, withReturns, if_pos rfl, List.nil_append]
  | cons character others inductionHypothesis =>
    obtain ⟨other, cleanOthers⟩ := not_or.mp (List.mem_cons.not.mp clean)
    rw [List.cons_append, withReturns, if_neg (Ne.symm other), inductionHypothesis cleanOthers]
    rfl

/-! ### What a line says -/

/-- Carriage returns end lines. -/
theorem isTerminator_of_mem_replicate {count : Nat} {character : Char}
    (member : character ∈ List.replicate count '\r') : isTerminator character = true := by
  rw [List.eq_of_mem_replicate member]
  rfl

theorem lineFeed_not_mem_append_replicate {line : List Char} (clean : '\n' ∉ line) (count : Nat) :
    '\n' ∉ line ++ List.replicate count '\r' := by
  rw [List.mem_append, not_or]
  refine ⟨clean, fun inside => ?_⟩
  exact absurd (List.eq_of_mem_replicate inside) (by decide)

theorem byteLength_append_replicate (line : List Char) (count : Nat) :
    byteLength (line ++ List.replicate count '\r') = byteLength line + count := by
  induction count with
  | zero => rw [List.replicate_zero, List.append_nil, Nat.add_zero]
  | succ count inductionHypothesis =>
    rw [List.replicate_succ', ← List.append_assoc, byteLength_append, inductionHypothesis]
    rfl

/-- What ends a line does not belong to its rule. -/
theorem ruleOf?_append {text ending : List Char}
    (ends : ∀ character ∈ ending, isTerminator character = true) :
    ruleOf? (text ++ ending) = ruleOf? text := by
  have same : dropTrailing isTerminator (text ++ ending) = dropTrailing isTerminator text :=
    textOf_append ends
  rw [ruleOf?, ruleOf?, same]

/-! ### What a source says -/

/-- A source states the rule of its first line, and then those of the lines behind it. -/
theorem rulesOf_append_lineFeed {line : List Char} (clean : '\n' ∉ line) (rest : List Char) :
    rulesOf (line ++ '\n' :: rest) = (ruleOf? line).toList ++ rulesOf rest := by
  have closed : ruleOf? (line ++ ['\n']) = ruleOf? line :=
    ruleOf?_append (List.forall_mem_singleton.mpr rfl)
  rw [rulesOf, chunks_append_lineFeed clean, List.filterMap_cons, closed]
  cases ruleOf? line <;> rfl

/-- The same rules are stated. -/
theorem rulesOf_withReturns (returns : Nat → Nat) (source : List Char) :
    rulesOf (withReturns returns source) = rulesOf source := by
  induction source using cases_at_separator '\n' generalizing returns with
  | empty => rfl
  | unclosed line clean nonempty => rw [withReturns_of_not_mem clean]
  | closed line rest clean inductionHypothesis =>
    rw [withReturns_append_lineFeed clean,
      rulesOf_append_lineFeed (lineFeed_not_mem_append_replicate clean _),
      rulesOf_append_lineFeed clean, inductionHypothesis,
      ruleOf?_append fun _ => isTerminator_of_mem_replicate]

/-- The place of a fault when carriage returns are put in on the lines before it. -/
def MissingArrow.behindReturns (returns : Nat → Nat) (place : MissingArrow) : MissingArrow :=
  ⟨place.line, place.offset + ∑ number ∈ Finset.range (place.line - 1), returns number,
    place.length⟩

/-- The carriage returns on the lines before a fault are those on the first line and those on the
others. -/
theorem MissingArrow.behind_behindReturns {place : MissingArrow} (numbered : 0 < place.line)
    (returns : Nat → Nat) (bytes : Nat) :
    (place.behindReturns fun number => returns (number + 1)).behind 1 (bytes + returns 0) =
      (place.behind 1 bytes).behindReturns returns := by
  have first : ∑ number ∈ Finset.range place.line, returns number =
      ∑ number ∈ Finset.range (place.line - 1), returns (number + 1) + returns 0 := by
    rw [← Finset.sum_range_succ', Nat.sub_add_cancel numbered]
  have offset : place.offset + ∑ number ∈ Finset.range (place.line - 1), returns (number + 1) +
      (bytes + returns 0) =
        place.offset + bytes + ∑ number ∈ Finset.range place.line, returns number := by
    rw [first]
    omega
  exact congrArg (fun offset => MissingArrow.mk (place.line + 1) offset place.length) offset

/-- The fault is found on the same line, behind the carriage returns on the lines before. -/
theorem faultOf?_withReturns (returns : Nat → Nat) (source : List Char) :
    faultOf? (withReturns returns source) =
      (faultOf? source).map (MissingArrow.behindReturns returns) := by
  induction source using cases_at_separator '\n' generalizing returns with
  | empty => rfl
  | unclosed line clean nonempty =>
    rw [withReturns_of_not_mem clean, faultOf?_of_not_mem clean nonempty]
    by_cases lacks : LacksArrow line
    · rw [if_pos lacks]
      rfl
    · rw [if_neg lacks]
      rfl
  | closed line rest clean inductionHypothesis =>
    have ends : ∀ character ∈ List.replicate (returns 0) '\r', isTerminator character = true :=
      fun _ => isTerminator_of_mem_replicate
    have longer : byteLength (line ++ List.replicate (returns 0) '\r' ++ ['\n']) =
        byteLength (line ++ ['\n']) + returns 0 := by
      rw [byteLength_append, byteLength_append_replicate, byteLength_append, Nat.add_right_comm]
    rw [withReturns_append_lineFeed clean,
      faultOf?_append_lineFeed (lineFeed_not_mem_append_replicate clean _),
      faultOf?_append_lineFeed clean, inductionHypothesis, textOf_append ends, longer]
    simp only [lacksArrow_append_iff ends]
    by_cases lacks : LacksArrow line
    · rw [if_pos lacks, if_pos lacks]
      rfl
    · rw [if_neg lacks, if_neg lacks]
      cases found : faultOf? rest with
      | none => rfl
      | some place =>
        obtain ⟨_, _, _, _, points⟩ := exists_pointsAt_of_faultOf?_eq_some found
        have numbered : 0 < place.line := points.line ▸ Nat.succ_pos _
        exact congrArg some (MissingArrow.behind_behindReturns numbered returns _)

/-- What is read of a source is read whatever number of carriage returns stands before each line
feed, but for the offset of a fault. -/
theorem parse_withReturns (returns : Nat → Nat) (source : String) :
    parse (String.ofList (withReturns returns source.toList)) =
      (parse source).mapError (MissingArrow.behindReturns returns) := by
  rw [parse_eq, parse_eq, String.toList_ofList, faultOf?_withReturns, rulesOf_withReturns]
  cases faultOf? source.toList <;> rfl

theorem MissingArrow.behindReturns_injective (returns : Nat → Nat) :
    Function.Injective (MissingArrow.behindReturns returns) := by
  rintro ⟨line, offset, length⟩ ⟨otherLine, otherOffset, otherLength⟩ same
  obtain ⟨rfl, moved, rfl⟩ := mk.inj same
  exact congrArg (fun offset => mk line offset length) (Nat.add_right_cancel moved)

/-- Carriage returns before the line feeds of a source, any number on each line, do not change the
grammar that is read, and so no expansion either. A source that cannot be read is not read with them
either: the fault is on the same line and has the same length, and its offset is greater by the
carriage returns that were put in on the lines before it. -/
theorem line_endings_do_not_matter (source : String) (returns : Nat → Nat) :
    let other := String.ofList (withReturns returns source.toList)
    (∀ grammar, parse other = .ok grammar ↔ parse source = .ok grammar) ∧
    (∀ symbol, (parse other).toOption.map (fun grammar => grammar.expand symbol) =
      (parse source).toOption.map fun grammar => grammar.expand symbol) ∧
    ∀ place, parse source = .error place ↔
      parse other = .error
        ⟨place.line, place.offset + ∑ number ∈ Finset.range (place.line - 1), returns number,
          place.length⟩ := by
  intro other
  have read : parse other = (parse source).mapError (MissingArrow.behindReturns returns) :=
    parse_withReturns returns source
  rw [read]
  cases parse source with
  | ok grammar => exact ⟨fun _ => .rfl, fun _ => rfl, fun _ => ⟨nofun, nofun⟩⟩
  | error place =>
    refine ⟨fun _ => ⟨nofun, nofun⟩, fun _ => rfl, fun reported => ?_⟩
    constructor
    · rintro ⟨⟩
      rfl
    · intro moved
      rw [MissingArrow.behindReturns_injective returns (Except.error.inj moved)]

/-- Three carriage returns in front of a fault move it by three bytes, and one behind it by none. -/
example :
    parse "S->a\nA->b\nB = c\n" = .error ⟨3, 10, 5⟩ ∧
    parse "S->a\r\r\nA->b\r\nB = c\r\n" = .error ⟨3, 13, 5⟩ :=
  ⟨rfl, rfl⟩

end Golden.Grammar
