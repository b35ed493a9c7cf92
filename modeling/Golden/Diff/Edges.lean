/-
This file takes the lines off two texts that they start with or end with together.
What is left in the middle is all that a difference has to be looked for in.
-/

import Golden.Diff.Script

namespace Golden.Diff

variable {α : Type} [DecidableEq α]

/-- The lines that two texts start with together. -/
def commonStart : List α → List α → List α
  | old :: before, new :: after => if old = new then old :: commonStart before after else []
  | _, _ => []

/-- The lines that two texts end with together. -/
def commonEnd (before after : List α) : List α :=
  (commonStart before.reverse after.reverse).reverse

theorem eq_commonStart_append (before after : List α) :
    before = commonStart before after ++ before.drop (commonStart before after).length ∧
      after = commonStart before after ++ after.drop (commonStart before after).length := by
  fun_induction commonStart before after with
  | case1 before new after inductionHypothesis =>
    obtain ⟨left, right⟩ := inductionHypothesis
    constructor
    · simpa using left
    · simpa using right
  | case2 old before new after different => simp
  | case3 before after unpaired => simp

/-- What two texts have between the lines that they start and end with together. -/
structure Middle (α : Type) where
  start : List α
  before : List α
  after : List α
  finish : List α

/-- Two texts, with the lines that they start with together taken off first, and then those that
they end with together. -/
def Middle.of (before after : List α) : Middle α :=
  let start := commonStart before after
  let before' := before.drop start.length
  let after' := after.drop start.length
  let finish := commonEnd before' after'
  ⟨start, before'.take (before'.length - finish.length),
    after'.take (after'.length - finish.length), finish⟩

/-- The script that keeps what is common at the edges. -/
def Middle.around (middle : Middle α) (script : Script α) : Script α :=
  Script.keepAll middle.start ++ script ++ Script.keepAll middle.finish

theorem commonEnd_suffix (before after : List α) :
    before = before.take (before.length - (commonEnd before after).length) ++
        commonEnd before after ∧
      after = after.take (after.length - (commonEnd before after).length) ++
        commonEnd before after := by
  have parts := eq_commonStart_append before.reverse after.reverse
  constructor
  · have part := congrArg List.reverse parts.1
    rw [List.reverse_append, List.drop_reverse, List.reverse_reverse, List.reverse_reverse] at part
    simpa [commonEnd] using part
  · have part := congrArg List.reverse parts.2
    rw [List.reverse_append, List.drop_reverse, List.reverse_reverse, List.reverse_reverse] at part
    simpa [commonEnd] using part

/-- What was taken off at the edges and what is left in the middle make up the two texts. -/
theorem Middle.append (before after : List α) :
    (Middle.of before after).start ++ (Middle.of before after).before ++
        (Middle.of before after).finish = before ∧
      (Middle.of before after).start ++ (Middle.of before after).after ++
        (Middle.of before after).finish = after := by
  have starts := eq_commonStart_append before after
  have ends := commonEnd_suffix (before.drop (commonStart before after).length)
    (after.drop (commonStart before after).length)
  rw [List.append_assoc, List.append_assoc]
  exact ⟨(congrArg _ ends.1.symm).trans starts.1.symm, (congrArg _ ends.2.symm).trans starts.2.symm⟩

/-- A difference of what is left in the middle is a difference of the two texts once the edges are
kept around it. -/
theorem Middle.joins_around {before after : List α} {script : Script α}
    (joins : script.Joins (Middle.of before after).before (Middle.of before after).after) :
    ((Middle.of before after).around script).Joins before after := by
  have together := ((Script.joins_keepAll (Middle.of before after).start).append joins).append
    (Script.joins_keepAll (Middle.of before after).finish)
  rwa [(Middle.append before after).1, (Middle.append before after).2] at together

end Golden.Diff
