/-
This file introduces edit scripts. A script lists the lines of two texts together:
each line is kept, or removed from the first text, or added to the second. It can
be read back as either text, and it is a difference of two texts when it reads back
as both. A script can also be put together from marks that say of each line of
either text whether it changed; lines without a mark are kept in pairs, and only
when the two of a pair are equal, so that whatever the marks are the script is a
difference of the two texts.
-/

namespace Golden.Diff

/-- One line of two texts that are listed together. -/
inductive Edit (α : Type)
  | keep (line : α)
  | remove (line : α)
  | add (line : α)
deriving DecidableEq, Repr

namespace Edit

variable {α : Type}

/-- The line, as a line of the first text. -/
def source? : Edit α → Option α
  | .keep line | .remove line => some line
  | .add _ => none

/-- The line, as a line of the second text. -/
def target? : Edit α → Option α
  | .keep line | .add line => some line
  | .remove _ => none

end Edit

/-- Two texts, listed together line by line. -/
abbrev Script (α : Type) := List (Edit α)

namespace Script

variable {α : Type}

/-- The first text of a script. -/
def source (script : Script α) : List α :=
  script.filterMap Edit.source?

/-- The second text of a script. -/
def target (script : Script α) : List α :=
  script.filterMap Edit.target?

/-- The script that keeps every line. -/
def keepAll (lines : List α) : Script α :=
  lines.map .keep

/-- The script that removes the lines of one text and adds those of the other. -/
def replace (removed added : List α) : Script α :=
  removed.map .remove ++ added.map .add

/-- A script is a difference of two texts when it reads back as both. -/
def Joins (script : Script α) (before after : List α) : Prop :=
  script.source = before ∧ script.target = after

theorem joins_keepAll (lines : List α) : (keepAll lines).Joins lines lines := by
  constructor
  · induction lines with
    | nil => rfl
    | cons line rest inductionHypothesis =>
      simp_all [source, keepAll, Edit.source?]
  · induction lines with
    | nil => rfl
    | cons line rest inductionHypothesis =>
      simp_all [target, keepAll, Edit.target?]

theorem joins_replace (removed added : List α) : (replace removed added).Joins removed added := by
  constructor
  · simp [source, replace, Edit.source?, List.filterMap_map, Function.comp_def]
  · simp [target, replace, Edit.target?, List.filterMap_map, Function.comp_def]

theorem Joins.append {left right : Script α} {before after before' after' : List α}
    (first : left.Joins before after) (second : right.Joins before' after') :
    (left ++ right : Script α).Joins (before ++ before') (after ++ after') := by
  obtain ⟨firstSource, firstTarget⟩ := first
  obtain ⟨secondSource, secondTarget⟩ := second
  constructor
  · rw [source, List.filterMap_append, ← firstSource, ← secondSource, source, source]
  · rw [target, List.filterMap_append, ← firstTarget, ← secondTarget, target, target]

/-! ### Marked lines -/

/-- A line, and whether it is marked as changed. -/
structure Marked (α : Type) where
  line : α
  changed : Bool

/-- The lines of a list of marked lines. -/
def plain (lines : List (Marked α)) : List α :=
  lines.map Marked.line

/-- The script of two marked texts. A run of changed lines is removed, the run it meets in the
other text is added, and two unchanged lines are kept when they are equal. -/
def ofMarks [DecidableEq α] : List (Marked α) → List (Marked α) → Script α
  | [], after => replace [] (plain after)
  | old :: before, [] => replace (plain (old :: before)) []
  | old :: before, new :: after =>
    if old.changed then .remove old.line :: ofMarks before (new :: after)
    else if new.changed then .add new.line :: ofMarks (old :: before) after
    else if old.line = new.line then .keep old.line :: ofMarks before after
    else replace (plain (old :: before)) (plain (new :: after))
termination_by before after => before.length + after.length
decreasing_by all_goals (simp only [List.length_cons]; omega)

/-- Whatever the marks are, the script is a difference of the two texts. -/
theorem joins_ofMarks [DecidableEq α] (before after : List (Marked α)) :
    (ofMarks before after).Joins (plain before) (plain after) := by
  fun_induction ofMarks before after with
  | case1 after => exact joins_replace _ _
  | case2 old before => exact joins_replace _ _
  | case3 old before new after removed inductionHypothesis =>
    exact (joins_replace [old.line] []).append inductionHypothesis
  | case4 old before new after kept added inductionHypothesis =>
    exact (joins_replace [] [new.line]).append inductionHypothesis
  | case5 old before new after kept keptToo same inductionHypothesis =>
    have head : (keepAll [old.line]).Joins [old.line] [new.line] := same ▸ joins_keepAll _
    exact head.append inductionHypothesis
  | case6 old before new after kept keptToo different => exact joins_replace _ _

end Script

end Golden.Diff
