/-
This file writes differences in the unified form: two lines that name the texts,
and then the hunks, each under a line that says where it stands in either text and
how many of its lines it shows. Two texts differ when their lines do. The lines
that are listed have lost one more carriage return than the lines that are
compared, so two texts can differ and yet have no hunk.
-/

import Golden.Diff.Histogram
import Golden.Diff.Hunk
import Golden.Text.Lines

namespace Golden.Diff

open Golden.Text

/-! ### Hunks -/

/-- A line of a hunk, with the sign that tells which of the texts have it. -/
def Edit.render : Edit (List Char) → List Char
  | .keep line => ' ' :: line
  | .remove line => '-' :: line
  | .add line => '+' :: line

/-- A range of lines: the number of its first line, from one, and the number of its lines. -/
def renderRange (before : Nat) (length : Nat) : List Char :=
  (toString (before + 1)).toList ++ ',' :: (toString length).toList

/-- The line above a hunk. -/
def Hunk.header {α : Type} (hunk : Hunk α) : List Char :=
  "@@ -".toList ++ renderRange hunk.old hunk.edits.source.length ++
    " +".toList ++ renderRange hunk.new hunk.edits.target.length ++ " @@".toList

/-- The lines that write a hunk. -/
def Hunk.renderLines (hunk : Hunk (List Char)) : List (List Char) :=
  hunk.header :: hunk.edits.map Edit.render

/-! ### Texts -/

/-- The lines of a text as they are listed in a difference. -/
def listedLines (text : List Char) : List (List Char) :=
  (lines text).map (dropFinal '\r')

/-- The hunks of the difference of two texts. -/
def hunks (before after : List Char) : List (Hunk (List Char)) :=
  Hunk.ofScript (Histogram.script (listedLines before) (listedLines after))

/-- The lines that write the difference of two texts. -/
def renderLines (before after beforeLabel afterLabel : List Char) : List (List Char) :=
  ("--- ".toList ++ beforeLabel) :: ("+++ ".toList ++ afterLabel) ::
    (hunks before after).flatMap Hunk.renderLines

/-- The difference from one text to another, if their lines differ. -/
def render? (before after beforeLabel afterLabel : String) : Option String :=
  if lines before.toList = lines after.toList then none
  else
    let written := renderLines before.toList after.toList beforeLabel.toList afterLabel.toList
    some (String.ofList (written.flatMap fun line => line ++ ['\n']))

variable {before after beforeLabel afterLabel : String}

/-- Nothing is written of two texts exactly when their lines are the same. -/
theorem render?_eq_none_iff :
    render? before after beforeLabel afterLabel = none ↔
      lines before.toList = lines after.toList := by
  unfold render?
  split
  next same => exact iff_of_true rfl same
  next different => exact iff_of_false (Option.some_ne_none _) different

theorem render?_of_lines_ne (different : lines before.toList ≠ lines after.toList) :
    render? before after beforeLabel afterLabel =
      some (String.ofList ((renderLines before.toList after.toList beforeLabel.toList
        afterLabel.toList).flatMap fun line => line ++ ['\n'])) := by
  rw [render?, if_neg different]

/-- What is written is written of texts whose lines differ. -/
theorem lines_ne_of_render?_eq_some {difference : String}
    (shown : render? before after beforeLabel afterLabel = some difference) :
    lines before.toList ≠ lines after.toList := by
  intro same
  rw [render?_eq_none_iff.mpr same] at shown
  cases shown

end Golden.Diff
