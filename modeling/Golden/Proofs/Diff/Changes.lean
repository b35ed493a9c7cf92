/-
This file says what a written difference shows. Every hunk that is written shows a
change, because a hunk is opened by one; and two texts have a hunk exactly when the
lines that are listed of them differ. For hunks which show nothing would turn the one
list of lines into the other, and texts whose lines are listed alike are kept from
their common start on.

The lines that are listed are not the lines that are compared: they have lost one more
carriage return. So a difference is written of some texts that have no hunk, and then
it consists of the names of the texts alone.
-/

import Golden.Proofs.Diff.Reading

namespace Golden.Diff

open Golden.Text

/-! ### Texts that are listed alike -/

section

variable {α : Type} [DecidableEq α]

theorem commonStart_self (lines : List α) : commonStart lines lines = lines := by
  induction lines with
  | nil => rfl
  | cons line rest inductionHypothesis => rw [commonStart, if_pos rfl, inductionHypothesis]

/-- Two equal texts have nothing in the middle. -/
theorem Middle.of_self (lines : List α) : Middle.of lines lines = ⟨lines, [], [], []⟩ := by
  unfold Middle.of
  dsimp only
  rw [commonStart_self, List.drop_length]
  rfl

/-- The difference of two equal texts keeps every line. -/
theorem Histogram.script_self (lines : List α) : script lines lines = Script.keepAll lines := by
  have nothing : scriptBetween ([] : List α) [] = [] := by
    rw [scriptBetween, if_pos (.inl rfl)]
    rfl
  rw [script, Middle.of_self, nothing]
  exact (List.append_nil _).trans (List.append_nil _)

end

section

variable {α : Type}

/-- A script that keeps every line opens no hunk. -/
theorem Hunk.gather_keepAll (lines kept : List α) (old new : Nat) :
    gather ⟨0, 0, []⟩ kept old new (Script.keepAll lines) = [] := by
  induction lines generalizing kept old new with
  | nil => rfl
  | cons line rest inductionHypothesis => exact inductionHypothesis _ _ _

/-! ### Hunks and their changes -/

/-- Whether an edit changes the text. -/
def Edit.isChange : Edit α → Bool
  | .keep _ => false
  | .remove _ | .add _ => true

theorem exists_change_of_close {opened : Hunk α} {kept : List α}
    (changes : opened.edits ≠ [] → ∃ edit ∈ opened.edits, edit.isChange = true) :
    ∀ hunk ∈ opened.close kept, ∃ edit ∈ hunk.edits, edit.isChange = true := by
  intro hunk member
  unfold Hunk.close at member
  split at member
  next => cases member
  next someEdit =>
    obtain ⟨edit, inside, change⟩ := changes (by simpa using someEdit)
    rw [List.mem_singleton.mp member]
    exact ⟨edit, List.mem_append_left _ inside, change⟩

/-- Every hunk that is gathered shows a change, if the open one does unless it is empty. -/
theorem exists_change_of_gather (rest : Script α) (opened : Hunk α) (kept : List α) (old new : Nat)
    (changes : opened.edits ≠ [] → ∃ edit ∈ opened.edits, edit.isChange = true) :
    ∀ hunk ∈ Hunk.gather opened kept old new rest, ∃ edit ∈ hunk.edits, edit.isChange = true := by
  induction rest generalizing opened kept old new with
  | nil => exact exists_change_of_close changes
  | cons edit rest inductionHypothesis =>
    by_cases keeps : ∃ line, edit = .keep line
    · obtain ⟨line, rfl⟩ := keeps
      exact inductionHypothesis opened (kept ++ [line]) _ _ changes
    · have change : edit.isChange = true := by
        cases edit with
        | keep line => exact absurd ⟨line, rfl⟩ keeps
        | remove line => rfl
        | add line => rfl
      rw [Hunk.gather_change (not_exists.mp keeps)]
      split
      next =>
        refine List.forall_mem_append.mpr ⟨exists_change_of_close changes, ?_⟩
        exact inductionHypothesis _ [] _ _ fun _ => ⟨edit, by simp, change⟩
      next => exact inductionHypothesis _ [] _ _ fun _ => ⟨edit, by simp, change⟩

end

/-! ### What is written -/

/-- Two texts have no hunk exactly when their lines are listed alike. -/
theorem hunks_eq_nil_iff (before after : List Char) :
    hunks before after = [] ↔ listedLines before = listedLines after := by
  constructor
  · intro noHunk
    have joins := Histogram.joins_script (listedLines before) (listedLines after)
    have patched := Hunk.patch?_ofScript
      (Histogram.script (listedLines before) (listedLines after))
    rw [joins.1, joins.2, ← hunks, noHunk] at patched
    exact Option.some.inj patched
  · intro same
    rw [hunks, same, Histogram.script_self]
    exact Hunk.gather_keepAll _ _ _ _

/-- Of two texts without a hunk only the names are written. -/
theorem eq_names_of_hunks_eq_nil {before after beforeLabel afterLabel difference : String}
    (shown : render? before after beforeLabel afterLabel = some difference)
    (noHunk : hunks before.toList after.toList = []) :
    difference = "--- " ++ beforeLabel ++ "\n+++ " ++ afterLabel ++ "\n" := by
  rw [render?_of_lines_ne (lines_ne_of_render?_eq_some shown)] at shown
  rw [← Option.some.inj shown, renderLines, noHunk]
  refine String.toList_inj.mp ?_
  simp

/-- What is written of two texts reads back as hunks of which each removes or adds a line. There is
a hunk exactly when the lines of the texts differ also without one more carriage return at the end
of each; when there is none, only the names of the texts are written. -/
theorem written_hunks_show_changes {before after beforeLabel afterLabel difference : String}
    (shown : render? before after beforeLabel afterLabel = some difference) :
    ∃ written, readDifference? beforeLabel afterLabel difference = some written ∧
      (∀ hunk ∈ written, ∃ edit ∈ hunk.edits, edit.isChange = true) ∧
      (written ≠ [] ↔
        (lines before.toList).map (dropFinal '\r') ≠ (lines after.toList).map (dropFinal '\r')) ∧
      (written = [] → difference = "--- " ++ beforeLabel ++ "\n+++ " ++ afterLabel ++ "\n") := by
  refine ⟨_, readDifference?_render shown, ?_, ?_, ?_⟩
  · refine List.forall_mem_map.mpr ?_
    exact exists_change_of_gather _ ⟨0, 0, []⟩ [] 0 0 (absurd rfl)
  · rw [ne_eq, List.map_eq_nil_iff]
    exact (hunks_eq_nil_iff _ _).not
  · rw [List.map_eq_nil_iff]
    exact eq_names_of_hunks_eq_nil shown

/-- What is written of two texts that differ in the carriage returns of one line and in the text of
another. -/
def writtenBesideReturns : String := "--- a\n+++ e\n@@ -1,2 +1,2 @@\n a\n-b\n+c\n"

/-- A line that differs in its carriage returns alone is shown as one that both texts have, beside
a line that differs in its text. -/
theorem changes_beside_carriage_returns :
    render? "a\r\r\nb\n" "a\nc\n" "a" "e" = some writtenBesideReturns ∧
    ∃ written, readDifference? "a" "e" writtenBesideReturns = some written ∧ written ≠ [] ∧
      ∀ hunk ∈ written, ∃ edit ∈ hunk.edits, edit.isChange = true := by
  have shown : render? "a\r\r\nb\n" "a\nc\n" "a" "e" = some writtenBesideReturns := by
    decide +kernel
  obtain ⟨written, read, changes, anyHunk, -⟩ := written_hunks_show_changes shown
  exact ⟨shown, written, read, anyHunk.mpr (by decide), changes⟩

/-- Two texts whose lines differ in carriage returns alone have a difference that shows no
change. -/
theorem difference_without_change :
    lines "a\r\r\n".toList ≠ lines "a\n".toList ∧
    render? "a\r\r\n" "a\n" "a" "e" = some "--- a\n+++ e\n" ∧
    readDifference? "a" "e" "--- a\n+++ e\n" = some [] := by
  refine ⟨by decide, by decide +kernel, by decide +kernel⟩

end Golden.Diff
