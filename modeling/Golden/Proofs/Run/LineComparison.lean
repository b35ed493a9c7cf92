/-
This file relates the comparison of two files to the difference that is shown of
them. The comparison cuts the bytes of the files into lines, and the difference cuts
their texts. Where both cut alike the comparison finds two files to be the same
exactly when there is no difference to show, and otherwise it shows that difference.
They cut a text alike unless it ends in a carriage return. A file that does can be
found to be the same as one whose text has other lines, and it can be found to
differ from one whose text has the same lines.

It then says what the comparison itself is about: the lines with which the files were
written, and not what closes them. Two files are found to differ exactly when these
lines do, also where they are no text and the difference could not show it.
-/

import Golden.Proofs.Text.Lines
import Golden.Run.LineComparison

namespace Golden.Run

open Golden Golden.Text

/-- Two texts have the same lines when their bytes have. -/
theorem lines_eq_iff_byteLines_eq {before after : List Char}
    (closedBefore : before.getLast? ≠ some '\r') (closedAfter : after.getLast? ≠ some '\r') :
    byteLines (encode before) = byteLines (encode after) ↔ lines before = lines after := by
  rw [(byteLines_encode_eq_iff before).mpr closedBefore,
    (byteLines_encode_eq_iff after).mpr closedAfter]
  exact (List.map_injective_iff.mpr fun _ _ => encode_injective).eq_iff

/-- What a difference, if there is one to show, makes of two files. -/
def comparisonOf : Option String → Comparison
  | none => .same
  | some difference => .differ difference

/-- The comparison of the bytes of two texts is what the difference of the texts makes of them. -/
theorem compareContents_encode {before after : String}
    (closedBefore : before.toList.getLast? ≠ some '\r')
    (closedAfter : after.toList.getLast? ≠ some '\r') (beforeLabel afterLabel : String) :
    compareContents (encode before.toList) (encode after.toList) beforeLabel afterLabel =
      comparisonOf (Diff.render? before after beforeLabel afterLabel) := by
  unfold compareContents
  rw [decodeLossy_encode, decodeLossy_encode, String.ofList_toList, String.ofList_toList]
  by_cases same : lines before.toList = lines after.toList
  · rw [if_pos ((lines_eq_iff_byteLines_eq closedBefore closedAfter).mpr same),
      Diff.render?_eq_none_iff.mpr same]
    rfl
  · rw [if_neg (fun bytes => same ((lines_eq_iff_byteLines_eq closedBefore closedAfter).mp bytes))]
    cases shown : Diff.render? before after beforeLabel afterLabel with
    | none => exact absurd (Diff.render?_eq_none_iff.mp shown) same
    | some difference =>
      dsimp only
      rw [shown]
      rfl

/-- Bytes are cut into the lines of the text that they encode exactly when the text does not end
in a carriage return. Two files whose texts do not are found to be the same exactly when there is
no difference of the texts to show, and to differ by that difference when there is one. -/
theorem comparison_agrees_with_rendering (files : Files) (actual expected : Path)
    (before after : String) (readActual : files.read actual = .ok (encode before.toList))
    (readExpected : files.read expected = .ok (encode after.toList)) :
    (byteLines (encode before.toList) = (lines before.toList).map encode ↔
      before.toList.getLast? ≠ some '\r') ∧
    (byteLines (encode after.toList) = (lines after.toList).map encode ↔
      after.toList.getLast? ≠ some '\r') ∧
    (before.toList.getLast? ≠ some '\r' → after.toList.getLast? ≠ some '\r' →
      compareFiles files actual expected =
        .ok (comparisonOf (Diff.render? before after actual.text expected.text))) := by
  refine ⟨byteLines_encode_eq_iff _, byteLines_encode_eq_iff _, ?_⟩
  intro closedBefore closedAfter
  unfold compareFiles
  rw [readActual, readExpected]
  exact congrArg Except.ok (compareContents_encode closedBefore closedAfter _ _)

/-- Two files with the same lines, one of which ends its lines in the other manner and has no line
feed at the end. -/
def terminatorsApart : Files :=
  ⟨[(["actual"], .file (encode "x\r\n\ry".toList)),
    (["expected"], .file (encode "x\n\ry\r\n".toList))]⟩

/-- Files whose lines end in different manners are found to be the same. -/
theorem comparison_of_terminators_apart :
    terminatorsApart.read ⟨"actual"⟩ = .ok (encode "x\r\n\ry".toList) ∧
    terminatorsApart.read ⟨"expected"⟩ = .ok (encode "x\n\ry\r\n".toList) ∧
    compareFiles terminatorsApart ⟨"actual"⟩ ⟨"expected"⟩ = .ok .same := by
  have readActual : terminatorsApart.read ⟨"actual"⟩ = .ok (encode "x\r\n\ry".toList) := by rfl
  have readExpected : terminatorsApart.read ⟨"expected"⟩ = .ok (encode "x\n\ry\r\n".toList) := by
    rfl
  have agreement := comparison_agrees_with_rendering terminatorsApart ⟨"actual"⟩ ⟨"expected"⟩
    "x\r\n\ry" "x\n\ry\r\n" readActual readExpected
  refine ⟨readActual, readExpected, (agreement.2.2 (by decide) (by decide)).trans ?_⟩
  rw [Diff.render?_eq_none_iff.mpr (by decide)]
  rfl

/-- A carriage return at the end of a text does not count when the bytes are compared, and counts
as the text of its line when the difference is shown. -/
theorem final_carriage_return_is_cut_from_bytes_alone :
    byteLines (encode "x\r".toList) ≠ (lines "x\r".toList).map encode ∧
    compareContents (encode "x\r".toList) (encode "x".toList) "actual" "expected" = .same ∧
    Diff.render? "x\r" "x" "actual" "expected" = some "--- actual\n+++ expected\n" ∧
    compareContents (encode "x\r".toList) (encode "x\r\r\n".toList) "actual" "expected" =
      .differ "Binary files actual and expected differ\n" := by
  refine ⟨by decide, by rfl, by decide +kernel, by decide +kernel⟩

/-! ### Lines of bytes -/

theorem compareContents_of_byteLines_eq {before after : Bytes}
    (same : byteLines before = byteLines after) (beforeLabel afterLabel : String) :
    compareContents before after beforeLabel afterLabel = .same := by
  rw [compareContents, if_pos same]

theorem binaryDifference_ne_empty (actual expected : String) :
    binaryDifference actual expected ≠ "" := by
  delta binaryDifference
  rw [ne_eq, String.append_eq_empty_iff]
  exact fun empty => absurd empty.2 (by decide)

/-- Contents whose lines differ are found to differ, and there is something to show of it. -/
theorem exists_difference_of_byteLines_ne {before after : Bytes}
    (different : byteLines before ≠ byteLines after) (beforeLabel afterLabel : String) :
    ∃ difference, compareContents before after beforeLabel afterLabel = .differ difference ∧
      difference ≠ "" := by
  rw [compareContents, if_neg different]
  dsimp only
  cases shown : Diff.render? (String.ofList (decodeLossy before))
      (String.ofList (decodeLossy after)) beforeLabel afterLabel with
  | none =>
    exact ⟨_, rfl, binaryDifference_ne_empty _ _⟩
  | some difference =>
    refine ⟨difference, rfl, fun empty => ?_⟩
    rw [Diff.render?_of_lines_ne (Diff.lines_ne_of_render?_eq_some shown)] at shown
    have letters := congrArg String.toList ((Option.some.inj shown).trans empty)
    simp [Diff.renderLines] at letters

/-- Files are compared by the lines with which they were written, which may be any bytes without a
line feed that do not end in a carriage return. They are found to be the same exactly when these
lines are, whatever closes each line and whether or not the last one is closed; otherwise they are
found to differ, and there is something to show of it. -/
theorem comparison_is_of_written_lines (files : Files) (actual expected : Path)
    {before after : Bytes} {beforeLines afterLines : List Bytes}
    (readActual : files.read actual = .ok before) (readExpected : files.read expected = .ok after)
    (writtenBefore : Written before beforeLines) (writtenAfter : Written after afterLines)
    (plainBefore : ∀ line ∈ beforeLines, IsPlainLine line)
    (plainAfter : ∀ line ∈ afterLines, IsPlainLine line) :
    (compareFiles files actual expected = .ok .same ↔ beforeLines = afterLines) ∧
    (beforeLines ≠ afterLines → ∃ difference,
      compareFiles files actual expected = .ok (.differ difference) ∧ difference ≠ "") := by
  have cutBefore := byteLines_of_written writtenBefore plainBefore
  have cutAfter := byteLines_of_written writtenAfter plainAfter
  have compared : compareFiles files actual expected =
      .ok (compareContents before after actual.text expected.text) := by
    rw [compareFiles, readActual, readExpected]
  have apart : beforeLines ≠ afterLines → ∃ difference,
      compareFiles files actual expected = .ok (.differ difference) ∧ difference ≠ "" := by
    intro different
    rw [← cutBefore, ← cutAfter] at different
    obtain ⟨difference, differs, nonempty⟩ :=
      exists_difference_of_byteLines_ne different actual.text expected.text
    exact ⟨difference, compared.trans (congrArg Except.ok differs), nonempty⟩
  refine ⟨⟨fun same => ?_, fun equal => ?_⟩, apart⟩
  · by_contra different
    obtain ⟨difference, differs, -⟩ := apart different
    rw [differs] at same
    cases same
  · rw [compared, compareContents_of_byteLines_eq (cutBefore.trans (equal.trans cutAfter.symm))]

/-- Two files whose first lines are bytes that are shown alike, and whose other lines are closed in
different manners. -/
def shownAlike : Files :=
  ⟨[(["actual"], .file [0xFF, 13, 10, 10, 0x61]),
    (["expected"], .file [0xFE, 10, 13, 10, 0x61, 13, 10])]⟩

/-- Bytes that are shown alike are told apart. -/
theorem comparison_of_bytes_shown_alike :
    shownAlike.read ⟨"actual"⟩ = .ok [0xFF, 13, 10, 10, 0x61] ∧
    shownAlike.read ⟨"expected"⟩ = .ok [0xFE, 10, 13, 10, 0x61, 13, 10] ∧
    Written [0xFF, 13, 10, 10, 0x61] [[0xFF], [], [0x61]] ∧
    Written [0xFE, 10, 13, 10, 0x61, 13, 10] [[0xFE], [], [0x61]] ∧
    ∃ difference, compareFiles shownAlike ⟨"actual"⟩ ⟨"expected"⟩ = .ok (.differ difference) ∧
      difference ≠ "" := by
  have readActual : shownAlike.read ⟨"actual"⟩ = .ok [0xFF, 13, 10, 10, 0x61] := by rfl
  have readExpected : shownAlike.read ⟨"expected"⟩ = .ok [0xFE, 10, 13, 10, 0x61, 13, 10] := by
    rfl
  have writtenActual : Written [0xFF, 13, 10, 10, 0x61] [[0xFF], [], [0x61]] :=
    .closed [0xFF] (.tail _ (.head _)) (.closed [] (.head _) (.unclosed (List.cons_ne_nil _ _)))
  have writtenExpected : Written [0xFE, 10, 13, 10, 0x61, 13, 10] [[0xFE], [], [0x61]] :=
    .closed [0xFE] (.head _) (.closed [] (.tail _ (.head _))
      (.closed [0x61] (.tail _ (.head _)) .nothing))
  have comparison := comparison_is_of_written_lines shownAlike ⟨"actual"⟩ ⟨"expected"⟩ readActual
    readExpected writtenActual writtenExpected (by decide) (by decide)
  exact ⟨readActual, readExpected, writtenActual, writtenExpected, comparison.2 (by decide)⟩

end Golden.Run
