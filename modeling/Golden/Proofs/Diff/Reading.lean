/-
This file reads a difference that was written out. The reader knows the unified form
and nothing of how the difference was made: after the two lines that name the texts
it expects lines that are closed by a line feed, each the head of a hunk with two
ranges, or a line of the hunk before it with the sign that tells which texts have it.

The main statement joins writing to reading. What is written of two texts reads back
as hunks which turn the lines of the first text into those of the second, and which
lead back when they are turned round; and nothing is written exactly when the lines
are the same. It is made for texts without a carriage return at the end of a line,
since the lines that are listed lose one there.
-/

import Golden.Diff.Unified
import Golden.Proofs.Diff.Patch
import Golden.Proofs.Text.Reading

namespace Golden.Diff

open Golden.Text

/-! ### The reader -/

/-- The range that a text starts with, and the text after it. -/
def readRange? (text : List Char) : Option (Range × List Char) := do
  let (start, text) ← readNumber? text
  let text ← [','].isPrefixOf? text
  let (length, text) ← readNumber? text
  return (⟨start, length⟩, text)

/-- The ranges in the head of a hunk. -/
def readHead? (line : List Char) : Option (Range × Range) := do
  let text ← "@@ -".toList.isPrefixOf? line
  let (old, text) ← readRange? text
  let text ← " +".toList.isPrefixOf? text
  let (new, text) ← readRange? text
  if text = " @@".toList then return (old, new) else none

/-- A line of a hunk. -/
def readEdit? : List Char → Option (Edit (List Char))
  | ' ' :: line => some (.keep line)
  | '-' :: line => some (.remove line)
  | '+' :: line => some (.add line)
  | _ => none

/-- The lines up to the first head of a hunk, and the hunks from there on. -/
def readLines? : List (List Char) → Option (Script (List Char) × List (WrittenHunk (List Char)))
  | [] => some ([], [])
  | line :: rest => do
    let (edits, hunks) ← readLines? rest
    match readHead? line with
    | some (old, new) => return ([], ⟨old, new, edits⟩ :: hunks)
    | none => return ((← readEdit? line) :: edits, hunks)

/-- The hunks that lines write, if no line stands before the first head. -/
def readHunks? (lines : List (List Char)) : Option (List (WrittenHunk (List Char))) := do
  match ← readLines? lines with
  | ([], hunks) => return hunks
  | _ => none

/-- The hunks of the difference of two texts that are named by labels. -/
def readDifference? (beforeLabel afterLabel : String) (difference : String) :
    Option (List (WrittenHunk (List Char))) := do
  let text ← ("--- " ++ beforeLabel ++ "\n+++ " ++ afterLabel ++ "\n").toList.isPrefixOf?
    difference.toList
  readHunks? (← closedLines? text)

/-! ### Reading what was written -/

theorem readRange?_append (before length : Nat) {next : Char} (ends : next.isDigit = false)
    (rest : List Char) :
    readRange? (renderRange before length ++ next :: rest) =
      some (⟨before + 1, length⟩, next :: rest) := by
  have split : renderRange before length ++ next :: rest =
      (toString (before + 1)).toList ++ ',' :: ((toString length).toList ++ next :: rest) := by
    rw [renderRange, List.append_assoc, List.cons_append]
  rw [readRange?, split, readNumber?_append (before + 1) (by decide)]
  simp only [Option.bind_eq_bind, Option.bind_some]
  rw [show ',' :: ((toString length).toList ++ next :: rest) =
      [','] ++ ((toString length).toList ++ next :: rest) from rfl, isPrefixOf?_append]
  simp only [Option.bind_some]
  rw [readNumber?_append length ends]
  rfl

/-- The head of a hunk reads back as its ranges. -/
theorem readHead?_header (hunk : Hunk (List Char)) :
    readHead? hunk.header =
      some ((WrittenHunk.ofHunk hunk).old, (WrittenHunk.ofHunk hunk).new) := by
  have split : hunk.header = "@@ -".toList ++ (renderRange hunk.old hunk.edits.source.length ++
      ' ' :: '+' :: (renderRange hunk.new hunk.edits.target.length ++ ' ' :: ['@', '@'])) := by
    have parts (first second third fourth last : List Char) :
        first ++ second ++ third ++ fourth ++ last =
          first ++ (second ++ (third ++ (fourth ++ last))) := by
      simp only [List.append_assoc]
    exact parts _ _ _ _ _
  rw [readHead?, split, isPrefixOf?_append]
  simp only [Option.bind_eq_bind, Option.bind_some]
  rw [readRange?_append _ _ (by decide)]
  simp only [Option.bind_some]
  rw [show ' ' :: '+' :: (renderRange hunk.new hunk.edits.target.length ++ ' ' :: ['@', '@']) =
    " +".toList ++ (renderRange hunk.new hunk.edits.target.length ++ ' ' :: ['@', '@']) from rfl,
    isPrefixOf?_append]
  simp only [Option.bind_some]
  rw [readRange?_append _ _ (by decide)]
  rfl

theorem readEdit?_render (edit : Edit (List Char)) : readEdit? edit.render = some edit := by
  cases edit <;> rfl

/-- A line of a hunk is not taken for a head. -/
theorem readHead?_render (edit : Edit (List Char)) : readHead? edit.render = none := by
  cases edit <;> rfl

/-- The lines of a hunk are read into the hunk before them. -/
theorem readLines?_append (edits : Script (List Char)) {rest : List (List Char)}
    {others : Script (List Char)} {hunks : List (WrittenHunk (List Char))}
    (read : readLines? rest = some (others, hunks)) :
    readLines? (edits.map Edit.render ++ rest) = some (edits ++ others, hunks) := by
  induction edits with
  | nil => exact read
  | cons edit edits inductionHypothesis =>
    rw [List.map_cons, List.cons_append, readLines?, inductionHypothesis]
    simp [readHead?_render, readEdit?_render]

/-- Hunks are read back from the lines that write them. -/
theorem readLines?_renderLines (hunks : List (Hunk (List Char))) :
    readLines? (hunks.flatMap Hunk.renderLines) = some ([], hunks.map WrittenHunk.ofHunk) := by
  induction hunks with
  | nil => rfl
  | cons hunk hunks inductionHypothesis =>
    have lines := readLines?_append hunk.edits inductionHypothesis
    rw [List.flatMap_cons, Hunk.renderLines, List.cons_append, readLines?, lines]
    simp [readHead?_header]
    rfl

/-! ### The lines that are written -/

/-- A property of all that is shown and kept is one of all that is shown in the end. -/
theorem forall_edits_of_close {α : Type} {holds : Edit α → Prop} {opened : Hunk α} {kept : List α}
    (shown : ∀ edit ∈ opened.edits, holds edit) (since : ∀ line ∈ kept, holds (.keep line)) :
    ∀ hunk ∈ opened.close kept, ∀ edit ∈ hunk.edits, holds edit := by
  intro hunk member edit inside
  unfold Hunk.close at member
  split at member
  · cases member
  · rw [List.mem_singleton.mp member] at inside
    rcases List.mem_append.mp inside with before | context
    · exact shown edit before
    · obtain ⟨line, taken, rfl⟩ := List.mem_map.mp context
      exact since line (List.mem_of_mem_take taken)

/-- A property that every edit of a script has, every edit in its hunks has. -/
theorem forall_edits_of_gather {α : Type} {holds : Edit α → Prop} (rest : Script α)
    (opened : Hunk α) (kept : List α) (old new : Nat) (shown : ∀ edit ∈ opened.edits, holds edit)
    (since : ∀ line ∈ kept, holds (.keep line)) (later : ∀ edit ∈ rest, holds edit) :
    ∀ hunk ∈ Hunk.gather opened kept old new rest, ∀ edit ∈ hunk.edits, holds edit := by
  induction rest generalizing opened kept old new with
  | nil => exact forall_edits_of_close shown since
  | cons edit rest inductionHypothesis =>
    obtain ⟨first, others⟩ := List.forall_mem_cons.mp later
    by_cases keeps : ∃ line, edit = .keep line
    · obtain ⟨line, rfl⟩ := keeps
      refine inductionHypothesis opened (kept ++ [line]) _ _ shown ?_ others
      exact List.forall_mem_append.mpr ⟨since, List.forall_mem_singleton.mpr first⟩
    · have context (lines : List α) (some : ∀ line ∈ lines, line ∈ kept) :
          ∀ edit ∈ Script.keepAll lines, holds edit :=
        List.forall_mem_map.mpr fun line member => since line (some line member)
      have change : ∀ other ∈ [edit], holds other := List.forall_mem_singleton.mpr first
      rw [Hunk.gather_change (not_exists.mp keeps)]
      split
      next =>
        refine List.forall_mem_append.mpr ⟨forall_edits_of_close shown since, ?_⟩
        refine inductionHypothesis _ [] _ _ ?_ (List.forall_mem_nil _) others
        exact List.forall_mem_append.mpr
          ⟨context _ fun _ member => List.mem_of_mem_drop member, change⟩
      next =>
        refine inductionHypothesis _ [] _ _ ?_ (List.forall_mem_nil _) others
        exact List.forall_mem_append.mpr
          ⟨List.forall_mem_append.mpr ⟨shown, context kept fun _ => id⟩, change⟩

/-- A written edit has no line feed when no line of the two texts has one. -/
theorem lineFeed_not_mem_render {script : Script (List Char)} {before after : List (List Char)}
    (joins : script.Joins before after) (cleanBefore : ∀ line ∈ before, '\n' ∉ line)
    (cleanAfter : ∀ line ∈ after, '\n' ∉ line) : ∀ edit ∈ script, '\n' ∉ edit.render := by
  intro edit member
  have fromBefore (line : List Char) (is : edit.source? = some line) : '\n' ∉ line :=
    cleanBefore line (joins.1 ▸ List.mem_filterMap.mpr ⟨edit, member, is⟩)
  have fromAfter (line : List Char) (is : edit.target? = some line) : '\n' ∉ line :=
    cleanAfter line (joins.2 ▸ List.mem_filterMap.mpr ⟨edit, member, is⟩)
  cases edit with
  | keep line => simpa [Edit.render] using fromBefore line rfl
  | remove line => simpa [Edit.render] using fromBefore line rfl
  | add line => simpa [Edit.render] using fromAfter line rfl

theorem lineFeed_not_mem_header (hunk : Hunk (List Char)) : '\n' ∉ hunk.header := by
  have digits := lineFeed_not_mem_toString
  delta Hunk.header renderRange
  simp only [List.mem_append, List.mem_cons, not_or]
  exact ⟨⟨⟨⟨by decide, digits _, by decide, digits _⟩, by decide⟩, digits _, by decide, digits _⟩,
    by decide⟩

/-- The lines that write the hunks of two texts have no line feed. -/
theorem lineFeed_not_mem_renderLines (before after : List Char) :
    ∀ line ∈ (hunks before after).flatMap Hunk.renderLines, '\n' ∉ line := by
  have listed (text : List Char) : ∀ line ∈ listedLines text, '\n' ∉ line := by
    refine List.forall_mem_map.mpr fun line member inside => ?_
    exact lineFeed_not_mem_of_mem_lines member (mem_of_mem_dropFinal inside)
  have edits := forall_edits_of_gather _ ⟨0, 0, []⟩ [] 0 0 (by simp) (by simp)
    (lineFeed_not_mem_render (Histogram.joins_script _ _) (listed before) (listed after))
  intro line member
  obtain ⟨hunk, hunkMember, inside⟩ := List.mem_flatMap.mp member
  rcases List.mem_cons.mp inside with rfl | shown
  · exact lineFeed_not_mem_header hunk
  · obtain ⟨edit, editMember, rfl⟩ := List.mem_map.mp shown
    exact edits hunk hunkMember edit editMember

/-! ### The difference of two texts -/

/-- What is written of two texts reads back as their hunks. -/
theorem readDifference?_render {before after beforeLabel afterLabel difference : String}
    (shown : render? before after beforeLabel afterLabel = some difference) :
    readDifference? beforeLabel afterLabel difference =
      some ((hunks before.toList after.toList).map WrittenHunk.ofHunk) := by
  have different := lines_ne_of_render?_eq_some shown
  have written := Option.some.inj (shown.symm.trans (render?_of_lines_ne different))
  have split : difference.toList =
      ("--- " ++ beforeLabel ++ "\n+++ " ++ afterLabel ++ "\n").toList ++
        ((hunks before.toList after.toList).flatMap Hunk.renderLines).flatMap
          fun line => line ++ ['\n'] := by
    rw [written, String.toList_ofList, renderLines]
    simp
  rw [readDifference?, split, isPrefixOf?_append]
  simp only [Option.bind_eq_bind, Option.bind_some]
  rw [closedLines?_flatMap (lineFeed_not_mem_renderLines _ _)]
  simp only [Option.bind_some]
  rw [readHunks?, readLines?_renderLines]
  rfl

/-- Lines that do not end in a carriage return are listed as they are. -/
theorem listedLines_of_plain {text : List Char}
    (plain : ∀ line ∈ lines text, line.getLast? ≠ some '\r') : listedLines text = lines text :=
  (List.map_congr_left fun line member => dropFinal_of_ne (plain line member)).trans
    (List.map_id _)

/-- For two texts none of whose lines ends in a carriage return, nothing is written exactly when
their lines are the same. What is written otherwise reads back as hunks. Applied to the lines of
the first text they make those of the second, and turned round they lead back. -/
theorem rendered_difference_is_patch (before after beforeLabel afterLabel : String)
    (plainBefore : ∀ line ∈ lines before.toList, line.getLast? ≠ some '\r')
    (plainAfter : ∀ line ∈ lines after.toList, line.getLast? ≠ some '\r') :
    (render? before after beforeLabel afterLabel = none ↔
      lines before.toList = lines after.toList) ∧
    ∀ difference, render? before after beforeLabel afterLabel = some difference →
      ∃ written, readDifference? beforeLabel afterLabel difference = some written ∧
        WrittenHunk.patch? written (lines before.toList) = some (lines after.toList) ∧
        WrittenHunk.patch? (written.map WrittenHunk.inverse) (lines after.toList) =
          some (lines before.toList) := by
  refine ⟨render?_eq_none_iff, fun difference shown => ?_⟩
  let script := Histogram.script (lines before.toList) (lines after.toList)
  have joins : script.Joins (lines before.toList) (lines after.toList) :=
    Histogram.joins_script _ _
  have forward := Hunk.patch?_ofScript script
  have backward := Hunk.patch?_ofScript_inverse script
  rw [joins.1, joins.2] at forward backward
  have written := readDifference?_render shown
  rw [hunks, listedLines_of_plain plainBefore, listedLines_of_plain plainAfter] at written
  exact ⟨_, written, forward, backward⟩

/-- A text with two lines that stand apart. -/
def beforeChanges : String := "a\n1\n2\n3\n4\n5\n6\n7\nb"

/-- The text with both of them changed. -/
def afterChanges : String := "c\n1\n2\n3\n4\n5\n6\n7\n\nd\n"

/-- What is written of the changes. -/
def writtenChanges : String :=
  "--- x\n+++ y\n@@ -1,4 +1,4 @@\n-a\n+c\n 1\n 2\n 3\n" ++
    "@@ -6,4 +6,5 @@\n 5\n 6\n 7\n-b\n+\n+d\n"

/-- The difference of a text that is changed in two places has a hunk for either of them, since
there are more lines between them than two hunks show of what is around a change. -/
theorem patch_of_changes_apart :
    render? beforeChanges afterChanges "x" "y" = some writtenChanges ∧
    ∃ written, readDifference? "x" "y" writtenChanges = some written ∧ written.length = 2 ∧
      WrittenHunk.patch? written (lines beforeChanges.toList) =
        some (lines afterChanges.toList) ∧
      WrittenHunk.patch? (written.map WrittenHunk.inverse) (lines afterChanges.toList) =
        some (lines beforeChanges.toList) := by
  have shown : render? beforeChanges afterChanges "x" "y" = some writtenChanges := by
    decide +kernel
  obtain ⟨written, read, forward, backward⟩ :=
    (rendered_difference_is_patch beforeChanges afterChanges "x" "y" (by decide +kernel)
      (by decide +kernel)).2 _ shown
  have two : (readDifference? "x" "y" writtenChanges).map List.length = some 2 := by
    decide +kernel
  rw [read] at two
  exact ⟨shown, written, read, Option.some.inj two, forward, backward⟩

end Golden.Diff
