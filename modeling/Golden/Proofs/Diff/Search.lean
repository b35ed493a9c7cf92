/-
This file says that what a difference keeps is common to both texts because of the way
it was looked for. A stretch is chosen only among stretches at which both texts have the
same lines, and marks leave unmarked the same lines of both texts, however the texts
were divided. The checks that are made when a script is put together therefore never
turn anything away: a stretch that is found is kept, and the differences of the parts on
either side of it are found in the same way; and a line that is not marked is kept.

So the script behind a difference can be told without the checks, by what the searches
find, and the difference that is written of two texts is that of such a script.
-/

import Golden.Proofs.Diff.Reading

namespace Golden.Diff

variable {α : Type} [DecidableEq α]

/-! ### Stretches of common lines -/

theorem agreeAt_iff {before after : Array α} {old new : Nat} :
    agreeAt before after old new = true ↔
      ∃ line, before[old]? = some line ∧ after[new]? = some line := by
  unfold agreeAt
  split
  next line other atOld atNew =>
    rw [atOld, atNew]
    simp [eq_comm]
  next unpaired =>
    refine iff_of_false Bool.false_ne_true ?_
    rintro ⟨line, atOld, atNew⟩
    exact unpaired line line atOld atNew

/-- Both texts have the same lines in a stretch. -/
def Stretch.Common (before after : Array α) (stretch : Stretch) : Prop :=
  ∀ index < stretch.length,
    agreeAt before after (stretch.old + index) (stretch.new + index) = true

theorem agreeAt_linesAhead (before after : Array α) (old new : Nat) :
    ∀ index < linesAhead before after old new,
      agreeAt before after (old + index) (new + index) = true := by
  fun_induction linesAhead before after old new with
  | case1 old new inside agree inductionHypothesis =>
    intro index below
    cases index with
    | zero => exact agree
    | succ index =>
      rw [Nat.add_comm index 1, ← Nat.add_assoc, ← Nat.add_assoc]
      exact inductionHypothesis index (by omega)
  | case2 => exact fun _ below => absurd below (Nat.not_lt_zero _)
  | case3 => exact fun _ below => absurd below (Nat.not_lt_zero _)

/-- The lines that agree up to a pair of positions all lie within the texts. -/
theorem agreeAt_linesBack (before after : Array α) (old new : Nat) :
    linesBack before after old new ≤ old ∧ linesBack before after old new ≤ new ∧
      ∀ index < linesBack before after old new,
        agreeAt before after (old - linesBack before after old new + index)
          (new - linesBack before after old new + index) = true := by
  fun_induction linesBack before after old new with
  | case1 old new agree inductionHypothesis =>
    obtain ⟨oldFits, newFits, agrees⟩ := inductionHypothesis
    refine ⟨by omega, by omega, fun index below => ?_⟩
    rw [Nat.succ_sub_succ, Nat.succ_sub_succ]
    by_cases last : index = linesBack before after old new
    · rw [last, Nat.sub_add_cancel oldFits, Nat.sub_add_cancel newFits]
      exact agree
    · exact agrees index (by omega)
  | case2 => simp
  | case3 => simp

namespace Histogram

/-- The stretch around a pair of positions has the same lines in both texts. -/
theorem common_stretchAt (table : Table α) (old new : Nat) :
    (table.stretchAt old new).Common table.before table.after := by
  obtain ⟨oldFits, newFits, back⟩ := agreeAt_linesBack table.before table.after old new
  have ahead := agreeAt_linesAhead table.before table.after old new
  intro index below
  simp only [Table.stretchAt] at below ⊢
  by_cases behind : index < linesBack table.before table.after old new
  · exact back index behind
  · have here := ahead (index - linesBack table.before table.after old new) (by omega)
    rwa [show old + (index - linesBack table.before table.after old new) =
        old - linesBack table.before table.after old new + index by omega,
      show new + (index - linesBack table.before table.after old new) =
        new - linesBack table.before table.after old new + index by omega] at here

omit [DecidableEq α] in
/-- The stretch that is chosen is the one chosen before or the one offered. -/
theorem best_offer {holds : Stretch → Prop} {search : Search} {stretch : Stretch} (rarity : Nat)
    (best : holds search.best) (offered : holds stretch) :
    holds (search.offer stretch rarity).best := by
  unfold Search.offer
  split
  · exact offered
  · exact best

section

variable (table : Table α)

theorem common_tryPosition (new : Nat) {trial : Trial} (old : Nat)
    (best : trial.search.best.Common table.before table.after) :
    (table.tryPosition new trial old).search.best.Common table.before table.after := by
  unfold Table.tryPosition
  split
  · exact best_offer _ best (common_stretchAt table old new)
  · exact best

theorem common_foldl_tryPosition (new : Nat) (places : List Nat) {trial : Trial}
    (best : trial.search.best.Common table.before table.after) :
    (places.foldl (table.tryPosition new) trial).search.best.Common table.before table.after := by
  induction places generalizing trial with
  | nil => exact best
  | cons place rest inductionHypothesis =>
    exact inductionHypothesis (common_tryPosition table new place best)

theorem common_scan (before : List α) (search : Search) (new : Nat)
    (best : search.best.Common table.before table.after) :
    (table.scan before search new).best.Common table.before table.after := by
  fun_induction Table.scan table before search new with
  | case1 search new inside absent inductionHypothesis => exact inductionHypothesis best
  | case2 search new inside present seen few trial inductionHypothesis =>
    exact inductionHypothesis (common_foldl_tryPosition table new _ best)
  | case3 search new inside present seen many inductionHypothesis =>
    exact inductionHypothesis best
  | case4 => exact best

end

/-- A stretch that is found has lines, and the same ones in both texts. -/
theorem common_of_find {before after : List α} {stretch : Stretch}
    (found : find before after = .stretch stretch) :
    stretch.length ≠ 0 ∧ stretch.Common before.toArray after.toArray := by
  have start : Search.start.best.Common before.toArray after.toArray :=
    fun _ below => absurd below (Nat.not_lt_zero _)
  have best := common_scan (Table.of before after) before Search.start 0 start
  unfold find at found
  dsimp only at found
  split at found
  next => cases found
  next =>
    split at found
    next => cases found
    next nonempty =>
      rw [← Finding.stretch.inj found]
      exact ⟨nonempty, best⟩

/-- The texts are cut at a stretch that is found into parts of which the middle ones are the same,
and not empty. -/
theorem cut_middle_eq_of_find {before after : List α} {stretch : Stretch}
    (found : find before after = .stretch stretch) :
    (Cut.of before stretch.old stretch.length).middle ≠ [] ∧
      (Cut.of before stretch.old stretch.length).middle =
        (Cut.of after stretch.new stretch.length).middle := by
  obtain ⟨nonempty, common⟩ := common_of_find found
  have pairs (index : Nat) (below : index < stretch.length) : ∃ line,
      before[stretch.old + index]? = some line ∧ after[stretch.new + index]? = some line := by
    simpa using agreeAt_iff.mp (common index below)
  constructor
  · intro empty
    obtain ⟨line, first, -⟩ := pairs 0 (Nat.pos_of_ne_zero nonempty)
    have inside : stretch.old < before.length := (List.getElem?_eq_some_iff.mp first).1
    have size := congrArg List.length empty
    simp only [Cut.of, List.length_take, List.length_drop, List.length_nil] at size
    omega
  · refine List.ext_getElem? fun index => ?_
    simp only [Cut.of, List.getElem?_take, List.getElem?_drop]
    split
    next below =>
      obtain ⟨line, old, new⟩ := pairs index below
      rw [old, new]
    next => rfl

end Histogram

/-! ### Marks -/

namespace Bisection

omit [DecidableEq α] in
theorem unflagged_append {flags : List Bool} {lines : List α} (fits : flags.length = lines.length)
    (others : List Bool) (rest : List α) :
    unflagged (flags ++ others) (lines ++ rest) =
      unflagged flags lines ++ unflagged others rest := by
  induction flags generalizing lines with
  | nil =>
    cases List.length_eq_zero_iff.mp fits.symm
    simp [unflagged]
  | cons flag flags inductionHypothesis =>
    cases lines with
    | nil => cases fits
    | cons line lines =>
      have laterFits : flags.length = lines.length := by simpa using fits
      have later := inductionHypothesis laterFits
      cases flag with
      | true => simpa [unflagged] using later
      | false => simpa [unflagged] using later

omit [DecidableEq α] in
theorem unflagged_map_const (flag : Bool) (lines : List α) :
    unflagged (lines.map fun _ => flag) lines = if flag then [] else lines := by
  induction lines with
  | nil => cases flag <;> rfl
  | cons line rest inductionHypothesis =>
    cases flag with
    | true => simpa [unflagged] using inductionHypothesis
    | false => simpa [unflagged] using inductionHypothesis

/-- Marks for every line of two texts, of which those that are not marked are the same. -/
structure Marks.Fits (before after : List α) (marks : Marks) : Prop where
  before_length : marks.before.length = before.length
  after_length : marks.after.length = after.length
  unmarked : unflagged marks.before before = unflagged marks.after after

omit [DecidableEq α] in
theorem Marks.Fits.append {before after before' after' : List α} {left right : Marks}
    (first : left.Fits before after) (second : right.Fits before' after') :
    (left.append right).Fits (before ++ before') (after ++ after') where
  before_length := by
    simp [Marks.append, first.before_length, second.before_length]
  after_length := by
    simp [Marks.append, first.after_length, second.after_length]
  unmarked := by
    unfold Marks.append
    rw [unflagged_append first.before_length, unflagged_append first.after_length,
      first.unmarked, second.unmarked]

omit [DecidableEq α] in
theorem fits_all_changed (before after : List α) :
    (Marks.all true before after).Fits before after where
  before_length := List.length_map _
  after_length := List.length_map _
  unmarked := by
    unfold Marks.all
    rw [unflagged_map_const, unflagged_map_const]
    rfl

omit [DecidableEq α] in
theorem fits_all_kept (lines : List α) : (Marks.all false lines lines).Fits lines lines where
  before_length := List.length_map _
  after_length := List.length_map _
  unmarked := rfl

/-- However two texts are divided, the marks leave the same lines of both. -/
theorem fits_divide (before after : List α) : (divide before after).Fits before after := by
  fun_induction divide before after with
  | case1 before after middle inner firstHypothesis secondHypothesis =>
    have changed := fits_all_changed middle.before middle.after
    have fits : inner.Fits middle.before middle.after := by
      unfold inner
      split
      next => exact changed
      next =>
        split
        next => exact changed
        next old new _ =>
          dsimp only
          split
          next shorter =>
            have together := (firstHypothesis old new shorter).append
              (secondHypothesis old new shorter)
            rwa [List.take_append_drop, List.take_append_drop] at together
          next => exact changed
    have whole := ((fits_all_kept middle.start).append fits).append (fits_all_kept middle.finish)
    rwa [(Middle.append before after).1, (Middle.append before after).2] at whole

omit [DecidableEq α] in
/-- Marks that were refined leave the lines that the finer marks leave of those that the first marks
have left. -/
theorem unflagged_refine (flags finer : List Bool) (lines : List α)
    (fits : finer.length = (unflagged flags lines).length) :
    unflagged (refine flags finer) lines = unflagged finer (unflagged flags lines) := by
  induction flags generalizing finer lines with
  | nil =>
    cases finer with
    | nil => rfl
    | cons flag finer => cases fits
  | cons flag flags inductionHypothesis =>
    cases lines with
    | nil =>
      cases finer with
      | nil => cases flag <;> rfl
      | cons first finer => cases fits
    | cons line lines =>
      cases flag with
      | true => simpa [unflagged, refine] using inductionHypothesis finer lines fits
      | false =>
        cases finer with
        | nil => cases fits
        | cons first finer =>
          have later := inductionHypothesis finer lines (by simpa [unflagged] using fits)
          cases first with
          | true => simpa [unflagged, refine] using later
          | false => simpa [unflagged, refine] using later

/-- The lines of two texts that are not marked are the same. -/
theorem unflagged_marksOf (before after : List α) :
    unflagged (marksOf before after).before before =
      unflagged (marksOf before after).after after := by
  have fits := fits_divide (unflagged (hopeless before after) before)
    (unflagged (hopeless after before) after)
  unfold marksOf
  dsimp only
  rw [unflagged_refine _ _ _ fits.before_length, unflagged_refine _ _ _ fits.after_length,
    fits.unmarked]

end Bisection

/-! ### Lines that are kept -/

/-- The line of an edit, if it is kept. -/
def Edit.kept? : Edit α → Option α
  | .keep line => some line
  | .remove _ | .add _ => none

namespace Script

/-- The lines that a script keeps. -/
def kept (script : Script α) : List α :=
  script.filterMap Edit.kept?

/-- The lines without a mark. -/
def unmarked (lines : List (Marked α)) : List α :=
  (lines.filter fun marked => !marked.changed).map Marked.line

omit [DecidableEq α] in
theorem kept_append (left right : Script α) :
    (left ++ right : Script α).kept = left.kept ++ right.kept :=
  List.filterMap_append

omit [DecidableEq α] in
theorem kept_keepAll (lines : List α) : (keepAll lines).kept = lines := by
  rw [kept, keepAll, List.filterMap_map]
  exact List.filterMap_some

omit [DecidableEq α] in
theorem kept_replace (removed added : List α) : (replace removed added).kept = [] := by
  simp [kept, replace, List.filterMap_map, Function.comp_def, Edit.kept?]

omit [DecidableEq α] in
theorem unmarked_cons (marked : Marked α) (rest : List (Marked α)) :
    unmarked (marked :: rest) =
      if marked.changed then unmarked rest else marked.line :: unmarked rest := by
  unfold unmarked
  cases changed : marked.changed <;> simp [changed]

/-- When the same lines of two texts have no mark, the script of the texts keeps all of them. -/
theorem kept_ofMarks (before after : List (Marked α)) (same : unmarked before = unmarked after) :
    (ofMarks before after).kept = unmarked before := by
  fun_induction ofMarks before after with
  | case1 after => exact kept_replace _ _
  | case2 old before => exact (kept_replace _ _).trans same.symm
  | case3 old before new after removed inductionHypothesis =>
    rw [unmarked_cons, if_pos removed] at same ⊢
    exact inductionHypothesis same
  | case4 old before new after present added inductionHypothesis =>
    rw [unmarked_cons new, if_pos added] at same
    exact inductionHypothesis same
  | case5 old before new after present presentToo equal inductionHypothesis =>
    rw [unmarked_cons, unmarked_cons new, if_neg present, if_neg presentToo] at same
    rw [unmarked_cons, if_neg present, ← inductionHypothesis (List.cons.inj same).2]
    rfl
  | case6 old before new after present presentToo different =>
    rw [unmarked_cons, unmarked_cons new, if_neg present, if_neg presentToo] at same
    exact absurd (List.cons.inj same).1 different

end Script

namespace Bisection

omit [DecidableEq α] in
theorem unmarked_mark (lines : List α) (flags : List Bool) :
    Script.unmarked (mark lines flags) = unflagged flags lines := by
  fun_induction mark lines flags with
  | case1 flags => cases flags <;> rfl
  | case2 line rest inductionHypothesis =>
    rw [Script.unmarked_cons, if_pos rfl, inductionHypothesis]
    cases rest <;> rfl
  | case3 line rest flag flags inductionHypothesis =>
    rw [Script.unmarked_cons, inductionHypothesis]
    cases flag <;> rfl

/-- The lines that dividing keeps of two texts: those at their common edges, and those between that
it leaves without a mark. -/
def keptLines (before after : List α) : List α :=
  let middle := Middle.of before after
  let marks := marksOf middle.before middle.after
  middle.start ++ unflagged marks.before middle.before ++ middle.finish

/-- The difference that dividing leads to keeps every line that was left without a mark. -/
theorem kept_script (before after : List α) :
    (script before after).kept = keptLines before after := by
  have unmarked (middle : Middle α) :
      (Script.ofMarks (mark middle.before (marksOf middle.before middle.after).before)
          (mark middle.after (marksOf middle.before middle.after).after)).kept =
        unflagged (marksOf middle.before middle.after).before middle.before := by
    rw [Script.kept_ofMarks, unmarked_mark]
    rw [unmarked_mark, unmarked_mark, unflagged_marksOf]
  unfold script keptLines Middle.around
  dsimp only
  rw [Script.kept_append, Script.kept_append, Script.kept_keepAll, Script.kept_keepAll, unmarked]

end Bisection

/-! ### Scripts that are found -/

namespace Histogram

/-- A script that the searches lead to by themselves, without a look at the lines that it keeps. -/
inductive IsFound : List α → List α → Script α → Prop
  /-- One of the texts has no line. -/
  | empty {before after : List α} (empty : before = [] ∨ after = []) :
    IsFound before after (Script.replace before after)
  /-- The texts have no line in common. -/
  | nothing {before after : List α} (found : find before after = .nothing) :
    IsFound before after (Script.replace before after)
  /-- The texts are divided, and the lines without a mark are kept. -/
  | repetitive {before after : List α} {script : Script α}
    (found : find before after = .repetitive) (joins : script.Joins before after)
    (kept : script.kept = Bisection.keptLines before after) : IsFound before after script
  /-- A stretch is kept, and the same is done on either side of it. -/
  | stretch {before after : List α} {stretch : Stretch} {left right : Script α}
    (found : find before after = .stretch stretch)
    (onLeft : IsFound (before.take stretch.old) (after.take stretch.new) left)
    (onRight : IsFound ((before.drop stretch.old).drop stretch.length)
      ((after.drop stretch.new).drop stretch.length) right) :
    IsFound before after
      (left ++ (Script.keepAll ((before.drop stretch.old).take stretch.length) ++ right))

/-- The difference between the common edges of two texts is found. -/
theorem isFound_scriptBetween (before after : List α) :
    IsFound before after (scriptBetween before after) := by
  fun_induction scriptBetween before after with
  | case1 before after empty => exact .empty empty
  | case2 before after nonempty found => exact .nothing found
  | case3 before after nonempty found =>
    exact .repetitive found (Bisection.joins_script before after)
      (Bisection.kept_script before after)
  | case4 before after nonempty stretch found old new matching leftHypothesis rightHypothesis =>
    exact .stretch found leftHypothesis rightHypothesis
  | case5 before after nonempty stretch found old new mismatch =>
    exact absurd (cut_middle_eq_of_find found) mismatch

end Histogram

/-- The difference that is written of two texts reads back as the hunks of a script that was found
between the common edges of their lines. -/
theorem exists_isFound_of_render? {before after beforeLabel afterLabel difference : String}
    (shown : render? before after beforeLabel afterLabel = some difference) :
    let middle := Middle.of (listedLines before.toList) (listedLines after.toList)
    ∃ script, Histogram.IsFound middle.before middle.after script ∧
      readDifference? beforeLabel afterLabel difference =
        some ((Hunk.ofScript (middle.around script)).map WrittenHunk.ofHunk) :=
  ⟨_, Histogram.isFound_scriptBetween _ _, readDifference?_render shown⟩

end Golden.Diff
