/-
This file says what hunks do to a text. A hunk is written with its place in either
text; it is applied by taking over the lines up to its place, checking that it finds
there the lines which it keeps or removes, and putting in their stead the lines which
it keeps or adds. Its place in the second text must be where its lines come to stand,
and it must show as many lines of either text as it says.

The hunks that are gathered from a script turn the first text of the script into the
second. What carries the proof is an account of the open hunk: the lines before it
that no hunk has shown, its edits, the lines kept since, and the rest of the script
make up what is left of either text. Turning every edit round turns the gathered hunks
round, so the same account also says that they lead back.
-/

import Golden.Diff.Hunk

namespace Golden.Diff

variable {α : Type}

/-! ### The two texts of a script -/

namespace Script

@[simp] theorem source_nil : source ([] : Script α) = [] := rfl

@[simp] theorem target_nil : target ([] : Script α) = [] := rfl

@[simp] theorem source_cons (edit : Edit α) (rest : Script α) :
    source (edit :: rest) = edit.source?.toList ++ source rest := by
  cases edit <;> rfl

@[simp] theorem target_cons (edit : Edit α) (rest : Script α) :
    target (edit :: rest) = edit.target?.toList ++ target rest := by
  cases edit <;> rfl

@[simp] theorem source_append (left right : Script α) :
    source (left ++ right) = source left ++ source right :=
  List.filterMap_append

@[simp] theorem target_append (left right : Script α) :
    target (left ++ right) = target left ++ target right :=
  List.filterMap_append

@[simp] theorem source_keepAll (lines : List α) : source (keepAll lines) = lines :=
  (joins_keepAll lines).1

@[simp] theorem target_keepAll (lines : List α) : target (keepAll lines) = lines :=
  (joins_keepAll lines).2

end Script

/-! ### Applying hunks -/

/-- A range of lines: the number of its first line, from one, and the number of its lines. -/
structure Range where
  start : Nat
  length : Nat
deriving DecidableEq, Repr

/-- A hunk as it is written: its ranges in the two texts, and its lines. -/
structure WrittenHunk (α : Type) where
  old : Range
  new : Range
  edits : Script α
deriving DecidableEq, Repr

namespace WrittenHunk

/-- The written form of a hunk. -/
def ofHunk (hunk : Hunk α) : WrittenHunk α :=
  ⟨⟨hunk.old + 1, hunk.edits.source.length⟩, ⟨hunk.new + 1, hunk.edits.target.length⟩, hunk.edits⟩

variable [DecidableEq α]

/-- Applies hunks to what is left of a text after a number of its lines, to make what is left of
another text after a number of its lines. -/
def applyFrom (passed made : Nat) (lines : List α) : List (WrittenHunk α) → Option (List α)
  | [] => some lines
  | hunk :: rest =>
    let gap := hunk.old.start - (passed + 1)
    let found := lines.drop gap
    if passed + 1 ≤ hunk.old.start ∧ gap ≤ lines.length ∧ hunk.new.start = made + gap + 1 ∧
        hunk.old.length = hunk.edits.source.length ∧
        hunk.new.length = hunk.edits.target.length ∧ hunk.edits.source <+: found then
      (applyFrom (passed + gap + hunk.old.length) (made + gap + hunk.new.length)
        (found.drop hunk.old.length) rest).map fun others =>
          lines.take gap ++ hunk.edits.target ++ others
    else none

/-- The text that hunks make of a text, if they can be applied to it. -/
def patch? (hunks : List (WrittenHunk α)) (lines : List α) : Option (List α) :=
  applyFrom 0 0 lines hunks

/-- A hunk that is in its place takes over the lines before it, and its edits do the rest. -/
theorem applyFrom_cons {passed made : Nat} {skipped : List α} {hunk : Hunk α}
    (oldPlace : hunk.old = passed + skipped.length) (newPlace : hunk.new = made + skipped.length)
    (left : List α) (rest : List (WrittenHunk α)) :
    applyFrom passed made (skipped ++ hunk.edits.source ++ left) (ofHunk hunk :: rest) =
      (applyFrom (hunk.old + hunk.edits.source.length) (hunk.new + hunk.edits.target.length)
        left rest).map (skipped ++ hunk.edits.target ++ ·) := by
  have gap : hunk.old + 1 - (passed + 1) = skipped.length := by omega
  have found : (skipped ++ hunk.edits.source ++ left).drop skipped.length =
      hunk.edits.source ++ left := by
    rw [List.append_assoc, List.drop_left]
  have before : (skipped ++ hunk.edits.source ++ left).take skipped.length = skipped := by
    rw [List.append_assoc, List.take_left]
  have fits : skipped.length ≤ (skipped ++ hunk.edits.source ++ left).length := by
    rw [List.append_assoc, List.length_append]
    omega
  rw [applyFrom]
  simp only [ofHunk]
  rw [gap, found, before, List.drop_left, if_pos, ← oldPlace, ← newPlace]
  exact ⟨by omega, fits, by omega, trivial, trivial, List.prefix_append _ _⟩

end WrittenHunk

/-! ### Gathered hunks -/

namespace Hunk

open WrittenHunk

variable [DecidableEq α]

/-- What is known of the place of an open hunk: how many lines of either text were passed by the
hunks before it, and the lines that were taken over since. -/
structure PlacedAfter (passed made : Nat) (skipped : List α) (opened : Hunk α) : Prop where
  old : opened.old = passed + skipped.length
  new : opened.new = made + skipped.length

/-- Closing a hunk makes some lines of the second text. Some of the lines kept after its last
change are not shown, and those that are more than the context of a hunk never are. -/
theorem exists_applyFrom_close {passed made : Nat} {skipped : List α} {opened : Hunk α}
    (placed : PlacedAfter passed made skipped opened) (kept : List α) :
    ∃ passed' made' shown unshown,
      (∀ left later, applyFrom passed made (skipped ++ opened.edits.source ++ kept ++ left)
          ((opened.close kept).map ofHunk ++ later) =
        (applyFrom passed' made' (unshown ++ left) later).map (shown ++ ·)) ∧
      shown ++ unshown = skipped ++ opened.edits.target ++ kept ∧
      passed' + unshown.length = opened.old + opened.edits.source.length + kept.length ∧
      made' + unshown.length = opened.new + opened.edits.target.length + kept.length ∧
      kept.drop contextLength <:+ unshown := by
  by_cases unchanged : opened.edits = []
  · have none : opened.close kept = [] := by simp [close, unchanged]
    refine ⟨passed, made, [], skipped ++ kept, ?_, ?_, ?_, ?_, ?_⟩
    · intro left later
      simp [none, unchanged]
    · simp [unchanged]
    · rw [placed.old, unchanged, List.length_append, Script.source_nil, List.length_nil]
      omega
    · rw [placed.new, unchanged, List.length_append, Script.target_nil, List.length_nil]
      omega
    · exact (List.drop_suffix _ _).trans (List.suffix_append _ _)
  · let closed : Hunk α :=
      { opened with edits := opened.edits ++ Script.keepAll (kept.take contextLength) }
    have one : opened.close kept = [closed] := by simp [close, unchanged, closed]
    have sameOld : closed.old = opened.old := rfl
    have sameNew : closed.new = opened.new := rfl
    have placedClosed : PlacedAfter passed made skipped closed := ⟨placed.old, placed.new⟩
    have source : closed.edits.source = opened.edits.source ++ kept.take contextLength := by
      simp [closed]
    have target : closed.edits.target = opened.edits.target ++ kept.take contextLength := by
      simp [closed]
    have cut := congrArg List.length (List.take_append_drop contextLength kept)
    rw [List.length_append] at cut
    refine ⟨closed.old + closed.edits.source.length, closed.new + closed.edits.target.length,
      skipped ++ closed.edits.target, kept.drop contextLength, ?_, ?_, ?_, ?_, List.suffix_refl _⟩
    · intro left later
      have split : skipped ++ opened.edits.source ++ kept ++ left =
          skipped ++ closed.edits.source ++ (kept.drop contextLength ++ left) := by
        rw [source]
        simp only [List.append_assoc]
        rw [← List.append_assoc (kept.take contextLength), List.take_append_drop]
      rw [one, split]
      exact applyFrom_cons placedClosed.old placedClosed.new _ later
    · rw [target, List.append_assoc, List.append_assoc, List.take_append_drop, List.append_assoc]
    · rw [source, sameOld, List.length_append]
      omega
    · rw [target, sameNew, List.length_append]
      omega

omit [DecidableEq α] in
/-- A change goes into the open hunk, or closes it and opens the next one with the last of the
lines kept since. -/
theorem gather_change {change : Edit α} (changes : ∀ line, change ≠ .keep line)
    (opened : Hunk α) (kept : List α) (old new : Nat) (rest : Script α) :
    gather opened kept old new (change :: rest) =
      if 2 * contextLength < kept.length then
        opened.close kept ++ gather ⟨old - contextLength, new - contextLength,
            Script.keepAll (kept.drop (kept.length - contextLength)) ++ [change]⟩ []
          (old + change.source?.toList.length) (new + change.target?.toList.length) rest
      else gather { opened with edits := opened.edits ++ Script.keepAll kept ++ [change] } []
        (old + change.source?.toList.length) (new + change.target?.toList.length) rest := by
  cases change with
  | keep line => exact absurd rfl (changes line)
  | remove line => rfl
  | add line => rfl

/-- The hunks that are gathered from the rest of a script turn what is left of its first text into
what is left of its second. -/
theorem applyFrom_gather (rest : Script α) (passed made : Nat) (skipped : List α)
    (opened : Hunk α) (kept : List α) (old new : Nat)
    (placed : PlacedAfter passed made skipped opened)
    (oldHere : old = opened.old + opened.edits.source.length + kept.length)
    (newHere : new = opened.new + opened.edits.target.length + kept.length) :
    applyFrom passed made (skipped ++ opened.edits.source ++ kept ++ rest.source)
        ((gather opened kept old new rest).map ofHunk) =
      some (skipped ++ opened.edits.target ++ kept ++ rest.target) := by
  induction rest generalizing passed made skipped opened kept old new with
  | nil =>
    obtain ⟨passed', made', shown, unshown, closing, together, -, -, -⟩ :=
      exists_applyFrom_close placed kept
    have final := closing [] []
    simp only [List.append_nil, applyFrom, Option.map_some, together] at final
    simpa [gather] using final
  | cons edit rest inductionHypothesis =>
    by_cases keeps : ∃ line, edit = .keep line
    · obtain ⟨line, rfl⟩ := keeps
      have next := inductionHypothesis passed made skipped opened (kept ++ [line]) (old + 1)
        (new + 1) placed (by rw [oldHere, List.length_append]; rfl)
        (by rw [newHere, List.length_append]; rfl)
      simpa [gather, Edit.source?, Edit.target?] using next
    · rw [gather_change (not_exists.mp keeps)]
      split
      next apart =>
        obtain ⟨passed', made', shown, unshown, closing, together, passedHere, madeHere, suffix⟩ :=
          exists_applyFrom_close placed kept
        -- More than two contexts were kept, so the last of them are among those not shown yet.
        obtain ⟨between, split⟩ : kept.drop (kept.length - contextLength) <:+ unshown :=
          (List.drop_suffix_drop_left _ (by omega)).trans suffix
        have contextLines : (kept.drop (kept.length - contextLength)).length = contextLength := by
          rw [List.length_drop]
          omega
        have unshownLines := congrArg List.length split
        rw [List.length_append, contextLines] at unshownLines
        have next := inductionHypothesis passed' made' between
          ⟨old - contextLength, new - contextLength,
            Script.keepAll (kept.drop (kept.length - contextLength)) ++ [edit]⟩ []
          (old + edit.source?.toList.length) (new + edit.target?.toList.length)
          ⟨by dsimp only; omega, by dsimp only; omega⟩
          (by simp [contextLines]; omega) (by simp [contextLines]; omega)
        simp only [Script.source_append, Script.target_append, Script.source_keepAll,
          Script.target_keepAll, Script.source_cons, Script.target_cons, Script.source_nil,
          Script.target_nil, List.append_nil, ← List.append_assoc, split] at next
        rw [List.map_append, closing, Script.source_cons, ← List.append_assoc, next,
          Option.map_some, Script.target_cons, ← together]
        simp only [List.append_assoc]
      next =>
        have next := inductionHypothesis passed made skipped
          { opened with edits := opened.edits ++ Script.keepAll kept ++ [edit] } []
          (old + edit.source?.toList.length) (new + edit.target?.toList.length)
          ⟨placed.old, placed.new⟩ (by simp; omega) (by simp; omega)
        simpa using next

/-- The hunks of a script turn its first text into its second. -/
theorem patch?_ofScript (script : Script α) :
    patch? ((ofScript script).map ofHunk) script.source = some script.target := by
  have start : PlacedAfter 0 0 [] (⟨0, 0, []⟩ : Hunk α) := ⟨rfl, rfl⟩
  simpa [patch?, ofScript] using applyFrom_gather script 0 0 [] ⟨0, 0, []⟩ [] 0 0 start rfl rfl

end Hunk

/-! ### The way back -/

/-- An edit, seen from the second text. -/
def Edit.inverse : Edit α → Edit α
  | .keep line => .keep line
  | .remove line => .add line
  | .add line => .remove line

/-- A script, seen from its second text. -/
def Script.inverse (script : Script α) : Script α :=
  script.map Edit.inverse

/-- A hunk, seen from the second text. -/
def Hunk.inverse (hunk : Hunk α) : Hunk α :=
  ⟨hunk.new, hunk.old, hunk.edits.inverse⟩

/-- A written hunk, seen from the second text. -/
def WrittenHunk.inverse (hunk : WrittenHunk α) : WrittenHunk α :=
  ⟨hunk.new, hunk.old, hunk.edits.inverse⟩

@[simp] theorem Edit.source?_inverse (edit : Edit α) : edit.inverse.source? = edit.target? := by
  cases edit <;> rfl

@[simp] theorem Edit.target?_inverse (edit : Edit α) : edit.inverse.target? = edit.source? := by
  cases edit <;> rfl

@[simp] theorem Script.source_inverse (script : Script α) :
    script.inverse.source = script.target := by
  rw [source, inverse, List.filterMap_map]
  exact congrArg (List.filterMap · script) (funext Edit.source?_inverse)

@[simp] theorem Script.target_inverse (script : Script α) :
    script.inverse.target = script.source := by
  rw [target, inverse, List.filterMap_map]
  exact congrArg (List.filterMap · script) (funext Edit.target?_inverse)

@[simp] theorem Script.inverse_append (left right : Script α) :
    (left ++ right : Script α).inverse = left.inverse ++ right.inverse :=
  List.map_append

@[simp] theorem Script.inverse_keepAll (lines : List α) :
    (keepAll lines).inverse = keepAll lines := by
  rw [inverse, keepAll, List.map_map]
  rfl

theorem Script.inverse_singleton (edit : Edit α) :
    inverse [edit] = [edit.inverse] := rfl

theorem WrittenHunk.ofHunk_inverse (hunk : Hunk α) :
    ofHunk hunk.inverse = (ofHunk hunk).inverse := by
  simp [ofHunk, Hunk.inverse, inverse]

namespace Hunk

theorem inverse_mk (old new : Nat) (edits : Script α) :
    inverse ⟨old, new, edits⟩ = ⟨new, old, edits.inverse⟩ := rfl

theorem close_inverse (opened : Hunk α) (kept : List α) :
    opened.inverse.close kept = (opened.close kept).map inverse := by
  unfold close
  by_cases unchanged : opened.edits = []
  · simp [inverse, Script.inverse, unchanged]
  · have unchangedBack : opened.inverse.edits ≠ [] := by
      simpa [inverse, Script.inverse] using unchanged
    have shown : (opened.edits ++ Script.keepAll (kept.take contextLength) : Script α).inverse =
        opened.edits.inverse ++ Script.keepAll (kept.take contextLength) := by
      rw [Script.inverse_append, Script.inverse_keepAll]
    rw [if_neg (by simpa using unchangedBack), if_neg (by simpa using unchanged)]
    exact congrArg (fun edits => [Hunk.mk opened.new opened.old edits]) shown.symm

/-- The hunks of a script that is seen from its second text are its hunks, seen from there. -/
theorem gather_inverse (rest : Script α) (opened : Hunk α) (kept : List α) (old new : Nat) :
    gather opened.inverse kept new old (Script.inverse rest) =
      (gather opened kept old new rest).map inverse := by
  induction rest generalizing opened kept old new with
  | nil => exact close_inverse opened kept
  | cons edit rest inductionHypothesis =>
    by_cases keeps : ∃ line, edit = .keep line
    · obtain ⟨line, rfl⟩ := keeps
      exact inductionHypothesis opened (kept ++ [line]) (old + 1) (new + 1)
    · have changes := not_exists.mp keeps
      have changesBack : ∀ line, edit.inverse ≠ .keep line := by
        cases edit with
        | keep line => exact absurd rfl (changes line)
        | remove line => simp [Edit.inverse]
        | add line => simp [Edit.inverse]
      rw [show Script.inverse (edit :: rest) = edit.inverse :: Script.inverse rest from rfl,
        gather_change changesBack, gather_change changes, Edit.source?_inverse,
        Edit.target?_inverse]
      split
      next =>
        rw [List.map_append, close_inverse, ← inductionHypothesis, inverse_mk,
          Script.inverse_append, Script.inverse_keepAll, Script.inverse_singleton]
      next =>
        have shown : (opened.edits ++ Script.keepAll kept ++ [edit] : Script α).inverse =
            opened.edits.inverse ++ Script.keepAll kept ++ [edit.inverse] := by
          rw [Script.inverse_append, Script.inverse_append, Script.inverse_keepAll,
            Script.inverse_singleton]
        rw [← inductionHypothesis]
        exact congrArg (fun edits => gather ⟨opened.new, opened.old, edits⟩ [] _ _ _) shown.symm

open WrittenHunk in
/-- The hunks of a script, seen from its second text, turn that text into the first. -/
theorem patch?_ofScript_inverse [DecidableEq α] (script : Script α) :
    patch? (((ofScript script).map ofHunk).map WrittenHunk.inverse) script.target =
      some script.source := by
  have back : (ofScript script.inverse).map ofHunk =
      ((ofScript script).map ofHunk).map WrittenHunk.inverse := by
    rw [ofScript, show (⟨0, 0, []⟩ : Hunk α) = Hunk.inverse ⟨0, 0, []⟩ from rfl, gather_inverse,
      List.map_map, List.map_map, ofScript]
    exact congrArg (List.map · _) (funext ofHunk_inverse)
  have applied := patch?_ofScript script.inverse
  rwa [back, Script.source_inverse, Script.target_inverse] at applied

end Hunk

end Golden.Diff
