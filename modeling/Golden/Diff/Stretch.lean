/-
This file measures how far two texts agree around a pair of positions, and cuts
both texts at such a stretch. A search over positions may propose any stretch; it
is used only when it is not empty and has the same lines in both texts.
-/

import Golden.Diff.Script

namespace Golden.Diff

variable {α : Type} [DecidableEq α]

/-! ### Agreement around a pair of positions -/

/-- Whether both texts have a line at the given positions, and the same one. -/
def agreeAt (before after : Array α) (old new : Nat) : Bool :=
  match before[old]?, after[new]? with
  | some line, some other => line = other
  | _, _ => false

/-- The number of lines from a pair of positions on that are the same in both texts. -/
def linesAhead (before after : Array α) (old new : Nat) : Nat :=
  if _ : old < before.size then
    if agreeAt before after old new then linesAhead before after (old + 1) (new + 1) + 1 else 0
  else 0
termination_by before.size - old

/-- The number of lines up to a pair of positions that are the same in both texts. -/
def linesBack (before after : Array α) : Nat → Nat → Nat
  | old + 1, new + 1 =>
    if agreeAt before after old new then linesBack before after old new + 1 else 0
  | _, _ => 0

/-! ### Cutting at a stretch -/

/-- A stretch of consecutive lines, by its place in either text and its length. -/
structure Stretch where
  old : Nat
  new : Nat
  length : Nat
deriving DecidableEq, Repr

/-- A text in three parts: before a stretch, the stretch, and after it. -/
structure Cut (α : Type) where
  left : List α
  middle : List α
  right : List α

/-- The parts of a text around a number of lines from a position on. -/
def Cut.of (lines : List α) (start length : Nat) : Cut α :=
  ⟨lines.take start, (lines.drop start).take length, (lines.drop start).drop length⟩

omit [DecidableEq α] in
theorem Cut.append (lines : List α) (start length : Nat) :
    (Cut.of lines start length).left ++
      ((Cut.of lines start length).middle ++ (Cut.of lines start length).right) = lines := by
  rw [Cut.of, List.take_append_drop, List.take_append_drop]

omit [DecidableEq α] in
/-- What a cut leaves on either side is shorter than the text when the stretch is not empty. -/
theorem Cut.length_lt {lines : List α} {start length : Nat}
    (some : (Cut.of lines start length).middle ≠ []) :
    (Cut.of lines start length).left.length < lines.length ∧
      (Cut.of lines start length).right.length < lines.length := by
  have positive := List.length_pos_iff.mpr some
  have total := congrArg List.length (Cut.append lines start length)
  simp only [List.length_append] at total
  omega

end Golden.Diff
