/-
This file says what becomes of lines when texts are put one behind the other. A text
that is closed keeps its lines to itself. In a text that is open the last line is not at
its end: the first line of what comes next goes on in it, and there is one line less
than the texts have by themselves. So the lines of texts that are put together are the
lines of each of them exactly when nothing comes behind a text that is open.
-/

import Golden.Proofs.Text.Lines

namespace Golden.Text

/-- Texts of which each stands behind the others are closed when the last text that is not empty
is. -/
theorem closedText_flatMap_iff {α : Type} (text : α → List Char) (items : List α) :
    ClosedText (items.flatMap text) ↔
      ∀ before item after, items = before ++ item :: after → ¬ ClosedText (text item) →
        after.flatMap text ≠ [] := by
  induction items with
  | nil => simp [ClosedText]
  | cons first rest inductionHypothesis =>
    rw [List.flatMap_cons, closedText_append_iff, inductionHypothesis]
    constructor
    · rintro ⟨later, here⟩ before item after split isOpen nothing
      rcases List.cons_eq_append_iff.mp split with ⟨rfl, same⟩ | ⟨others, rfl, behind⟩
      · obtain ⟨rfl, rfl⟩ := List.cons.inj same
        exact isOpen (here nothing)
      · exact later others item after behind isOpen nothing
    · intro each
      refine ⟨fun before item after split => each (first :: before) item after (split ▸ rfl), ?_⟩
      intro nothing
      by_contra isOpen
      exact each [] first rest rfl isOpen nothing

/-- Texts that are all closed are closed when they are put together. -/
theorem ClosedText.flatMap {α : Type} {text : α → List Char} {items : List α}
    (closed : ∀ item ∈ items, ClosedText (text item)) : ClosedText (items.flatMap text) := by
  refine (closedText_flatMap_iff text items).mpr fun before item after split isOpen => ?_
  exact absurd (closed item (by rw [split]; simp)) isOpen

/-- A text behind an open line goes on in this line. -/
theorem length_chunks_append_of_not_closedText {front rest : List Char}
    (isOpen : ¬ ClosedText front) (nonempty : rest ≠ []) :
    (chunks (front ++ rest)).length + 1 = (chunks front).length + (chunks rest).length := by
  induction front using cases_at_separator '\n' with
  | empty => exact absurd (.inl rfl) isOpen
  | unclosed line clean lineNonempty =>
    rw [chunks_of_not_mem clean lineNonempty]
    induction rest using cases_at_separator '\n' with
    | empty => exact absurd rfl nonempty
    | unclosed other otherClean otherNonempty =>
      have together : '\n' ∉ line ++ other := by simp [clean, otherClean]
      rw [chunks_of_not_mem together (List.append_ne_nil_of_left_ne_nil lineNonempty _),
        chunks_of_not_mem otherClean otherNonempty]
      rfl
    | closed other others otherClean _ =>
      have together : '\n' ∉ line ++ other := by simp [clean, otherClean]
      rw [← List.append_assoc, chunks_append_lineFeed together, chunks_append_lineFeed otherClean]
      simp [Nat.add_comm]
  | closed line others clean inductionHypothesis =>
    rw [closedText_append_lineFeed_iff] at isOpen
    rw [List.append_assoc, List.cons_append, chunks_append_lineFeed clean,
      chunks_append_lineFeed clean, List.length_cons, List.length_cons, Nat.add_right_comm,
      inductionHypothesis isOpen, Nat.add_right_comm]

/-- Putting texts together makes no new chunks. -/
theorem length_chunks_append_le (front rest : List Char) :
    (chunks (front ++ rest)).length ≤ (chunks front).length + (chunks rest).length := by
  by_cases closed : ClosedText front
  · exact Nat.le_of_eq (by rw [chunks_append_of_closedText closed, List.length_append])
  · by_cases nothing : rest = []
    · rw [nothing, List.append_nil]
      exact Nat.le_add_right _ _
    · rw [← length_chunks_append_of_not_closedText closed nothing]
      exact Nat.le_succ _

theorem length_chunks_flatMap_le {α : Type} (text : α → List Char) (items : List α) :
    (chunks (items.flatMap text)).length ≤
      (items.flatMap fun item => chunks (text item)).length := by
  induction items with
  | nil => exact Nat.le_refl 0
  | cons item rest inductionHypothesis =>
    rw [List.flatMap_cons, List.flatMap_cons, List.length_append]
    exact Nat.le_trans (length_chunks_append_le _ _) (Nat.add_le_add_left inductionHypothesis _)

/-- The chunks of texts are those of each of them exactly when nothing stands behind a text that is
open. -/
theorem chunks_flatMap_eq_iff {α : Type} (text : α → List Char) (items : List α) :
    (chunks (items.flatMap text) = items.flatMap fun item => chunks (text item)) ↔
      ∀ before item after, items = before ++ item :: after → ¬ ClosedText (text item) →
        after.flatMap text = [] := by
  induction items with
  | nil => simp [chunks]
  | cons first rest inductionHypothesis =>
    rw [List.flatMap_cons, List.flatMap_cons]
    constructor
    · intro same before item after split isOpen
      have here : ¬ ClosedText (text first) → rest.flatMap text = [] := by
        intro firstOpen
        by_contra nonempty
        have shorter := length_chunks_append_of_not_closedText firstOpen nonempty
        have bound := length_chunks_flatMap_le text rest
        rw [same, List.length_append] at shorter
        omega
      have later : chunks (rest.flatMap text) = rest.flatMap fun other => chunks (text other) := by
        by_cases closed : ClosedText (text first)
        · rw [chunks_append_of_closedText closed] at same
          exact List.append_cancel_left same
        · rw [here closed, List.append_nil] at same
          rw [here closed]
          exact (List.self_eq_append_right.mp same).symm
      rcases List.cons_eq_append_iff.mp split with ⟨rfl, equal⟩ | ⟨others, rfl, behind⟩
      · obtain ⟨rfl, rfl⟩ := List.cons.inj equal
        exact here isOpen
      · exact inductionHypothesis.mp later others item after behind isOpen
    · intro each
      have later := inductionHypothesis.mpr fun before item after split =>
        each (first :: before) item after (split ▸ rfl)
      by_cases closed : ClosedText (text first)
      · rw [chunks_append_of_closedText closed, later]
      · have nothing := each [] first rest rfl closed
        rw [← later, nothing, List.append_nil]
        exact (List.append_nil _).symm

/-- Texts that are all closed have their chunks to themselves. -/
theorem chunks_flatMap_of_closedText {α : Type} {text : α → List Char} {items : List α}
    (closed : ∀ item ∈ items, ClosedText (text item)) :
    chunks (items.flatMap text) = items.flatMap fun item => chunks (text item) := by
  refine (chunks_flatMap_eq_iff text items).mpr fun before item after split isOpen => ?_
  exact absurd (closed item (by rw [split]; simp)) isOpen

end Golden.Text
