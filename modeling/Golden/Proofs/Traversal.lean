/-
This file describes traversals of lists whose steps may fail. A traversal succeeds
exactly when all its steps do, and a traversal that fails does so with the fault of
the first step that fails.
-/

namespace Golden

/-- A traversal succeeds exactly when every step does, with the results of the steps. -/
theorem mapM_eq_ok_iff {α β ε : Type} (step : α → Except ε β) (items : List α)
    (results : List β) :
    items.mapM step = .ok results ↔ items.map step = results.map .ok := by
  induction items generalizing results with
  | nil => cases results <;> simp [pure, Except.pure]
  | cons item rest inductionHypothesis =>
    rw [List.mapM_cons, List.map_cons]
    cases first : step item with
    | error fault => cases results <;> simp [bind, Except.bind]
    | ok value =>
      cases later : rest.mapM step with
      | error fault =>
        cases results with
        | nil => simp [bind, Except.bind]
        | cons result others => simp [bind, Except.bind, ← inductionHypothesis, later]
      | ok values =>
        cases results with
        | nil => simp [bind, Except.bind, pure, Except.pure]
        | cons result others =>
          simp [bind, Except.bind, pure, Except.pure, ← inductionHypothesis, later]

/-- A traversal whose steps all succeed collects their results. -/
theorem mapM_of_forall_ok {α β ε : Type} {step : α → Except ε β} {items : List α}
    (value : α → β) (each : ∀ item ∈ items, step item = .ok (value item)) :
    items.mapM step = .ok (items.map value) := by
  rw [mapM_eq_ok_iff, List.map_map]
  exact List.map_congr_left each

/-- Traversals with steps that come to the same on every item come to the same. -/
theorem mapM_congr {α β ε : Type} {step other : α → Except ε β} {items : List α}
    (same : ∀ item ∈ items, step item = other item) : items.mapM step = items.mapM other := by
  induction items with
  | nil => rfl
  | cons item rest inductionHypothesis =>
    obtain ⟨first, later⟩ := List.forall_mem_cons.mp same
    rw [List.mapM_cons, List.mapM_cons, first, inductionHypothesis later]

/-- Every step of a traversal that succeeds does. -/
theorem exists_ok_of_mapM_eq_ok {α β ε : Type} {step : α → Except ε β} {items : List α}
    {results : List β} (succeeded : items.mapM step = .ok results) {item : α}
    (member : item ∈ items) : ∃ result ∈ results, step item = .ok result := by
  rw [mapM_eq_ok_iff] at succeeded
  have listed : step item ∈ results.map .ok := succeeded ▸ List.mem_map_of_mem member
  obtain ⟨result, resultMember, equal⟩ := List.mem_map.mp listed
  exact ⟨result, resultMember, equal.symm⟩

/-- A traversal with other words for its faults is one whose steps have these words. -/
theorem mapError_mapM {α β ε ε' : Type} (change : ε → ε') (step : α → Except ε β)
    (items : List α) :
    (items.mapM step).mapError change = items.mapM fun item => (step item).mapError change := by
  induction items with
  | nil => rfl
  | cons item rest inductionHypothesis =>
    rw [List.mapM_cons, List.mapM_cons, ← inductionHypothesis]
    cases step item with
    | error fault => rfl
    | ok value => cases rest.mapM step <;> rfl

/-- What is made of a result has no faults of its own. -/
theorem mapError_bind_pure {α β ε ε' : Type} (change : ε → ε') (outcome : Except ε α)
    (make : α → β) :
    (outcome >>= fun value => pure (make value)).mapError change =
      outcome.mapError change >>= fun value => pure (make value) := by
  cases outcome <;> rfl

/-- A result that is changed afterwards fails where it fails itself. -/
theorem map_eq_error_iff {α β ε : Type} (change : α → β) (outcome : Except ε α) (fault : ε) :
    outcome.map change = .error fault ↔ outcome = .error fault := by
  cases outcome <;> simp [Except.map]

/-- The first item of a list that is refused is its head, or the first that is refused behind the
head. -/
theorem exists_split_cons_iff {α : Type} {refused : List α → α → Prop} {head : α} {rest : List α} :
    (∃ before item after, head :: rest = before ++ item :: after ∧ refused before item) ↔
      refused [] head ∨
        ∃ before item after, rest = before ++ item :: after ∧ refused (head :: before) item := by
  constructor
  · rintro ⟨before, item, after, split, fails⟩
    rcases List.cons_eq_append_iff.mp split with ⟨rfl, here⟩ | ⟨others, rfl, later⟩
    · obtain ⟨rfl, -⟩ := List.cons.inj here
      exact .inl fails
    · exact .inr ⟨others, item, after, later, fails⟩
  · rintro (fails | ⟨before, item, after, rfl, fails⟩)
    · exact ⟨[], head, rest, rfl, fails⟩
    · exact ⟨head :: before, item, after, rfl, fails⟩

/-- A traversal fails exactly where its first failing step does. -/
theorem mapM_eq_error_iff {α β ε : Type} (step : α → Except ε β) (items : List α) (fault : ε) :
    items.mapM step = .error fault ↔
      ∃ before item after, items = before ++ item :: after ∧
        (∀ earlier ∈ before, ∃ result, step earlier = .ok result) ∧
        step item = .error fault := by
  induction items with
  | nil => simp [pure, Except.pure]
  | cons head rest inductionHypothesis =>
    rw [List.mapM_cons, exists_split_cons_iff]
    cases first : step head with
    | error other => simp [bind, Except.bind, first]
    | ok value =>
      show (rest.mapM step).map (value :: ·) = .error fault ↔ _
      rw [map_eq_error_iff, inductionHypothesis]
      simp [first]

/-- Traversals inside a traversal fail as one traversal of all their items does. -/
theorem mapM_mapM_eq_error_iff {α β γ δ ε : Type} (inner : α → List β) (step : β → Except ε γ)
    (combine : List γ → δ) (items : List α) (fault : ε) :
    items.mapM (fun item => combine <$> (inner item).mapM step) = .error fault ↔
      (items.flatMap inner).mapM step = .error fault := by
  induction items with
  | nil => simp [pure, Except.pure]
  | cons item rest inductionHypothesis =>
    rw [List.mapM_cons, List.flatMap_cons, List.mapM_append]
    cases (inner item).mapM step with
    | error other => simp [bind, Except.bind, Functor.map, Except.map]
    | ok parts =>
      have outer := map_eq_error_iff (combine parts :: ·)
        (rest.mapM fun item => combine <$> (inner item).mapM step) fault
      have flat := map_eq_error_iff (parts ++ ·) ((rest.flatMap inner).mapM step) fault
      rw [← inductionHypothesis] at flat
      exact outer.trans flat.symm

end Golden
