/-
This file carries out a whole run as settings describe it: the fixtures of a
directory are collected, paired and narrowed, the pairs are reported, and only then
are the command lines looked at and the pairs run.
-/

import Golden.Run.Process

namespace Golden.Run

open Golden Golden.Fixture

/-- The pairs that settings choose among the files. -/
def selectPairs (settings : Settings) (files : Files) : Except Error (List Pair) := do
  let collection ← (Collection.discover settings.directory files).mapError Error.fixtures
  let pairs ← (collection.pairs settings.pairing).mapError Error.fixtures
  match settings.filter with
  | some keyword => return Pair.select keyword pairs
  | none => return pairs

/-- A run from the collection of the fixtures to the count of the pairs. -/
def session {σ : Type} (launcher : Launcher σ) (settings : Settings) (timing : Timing) :
    Action σ (Except Error Summary) := do
  match selectPairs settings (← Action.files) with
  | .error error => return .error error
  | .ok pairs =>
    Action.report (.collected pairs)
    match Plan.ofSettings launcher settings with
    | .error error => return .error error
    | .ok plan => plan.run timing pairs

section

variable {σ : Type} {launcher : Launcher σ} {settings : Settings} {world : World σ}

/-- Nothing is done when no pairs can be chosen. -/
theorem session_of_unselected {error : Error}
    (unselected : selectPairs settings world.files = .error error) (timing : Timing) :
    session launcher settings timing world = ⟨.error error, [], world⟩ := by
  unfold session
  rw [Action.bind_apply, Action.files_apply]
  dsimp only
  rw [unselected]
  rfl

/-- The pairs are reported, and nothing else is done, when a line calls no program. -/
theorem session_of_unplanned {pairs : List Pair} {error : Error}
    (selected : selectPairs settings world.files = .ok pairs)
    (unplanned : Plan.ofSettings launcher settings = .error error) (timing : Timing) :
    session launcher settings timing world =
      ⟨.error error, [.report (.collected pairs)], world⟩ := by
  unfold session
  rw [Action.bind_apply, Action.files_apply]
  dsimp only
  rw [selected]
  dsimp only
  rw [unplanned]
  rfl

/-- The pairs are reported and run when every line calls a program. -/
theorem session_of_planned {pairs : List Pair} {plan : Plan σ}
    (selected : selectPairs settings world.files = .ok pairs)
    (planned : Plan.ofSettings launcher settings = .ok plan) (timing : Timing) :
    session launcher settings timing world =
      let run := plan.run timing pairs world
      ⟨run.result, .report (.collected pairs) :: run.log, run.world⟩ := by
  unfold session
  rw [Action.bind_apply, Action.files_apply]
  dsimp only
  rw [selected]
  dsimp only
  rw [planned]
  rfl

end

/-- The events that a log reports, in order. -/
def eventsOf (log : List Call) : List Event :=
  log.filterMap fun
    | .report event => some event
    | _ => none

end Golden.Run
