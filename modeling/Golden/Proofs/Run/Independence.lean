/-
This file says that the pairs of a run do not influence one another. All of them
share one output, and each visit clears it first. So where the program and the
comparison depend on nothing but the files, and change nothing but the output, every
visit finds the files that the first one found, whatever the visits before it came to.

The relation that carries the proof is that two file systems differ at the output
alone. Visits that begin in this relation come to the same verdict, and every visit
leaves the files in this relation to those that it began with. What a whole run reports
is therefore told pair by pair: each pair has one verdict, in whatever order, number and
company the pairs are run, and also when they are run again.
-/

import Golden.Proofs.Run.Clearing
import Golden.Proofs.Run.Protocol
import Golden.Run.Process

namespace Golden.Run

open Golden.Fixture

variable {σ : Type}

/-! ### Collaborators that keep to the output -/

/-- A program keeps to its output when it is run where nothing stands there: how it ends and what
it leaves is told by the files, and all that it has changed is taken away by clearing the output. -/
structure Confined (output : Path)
    (run : Path → Path → World σ → Except Error Ending × World σ) : Prop where
  ending : ∀ input (world other : World σ), Vacant output world.files →
    world.files = other.files → (run input output world).1 = (run input output other).1
  written : ∀ input (world other : World σ), Vacant output world.files →
    world.files = other.files → (run input output world).2.files = (run input output other).2.files
  cleared : ∀ input (world : World σ), Vacant output world.files →
    Plan.removeOutput output (run input output world).2.files = (.ok (), world.files)

/-- A plan whose build changes no file, whose program keeps to the output, and whose comparison
changes no file and finds what the files tell. -/
structure Isolated (plan : Plan σ) : Prop where
  builds : ∀ world, (plan.collaborators.build world).2.files = world.files
  runs : Confined plan.output plan.collaborators.run
  finds : ∀ actual expected (world other : World σ), world.files = other.files →
    (plan.collaborators.compare actual expected world).1 =
      (plan.collaborators.compare actual expected other).1
  reads : ∀ actual expected world,
    (plan.collaborators.compare actual expected world).2.files = world.files

/-- A program keeps to its output when it changes the files by writing its output, if at all. -/
theorem Confined.of_write {output : Path}
    {run : Path → Path → World σ → Except Error Ending × World σ}
    (ending : ∀ input (world other : World σ), world.files = other.files →
      (run input output world).1 = (run input output other).1)
    (written : ∀ input (world other : World σ), world.files = other.files →
      (run input output world).2.files = (run input output other).2.files)
    (writes : ∀ input world, (run input output world).2.files = world.files ∨
      ∃ content, world.files.write output content = .ok (run input output world).2.files) :
    Confined output run where
  ending input world other _ := ending input world other
  written input world other _ := written input world other
  cleared input world vacant := by
    rcases writes input world with unchanged | ⟨content, wrote⟩
    · rw [unchanged]
      exact removeOutput_of_vacant vacant
    · exact removeOutput_write vacant wrote

/-- A plan is isolated when it builds nothing, runs a program that keeps to the output, and compares
by lines. -/
theorem isolated_of_confined {output : Path}
    {run : Path → Path → World σ → Except Error Ending × World σ} (confined : Confined output run)
    (stopOnFail abortOnBuildFailure : Bool) :
    Isolated
      ⟨⟨buildNothing, run, compareByLines⟩, output, stopOnFail, abortOnBuildFailure⟩ where
  builds _ := rfl
  runs := confined
  finds actual expected _ _ same := congrArg (compareFiles · actual expected) same
  reads _ _ _ := rfl

/-! ### A program that copies -/

/-- A program that copies the file named by its first argument to the second one. -/
def copier : Launcher Unit := fun _ arguments world =>
  match arguments with
  | [source, destination] =>
    match world.files.copy ⟨source⟩ ⟨destination⟩ with
    | .ok files => (.ok ⟨[], [], some 0⟩, { world with files := files })
    | .error _ => (.ok ⟨[], [], some 1⟩, world)
  | _ => (.ok ⟨[], [], some 2⟩, world)

theorem copier_files (program : String) (input output : Path) (world : World Unit) :
    (copier program [input.text, output.text] world).2.files = world.files ∨
      ∃ content, world.files.write output content =
        .ok (copier program [input.text, output.text] world).2.files := by
  unfold copier
  dsimp only
  cases copied : world.files.copy ⟨input.text⟩ ⟨output.text⟩ with
  | error cause => exact .inl rfl
  | ok files =>
    refine .inr ?_
    unfold Files.copy at copied
    cases examined : world.files.examine ⟨input.text⟩ with
    | error cause =>
      rw [examined] at copied
      cases copied
    | ok found =>
      obtain ⟨location, node⟩ := found
      rw [examined] at copied
      cases node with
      | file content => exact ⟨content, copied⟩
      | directory => cases copied
      | emptyDevice => cases copied

/-- A program that copies its input keeps to its output. -/
theorem confined_copier (output : Path) (program : String) :
    Confined output (runWith copier ⟨program, []⟩) := by
  have determined (world other : World Unit) (same : world.files = other.files) :
      world = other := by
    cases world
    cases other
    exact congrArg (World.mk · ()) same
  refine .of_write (fun input world other same => ?_) (fun input world other same => ?_)
    fun input world => ?_
  · rw [determined world other same]
  · rw [determined world other same]
  · have copied := copier_files program input output world
    have started : (runWith copier ⟨program, []⟩ input output world).2.files =
        (if ([program, input.text, output.text]).all isHandable then
          (copier program [input.text, output.text] world).2.files else world.files) := by
      unfold runWith start
      simp only [List.nil_append, List.map_cons, List.map_nil]
      split
      next =>
        rcases copier program [input.text, output.text] world with ⟨finished | cause, after⟩ <;> rfl
      next => rfl
    rw [started]
    split
    next => exact copied
    next => exact .inl rfl

/-! ### One visit -/

namespace Visit

variable {plan : Plan σ} {visit other : Visit σ}

theorem files_clearing (visit : Visit σ) :
    ((visit.clearing plan).1, (visit.clearing plan).2.files) =
      Plan.removeOutput plan.output visit.before.files := by
  rw [clearing_eq_removeOutput]

theorem vacant_clearing {visit : Visit σ} (cleared : (visit.clearing plan).1 = .ok ()) :
    Vacant plan.output (visit.clearing plan).2.files := by
  rw [clearing_eq_removeOutput] at cleared ⊢
  exact vacant_removeOutput plan.output visit.before.files cleared

section

variable (isolated : Isolated plan) (input : visit.pair.input = other.pair.input)
  (expected : visit.pair.expected = other.pair.expected)
  (same : SameBeside plan.output visit.before.files other.before.files)

include same

theorem clearing_eq : (visit.clearing plan).1 = (other.clearing plan).1 ∧
    (visit.clearing plan).2.files = (other.clearing plan).2.files :=
  Prod.mk.inj ((files_clearing visit).trans (same.trans (files_clearing other).symm))

include isolated input

/-- The program ends alike in both visits, and leaves the same files. -/
theorem running_eq (cleared : (visit.clearing plan).1 = .ok ()) :
    (visit.running plan).1 = (other.running plan).1 ∧
      (visit.running plan).2.files = (other.running plan).2.files := by
  have vacant := vacant_clearing cleared
  have files := (clearing_eq same).2
  constructor
  · show (plan.collaborators.run visit.pair.input plan.output _).1 =
      (plan.collaborators.run other.pair.input plan.output _).1
    rw [← input]
    exact isolated.runs.ending _ _ _ vacant files
  · show (plan.collaborators.run visit.pair.input plan.output _).2.files =
      (plan.collaborators.run other.pair.input plan.output _).2.files
    rw [← input]
    exact isolated.runs.written _ _ _ vacant files

/-- The output is compared in both visits or in neither. -/
theorem compares_eq : visit.compares plan = other.compares plan := by
  unfold compares runs
  rw [← (clearing_eq same).1]
  cases clearing : (visit.clearing plan).1 with
  | error cause => rfl
  | ok cleared =>
    obtain ⟨ending, written⟩ := running_eq isolated input same clearing
    rw [ending, written]

include expected

/-- Visits of the same fixtures come to the same verdict when the files that they begin with
differ at the output alone. -/
theorem verdict_eq : visit.verdict plan = other.verdict plan := by
  have compared := compares_eq isolated input same
  unfold verdict
  rw [← (clearing_eq same).1, compared]
  cases clearing : (visit.clearing plan).1 with
  | error cause => rfl
  | ok cleared =>
    obtain ⟨ending, written⟩ := running_eq isolated input same clearing
    have found : (visit.comparing plan).1 = (other.comparing plan).1 := by
      show (plan.collaborators.compare plan.output visit.pair.expected _).1 =
        (plan.collaborators.compare plan.output other.pair.expected _).1
      rw [← expected]
      exact isolated.finds _ _ _ _ written
    rw [ending, found]

end

/-- A visit leaves files that differ at the output alone from those that it began with. -/
theorem sameBeside_after (isolated : Isolated plan) (visit : Visit σ) :
    SameBeside plan.output (visit.after plan).files visit.before.files := by
  have cleared : SameBeside plan.output (visit.clearing plan).2.files visit.before.files := by
    rw [clearing_eq_removeOutput]
    exact removeOutput_removeOutput plan.output visit.before.files
  cases clearing : (visit.clearing plan).1 with
  | error cause =>
    have notRun := visit.runs_of_error plan clearing
    rw [after, visit.compares_of_not_runs plan notRun, notRun]
    exact cleared
  | ok done =>
    have vacant := vacant_clearing clearing
    have ran : SameBeside plan.output (visit.running plan).2.files visit.before.files :=
      ((isolated.runs.cleared visit.pair.input _ vacant).trans
        (removeOutput_of_vacant vacant).symm).trans cleared
    have compared : (visit.comparing plan).2.files = (visit.running plan).2.files :=
      isolated.reads plan.output visit.pair.expected _
    rw [after, visit.runs_of_ok plan clearing]
    split
    next => rwa [compared]
    next => exact ran

end Visit

/-! ### All visits -/

/-- What is reported of pairs that were run, in order. -/
def outcomesOf (log : List Call) : List (Pair × Outcome) :=
  log.filterMap fun
    | .report (.finished pair outcome _) => some (pair, outcome)
    | _ => none

theorem outcomesOf_append (first second : List Call) :
    outcomesOf (first ++ second) = outcomesOf first ++ outcomesOf second :=
  List.filterMap_append

theorem outcomesOf_calls (plan : Plan σ) (visit : Visit σ) :
    outcomesOf (visit.calls plan) = [(visit.pair, visit.outcome)] := by
  unfold Visit.calls Visit.work
  cases visit.runs plan <;> cases visit.compares plan <;> rfl

theorem outcomesOf_buildEvent (built : Except Error String) :
    outcomesOf [.build, .report (buildEvent built)] = [] := by
  cases built <;> rfl

/-- What is reported of pairs when each of them has its verdict: of all of them, or of those up to
the first that does not pass. -/
def reported (stopOnFail : Bool) (verdict : Path → Path → Outcome) :
    List Pair → List (Pair × Outcome)
  | [] => []
  | pair :: rest =>
    (pair, verdict pair.input pair.expected) ::
      if stopOnFail && !(verdict pair.input pair.expected).isPass then []
      else reported stopOnFail verdict rest

theorem reported_of_goesOn (verdict : Path → Path → Outcome) (pairs : List Pair) :
    reported false verdict pairs =
      pairs.map fun pair => (pair, verdict pair.input pair.expected) := by
  induction pairs with
  | nil => rfl
  | cons pair rest inductionHypothesis =>
    rw [reported, List.map_cons, inductionHypothesis]
    rfl

/-- What becomes of fixtures when they are the first to be run in a world. -/
def verdictIn (plan : Plan σ) (origin : World σ) (input expected : Path) : Outcome :=
  (plan.runPair ⟨0, "", input, expected⟩ origin).result

section

variable {plan : Plan σ} (isolated : Isolated plan) (timing : Timing)

include isolated

/-- A pair comes to its verdict, whatever its number and its key. -/
theorem runPair_result (origin : World σ) (pair : Pair) :
    (plan.runPair pair origin).result = verdictIn plan origin pair.input pair.expected := by
  let visit : Visit σ := ⟨pair, origin, .passed, .zero⟩
  let first : Visit σ := ⟨⟨0, "", pair.input, pair.expected⟩, origin, .passed, .zero⟩
  have here : SameBeside plan.output visit.before.files first.before.files := rfl
  have alike : visit.verdict plan = first.verdict plan := Visit.verdict_eq isolated rfl rfl here
  calc (plan.runPair pair origin).result = visit.verdict plan :=
        congrArg Step.result (runPair_apply plan visit)
    _ = first.verdict plan := alike
    _ = verdictIn plan origin pair.input pair.expected :=
        (congrArg Step.result (runPair_apply plan first)).symm

/-- Every pair comes to its verdict, and the files that are left differ from those at the beginning
at the output alone. -/
theorem outcomesOf_runPairs (summary : Summary) (pairs : List Pair) {world origin : World σ}
    (same : SameBeside plan.output world.files origin.files) :
    outcomesOf (plan.runPairs timing summary pairs world).log =
        reported plan.stopOnFail (verdictIn plan origin) pairs ∧
      SameBeside plan.output (plan.runPairs timing summary pairs world).world.files
        origin.files := by
  induction pairs generalizing summary world with
  | nil => exact ⟨rfl, same⟩
  | cons pair rest inductionHypothesis =>
    let visit : Visit σ :=
      ⟨pair, world, verdictIn plan origin pair.input pair.expected, timing.pair summary.total⟩
    let first : Visit σ := ⟨pair, origin, .passed, .zero⟩
    have alone : first.verdict plan = verdictIn plan origin pair.input pair.expected :=
      (congrArg Step.result (runPair_apply plan first)).symm.trans
        (runPair_result isolated origin pair)
    have alike : visit.verdict plan = first.verdict plan :=
      Visit.verdict_eq isolated rfl rfl same
    have verdict : visit.outcome = visit.verdict plan := (alike.trans alone).symm
    have after : SameBeside plan.output (visit.after plan).files origin.files :=
      (visit.sameBeside_after isolated).trans same
    have begun := runPairs_cons_apply plan timing summary visit rest verdict rfl
    obtain ⟨later, left⟩ := inductionHypothesis (summary.count visit.outcome) after
    rw [show plan.runPairs timing summary (pair :: rest) world = _ from begun, reported]
    by_cases stopping : (plan.stopOnFail && !visit.outcome.isPass) = true
    · rw [if_pos stopping]
      simp only [outcomesOf_append, outcomesOf_calls, if_pos stopping]
      exact ⟨rfl, after⟩
    · rw [if_neg stopping]
      simp only [outcomesOf_append, outcomesOf_calls, if_neg stopping, later]
      exact ⟨rfl, left⟩

theorem outcomesOf_runAll (buildFailed : Bool) (pairs : List Pair) {world origin : World σ}
    (same : SameBeside plan.output world.files origin.files) :
    (plan.runAll timing buildFailed pairs world).result.isOk = true ∧
      outcomesOf (plan.runAll timing buildFailed pairs world).log =
        reported plan.stopOnFail (verdictIn plan origin) pairs ∧
      SameBeside plan.output (plan.runAll timing buildFailed pairs world).world.files
        origin.files := by
  obtain ⟨outcomes, left⟩ := outcomesOf_runPairs isolated timing (.start buildFailed) pairs same
  refine ⟨rfl, ?_, left⟩
  unfold Plan.runAll
  rw [Action.bind_apply, outcomesOf_append, outcomes]
  exact List.append_nil _

/-- A run that comes to its end reports what pairs come to when each has its verdict, and a run that
ends with the build reports nothing of them. What is left differs from the files at the beginning at
the output alone. -/
theorem outcomesOf_run (pairs : List Pair) {world origin : World σ}
    (same : SameBeside plan.output world.files origin.files) :
    outcomesOf (plan.run timing pairs world).log =
        (if (plan.run timing pairs world).result.isOk then
          reported plan.stopOnFail (verdictIn plan origin) pairs else []) ∧
      SameBeside plan.output (plan.run timing pairs world).world.files origin.files := by
  have built : SameBeside plan.output (plan.collaborators.build world).2.files origin.files := by
    rw [show (plan.collaborators.build world).2.files = world.files from isolated.builds world]
    exact same
  rcases aborts_or_goesOn plan world with ⟨error, failed, aborts⟩ | goesOn
  · rw [run_of_aborted failed aborts]
    exact ⟨rfl, built⟩
  · obtain ⟨done, outcomes, left⟩ := outcomesOf_runAll isolated timing
      (!(plan.collaborators.build world).1.isOk) pairs built
    rw [run_of_not_aborted goesOn]
    dsimp only
    rw [outcomesOf_append, outcomesOf_buildEvent, if_pos done]
    exact ⟨outcomes, left⟩

end

/-! ### Independence -/

/-- A run comes to its end unless the build fails and the plan does not go on after that. -/
theorem isOk_run (plan : Plan σ) (timing : Timing) (pairs : List Pair) (world : World σ) :
    (plan.run timing pairs world).result.isOk =
      ((plan.collaborators.build world).1.isOk || !plan.abortOnBuildFailure) := by
  unfold Plan.run
  rw [Action.bind_apply, Plan.build_apply]
  cases (plan.collaborators.build world).1 with
  | ok output => rfl
  | error error => cases plan.abortOnBuildFailure <;> rfl

/-- Under a plan that is isolated and goes on after a failure, an input and an expected output have
one verdict: what becomes of them when they are run alone. A run of any pairs reports this verdict
of each of them, whatever stood at the output, unless it ends with the build. It leaves every
location as it was to which the output does not lead, so the verdicts are the same in the next run.
-/
theorem pairs_have_one_verdict (plan : Plan σ) (isolated : Isolated plan)
    (goesOn : plan.stopOnFail = false) (origin : World σ) :
    ∃ verdict : Path → Path → Outcome,
      (∀ pair, (plan.runPair pair origin).result = verdict pair.input pair.expected) ∧
      ∀ (timing : Timing) (pairs : List Pair) (world : World σ),
        SameBeside plan.output world.files origin.files →
          let run := plan.run timing pairs world
          run.result.isOk = ((plan.collaborators.build world).1.isOk || !plan.abortOnBuildFailure) ∧
            outcomesOf run.log =
              (if run.result.isOk then
                pairs.map fun pair => (pair, verdict pair.input pair.expected) else []) ∧
            SameBeside plan.output run.world.files origin.files ∧
            ∀ location, origin.files.locate plan.output ≠ .ok location →
              run.world.files.find? location = origin.files.find? location := by
  refine ⟨verdictIn plan origin, runPair_result isolated origin,
    fun timing pairs world same => ?_⟩
  obtain ⟨outcomes, left⟩ := outcomesOf_run isolated timing pairs same
  rw [goesOn, reported_of_goesOn] at outcomes
  exact ⟨isOk_run plan timing pairs world, outcomes, left,
    fun location elsewhere => left.find?_eq elsewhere⟩

/-- A plan that copies each input to one output and compares that by lines. -/
def copying : Plan Unit :=
  ⟨⟨buildNothing, runWith copier ⟨"copy", []⟩, compareByLines⟩, ⟨"out"⟩, false, false⟩

/-- An input with what is expected of it, and what may have been left at the output. -/
def oneFixture (stale : List (Location × Node)) : World Unit :=
  ⟨⟨stale ++ [(["a"], .file (Text.encode "x".toList)),
    (["e"], .file (Text.encode "x\n".toList))]⟩, ()⟩

/-- A pair whose input is there. -/
def pairWithInput : Pair := ⟨1, "1", ⟨"a"⟩, ⟨"e"⟩⟩

/-- A pair whose input is missing. -/
def pairWithoutInput : Pair := ⟨2, "2", ⟨"b"⟩, ⟨"e"⟩⟩

/-- A pair that passes and a pair without an input, run alone, and run together after an earlier run
has left its output. -/
theorem verdicts_of_copied_fixtures :
    outcomesOf (copying.run .none [pairWithInput] (oneFixture [])).log =
      [(pairWithInput, .passed)] ∧
    outcomesOf (copying.run .none [pairWithoutInput] (oneFixture [])).log =
      [(pairWithoutInput, .programFailed (some 1) "" none)] ∧
    outcomesOf (copying.run .none [pairWithoutInput, pairWithInput, pairWithoutInput]
        (oneFixture [(["out"], .file (Text.encode "y".toList))])).log =
      [(pairWithoutInput, .programFailed (some 1) "" none), (pairWithInput, .passed),
        (pairWithoutInput, .programFailed (some 1) "" none)] := by
  obtain ⟨verdict, -, each⟩ := pairs_have_one_verdict copying
    (isolated_of_confined (confined_copier ⟨"out"⟩ "copy") false false) rfl (oneFixture [])
  have passed : outcomesOf (copying.run .none [pairWithInput] (oneFixture [])).log =
      [(pairWithInput, .passed)] := by rfl
  have failed : outcomesOf (copying.run .none [pairWithoutInput] (oneFixture [])).log =
      [(pairWithoutInput, .programFailed (some 1) (textOf []) none)] := by rfl
  rw [show textOf [] = "" by cbv] at failed
  have firstAlone := passed.symm.trans (each .none [pairWithInput] (oneFixture []) rfl).2.1
  have secondAlone := failed.symm.trans (each .none [pairWithoutInput] (oneFixture []) rfl).2.1
  have firstVerdict : .passed = verdict ⟨"a"⟩ ⟨"e"⟩ :=
    (Prod.mk.inj (List.cons.inj firstAlone).1).2
  have secondVerdict : .programFailed (some 1) "" none = verdict ⟨"b"⟩ ⟨"e"⟩ :=
    (Prod.mk.inj (List.cons.inj secondAlone).1).2
  refine ⟨passed, failed, ?_⟩
  rw [firstVerdict, secondVerdict]
  exact (each .none [pairWithoutInput, pairWithInput, pairWithoutInput] _ rfl).2.1

end Golden.Run
