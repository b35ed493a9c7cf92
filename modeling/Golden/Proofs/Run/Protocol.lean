/-
This file says which calls a run makes, whatever its collaborators do. A run builds
once and before anything else. When the build fails and the plan says so, nothing
more happens. Otherwise the build is reported, the pairs are visited in order, and
the count of them all is reported last.

A visit begins and ends with a report on its pair. In between the output is
removed, and the program is run and its output compared at most once each. Which
of these calls are made is told by what the calls before them came to, in the files
and by the collaborators themselves. The visits of a run go on from one another: each
begins in the world that the one before has left.

The calls that a run logs are those that it makes. Every call has an effect on the
world, which for most of them is that of a collaborator, and to make the calls of a
log one after another leads to the world that the run has left. As the collaborators
may do anything to the world, they may also count how often they are called, so this
leaves no room for a call that is logged and not made, or made and not logged.
-/

import Golden.Run.Plan

namespace Golden.Run

open Golden.Fixture Golden.Text

variable {σ : Type}

/-! ### Visits -/

/-- The difference that a comparison has found. -/
def difference? : Except Error Comparison → Option String
  | .ok (.differ difference) => some difference
  | .ok .same | .error _ => none

/-- A pair as it was visited in a run. -/
structure Visit (σ : Type) where
  pair : Pair
  /-- The world in which the visit began. -/
  before : World σ
  /-- What was reported of the pair. -/
  outcome : Outcome
  /-- The time that was reported with it. -/
  elapsed : Duration

namespace Visit

variable (plan : Plan σ) (visit : Visit σ)

/-- The output of the pair before is removed, if there is one. -/
def clearing : Except Cause Unit × World σ :=
  match visit.before.files.remove plan.output with
  | .ok left => (.ok (), { visit.before with files := left })
  | .error .notFound => (.ok (), visit.before)
  | .error cause => (.error cause, visit.before)

/-- The program is run in the world with the output cleared. -/
def running : Except Error Ending × World σ :=
  plan.collaborators.run visit.pair.input plan.output (visit.clearing plan).2

/-- The output is compared in the world that the program has left. -/
def comparing : Except Error Comparison × World σ :=
  plan.collaborators.compare plan.output visit.pair.expected (visit.running plan).2

/-- The program is run when the output could be cleared. -/
def runs : Bool :=
  (visit.clearing plan).1.isOk

/-- The output is compared when the program was run without an error, and it either succeeded or
left something where the output should be. -/
def compares : Bool :=
  visit.runs plan &&
    match (visit.running plan).1 with
    | .ok ending => ending.success || (visit.running plan).2.files.contains plan.output
    | .error _ => false

/-- What becomes of the pair. -/
def verdict : Outcome :=
  match (visit.clearing plan).1 with
  | .error cause =>
    .errored ("failed to clear '" ++ plan.output.text ++ "': " ++ cause.message)
  | .ok () =>
    match (visit.running plan).1 with
    | .error error => .errored error.message
    | .ok ending =>
      if ending.success then
        match (visit.comparing plan).1 with
        | .ok .same => .passed
        | .ok (.differ difference) => .mismatch difference
        | .error error => .errored error.message
      else
        .programFailed ending.code ending.stderr
          (if visit.compares plan then difference? (visit.comparing plan).1 else none)

/-- The calls of a visit between its two reports. -/
def work : List Call :=
  [.clear plan.output] ++
    (if visit.runs plan then [.run visit.pair.input plan.output] else []) ++
    (if visit.compares plan then [.compare plan.output visit.pair.expected] else [])

/-- The calls of a visit. -/
def calls : List Call :=
  [.report (.started visit.pair)] ++ visit.work plan ++
    [.report (.finished visit.pair visit.outcome visit.elapsed)]

/-- The world that the calls of a visit leave. -/
def after : World σ :=
  if visit.compares plan then (visit.comparing plan).2
  else if visit.runs plan then (visit.running plan).2
  else (visit.clearing plan).2

end Visit

/-- Visits that go on from one another, from a first world to a last. -/
def Consecutive (plan : Plan σ) : World σ → List (Visit σ) → World σ → Prop
  | first, [], last => last = first
  | first, visit :: rest, last =>
    visit.before = first ∧ Consecutive plan (visit.after plan) rest last

/-! ### One visit -/

section

variable (plan : Plan σ) (visit : Visit σ)

/-- The program is not run when the output could not be cleared. -/
theorem Visit.runs_of_error {cause : Cause}
    (clearing : (visit.clearing plan).1 = .error cause) : visit.runs plan = false := by
  unfold Visit.runs
  rw [clearing]
  rfl

/-- The program is run when the output could be cleared. -/
theorem Visit.runs_of_ok (clearing : (visit.clearing plan).1 = .ok ()) :
    visit.runs plan = true := by
  unfold Visit.runs
  rw [clearing]
  rfl

/-- Nothing is compared when the program is not run. -/
theorem Visit.compares_of_not_runs (notRun : visit.runs plan = false) :
    visit.compares plan = false := by
  unfold Visit.compares
  rw [notRun, Bool.false_and]

/-- Nothing is compared when running the program met an error. -/
theorem Visit.compares_of_error {error : Error}
    (running : (visit.running plan).1 = .error error) : visit.compares plan = false := by
  unfold Visit.compares
  rw [running, Bool.and_false]

/-- What is compared when the program was run and ended. -/
theorem Visit.compares_of_ok {ending : Ending} (run : visit.runs plan = true)
    (running : (visit.running plan).1 = .ok ending) :
    visit.compares plan =
      (ending.success || (visit.running plan).2.files.contains plan.output) := by
  unfold Visit.compares
  rw [run, running, Bool.true_and]

/-- Clearing the output changes nothing but the files. -/
theorem Visit.clearing_eq_removeOutput :
    visit.clearing plan =
      ((Plan.removeOutput plan.output visit.before.files).1,
        { visit.before with files := (Plan.removeOutput plan.output visit.before.files).2 }) := by
  rw [Plan.removeOutput, Visit.clearing]
  rcases visit.before.files.remove plan.output with cause | left
  · cases cause <;> rfl
  · rfl

theorem Visit.clear_apply :
    plan.clear visit.before =
      ⟨(visit.clearing plan).1, [.clear plan.output], (visit.clearing plan).2⟩ := by
  rw [Plan.clear_apply, visit.clearing_eq_removeOutput]

/-- The comparison of what a failed program has left is made when it has left anything. -/
theorem partialDifference_apply (pair : Pair) (world : World σ) :
    plan.partialDifference pair world =
      if world.files.contains plan.output then
        ⟨difference? (plan.collaborators.compare plan.output pair.expected world).1,
          [.compare plan.output pair.expected],
          (plan.collaborators.compare plan.output pair.expected world).2⟩
      else ⟨none, [], world⟩ := by
  unfold Plan.partialDifference
  rw [Action.bind_apply, Action.files_apply]
  by_cases left : world.files.contains plan.output = true
  · simp only [left, if_true, Action.bind_apply, Plan.compareOutput_apply]
    rcases (plan.collaborators.compare plan.output pair.expected world).1 with
      error | _ | difference <;> rfl
  · simp only [left]
    rfl

/-- Running one pair is a visit: its calls, the world that they leave, and the verdict. -/
theorem runPair_apply :
    plan.runPair visit.pair visit.before =
      ⟨visit.verdict plan, visit.work plan, visit.after plan⟩ := by
  have ran : plan.runProgram visit.pair (visit.clearing plan).2 =
      ⟨(visit.running plan).1, [.run visit.pair.input plan.output], (visit.running plan).2⟩ :=
    plan.runProgram_apply visit.pair _
  have compared : plan.compareOutput visit.pair (visit.running plan).2 =
      ⟨(visit.comparing plan).1, [.compare plan.output visit.pair.expected],
        (visit.comparing plan).2⟩ :=
    plan.compareOutput_apply visit.pair _
  have left : plan.collaborators.compare plan.output visit.pair.expected (visit.running plan).2 =
      visit.comparing plan := rfl
  unfold Plan.runPair Visit.verdict Visit.work Visit.after
  rw [Action.bind_apply, visit.clear_apply]
  cases clearing : (visit.clearing plan).1 with
  | error cause =>
    have notRun := visit.runs_of_error plan clearing
    rw [visit.compares_of_not_runs plan notRun, notRun]
    rfl
  | ok done =>
    have run := visit.runs_of_ok plan clearing
    simp only [Action.bind_apply, ran, run, if_true]
    cases running : (visit.running plan).1 with
    | error error => simp [visit.compares_of_error plan running]
    | ok ending =>
      rw [visit.compares_of_ok plan run running]
      by_cases success : ending.success = true
      · simp only [success, if_true, Action.bind_apply, compared, Bool.true_or]
        rcases (visit.comparing plan).1 with error | _ | difference <;> simp
      · by_cases written : (visit.running plan).2.files.contains plan.output = true
        · simp [partialDifference_apply, left, written, success]
        · simp [partialDifference_apply, written, success]

end

/-! ### All visits -/

/-- The visits of a run, from the world after the build to the last world. -/
structure CarriesOut (plan : Plan σ) (pairs : List Pair) (first : World σ)
    (visits : List (Visit σ)) (last : World σ) : Prop where
  consecutive : Consecutive plan first visits last
  verdicts : ∀ visit ∈ visits, visit.outcome = visit.verdict plan
  /-- Pairs are visited in order, none is left out before one that is visited. -/
  inOrder : visits.map Visit.pair <+: pairs
  /-- Pairs are left out only after a failure, and when the plan says so. -/
  leftOut : visits.map Visit.pair ≠ pairs →
    plan.stopOnFail = true ∧ ∃ visit, visits.getLast? = some visit ∧ visit.outcome.isPass = false
  /-- Nothing is visited after a failure when the plan says so. -/
  stops : plan.stopOnFail = true → ∀ visit ∈ visits.dropLast, visit.outcome.isPass = true

theorem CarriesOut.none (plan : Plan σ) (world : World σ) : CarriesOut plan [] world [] world where
  consecutive := rfl
  verdicts := by simp
  inOrder := List.nil_prefix
  leftOut different := absurd rfl different
  stops := by simp

/-- A run that stops at its first visit. -/
theorem CarriesOut.stop {plan : Plan σ} {visit : Visit σ} (rest : List Pair)
    (verdict : visit.outcome = visit.verdict plan) (stopping : plan.stopOnFail = true)
    (failed : visit.outcome.isPass = false) :
    CarriesOut plan (visit.pair :: rest) visit.before [visit] (visit.after plan) where
  consecutive := ⟨rfl, rfl⟩
  verdicts := by simpa using verdict
  inOrder := ⟨rest, rfl⟩
  leftOut _ := ⟨stopping, visit, rfl, failed⟩
  stops := by simp

/-- A run that goes on after its first visit. -/
theorem CarriesOut.next {plan : Plan σ} {visit : Visit σ} {rest : List Pair}
    {visits : List (Visit σ)} {last : World σ} (verdict : visit.outcome = visit.verdict plan)
    (goesOn : plan.stopOnFail = true → visit.outcome.isPass = true)
    (others : CarriesOut plan rest (visit.after plan) visits last) :
    CarriesOut plan (visit.pair :: rest) visit.before (visit :: visits) last where
  consecutive := ⟨rfl, others.consecutive⟩
  verdicts := by
    intro other member
    rcases List.mem_cons.mp member with rfl | later
    · exact verdict
    · exact others.verdicts other later
  inOrder := by
    rw [List.map_cons]
    exact (List.prefix_cons_inj visit.pair).mpr others.inOrder
  leftOut different := by
    have differentRest : visits.map Visit.pair ≠ rest := fun equal =>
      different (by rw [List.map_cons, equal])
    obtain ⟨stopping, failing, isLast, failed⟩ := others.leftOut differentRest
    refine ⟨stopping, failing, ?_, failed⟩
    rw [List.getLast?_cons, isLast]
    rfl
  stops stopping := by
    intro other member
    cases visits with
    | nil => cases member
    | cons second later =>
      rw [List.dropLast_cons_cons] at member
      rcases List.mem_cons.mp member with rfl | further
      · exact goesOn stopping
      · exact others.stops stopping other further

/-- Running pairs visits the first of them, and then stops or goes on. -/
theorem runPairs_cons_apply (plan : Plan σ) (timing : Timing) (summary : Summary)
    (visit : Visit σ) (rest : List Pair) (verdict : visit.outcome = visit.verdict plan)
    (elapsed : visit.elapsed = timing.pair summary.total) :
    plan.runPairs timing summary (visit.pair :: rest) visit.before =
      let counted := summary.count visit.outcome
      let later := if plan.stopOnFail && !visit.outcome.isPass then
          (⟨{ counted with stoppedEarly := !rest.isEmpty }, [], visit.after plan⟩ : Step σ Summary)
        else plan.runPairs timing counted rest (visit.after plan)
      ⟨later.result, visit.calls plan ++ later.log, later.world⟩ := by
  rw [Plan.runPairs]
  simp only [Action.bind_apply, Action.report_apply, runPair_apply, ← verdict, ← elapsed]
  by_cases stopping : (plan.stopOnFail && !visit.outcome.isPass) = true
  · simp [stopping, Visit.calls]
  · simp [stopping, Visit.calls]

/-- Running pairs makes the calls of visits that carry the pairs out. -/
theorem exists_visits_of_runPairs (plan : Plan σ) (timing : Timing) (summary : Summary)
    (pairs : List Pair) (world : World σ) :
    ∃ visits, (plan.runPairs timing summary pairs world).log = visits.flatMap (Visit.calls plan) ∧
      CarriesOut plan pairs world visits (plan.runPairs timing summary pairs world).world := by
  induction pairs generalizing summary world with
  | nil => exact ⟨[], rfl, .none plan world⟩
  | cons pair rest inductionHypothesis =>
    let visit : Visit σ :=
      ⟨pair, world, (plan.runPair pair world).result, timing.pair summary.total⟩
    have verdict : visit.outcome = visit.verdict plan :=
      congrArg Step.result (runPair_apply plan visit)
    have begun := runPairs_cons_apply plan timing summary visit rest verdict rfl
    rw [show plan.runPairs timing summary (pair :: rest) world = _ from begun]
    by_cases stopping : (plan.stopOnFail && !visit.outcome.isPass) = true
    · obtain ⟨stopOnFail, failed⟩ := Bool.and_eq_true_iff.mp stopping
      refine ⟨[visit], ?_, ?_⟩
      · simp [stopping]
      · have notPassed : visit.outcome.isPass = false := by simpa using failed
        simpa [stopping] using CarriesOut.stop rest verdict stopOnFail notPassed
    · obtain ⟨visits, logged, carriedOut⟩ :=
        inductionHypothesis (summary.count visit.outcome) (visit.after plan)
      refine ⟨visit :: visits, ?_, ?_⟩
      · simp [stopping, logged]
      · have goesOn : plan.stopOnFail = true → visit.outcome.isPass = true := by
          intro stopOnFail
          simpa [stopOnFail] using stopping
        simpa [stopping] using CarriesOut.next verdict goesOn carriedOut

/-! ### The effects of calls -/

/-- What making a call does to the world. -/
def Call.effect (plan : Plan σ) (world : World σ) : Call → World σ
  | .build => (plan.collaborators.build world).2
  | .clear output =>
    match world.files.remove output with
    | .ok left => { world with files := left }
    | .error _ => world
  | .run input output => (plan.collaborators.run input output world).2
  | .compare actual expected => (plan.collaborators.compare actual expected world).2
  | .report _ => world

/-- The world after calls are made one after another. -/
def replay (plan : Plan σ) (world : World σ) (calls : List Call) : World σ :=
  calls.foldl (Call.effect plan) world

/-- An action does to the world what the calls that it logs do. -/
def IsLogged {α : Type} (plan : Plan σ) (action : Action σ α) : Prop :=
  ∀ world, (action world).world = replay plan world (action world).log

section

variable {α β : Type} {plan : Plan σ}

theorem isLogged_pure (result : α) : IsLogged plan (pure result) := fun _ => rfl

theorem IsLogged.bind {action : Action σ α} {next : α → Action σ β} (first : IsLogged plan action)
    (later : ∀ result, IsLogged plan (next result)) : IsLogged plan (action >>= next) := by
  intro world
  rw [Action.bind_apply, replay, List.foldl_append]
  exact (later _ _).trans (congrArg (replay plan · _) (first world))

theorem isLogged_report (event : Event) : IsLogged plan (Action.report event) := fun _ => rfl

theorem isLogged_files : IsLogged plan Action.files := fun _ => rfl

variable (plan)

theorem isLogged_build : IsLogged plan plan.build := fun _ => rfl

theorem isLogged_clear : IsLogged plan plan.clear := by
  intro world
  show { world with files := (Plan.removeOutput plan.output world.files).2 } =
    Call.effect plan world (.clear plan.output)
  rw [Plan.removeOutput, Call.effect]
  rcases world.files.remove plan.output with cause | left
  · cases cause <;> rfl
  · rfl

theorem isLogged_runProgram (pair : Pair) : IsLogged plan (plan.runProgram pair) := fun _ => rfl

theorem isLogged_compareOutput (pair : Pair) : IsLogged plan (plan.compareOutput pair) :=
  fun _ => rfl

theorem isLogged_partialDifference (pair : Pair) : IsLogged plan (plan.partialDifference pair) := by
  refine isLogged_files.bind fun files => ?_
  split
  · refine (isLogged_compareOutput plan pair).bind fun found => ?_
    split <;> exact isLogged_pure _
  · exact isLogged_pure _

theorem isLogged_runPair (pair : Pair) : IsLogged plan (plan.runPair pair) := by
  refine (isLogged_clear plan).bind fun cleared => ?_
  split
  · exact isLogged_pure _
  · refine (isLogged_runProgram plan pair).bind fun ended => ?_
    split
    · exact isLogged_pure _
    · split
      · refine (isLogged_compareOutput plan pair).bind fun found => ?_
        split <;> exact isLogged_pure _
      · exact (isLogged_partialDifference plan pair).bind fun _ => isLogged_pure _

theorem isLogged_runPairs (timing : Timing) (summary : Summary) (pairs : List Pair) :
    IsLogged plan (plan.runPairs timing summary pairs) := by
  induction pairs generalizing summary with
  | nil => exact isLogged_pure summary
  | cons pair rest inductionHypothesis =>
    refine (isLogged_report _).bind fun _ => (isLogged_runPair plan pair).bind fun outcome =>
      (isLogged_report _).bind fun _ => ?_
    dsimp only
    split
    · exact isLogged_pure _
    · exact inductionHypothesis _

theorem isLogged_runAll (timing : Timing) (buildFailed : Bool) (pairs : List Pair) :
    IsLogged plan (plan.runAll timing buildFailed pairs) :=
  (isLogged_runPairs plan timing _ pairs).bind fun _ => (isLogged_report _).bind fun _ =>
    isLogged_pure _

/-- The world that a run leaves is the one to which the calls of its log lead. -/
theorem isLogged_run (timing : Timing) (pairs : List Pair) :
    IsLogged plan (plan.run timing pairs) := by
  refine (isLogged_build plan).bind fun built => ?_
  split
  · exact (isLogged_report _).bind fun _ => isLogged_runAll plan timing false pairs
  · split
    · exact isLogged_pure _
    · exact (isLogged_report _).bind fun _ => isLogged_runAll plan timing true pairs

end

/-! ### The run -/

/-- What is reported of a build. -/
def buildEvent : Except Error String → Event
  | .ok output => .built output
  | .error error => .buildFailed error

/-- After the build the pairs are visited, and the count of them is reported and given. -/
theorem exists_visits_of_runAll (plan : Plan σ) (timing : Timing) (buildFailed : Bool)
    (pairs : List Pair) (world : World σ) :
    ∃ visits summary, (plan.runAll timing buildFailed pairs world).result = .ok summary ∧
      (plan.runAll timing buildFailed pairs world).log =
        visits.flatMap (Visit.calls plan) ++ [.report (.completed summary)] ∧
      CarriesOut plan pairs world visits (plan.runAll timing buildFailed pairs world).world := by
  obtain ⟨visits, logged, carriedOut⟩ :=
    exists_visits_of_runPairs plan timing (.start buildFailed) pairs world
  refine ⟨visits, _, rfl, ?_, carriedOut⟩
  unfold Plan.runAll
  simp only [Action.bind_apply, Action.report_apply, Action.pure_apply, logged, List.append_nil]

/-- A run is ended by its build, or goes on after it. -/
theorem aborts_or_goesOn (plan : Plan σ) (world : World σ) :
    (∃ error, (plan.collaborators.build world).1 = .error error ∧
      plan.abortOnBuildFailure = true) ∨
    (plan.abortOnBuildFailure = true → (plan.collaborators.build world).1.isOk = true) := by
  cases (plan.collaborators.build world).1 with
  | ok output => exact .inr fun _ => rfl
  | error error =>
    cases aborting : plan.abortOnBuildFailure with
    | true => exact .inl ⟨error, rfl, rfl⟩
    | false => exact .inr fun aborts => (by cases aborts)

theorem run_of_aborted {plan : Plan σ} {world : World σ} {error : Error}
    (failed : (plan.collaborators.build world).1 = .error error)
    (aborts : plan.abortOnBuildFailure = true) (timing : Timing) (pairs : List Pair) :
    plan.run timing pairs world = ⟨.error error, [.build], (plan.collaborators.build world).2⟩ := by
  unfold Plan.run
  rw [Action.bind_apply, Plan.build_apply, failed, aborts]
  rfl

theorem run_of_not_aborted {plan : Plan σ} {world : World σ}
    (goesOn : plan.abortOnBuildFailure = true → (plan.collaborators.build world).1.isOk = true)
    (timing : Timing) (pairs : List Pair) :
    plan.run timing pairs world =
      let built := (plan.collaborators.build world).1
      let step := plan.runAll timing (!built.isOk) pairs (plan.collaborators.build world).2
      ⟨step.result, [.build, .report (buildEvent built)] ++ step.log, step.world⟩ := by
  unfold Plan.run
  rw [Action.bind_apply, Plan.build_apply]
  cases building : (plan.collaborators.build world).1 with
  | ok output => rfl
  | error error =>
    cases aborting : plan.abortOnBuildFailure with
    | true =>
      have built := goesOn aborting
      rw [building] at built
      cases built
    | false => rfl

/-- A run that its build does not end carries its pairs out. -/
theorem exists_visits_of_run {plan : Plan σ} {world : World σ}
    (goesOn : plan.abortOnBuildFailure = true → (plan.collaborators.build world).1.isOk = true)
    (timing : Timing) (pairs : List Pair) :
    let step := plan.run timing pairs world
    ∃ visits summary, step.result = .ok summary ∧
      step.log = [.build, .report (buildEvent (plan.collaborators.build world).1)] ++
        visits.flatMap (Visit.calls plan) ++ [.report (.completed summary)] ∧
      CarriesOut plan pairs (plan.collaborators.build world).2 visits step.world := by
  obtain ⟨visits, summary, given, logged, carriedOut⟩ := exists_visits_of_runAll plan timing
    (!(plan.collaborators.build world).1.isOk) pairs (plan.collaborators.build world).2
  rw [run_of_not_aborted goesOn]
  refine ⟨visits, summary, given, ?_, carriedOut⟩
  rw [List.append_assoc, ← logged]

/-- A run builds once and first. When the build fails and the plan says so, it does nothing more
and gives the error of the build. Otherwise it reports the build, carries the pairs out in visits,
and reports the count that it gives last. The calls that are logged are those that are made: they
lead to the world that the run has left. -/
theorem run_follows_protocol (plan : Plan σ) (timing : Timing) (pairs : List Pair)
    (world : World σ) :
    let step := plan.run timing pairs world
    step.world = replay plan world step.log ∧
    match plan.collaborators.build world, plan.abortOnBuildFailure with
    | (.error error, after), true => step = ⟨.error error, [.build], after⟩
    | (built, after), _ =>
      ∃ visits summary, step.result = .ok summary ∧
        step.log =
          [.build, .report (buildEvent built)] ++ visits.flatMap (Visit.calls plan) ++
            [.report (.completed summary)] ∧
        CarriesOut plan pairs after visits step.world := by
  intro step
  refine ⟨isLogged_run plan timing pairs world, ?_⟩
  rcases aborts_or_goesOn plan world with ⟨error, failed, aborts⟩ | goesOn
  · have aborted : step = _ := run_of_aborted failed aborts timing pairs
    rcases building : plan.collaborators.build world with ⟨built, after⟩
    rw [building] at failed aborted
    rw [aborted, show built = .error error from failed, aborts]
  · have carries := exists_visits_of_run goesOn timing pairs
    rcases building : plan.collaborators.build world with ⟨_ | output, after⟩ <;>
      rw [building] at goesOn carries
    · cases aborting : plan.abortOnBuildFailure with
      | true => cases goesOn aborting
      | false => exact carries
    · exact carries

end Golden.Run
