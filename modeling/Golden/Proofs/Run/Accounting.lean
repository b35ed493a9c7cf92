/-
This file shows that the summary of a run tells the truth about it. The numbers in a
summary are kept up while the pairs are run, so they count the outcomes that have been
reported so far, and one more pair keeps that true. What the summary says of the run as
a whole follows from the counts and from the order of the visits: pairs are left out
only behind a pair that did not pass, and where they may be left out at all, every
pair but the last one that was run has passed.
-/

import Golden.Proofs.Run.Independence
import Mathlib.Data.List.Basic

namespace Golden.Run

open Golden.Fixture Golden.Text

variable {σ : Type}

/-! ### Counts -/

theorem Outcome.isPass_iff (outcome : Outcome) : outcome.isPass = true ↔ outcome = .passed := by
  cases outcome <;> simp [isPass]

namespace Summary

/-- The numbers of a summary are those of the outcomes that were reported. -/
structure Counts (summary : Summary) (reported : List (Pair × Outcome)) : Prop where
  total : summary.total = reported.length
  passed : summary.passed = reported.countP fun each => each.2 = .passed
  failed : summary.failed = reported.countP fun each => each.2 ≠ .passed

theorem counts_start (buildFailed : Bool) : (start buildFailed).Counts [] :=
  ⟨rfl, rfl, rfl⟩

theorem Counts.count {summary : Summary} {reported : List (Pair × Outcome)}
    (counts : summary.Counts reported) (pair : Pair) (outcome : Outcome) :
    (summary.count outcome).Counts (reported ++ [(pair, outcome)]) := by
  unfold Summary.count
  by_cases passes : outcome = .passed
  · rw [if_pos ((Outcome.isPass_iff outcome).mpr passes)]
    constructor <;> simp [counts.total, counts.passed, counts.failed, passes]
  · rw [if_neg (mt (Outcome.isPass_iff outcome).mp passes)]
    constructor <;> simp [counts.total, counts.passed, counts.failed, passes]

theorem Counts.total_eq {summary : Summary} {reported : List (Pair × Outcome)}
    (counts : summary.Counts reported) : summary.total = summary.passed + summary.failed := by
  rw [counts.total, counts.passed, counts.failed,
    List.length_eq_countP_add_countP fun each : Pair × Outcome => each.2 = .passed]
  simp

theorem Counts.failed_eq_zero_iff {summary : Summary} {reported : List (Pair × Outcome)}
    (counts : summary.Counts reported) :
    summary.failed = 0 ↔ ∀ each ∈ reported, each.2 = .passed := by
  rw [counts.failed, List.countP_eq_zero]
  simp

/-! ### Summaries that tell the truth -/

/-- What a summary says of a run of pairs is true of the build and of the outcomes that were
reported. -/
structure IsTrue (summary : Summary) (plan : Plan σ) (built : Except Error String)
    (pairs : List Pair) (reported : List (Pair × Outcome)) : Prop where
  counts : summary.Counts reported
  /-- Every outcome is counted once more, as passed or as failed. -/
  total_eq : summary.total = summary.passed + summary.failed
  total_le : summary.total ≤ pairs.length
  stoppedEarly_iff : summary.stoppedEarly = true ↔ summary.total < pairs.length
  /-- A run stops early only when it may, and then behind its one failure. -/
  stopped : summary.stoppedEarly = true → plan.stopOnFail = true ∧ summary.failed = 1 ∧
    ∃ pair outcome, reported.getLast? = some (pair, outcome) ∧ outcome ≠ .passed
  failed_le : plan.stopOnFail = true → summary.failed ≤ 1
  buildFailed_iff : summary.buildFailed = true ↔ ∃ error, built = .error error
  isSuccess_iff : summary.isSuccess = true ↔ (∃ output, built = .ok output) ∧
    reported.map Prod.fst = pairs ∧ ∀ each ∈ reported, each.2 = .passed

theorem IsTrue.isSuccess_eq_false_iff {summary : Summary} {plan : Plan σ}
    {built : Except Error String} {pairs : List Pair} {reported : List (Pair × Outcome)}
    (isTrue : summary.IsTrue plan built pairs reported) :
    summary.isSuccess = false ↔
      (∃ error, built = .error error) ∨ ∃ each ∈ reported, each.2 ≠ .passed := by
  have failed : summary.failed ≠ 0 ↔ ∃ each ∈ reported, each.2 ≠ .passed := by
    rw [ne_eq, isTrue.counts.failed_eq_zero_iff]
    simp
  rw [← isTrue.buildFailed_iff, ← failed, isSuccess]
  cases summary.buildFailed <;> simp

end Summary

/-! ### Running the pairs -/

/-- What is reported of a visit. -/
def Visit.report (visit : Visit σ) : Pair × Outcome :=
  (visit.pair, visit.outcome)

theorem outcomesOf_flatMap_calls (plan : Plan σ) (visits : List (Visit σ)) :
    outcomesOf (visits.flatMap (Visit.calls plan)) = visits.map Visit.report := by
  induction visits with
  | nil => rfl
  | cons visit others inductionHypothesis =>
    rw [List.flatMap_cons, outcomesOf_append, outcomesOf_calls, inductionHypothesis]
    rfl

/-- Running pairs counts their outcomes on top of those before them, and says that it has stopped
early when it has not come to the end of the pairs. -/
theorem counts_runPairs (plan : Plan σ) (timing : Timing) (pairs : List Pair)
    {summary : Summary} {before : List (Pair × Outcome)} (counts : summary.Counts before)
    (goesOn : summary.stoppedEarly = false) (world : World σ) :
    let step := plan.runPairs timing summary pairs world
    step.result.Counts (before ++ outcomesOf step.log) ∧
      step.result.buildFailed = summary.buildFailed ∧
      (step.result.stoppedEarly = true ↔ (outcomesOf step.log).length < pairs.length) := by
  -- What has been reported before the pairs grows with every pair, as the summary does.
  induction pairs generalizing summary before world with
  | nil =>
    refine ⟨?_, rfl, ?_⟩
    · simpa [Plan.runPairs, outcomesOf] using counts
    · simp [Plan.runPairs, goesOn]
  | cons pair rest inductionHypothesis =>
    let visit : Visit σ :=
      ⟨pair, world, (plan.runPair pair world).result, timing.pair summary.total⟩
    have verdict : visit.outcome = visit.verdict plan :=
      congrArg Step.result (runPair_apply plan visit)
    have counted := counts.count pair visit.outcome
    have begun := runPairs_cons_apply plan timing summary visit rest verdict rfl
    rw [show plan.runPairs timing summary (pair :: rest) world = _ from begun]
    by_cases stopping : (plan.stopOnFail && !visit.outcome.isPass) = true
    · simp only [if_pos stopping, outcomesOf_append, outcomesOf_calls]
      refine ⟨⟨counted.total, counted.passed, counted.failed⟩, ?_, ?_⟩
      · unfold Summary.count
        split <;> rfl
      · cases rest <;> simp [outcomesOf]
    · have same : (summary.count visit.outcome).buildFailed = summary.buildFailed ∧
          (summary.count visit.outcome).stoppedEarly = summary.stoppedEarly := by
        unfold Summary.count
        split <;> exact ⟨rfl, rfl⟩
      obtain ⟨later, built, stopped⟩ :=
        inductionHypothesis counted (same.2.trans goesOn) (visit.after plan)
      simp only [if_neg stopping, outcomesOf_append, outcomesOf_calls]
      refine ⟨?_, built.trans same.1, ?_⟩
      · rw [← List.append_assoc]
        exact later
      · rw [stopped, List.length_append, List.length_singleton, List.length_cons,
          Nat.add_comm 1, Nat.add_lt_add_iff_right]

/-- When every outcome but the last one is a pass, no outcome but the last one is a failure. -/
theorem countP_failed_of_dropLast {reported : List (Pair × Outcome)}
    (earlier : ∀ each ∈ reported.dropLast, each.2 = .passed) :
    (reported.countP fun each => each.2 ≠ .passed) =
      if reported.getLast?.any fun each => each.2 ≠ .passed then 1 else 0 := by
  rcases List.eq_nil_or_concat' reported with rfl | ⟨front, last, rfl⟩
  · rfl
  · rw [List.dropLast_concat] at earlier
    have none : (front.countP fun each => each.2 ≠ .passed) = 0 := by
      rw [List.countP_eq_zero]
      intro each member
      simp [earlier each member]
    rw [List.countP_append, none, List.getLast?_concat, Nat.zero_add, List.countP_singleton]
    rfl

namespace CarriesOut

variable {plan : Plan σ} {pairs : List Pair} {first last : World σ} {visits : List (Visit σ)}
  (carriedOut : CarriesOut plan pairs first visits last)

include carriedOut

theorem length_le : visits.length ≤ pairs.length := by
  rw [← List.length_map Visit.pair]
  exact carriedOut.inOrder.length_le

theorem map_report_eq_iff :
    (visits.map Visit.report).map Prod.fst = pairs ↔ visits.length = pairs.length := by
  have visited : (visits.map Visit.report).map Prod.fst = visits.map Visit.pair := List.map_map
  rw [visited]
  constructor
  · intro same
    rw [← same, List.length_map]
  · intro same
    exact carriedOut.inOrder.eq_of_length ((List.length_map _).trans same)

/-- Pairs are left out only when the plan says so, and behind a pair that did not pass. -/
theorem last_of_length_lt (fewer : visits.length < pairs.length) : plan.stopOnFail = true ∧
    ∃ pair outcome, (visits.map Visit.report).getLast? = some (pair, outcome) ∧
      outcome ≠ .passed := by
  have different : visits.map Visit.pair ≠ pairs := by
    intro same
    rw [← same, List.length_map] at fewer
    exact Nat.lt_irrefl _ fewer
  obtain ⟨stopOnFail, visit, isLast, failed⟩ := carriedOut.leftOut different
  refine ⟨stopOnFail, visit.pair, visit.outcome, ?_, fun passed => ?_⟩
  · rw [List.getLast?_map, isLast]
    rfl
  · rw [passed] at failed
    cases failed

/-- Where pairs may be left out, every pair but the last one that was run has passed. -/
theorem passed_of_mem_dropLast (stopOnFail : plan.stopOnFail = true) :
    ∀ each ∈ (visits.map Visit.report).dropLast, each.2 = .passed := by
  intro each member
  rw [← List.map_dropLast] at member
  obtain ⟨visit, inside, rfl⟩ := List.mem_map.mp member
  exact (Outcome.isPass_iff _).mp (carriedOut.stops stopOnFail visit inside)

/-- A summary tells the truth about pairs that were carried out when its counts are right, and when
it says rightly whether pairs were left out and whether the build has failed. -/
theorem isTrue {built : Except Error String} {summary : Summary}
    (counts : summary.Counts (visits.map Visit.report))
    (stoppedEarly : summary.stoppedEarly = true ↔ visits.length < pairs.length)
    (buildFailed : summary.buildFailed = !built.isOk) :
    summary.IsTrue plan built pairs (visits.map Visit.report) where
  counts := counts
  total_eq := counts.total_eq
  total_le := by
    rw [counts.total, List.length_map]
    exact carriedOut.length_le
  stoppedEarly_iff := by rw [stoppedEarly, counts.total, List.length_map]
  stopped stopped := by
    obtain ⟨stopOnFail, pair, outcome, isLast, failed⟩ :=
      carriedOut.last_of_length_lt (stoppedEarly.mp stopped)
    refine ⟨stopOnFail, ?_, pair, outcome, isLast, failed⟩
    rw [counts.failed, countP_failed_of_dropLast (carriedOut.passed_of_mem_dropLast stopOnFail),
      isLast]
    simp [failed]
  failed_le stopOnFail := by
    rw [counts.failed, countP_failed_of_dropLast (carriedOut.passed_of_mem_dropLast stopOnFail)]
    split <;> omega
  buildFailed_iff := by
    rw [buildFailed]
    cases built <;> simp [Except.isOk, Except.toBool]
  isSuccess_iff := by
    have succeeded : summary.isSuccess = true ↔
        summary.failed = 0 ∧ ∃ output, built = .ok output := by
      unfold Summary.isSuccess
      rw [buildFailed]
      cases built <;> simp [Except.isOk, Except.toBool]
    rw [succeeded, counts.failed_eq_zero_iff, carriedOut.map_report_eq_iff]
    constructor
    · rintro ⟨passed, output⟩
      refine ⟨output, ?_, passed⟩
      rcases Nat.lt_or_eq_of_le carriedOut.length_le with fewer | same
      · -- Had pairs been left out, the last one that was run would not have passed.
        obtain ⟨-, pair, outcome, isLast, failed⟩ := carriedOut.last_of_length_lt fewer
        exact absurd (passed _ (List.mem_of_getLast? isLast)) failed
      · exact same
    · rintro ⟨output, -, passed⟩
      exact ⟨passed, output⟩

end CarriesOut

/-- After a build, pairs are run to a summary that tells the truth. -/
theorem exists_isTrue_of_runAll (plan : Plan σ) (timing : Timing) (built : Except Error String)
    (pairs : List Pair) (world : World σ) :
    let step := plan.runAll timing (!built.isOk) pairs world
    ∃ summary, step.result = .ok summary ∧
      summary.IsTrue plan built pairs (outcomesOf step.log) := by
  obtain ⟨visits, logged, carriedOut⟩ :=
    exists_visits_of_runPairs plan timing (.start !built.isOk) pairs world
  obtain ⟨counts, buildFailed, stoppedEarly⟩ :=
    counts_runPairs plan timing pairs (Summary.counts_start !built.isOk) rfl world
  rw [logged, outcomesOf_flatMap_calls] at counts stoppedEarly
  refine ⟨_, rfl, ?_⟩
  have reported : outcomesOf (plan.runAll timing (!built.isOk) pairs world).log =
      visits.map Visit.report := by
    unfold Plan.runAll
    rw [Action.bind_apply, outcomesOf_append, logged, outcomesOf_flatMap_calls]
    exact List.append_nil _
  rw [reported]
  rw [List.length_map] at stoppedEarly
  exact carriedOut.isTrue ⟨counts.total, counts.passed, counts.failed⟩ stoppedEarly buildFailed

/-! ### The run -/

/-- A run that its build does not end comes to a summary that tells the truth. -/
theorem exists_isTrue_of_run {plan : Plan σ} {world : World σ}
    (goesOn : plan.abortOnBuildFailure = true → (plan.collaborators.build world).1.isOk = true)
    (timing : Timing) (pairs : List Pair) :
    ∃ summary, (plan.run timing pairs world).result = .ok summary ∧
      summary.IsTrue plan (plan.collaborators.build world).1 pairs
        (outcomesOf (plan.run timing pairs world).log) := by
  obtain ⟨summary, result, isTrue⟩ := exists_isTrue_of_runAll plan timing
    (plan.collaborators.build world).1 pairs (plan.collaborators.build world).2
  rw [run_of_not_aborted goesOn]
  refine ⟨summary, result, ?_⟩
  dsimp only
  rw [outcomesOf_append, outcomesOf_buildEvent]
  exact isTrue

/-- The summary that a run gives tells the truth about the build and about the outcomes that the run
has reported. -/
theorem summary_tells_truth (plan : Plan σ) (timing : Timing) (pairs : List Pair)
    (world : World σ) (summary : Summary)
    (given : (plan.run timing pairs world).result = .ok summary) :
    summary.IsTrue plan (plan.collaborators.build world).1 pairs
      (outcomesOf (plan.run timing pairs world).log) := by
  rcases aborts_or_goesOn plan world with ⟨error, failed, aborts⟩ | goesOn
  · rw [run_of_aborted failed aborts] at given
    cases given
  · obtain ⟨counted, result, isTrue⟩ := exists_isTrue_of_run goesOn timing pairs
    rwa [Except.ok.inj (given.symm.trans result)]

/-- A plan whose build fails and whose program can only be started on one of the inputs. -/
def halting : Plan Unit where
  collaborators :=
    { build := fun world => (.error (.buildFailed "exit code 1" ""), world)
      run := fun input _ world =>
        (if input = ⟨"a"⟩ then .ok ⟨true, some 0, ""⟩ else .error (.cannotStart "bnf" .notFound),
          world)
      compare := fun _ _ world => (.ok .same, world) }
  output := ⟨"out"⟩
  stopOnFail := true
  abortOnBuildFailure := false

/-- After a build that failed, one pair passes, the next one fails, and the last is left out. -/
theorem summary_of_halting_run :
    (halting.run .none [pairWithInput, pairWithoutInput, pairWithInput] ⟨⟨[]⟩, ()⟩).result =
      .ok ⟨2, 1, 1, true, true, .zero⟩ ∧
    (Summary.mk 2 1 1 true true .zero).IsTrue halting (.error (.buildFailed "exit code 1" ""))
      [pairWithInput, pairWithoutInput, pairWithInput]
      [(pairWithInput, .passed),
        (pairWithoutInput, .errored "failed to start 'bnf': No such file or directory (os error 2)")]
      := by
  have given : (halting.run .none [pairWithInput, pairWithoutInput, pairWithInput]
      ⟨⟨[]⟩, ()⟩).result = .ok ⟨2, 1, 1, true, true, .zero⟩ := by rfl
  exact ⟨given, summary_tells_truth halting .none _ _ _ given⟩

end Golden.Run
