/-
This file runs pairs of fixtures. A plan has three collaborators, which may do
anything to the world and may fail: one builds, one runs the program on a pair, and
one compares. The build comes first and once. For every pair in turn the output of
the pair before is removed, the program is run, and what it wrote is compared; every
pair that is begun is reported, whatever becomes of it. A run ends early after a
failure when the plan says so.
-/

import Golden.Run.Action

namespace Golden.Run

open Golden Golden.Fixture Golden.Text

/-- Those who build, run and compare. -/
structure Collaborators (σ : Type) where
  /-- Builds the program; the result is what was printed. -/
  build : World σ → Except Error String × World σ
  /-- Runs the program on an input, to write an output. -/
  run : Path → Path → World σ → Except Error Ending × World σ
  /-- Compares an output with the expected one. -/
  compare : Path → Path → World σ → Except Error Comparison × World σ

/-- How pairs are to be run. -/
structure Plan (σ : Type) where
  collaborators : Collaborators σ
  /-- The file that the program writes to, for every pair. -/
  output : Path
  stopOnFail : Bool
  abortOnBuildFailure : Bool

/-- The times that are reported: that of each pair, by its place among those that are run, and
that of the whole run. -/
structure Timing where
  pair : Nat → Duration
  total : Duration

/-- No time passes. -/
def Timing.none : Timing := ⟨fun _ => Duration.zero, Duration.zero⟩

namespace Plan

variable {σ : Type}

/-! ### The steps -/

/-- Removes a file, if it is there. -/
def removeOutput (output : Path) (files : Files) : Except Cause Unit × Files :=
  match files.remove output with
  | .ok left => (.ok (), left)
  | .error .notFound => (.ok (), files)
  | .error cause => (.error cause, files)

/-- Removes the output of the pair before. -/
def clear (plan : Plan σ) : Action σ (Except Cause Unit) :=
  Action.perform (.clear plan.output) fun world =>
    let (result, files) := removeOutput plan.output world.files
    (result, { world with files := files })

@[simp] theorem clear_apply (plan : Plan σ) (world : World σ) :
    plan.clear world =
      ⟨(removeOutput plan.output world.files).1, [.clear plan.output],
        { world with files := (removeOutput plan.output world.files).2 }⟩ := rfl

/-- Builds the program. -/
def build (plan : Plan σ) : Action σ (Except Error String) :=
  Action.perform .build plan.collaborators.build

@[simp] theorem build_apply (plan : Plan σ) (world : World σ) :
    plan.build world =
      ⟨(plan.collaborators.build world).1, [.build], (plan.collaborators.build world).2⟩ := rfl

/-- Runs the program on the input of a pair. -/
def runProgram (plan : Plan σ) (pair : Pair) : Action σ (Except Error Ending) :=
  Action.perform (.run pair.input plan.output) (plan.collaborators.run pair.input plan.output)

@[simp] theorem runProgram_apply (plan : Plan σ) (pair : Pair) (world : World σ) :
    plan.runProgram pair world =
      ⟨(plan.collaborators.run pair.input plan.output world).1, [.run pair.input plan.output],
        (plan.collaborators.run pair.input plan.output world).2⟩ := rfl

/-- Compares the output with what is expected of a pair. -/
def compareOutput (plan : Plan σ) (pair : Pair) : Action σ (Except Error Comparison) :=
  Action.perform (.compare plan.output pair.expected)
    (plan.collaborators.compare plan.output pair.expected)

@[simp] theorem compareOutput_apply (plan : Plan σ) (pair : Pair) (world : World σ) :
    plan.compareOutput pair world =
      ⟨(plan.collaborators.compare plan.output pair.expected world).1,
        [.compare plan.output pair.expected],
        (plan.collaborators.compare plan.output pair.expected world).2⟩ := rfl

/-- The difference of what a failed program left behind, if it left anything that differs. -/
def partialDifference (plan : Plan σ) (pair : Pair) : Action σ (Option String) := do
  if (← Action.files).contains plan.output then
    match ← plan.compareOutput pair with
    | .ok (.differ difference) => return some difference
    | .ok .same | .error _ => return none
  else return none

/-! ### One pair -/

/-- What is reported when the output of the pair before cannot be removed. -/
def clearFailure (output : Path) (cause : Cause) : String :=
  "failed to clear '" ++ output.text ++ "': " ++ cause.message

/-- Runs one pair. -/
def runPair (plan : Plan σ) (pair : Pair) : Action σ Outcome := do
  match ← plan.clear with
  | .error cause => return .errored (clearFailure plan.output cause)
  | .ok () =>
    match ← plan.runProgram pair with
    | .error error => return .errored error.message
    | .ok ending =>
      if ending.success then
        match ← plan.compareOutput pair with
        | .ok .same => return .passed
        | .ok (.differ difference) => return .mismatch difference
        | .error error => return .errored error.message
      else
        return .programFailed ending.code ending.stderr (← plan.partialDifference pair)

/-! ### All pairs -/

/-- Runs pairs in order, given the count of those before them. -/
def runPairs (plan : Plan σ) (timing : Timing) (summary : Summary) :
    List Pair → Action σ Summary
  | [] => return summary
  | pair :: rest => do
    Action.report (.started pair)
    let outcome ← plan.runPair pair
    Action.report (.finished pair outcome (timing.pair summary.total))
    let counted := summary.count outcome
    if plan.stopOnFail && !outcome.isPass then
      return { counted with stoppedEarly := !rest.isEmpty }
    else plan.runPairs timing counted rest

/-- Runs pairs in order after the build, and reports the count of them all. -/
def runAll (plan : Plan σ) (timing : Timing) (buildFailed : Bool) (pairs : List Pair) :
    Action σ (Except Error Summary) := do
  let counted ← plan.runPairs timing (Summary.start buildFailed) pairs
  let summary := { counted with duration := timing.total }
  Action.report (.completed summary)
  return .ok summary

/-- Builds, and runs pairs in order. -/
def run (plan : Plan σ) (timing : Timing) (pairs : List Pair) :
    Action σ (Except Error Summary) := do
  match ← plan.build with
  | .ok output =>
    Action.report (.built output)
    plan.runAll timing false pairs
  | .error error =>
    if plan.abortOnBuildFailure then return .error error
    else
      Action.report (.buildFailed error)
      plan.runAll timing true pairs

end Plan

end Golden.Run
