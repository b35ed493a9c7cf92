/-
This file says what a run can tell: how a program ended, what a comparison found,
what became of a pair of fixtures, the count of all pairs at the end, and the events
that are reported on the way.
-/

import Golden.Run.Error
import Golden.Text.Duration

namespace Golden.Run

open Golden.Text

/-- How one call of the program ended. -/
structure Ending where
  success : Bool
  /-- The exit code; there is none when a signal ended the program. -/
  code : Option Int
  stderr : String
deriving DecidableEq, Repr

/-- What the comparison of two files found. -/
inductive Comparison
  | same
  | differ (difference : String)
deriving DecidableEq, Repr

/-- What became of a pair. -/
inductive Outcome
  | passed
  /-- The program succeeded, but its output is not the expected one. -/
  | mismatch (difference : String)
  /-- The program failed. The difference is that of the output which it left behind. -/
  | programFailed (code : Option Int) (stderr : String) (difference : Option String)
  /-- The pair could not be run or compared. -/
  | errored (message : String)
deriving DecidableEq, Repr

/-- Whether a pair passed. -/
def Outcome.isPass : Outcome → Bool
  | .passed => true
  | _ => false

/-- The count of the pairs of a run. -/
structure Summary where
  /-- The number of pairs that were run. -/
  total : Nat
  passed : Nat
  failed : Nat
  /-- Whether pairs were left out after a failure. -/
  stoppedEarly : Bool
  /-- Whether the pairs were run although the build had failed. -/
  buildFailed : Bool
  duration : Duration
deriving DecidableEq, Repr

namespace Summary

/-- The count before any pair. -/
def start (buildFailed : Bool) : Summary :=
  ⟨0, 0, 0, false, buildFailed, Duration.zero⟩

/-- The count after one more pair. -/
def count (summary : Summary) (outcome : Outcome) : Summary :=
  if outcome.isPass then
    { summary with total := summary.total + 1, passed := summary.passed + 1 }
  else { summary with total := summary.total + 1, failed := summary.failed + 1 }

/-- A run succeeds when the build did not fail and no pair did. -/
def isSuccess (summary : Summary) : Bool :=
  summary.failed == 0 && !summary.buildFailed

end Summary

/-- What is reported in the course of a run. -/
inductive Event
  /-- The pairs are known, and nothing has been built yet. -/
  | collected (pairs : List Fixture.Pair)
  /-- The build succeeded, with what it printed. -/
  | built (output : String)
  /-- The build failed, and the pairs are run all the same. -/
  | buildFailed (error : Error)
  | started (pair : Fixture.Pair)
  | finished (pair : Fixture.Pair) (outcome : Outcome) (elapsed : Duration)
  | completed (summary : Summary)
deriving DecidableEq, Repr

end Golden.Run
