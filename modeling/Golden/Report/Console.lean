/-
This file writes the events of a run for a reader at a console. Differences and one
line for every pair that was run go to the standard output; everything else goes to
the standard error, some of it only when the reader asked for more.
-/

import Golden.Run.Outcome
import Golden.Text.Trim

namespace Golden.Report

open Golden Golden.Run Golden.Text

/-- What is written to the two streams of a console. -/
structure Written where
  out : String
  err : String
deriving DecidableEq, Repr

namespace Written

/-- Nothing. -/
def nothing : Written := ⟨"", ""⟩

/-- One piece of writing after another, on either stream. -/
def append (first second : Written) : Written :=
  ⟨first.out ++ second.out, first.err ++ second.err⟩

/-- Pieces of writing, one after another. -/
def join (pieces : List Written) : Written :=
  ⟨String.join (pieces.map Written.out), String.join (pieces.map Written.err)⟩

end Written

namespace Console

/-- A text with a line feed at its end, unless it is empty or has one. -/
def closed (text : String) : String :=
  if text.isEmpty || text.toList.getLast? = some '\n' then text else text ++ "\n"

/-- A text without the blanks at its end. -/
def trimmed (text : String) : String :=
  String.ofList (trimEnd text.toList)

/-- The difference that is shown for an outcome. -/
def difference? : Outcome → Option String
  | .mismatch difference => some difference
  | .programFailed _ _ difference => difference
  | .passed | .errored _ => none

/-- The lines that tell why a pair did not come to a comparison. -/
def complaint (pair : Fixture.Pair) : Outcome → String
  | .programFailed _ stderr _ =>
    pair.input.text ++ ": program failed\n" ++
      (if stderr.isEmpty then "" else trimmed stderr ++ "\n")
  | .errored message => pair.input.text ++ ": " ++ message ++ "\n"
  | .passed | .mismatch _ => ""

/-- The word for an outcome, in colour, with what belongs to it. -/
def status (outcome : Outcome) (elapsed : Duration) : String :=
  let milliseconds := " (" ++ toString elapsed.milliseconds ++ "ms)"
  match outcome with
  | .passed => "\x1b[32mPASSED\x1b[0m" ++ milliseconds
  | .mismatch _ => "\x1b[31mFAILED\x1b[0m" ++ milliseconds
  | .programFailed (some code) _ _ =>
    "\x1b[31mCRASHED\x1b[0m (exit code " ++ toString code ++ ")"
  | .programFailed none _ _ => "\x1b[31mCRASHED\x1b[0m (signal)"
  | .errored _ => "\x1b[31mERROR\x1b[0m"

/-- The line that is written for every pair that was run. -/
def completion (pair : Fixture.Pair) : String :=
  "Test " ++ toString pair.index ++ " completed\n"

/-- The lines that tell how a run ended. -/
def conclusion (summary : Summary) : String :=
  let passed := if summary.passed = 0 then [] else [toString summary.passed ++ " passed"]
  let failed := if summary.failed = 0 then [] else [toString summary.failed ++ " failed"]
  let colour := if summary.isSuccess then "\x1b[1;32m" else "\x1b[1;31m"
  colour ++ "====== " ++ ", ".intercalate (passed ++ failed) ++ " in " ++
    summary.duration.secondsText ++ "s ======\x1b[0m\n" ++
    (if summary.stoppedEarly then "stopped after first failure\n" else "") ++
    (if summary.buildFailed then "build failed; results may come from a stale program\n" else "")

/-- What is written for an event, to a reader who did or did not ask for more. -/
def write (verbose : Bool) : Event → Written
  | .collected pairs =>
    if pairs.isEmpty then ⟨"", "No tests collected\n"⟩
    else if verbose then ⟨"", "collected " ++ toString pairs.length ++ " item(s)\n"⟩
    else Written.nothing
  | .built output => if verbose then ⟨"", output⟩ else Written.nothing
  | .buildFailed error => ⟨"", "Build failed: " ++ trimmed error.message ++ "\n"⟩
  | .started _ => Written.nothing
  | .finished pair outcome elapsed =>
    ⟨((difference? outcome).map closed).getD "" ++ completion pair,
      complaint pair outcome ++
        (if verbose then pair.inputName ++ " " ++ status outcome elapsed ++ "\n" else "")⟩
  | .completed summary =>
    if summary.total = 0 then Written.nothing else ⟨"", conclusion summary⟩

end Console

end Golden.Report
