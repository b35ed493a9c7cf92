/-
This file turns a command line into a run and a run into what is written and an exit
code: zero when every pair passed, one when a pair or the build failed, two when the
run could not take place, with the error on the last line of the standard error.
-/

import Golden.Options.Reading
import Golden.Report.Console
import Golden.Report.JsonLines
import Golden.Run.Session

namespace Golden.Program

open Golden Golden.Run Golden.Report

/-- How the program ends, and all that it wrote. -/
structure Exit where
  code : Nat
  written : Written
deriving DecidableEq, Repr

/-- The name by which the program calls itself. -/
def name : String := "fixture-harness"

/-- What is written for an event in the chosen form. -/
def writer (options : Options) : Event → Written :=
  match options.format with
  | .console => Console.write options.verbose
  | .json => fun event => ⟨JsonLines.write event, ""⟩

/-- The last line for an error. -/
def errorLine (error : Run.Error) : String :=
  "Error: " ++ error.message

/-- How the program ends after a run. -/
def conclude (result : Except Run.Error Summary) (reported : Written) : Exit :=
  match result with
  | .ok summary => ⟨if summary.isSuccess then 0 else 1, reported⟩
  | .error error => ⟨2, reported.append ⟨"", errorLine error ++ "\n"⟩⟩

/-- The line that tells how the program is called. -/
def usage : String :=
  "Usage: " ++ name ++ " [OPTIONS] <DIR>\n"

/-- What is written when a command line asks for no run. -/
def answer : Options.Stop → Exit
  | .version => ⟨0, ⟨name ++ " " ++ JsonLines.version ++ "\n", ""⟩⟩
  | .help => ⟨0, ⟨usage, ""⟩⟩
  | .missingRequiredArgument => ⟨2, ⟨"", "error: a directory is missing\n\n" ++ usage⟩⟩
  | .argumentConflict => ⟨2, ⟨"", "error: an argument cannot be used here\n\n" ++ usage⟩⟩
  | .invalidValue => ⟨2, ⟨"", "error: a value is invalid or missing\n\n" ++ usage⟩⟩
  | .unknownArgument => ⟨2, ⟨"", "error: an argument is unexpected\n\n" ++ usage⟩⟩
  | .tooManyValues => ⟨2, ⟨"", "error: a value is unexpected\n\n" ++ usage⟩⟩

/-- Carries out what options say. -/
def execute {σ : Type} (launcher : Launcher σ) (timing : Timing) (options : Options)
    (world : World σ) : Exit × World σ :=
  let step := session launcher options.settings timing world
  let reported := Written.join ((eventsOf step.log).map (writer options))
  (conclude step.result reported, step.world)

/-- Carries out a command line. -/
def carryOut {σ : Type} (launcher : Launcher σ) (timing : Timing) (arguments : List String)
    (world : World σ) : Exit × World σ :=
  match Options.parse arguments with
  | .ok options => execute launcher timing options world
  | .error stop => (answer stop, world)

end Golden.Program
