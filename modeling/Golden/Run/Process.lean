/-
This file makes collaborators out of programs that are started. A launcher starts a
program with its arguments in a world, waits for its end, and gives back what it
wrote and how it ended, or the reason for which it could not be started. A build
succeeds when its program exits with zero; a program is called with the input and
the output after its own arguments; a tool that compares says by zero or one whether
two files are the same.
-/

import Golden.CommandLine.Basic
import Golden.Run.LineComparison
import Golden.Run.Plan
import Golden.Settings

namespace Golden.Run

open Golden Golden.Text

/-- What a program that was started leaves behind. -/
structure Finished where
  stdout : Bytes
  stderr : Bytes
  /-- The exit code; there is none when a signal ended the program. -/
  code : Option Int
deriving DecidableEq, Repr

/-- A way to start programs. -/
abbrev Launcher (σ : Type) :=
  String → List String → World σ → Except Cause Finished × World σ

variable {σ : Type}

/-! ### Starting a program -/

/-- Bytes that a program wrote, as text. -/
def textOf (bytes : Bytes) : String :=
  String.ofList (decodeLossy bytes)

/-- The words for the end of a program. -/
def describeEnd : Option Int → String
  | some code => "exit code " ++ toString code
  | none => "terminated by signal"

/-- Whether a word can be handed to the system, which ends words by NUL. -/
def isHandable (word : String) : Bool :=
  !word.toList.contains '\x00'

/-- A word as it is handed to the system; a mark takes the place of one that cannot be. -/
def handedOver (word : String) : String :=
  if isHandable word then word else "<string-with-nul>"

/-- Starts the program of a command line with paths after its own arguments. -/
def start (launcher : Launcher σ) (command : CommandLine) (paths : List Path) (world : World σ) :
    Except Error Finished × World σ :=
  let arguments := command.arguments ++ paths.map Path.text
  if (command.program :: arguments).all isHandable then
    match launcher command.program arguments world with
    | (.ok finished, after) => (.ok finished, after)
    | (.error cause, after) => (.error (.cannotStart command.program cause), after)
  else (.error (.cannotStart command.program .nulInArgument), world)

/-! ### Collaborators -/

/-- The result of a build whose program was started. -/
def buildResult (finished : Finished) : Except Error String :=
  let printed := textOf finished.stdout ++ textOf finished.stderr
  if finished.code = some 0 then .ok printed
  else .error (.buildFailed (describeEnd finished.code) printed)

/-- Builds by a command line. -/
def buildWith (launcher : Launcher σ) (command : CommandLine) (world : World σ) :
    Except Error String × World σ :=
  let (started, after) := start launcher command [] world
  (started.bind buildResult, after)

/-- Builds nothing. -/
def buildNothing (world : World σ) : Except Error String × World σ :=
  (.ok "", world)

/-- How a program under test ended. -/
def endingOf (finished : Finished) : Ending :=
  ⟨finished.code = some 0, finished.code, textOf finished.stderr⟩

/-- Runs a program under test by a command line. -/
def runWith (launcher : Launcher σ) (command : CommandLine) (input output : Path)
    (world : World σ) : Except Error Ending × World σ :=
  let (started, after) := start launcher command [input, output] world
  (started.map endingOf, after)

/-- What a tool that compares found. -/
def findingOf (tool : CommandLine) (finished : Finished) : Except Error Comparison :=
  match finished.code with
  | some 0 => .ok .same
  | some 1 => .ok (.differ (textOf finished.stdout))
  | code =>
    .error (.comparisonFailed tool.display (describeEnd code)
      (String.ofList (trim (decodeLossy finished.stderr))))

/-- Compares by a command line. -/
def compareWith (launcher : Launcher σ) (tool : CommandLine) (actual expected : Path)
    (world : World σ) : Except Error Comparison × World σ :=
  let (started, after) := start launcher tool [actual, expected] world
  (started.bind (findingOf tool), after)

/-- Compares by lines, without any tool. -/
def compareByLines (actual expected : Path) (world : World σ) :
    Except Error Comparison × World σ :=
  (compareFiles world.files actual expected, world)

/-! ### From settings -/

/-- The call that a line of the settings writes. -/
def commandOf (line : String) : Except Error CommandLine :=
  (CommandLine.parse line).mapError fun fault => .invalidCommand line fault.message

/-- The plan that settings describe. The lines are read in the order build, program, tool. -/
def Plan.ofSettings (launcher : Launcher σ) (settings : Settings) : Except Error (Plan σ) := do
  let build ←
    match settings.build with
    | some line => pure (buildWith launcher (← commandOf line))
    | none => pure buildNothing
  let program ← commandOf settings.program
  let compare ←
    match settings.diffTool with
    | some line => pure (compareWith launcher (← commandOf line))
    | none => pure compareByLines
  return ⟨⟨build, runWith launcher program, compare⟩, settings.output, settings.stopOnFail,
    settings.abortOnBuildFailure⟩

end Golden.Run
