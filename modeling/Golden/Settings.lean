/-
This file lists what can be set for a run, with the values that hold when nothing is
said: the program under test is compiled once, and called with each input in the
working directory.
-/

import Golden.Fixture.Collection

namespace Golden

open Golden.Fixture

/-- What can be set for a run. -/
structure Settings where
  /-- The directory with the fixtures. -/
  directory : Path
  /-- The line that calls the build; without one nothing is built. -/
  build : Option String
  /-- The line that calls the program; the input and the output are added to it. -/
  program : String
  /-- The file that the program writes to. -/
  output : Path
  /-- The line that calls the tool which compares; without one lines are compared here. -/
  diffTool : Option String
  pairing : Pairing
  stopOnFail : Bool
  abortOnBuildFailure : Bool
  /-- The keyword that the names of inputs must have. -/
  filter : Option String
deriving DecidableEq, Repr

/-- The settings that hold when nothing is said. -/
def Settings.default : Settings where
  directory := ⟨"."⟩
  build := some "javac BNF.java"
  program := "java BNF"
  output := ⟨"output.txt"⟩
  diffTool := none
  pairing := .positional
  stopOnFail := false
  abortOnBuildFailure := false
  filter := none

end Golden
