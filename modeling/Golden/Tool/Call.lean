/-
This file lists the tools by name. A tool is called by its name or by a path to it in
one of the directories of the system; calling it gives back all that it did. What a tool
writes when its output is closed is lost, and the tool fails for it.
-/

import Golden.Tool.Comparison
import Golden.Tool.Concatenation
import Golden.Tool.Removal

namespace Golden.Tool

open Golden

/-! ### Programs -/

/-- What a tool that only ends with a status does. -/
def endWith (status : Nat) (arguments : List Octets) : Work Unit := do
  if arguments = ["--help".toList] || arguments = ["--version".toList] then
    stopWork status false .about
  Work.fail status

/-- The work of the tool of a name. -/
def work? (name : String) : Option (Scene → List Octets → Work Unit) :=
  match name with
  | "cat" => some Concatenation.work
  | "cmp" => some Comparison.work
  | "cp" => some fun scene => Copying.work scene
  | "rm" => some fun scene => Removal.work scene
  | "true" => some fun _ => endWith 0
  | "false" => some fun _ => endWith 1
  | _ => none

/-- The name of the program that runs scripts. -/
def shellName : String := "sh"

/-- Whether there is a program of a name. -/
def isProgram (name : String) : Bool :=
  name = shellName || (work? name).isSome

/-- The locations of the directories that hold the programs. -/
def homes : List Location := [["/", "bin"], ["/", "usr", "bin"]]

/-- The name of the program that a path leads to, if it leads to one. -/
def programAt? (files : Files) (path : Path) : Option String :=
  match files.locate path with
  | .ok location =>
    if homes.contains location.dropLast && !path.namesDirectory then
      location.getLast?.filter isProgram
    else none
  | .error _ => none

/-! ### Calls -/

/-- The effect of a tool whose output was closed. -/
def closeOutput (effect : Effect) : Effect :=
  let (lost, kept) := effect.written.partition fun part => part.1 = .out
  if lost.isEmpty then effect
  else
    ((Work.complain "write error: Bad file descriptor".toList).run
      { effect with written := kept }).2

/-- Calls a tool by name, if there is one of that name. -/
def call? (name : String) (arguments : List Octets) (scene : Scene) : Option Effect :=
  (work? name).map fun work =>
    let effect := ((work scene arguments).run (Effect.start scene)).2
    if scene.output = .closed then closeOutput effect else effect

end Golden.Tool
