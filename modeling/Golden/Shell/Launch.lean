/-
This file starts programs by name. A name without a slash is that of the shell or of
a tool; a name with one is a path, and no file that a run sees can be started, so it
is either refused or not found. A program starts on an empty input, and what it writes
on its two channels is gathered.
-/

import Golden.Run.Process
import Golden.Shell.Execution

namespace Golden.Shell

open Golden Golden.Run

/-- How deep commands can stand in one another. -/
def depthLimit : Nat := 20000

/-- The greatest status that a program ends with by itself; a greater one tells of a signal. -/
def greatestStatus : Nat := 128

/-- The machine on which a program starts. Its input is empty, and its two channels are watched. -/
def startMachine (files : Files) : Machine :=
  ⟨files,
    #[⟨.emptyDevice, 0, false, true, false⟩, ⟨.channel .out, 0, true, false, true⟩,
      ⟨.channel .err, 0, true, false, true⟩],
    [], 1, []⟩

/-- The path from the root to the working directory. -/
def workplaceName : String :=
  "/" ++ "/".intercalate (Location.workplace.drop 1)

/-- The variables that a program is given. -/
def startVariables : List (Octets × Variable) :=
  [("PATH", "/usr/local/sbin:/usr/local/bin:/usr/sbin:/usr/bin:/sbin:/bin"),
    ("HOME", "/root"), ("PWD", workplaceName)].map fun (name, value) =>
      (name.toList, ⟨some value.toList, true, false⟩)

/-- The process that starts a program. -/
def startProcess : Process :=
  { number := 1
    own := 1
    parent := 0
    name := Tool.shellName.toList
    arguments := []
    bindings := startVariables
    locals := []
    functions := []
    aliases := []
    switchedOn := []
    traps := []
    pending := []
    descriptors := [(0, 0), (1, 1), (2, 2)]
    directory := ⟨workplaceName⟩
    mask := 0o22
    status := 0
    trapStatus? := none
    line := 0
    reached := 0
    command? := none
    outputStatus? := none
    loops := 0
    calls := 0
    jobs := []
    lastJob? := none
    optionIndex := 1
    optionPlace := 0
    isTracing := false }

/-- The exit code of an ending, if there is one. -/
def Ending.code? : Ending → Option Int
  | .exited status => if status ≤ greatestStatus then some (Int.ofNat status) else none
  | .signaled _ => none

/-- What was written on a channel of a machine. -/
def Machine.writtenOn (machine : Machine) (channel : Tool.Channel) : Bytes :=
  Octets.toBytes
    ((machine.written.reverse.filter fun part => part.1 = channel).flatMap Prod.snd)

/-- Why a program that is not known cannot be started. -/
def refusal (files : Files) (program : String) : Cause :=
  if program.toList.contains '/' then
    match files.examine ⟨program⟩ with
    | .ok _ => .accessDenied
    | .error cause => cause
  else if program = "." || program = ".." then .accessDenied
  else .notFound

/-- Starts a program on no input. -/
def launch {σ : Type} : Launcher σ := fun program arguments world =>
  let known? :=
    if program.toList.contains '/' then Tool.programAt? world.files ⟨program⟩
    else if Tool.isProgram program then some program
    else none
  match known? with
  | none => (.error (refusal world.files program), world)
  | some name =>
    let call := Act.callProgram (Act.evaluate depthLimit) name (Octets.ofText program)
      (arguments.map Octets.ofText)
    let (result, state) := call.run ⟨startMachine world.files, startProcess⟩
    let code? :=
      match result with
      | .ok ending => ending.code?
      | .error _ => none
    let finished : Finished :=
      ⟨state.machine.writtenOn .out, state.machine.writtenOn .err, code?⟩
    (.ok finished, { world with files := state.machine.files })

end Golden.Shell
