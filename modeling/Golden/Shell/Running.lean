/-
This file runs texts as scripts and shells within shells, given a way to carry out
single commands. A text is run one complete command at a time, and what was done before
a fault stays done. A shell within a shell works on a copy of the process, so that only
what it does to the machine outlives it; when it ends, what it was told to do at its end
is done.
-/

import Golden.Shell.Script
import Golden.Shell.State

namespace Golden.Shell

open Golden

/-- In which circumstances a command is carried out. -/
structure Mode where
  /-- Whether somebody looks at the status, so that a failure is no reason to end the shell. -/
  isTested : Bool
  /-- Whether the shell ends after the command. -/
  isLast : Bool
deriving DecidableEq, Repr

/-- The circumstances in which nothing follows from a command. -/
def Mode.plain : Mode := ⟨false, false⟩

/-- A way to carry out commands. It gives the status of a command. -/
abbrev Evaluator := Command → Mode → Act Nat

namespace Act

/-! ### Texts -/

/-- Complains about a fault in a script, and gives up. -/
def failAt {α : Type} (fault : Fault) : Act α := do
  change fun process => { process with line := fault.line }
  fail ("Syntax error: " ++ fault.words).toList

/-- Runs what a reader has before it. What it reads is shown if that is switched on. -/
def runFrom (again : Evaluator) (mode : Mode) (isShown : Bool) :
    Nat → Reader → Nat → Act Nat
  | 0, _, status => return status
  | fuel + 1, reader, status => do
    let show' (after : Reader) : Act Unit := do
      if isShown && (← isOn 'v') then
        let _ ← write 2 (reader.input.take (reader.input.length - after.input.length))
    match readPortion { reader with aliases := (← process).aliases } with
    | .error fault => failAt fault
    | .ok (.finish, after) =>
      show' after
      return status
    | .ok (.blank, after) =>
      show' after
      runFrom again mode isShown fuel after status
    | .ok (.command command, after) =>
      show' after
      change fun process => { process with reached := after.line }
      let status ← again command mode
      runFrom again mode isShown fuel after status

/-- Runs a text as a script. -/
def runText (again : Evaluator) (mode : Mode) (text : Octets) : Act Nat := do
  let before := (← process).reached
  let status ← runFrom again mode false (text.length + 2) (Reader.start text 1) 0
  change fun process => { process with reached := before }
  return status

/-! ### Traps -/

/-- Whether the shell has something to do when a signal comes or when it ends. -/
def hasTraps : Act Bool := do
  return (← process).traps.any fun entry => !entry.2.isEmpty

/-- Remembers that a signal came, if something is to be done for it. -/
def remember (signal : Nat) : Act Unit :=
  change fun process =>
    if ((process.traps.lookup signal).any fun action => !action.isEmpty) &&
        !process.pending.contains signal then
      { process with pending := process.pending ++ [signal] }
    else process

/-- Deals with a signal that comes to the shell. It ends a shell that has nothing to do for it. -/
def deliver (signal : Nat) : Act Unit := do
  if signal = 9 then throw (.killed signal)
  else if ((← process).traps.lookup signal).isSome then remember signal
  else if !harmlessSignals.contains signal then throw (.killed signal)

/-- Deals with the signals that came while the shell waited. -/
def receive : Act Unit := do
  let process ← process
  let (own, others) := (← machine).sent.partition fun entry => entry.1 = process.own
  changeMachine fun machine => { machine with sent := others }
  for (_, signal) in own do
    deliver signal

/-- Does what is to be done for the signals that came. -/
def runPending (again : Evaluator) : Act Unit := do
  let process ← process
  match process.pending with
  | [] => return
  | pending =>
    let status := process.status
    change fun process => { process with pending := [], trapStatus? := some status }
    for signal in pending.mergeSort do
      match process.traps.lookup signal with
      | some action =>
        let _ ← runText again .plain action
        setStatus status
      | none => pure ()
    change fun process => { process with trapStatus? := none }

/-! ### Ends -/

/-- What an act came to: its result, or what interrupted it. -/
def outcomeOf {α : Type} (act : Act α) : Act (Except Interrupt α) :=
  tryCatch (Except.ok <$> act) fun interrupt => return .error interrupt

/-- How the shell ends after it was told to do something at its end. -/
def runExitTrap (again : Evaluator) : Act Ending := do
  let before ← process
  let status := before.status
  match before.traps.lookup 0 with
  | none => return .exited (status % 256)
  | some action =>
    change fun process =>
      { process with
        traps := process.traps.filter fun entry => entry.1 ≠ 0
        trapStatus? := some status }
    match ← outcomeOf (runText again .plain action) with
    | .ok _ | .error (.leaveLoops ..) | .error .leaveFunction => return .exited (status % 256)
    | .error (.killed signal) => return .signaled signal
    | .error (.replaced ending) => return ending
    | .error .exit | .error .failure => return .exited ((← process).status % 256)

/-- How the shell ends after an act. -/
def conclude (again : Evaluator) (act : Act Nat) : Act Ending := do
  match ← outcomeOf act with
  | .error (.killed signal) => return .signaled signal
  | .error (.replaced ending) => return ending
  | .ok _ | .error _ => runExitTrap again

/-- Does something in a shell that is a copy of this one, and gives how that shell ended. -/
def inChild (again : Evaluator) (act : Act Nat) : Act Ending := do
  let before ← process
  let own ← freshNumber
  change fun process =>
    { process with
      own := own
      traps := process.traps.filter fun entry => entry.2.isEmpty
      pending := []
      trapStatus? := none
      jobs := [] }
  let ending ← conclude again act
  change fun _ => before
  receive
  return ending

/-- Tells of a signal that ended a process somebody waited for. -/
def tellEnding (ending : Ending) : Act Unit := do
  remember endingSignal
  match ending with
  | .exited _ | .signaled 2 | .signaled 13 => return
  | .signaled signal =>
    let _ ← write 2 (wordsForSignal signal ++ "\n").toList

/-- Does something in a shell of its own and waits for its end. -/
def waitForChild (again : Evaluator) (act : Act Nat) : Act Nat := do
  let ending ← inChild again act
  tellEnding ending
  return ending.status

end Act

end Golden.Shell
