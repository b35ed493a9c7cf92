/-
This file introduces what a shell works on. The machine is shared by all shells that
run: the files, the open descriptions that descriptors lead to, and what was written on
the two channels that somebody watches. A process is one shell: its parameters,
variables, functions, options, traps and descriptors. An act changes both, and ends
with a result or with an interrupt that leaves the commands it came from.
-/

import Golden.Shell.Syntax
import Golden.Tool.Call

namespace Golden.Shell

open Golden

/-! ### The machine -/

/-- What an open description leads to. -/
inductive Target
  | file (location : Location)
  /-- A file that was taken away while it was open. -/
  | lost (content : Bytes)
  | directory (location : Location)
  | emptyDevice
  | channel (channel : Tool.Channel)
  | pipe (content : Octets)
deriving Repr

/-- Something that was opened, and how far it was read or written. -/
structure Description where
  target : Target
  offset : Nat
  appends : Bool
  isReadable : Bool
  isWritable : Bool
deriving Repr

/-- What all shells share. -/
structure Machine where
  files : Files
  descriptions : Array Description
  /-- What was written on the channels, the last part first. -/
  written : List (Tool.Channel × Octets)
  lastProcess : Nat
  /-- The signals that were sent to shells that wait, each with the number of the shell. -/
  sent : List (Nat × Nat)

/-! ### Processes -/

/-- A variable. It has no value when it was only declared. -/
structure Variable where
  value? : Option Octets
  isExported : Bool
  isReadOnly : Bool
deriving DecidableEq, Repr

/-- A function of a shell. -/
structure Routine where
  line : Nat
  body : Command

/-- What can be switched on and off in a shell, by a letter and by a name. Two names have no
letters; octets that nobody writes stand in for them. -/
def switches : List (Char × String) :=
  [('e', "errexit"), ('f', "noglob"), ('I', "ignoreeof"), ('i', "interactive"), ('m', "monitor"),
    ('n', "noexec"), ('s', "stdin"), ('x', "xtrace"), ('v', "verbose"), ('V', "vi"),
    ('E', "emacs"), ('C', "noclobber"), ('a', "allexport"), ('b', "notify"), ('u', "nounset"),
    ('p', "privileged"), ('\x01', "nolog"), ('\x02', "debug")]

/-- The letters of what is switched on, the last one first. -/
def lettersOf (switchedOn : List Char) : Octets :=
  (switches.map Prod.fst).reverse.filter fun letter => ' ' < letter && switchedOn.contains letter

/-- How a process ended. -/
inductive Ending
  | exited (status : Nat)
  | signaled (signal : Nat)
deriving DecidableEq, Repr

/-- The status by which a shell knows an ending. -/
def Ending.status : Ending → Nat
  | .exited status => status
  | .signaled signal => 128 + signal

/-- A command that was started without waiting for it. -/
structure Job where
  process : Nat
  ending : Ending
  /-- Whether somebody has waited for it. -/
  isOver : Bool
deriving DecidableEq, Repr

/-- The jobs with a new one, which takes the place of the first one that is over. -/
def Job.add (job : Job) : List Job → List Job
  | [] => [job]
  | first :: rest => if first.isOver then job :: rest else first :: add job rest

/-- A shell. -/
structure Process where
  /-- The number that the shell knows itself by, which its copies share. -/
  number : Nat
  /-- The number that belongs to this shell alone. -/
  own : Nat
  parent : Nat
  name : Octets
  arguments : List Octets
  bindings : List (Octets × Variable)
  /-- What variables were before they became local, the innermost function first. -/
  locals : List (List (Octets × Option Variable))
  functions : List (Octets × Routine)
  aliases : List (Octets × Octets)
  switchedOn : List Char
  traps : List (Nat × Octets)
  /-- Signals that were caught and not yet dealt with. -/
  pending : List Nat
  descriptors : List (Nat × Nat)
  directory : Path
  mask : Nat
  status : Nat
  /-- The status that the shell had before a trap, with which it ends if the trap says no other. -/
  trapStatus? : Option Nat
  line : Nat
  /-- The line up to which scripts have been read. -/
  reached : Nat
  /-- The command that complaints are about. -/
  command? : Option Octets
  /-- The status of the last command whose output was used. -/
  outputStatus? : Option Nat
  /-- How many loops the current command stands in. -/
  loops : Nat
  /-- How many functions have been called and have not ended. -/
  calls : Nat
  jobs : List Job
  lastJob? : Option Nat
  /-- The number of the argument at which options are looked for next. -/
  optionIndex : Nat
  /-- How far the argument before that was looked at. -/
  optionPlace : Nat
  /-- Whether commands are being traced, so that tracing them is not traced. -/
  isTracing : Bool

/-- All that an act can change. -/
structure State where
  machine : Machine
  process : Process

/-! ### Acts -/

/-- Why commands are left before their end. -/
inductive Interrupt
  /-- The shell ends with its status. -/
  | exit
  /-- The shell gives up. -/
  | failure
  /-- Loops are left, or gone on with when they were left but for the last one. -/
  | leaveLoops (count : Nat) (goesOn : Bool)
  | leaveFunction
  /-- A signal ends the shell. -/
  | killed (signal : Nat)
  /-- A program took the place of the shell and ended. -/
  | replaced (ending : Ending)
deriving DecidableEq, Repr

/-- Something that a shell does. -/
abbrev Act := ExceptT Interrupt (StateM State)

namespace Act

/-- The shell that acts. -/
def process : Act Process := return (← get).process

/-- What the shells share. -/
def machine : Act Machine := return (← get).machine

/-- Changes the shell. -/
def change (update : Process → Process) : Act Unit :=
  modify fun state => { state with process := update state.process }

/-- Changes what the shells share. -/
def changeMachine (update : Machine → Machine) : Act Unit :=
  modify fun state => { state with machine := update state.machine }

/-- Gives the shell a status. -/
def setStatus (status : Nat) : Act Unit :=
  change fun process => { process with status := status }

/-- Does something with a changed shell, and undoes a part of the change however it ends. -/
def bracketed {α : Type} (restore : Process → Act Unit) (act : Act α) : Act α := do
  let before ← process
  let result ← tryCatch (Except.ok <$> act) fun interrupt => pure (Except.error interrupt)
  restore before
  match result with
  | .ok value => return value
  | .error interrupt => throw interrupt

/-- A number for a new process. -/
def freshNumber : Act Nat := do
  let number := (← machine).lastProcess + 1
  changeMachine fun machine => { machine with lastProcess := number }
  return number

/-! ### Writing -/

/-- The description that a descriptor leads to, with its number. -/
def description? (descriptor : Nat) : Act (Option (Nat × Description)) := do
  match (← process).descriptors.lookup descriptor with
  | none => return none
  | some handle => return (← machine).descriptions[handle]?.map fun found => (handle, found)

/-- Changes a description. -/
def setDescription (handle : Nat) (description : Description) : Act Unit :=
  changeMachine fun machine =>
    { machine with descriptions := machine.descriptions.set! handle description }

/-- A content after something is written at a place in it. -/
def overwritten (content : Bytes) (offset : Nat) (bytes : Bytes) : Bytes :=
  content.take offset ++ List.replicate (offset - content.length) 0 ++ bytes ++
    content.drop (offset + bytes.length)

/-- The content of the file at a location. -/
def contentAt (files : Files) (location : Location) : Bytes :=
  match files.find? location with
  | some (.file content) => content
  | _ => []

/-- Writes to a description. -/
def writeTo (handle : Nat) (description : Description) (text : Octets) : Act Unit := do
  let bytes := Octets.toBytes text
  let place (content : Bytes) : Nat :=
    if description.appends then content.length else description.offset
  match description.target with
  | .file location =>
    let content := contentAt (← machine).files location
    changeMachine fun machine =>
      { machine with
        files := machine.files.store location (overwritten content (place content) bytes) }
    setDescription handle { description with offset := place content + bytes.length }
  | .lost content =>
    setDescription handle
      { description with
        target := .lost (overwritten content (place content) bytes)
        offset := place content + bytes.length }
  | .channel channel =>
    changeMachine fun machine => { machine with written := (channel, text) :: machine.written }
  | .pipe content => setDescription handle { description with target := .pipe (content ++ text) }
  | .emptyDevice | .directory _ => return

/-- Writes to a descriptor, and tells whether that was possible. -/
def write (descriptor : Nat) (text : Octets) : Act Bool := do
  match ← description? descriptor with
  | some (handle, description) =>
    if description.isWritable then
      writeTo handle description text
      return true
    else return false
  | none => return false

/-- Prints a text as the output of the current command. -/
def print (text : Octets) : Act Bool := write 1 text

/-! ### Complaining -/

/-- Writes a complaint about the current command. -/
def warn (words : Octets) : Act Unit := do
  let process ← process
  let about :=
    match process.command? with
    | some command => command ++ ": ".toList
    | none => []
  let _ ← write 2 (process.name ++ ": ".toList ++ Octets.ofNat process.line ++ ": ".toList ++
    about ++ words ++ ['\n'])

/-- Writes a complaint and gives up with a status. -/
def failWith {α : Type} (status : Nat) (words : Octets) : Act α := do
  warn words
  setStatus status
  throw .failure

/-- Writes a complaint and gives up. -/
def fail {α : Type} (words : Octets) : Act α :=
  failWith 2 words

/-! ### Reading -/

/-- What is left to read from a description, or why it cannot be read. -/
def unread (description : Description) : Act (Except Cause Octets) := do
  if !description.isReadable then return .error (.other "Bad file descriptor")
  else
    match description.target with
    | .file location =>
      let content := contentAt (← machine).files location
      return .ok (Octets.ofBytes (content.drop description.offset))
    | .lost content => return .ok (Octets.ofBytes (content.drop description.offset))
    | .pipe content => return .ok (content.drop description.offset)
    | .directory _ => return .error .isADirectory
    | .emptyDevice | .channel _ => return .ok []

/-- What is left to read from a descriptor, or why it cannot be read. -/
def unreadOf (descriptor : Nat) : Act (Except Cause Octets) := do
  match ← description? descriptor with
  | some (_, description) => unread description
  | none => return .error (.other "Bad file descriptor")

/-- Counts octets as read from a descriptor. -/
def advance (descriptor count : Nat) : Act Unit := do
  match ← description? descriptor with
  | some (handle, description) =>
    setDescription handle { description with offset := description.offset + count }
  | none => return

/-! ### Descriptors -/

/-- Makes a descriptor lead to a description, or to nothing. -/
def lead (descriptor : Nat) (handle? : Option Nat) : Act Unit :=
  change fun process =>
    let others := process.descriptors.filter fun entry => entry.1 ≠ descriptor
    { process with
      descriptors :=
        match handle? with
        | some handle => (descriptor, handle) :: others
        | none => others }

/-- Adds a description, and gives its number. -/
def openDescription (description : Description) : Act Nat := do
  let handle := (← machine).descriptions.size
  changeMachine fun machine =>
    { machine with descriptions := machine.descriptions.push description }
  return handle

/-! ### Variables -/

/-- The variable of a name. -/
def variableOf? (name : Octets) : Act (Option Variable) :=
  return (← process).bindings.lookup name

/-- The value of the variable of a name. -/
def valueOf? (name : Octets) : Act (Option Octets) :=
  return (← variableOf? name).bind Variable.value?

/-- Puts a variable in the place of another one. -/
def putVariable (name : Octets) (variableOf? : Option Variable) : Act Unit :=
  change fun process =>
    let others := process.bindings.filter fun entry => entry.1 ≠ name
    { process with
      bindings :=
        match variableOf? with
        | some found => (name, found) :: others
        | none => others }

/-- Whether something is switched on. -/
def isOn (switch : Char) : Act Bool :=
  return (← process).switchedOn.contains switch

/-- Gives a value to a variable. -/
def assign (name value : Octets) : Act Unit := do
  let found := (← variableOf? name).getD ⟨none, false, false⟩
  if found.isReadOnly then fail (name ++ ": is read only".toList)
  else
    let isExported := found.isExported || (← isOn 'a')
    putVariable name (some { found with value? := some value, isExported := isExported })
    if name = "OPTIND".toList then
      let index := max 1 (((String.ofList value).toNat?).getD 1)
      change fun process => { process with optionIndex := index, optionPlace := 0 }

/-- The name under which what is switched on is remembered. -/
def switchesName : Octets := ['-']

/-- Remembers what a variable is, so that it is that again after the current function. -/
def keepForLater (name : Octets) : Act Unit := do
  let found ←
    if name = switchesName then
      pure (some ⟨some (← process).switchedOn, false, false⟩)
    else variableOf? name
  change fun process =>
    match process.locals with
    | innermost :: others =>
      if innermost.any fun entry => entry.1 = name then process
      else { process with locals := ((name, found) :: innermost) :: others }
    | [] => process

/-- Does something after which all variables that it made local are what they were. -/
def withLocals {α : Type} (act : Act α) : Act α := do
  change fun process => { process with locals := [] :: process.locals }
  let restore : Process → Act Unit := fun _ => do
    match (← process).locals with
    | innermost :: others =>
      change fun process => { process with locals := others }
      for (name, found) in innermost do
        if name = switchesName then
          change fun process =>
            { process with switchedOn := (found.bind Variable.value?).getD [] }
        else putVariable name found
    | [] => return
  bracketed restore act

end Act

/-! ### Signals -/

/-- The signals by name, in the order of their numbers from one on. A few are named by their
numbers. -/
def signalNames : List String :=
  ["HUP", "INT", "QUIT", "ILL", "TRAP", "ABRT", "BUS", "FPE", "KILL", "USR1", "SEGV", "USR2",
    "PIPE", "ALRM", "TERM", "16", "CHLD", "CONT", "STOP", "TSTP", "TTIN", "TTOU", "URG", "XCPU",
    "XFSZ", "VTALRM", "PROF", "WINCH", "IO", "PWR", "SYS", "32", "33", "RTMIN"] ++
    (List.range 15).map (fun step => "RTMIN+" ++ toString (step + 1)) ++
    (List.range 14).map (fun step => "RTMAX-" ++ toString (14 - step)) ++ ["RTMAX"]

/-- The first of the signals that have no meaning of their own. -/
def firstFreeSignal : Nat := 34

/-- The signal by which a process learns that one it started has ended. -/
def endingSignal : Nat := 17

/-- What is said of a process that a signal ended, by the number of the signal. -/
def signalWords : List (Nat × String) :=
  [(1, "Hangup"), (2, "Interrupt"), (3, "Quit"), (4, "Illegal instruction"),
    (5, "Trace/breakpoint trap"), (6, "Aborted"), (7, "Bus error"),
    (8, "Floating point exception"), (9, "Killed"), (10, "User defined signal 1"),
    (11, "Segmentation fault"), (12, "User defined signal 2"), (13, "Broken pipe"),
    (14, "Alarm clock"), (15, "Terminated"), (16, "Stack fault"), (24, "CPU time limit exceeded"),
    (25, "File size limit exceeded"), (26, "Virtual timer expired"),
    (27, "Profiling timer expired"), (29, "I/O possible"), (30, "Power failure"),
    (31, "Bad system call")]

/-- What is said of a process that a signal ended. -/
def wordsForSignal (signal : Nat) : String :=
  match signalWords.lookup signal with
  | some words => words
  | none =>
    if firstFreeSignal ≤ signal then "Real-time signal " ++ toString (signal - firstFreeSignal)
    else "Unknown signal " ++ toString signal

/-- The signals that do not end a process that knows nothing of them. -/
def harmlessSignals : List Nat := [0, 17, 18, 23, 28]

/-- The number of a signal that is given by number or name, where zero stands for the end of a
shell. -/
def signalNumber? (word : Octets) : Option Nat :=
  if !word.isEmpty && word.all Char.isDigit then
    (String.ofList word).toNat?.filter (· ≤ 64)
  else
    let bare := String.ofList (word.map Char.toUpper)
    if bare = "EXIT" then some 0
    else (signalNames.findIdx? (· = bare)).map (· + 1)

end Golden.Shell
