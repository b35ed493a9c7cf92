/-
This file reads command lines. Arguments are read from left to right. An option
with a value may have it attached or take the next argument, if that does not look
like an option; a value of its own argument is looked at only when something else
follows or the line ends, and so it is found at fault later than an attached one.
Nothing may be given twice. What the line as a whole lacks, or holds that does not
go together, is found last.
-/

import Golden.Options.Basic

namespace Golden.Options

open Golden.Fixture

/-! ### The state of reading -/

/-- What ends the reading of a command line before it can be followed. -/
inductive Stop
  | missingRequiredArgument
  | argumentConflict
  | invalidValue
  | unknownArgument
  | tooManyValues
  | help
  | version
deriving DecidableEq, Repr

/-- What was read of a command line. -/
structure State where
  /-- The values that were taken. -/
  values : List (Slot × String)
  /-- What was switched on. -/
  switches : List Switch
  /-- A slot that was named, with the value that it got if it got one, not looked at yet. -/
  pending : Option (Slot × Option String)
  /-- Whether a directory was named. -/
  directoryNamed : Bool
  /-- Whether two hyphens stood alone, after which no argument is an option. -/
  plainOnly : Bool
deriving Repr

/-- The state before any argument. -/
def State.start : State := ⟨[], [], none, false, false⟩

/-- Gives a value to a slot. -/
def State.assign (state : State) (slot : Slot) (value : String) : Except Stop State :=
  if (state.values.lookup slot).isSome then .error .argumentConflict
  else if takes slot value then .ok { state with values := state.values ++ [(slot, value)] }
  else .error .invalidValue

/-- Looks at the pending value, which must be there. -/
def State.settle (state : State) : Except Stop State :=
  match state.pending with
  | none => .ok state
  | some (_, none) => .error .invalidValue
  | some (slot, some value) => { state with pending := none }.assign slot value

/-- Turns a switch on. -/
def State.turnOn (state : State) (switch : Switch) : Except Stop State :=
  if switch ∈ state.switches then .error .argumentConflict
  else .ok { state with switches := state.switches ++ [switch] }

/-! ### One argument -/

/-- Reads an argument that is no option. -/
def readPlain (state : State) (argument : String) : Except Stop State :=
  if state.directoryNamed then .error .unknownArgument
  else do
    let settled ← state.settle
    return { settled with pending := some (.directory, some argument), directoryNamed := true }

/-- Reads an option with a long name, and the value attached to it if there is one. -/
def readLong (state : State) (name : String) (attached : Option String) : Except Stop State :=
  match longNames.lookup name, attached with
  | none, _ => .error .unknownArgument
  | some (.value slot), some value => do (← state.settle).assign slot value
  | some (.value slot), none => do return { ← state.settle with pending := some (slot, none) }
  | some _, some _ => .error .tooManyValues
  | some (.switch switch), none => do (← state.settle).turnOn switch
  | some .help, none => do
    let _ ← state.settle
    throw .help
  | some .version, none => do
    let _ ← state.settle
    throw .version

/-- A value that is attached to a letter, with or without an equals sign between them. -/
def withoutEquals : List Char → List Char
  | '=' :: value => value
  | value => value

/-- Reads the letters after one hyphen. The letter of an option with a value takes all that
follows it. -/
def readLetters (state : State) : List Char → Except Stop State
  | [] => .ok state
  | letter :: rest =>
    match shortNames.lookup letter with
    | none => .error .unknownArgument
    | some (.value slot) => do
      let settled ← state.settle
      if rest.isEmpty then return { settled with pending := some (slot, none) }
      else settled.assign slot (String.ofList (withoutEquals rest))
    | some (.switch switch) => do readLetters (← (← state.settle).turnOn switch) rest
    | some .help => do
      let _ ← state.settle
      throw .help
    | some .version => do
      let _ ← state.settle
      throw .version

/-- A long option in two: its name, and what follows an equals sign. -/
def cutAtEquals (text : List Char) : String × Option String :=
  match text.dropWhile (· ≠ '=') with
  | [] => (String.ofList text, none)
  | _ :: value => (String.ofList (text.takeWhile (· ≠ '=')), some (String.ofList value))

/-- Reads one argument. -/
def readArgument (state : State) (argument : String) : Except Stop State :=
  if state.plainOnly then readPlain state argument
  else
    match argument.toList with
    | ['-', '-'] => .ok { state with plainOnly := true }
    | '-' :: '-' :: rest =>
      let (name, attached) := cutAtEquals rest
      readLong state name attached
    | '-' :: letter :: rest => readLetters state (letter :: rest)
    | _ =>
      match state.pending with
      | some (slot, none) => .ok { state with pending := some (slot, some argument) }
      | _ => readPlain state argument

/-- Reads arguments from left to right. -/
def readArguments (state : State) : List String → Except Stop State
  | [] => state.settle
  | argument :: rest => do readArguments (← readArgument state argument) rest

/-! ### The whole line -/

/-- The value of a slot, or the one that holds when none was given. -/
def State.value (state : State) (slot : Slot) (otherwise : String) : String :=
  (state.values.lookup slot).getD otherwise

/-- The options that a state amounts to, with the given directory. -/
def State.options (state : State) (directory : String) : Options :=
  let on (switch : Switch) : Bool := state.switches.contains switch
  let default := Settings.default
  { settings :=
      { directory := ⟨directory⟩
        build :=
          if on .noBuild then none else some (state.value .build (default.build.getD ""))
        program := state.value .program default.program
        output := ⟨state.value .output default.output.text⟩
        diffTool := state.values.lookup .diffTool
        pairing :=
          ((state.values.lookup .pairing).bind (List.lookup · pairings)).getD default.pairing
        stopOnFail := on .stopOnFail
        abortOnBuildFailure := on .abortOnBuildFailure
        filter := state.values.lookup .filter }
    format := ((state.values.lookup .format).bind (List.lookup · formats)).getD .console
    verbose := on .verbose }

/-- The options that the arguments of a command line say. -/
def parse (arguments : List String) : Except Stop Options := do
  let state ← readArguments State.start arguments
  if state.switches.contains .noBuild && (state.values.lookup .build).isSome then
    throw .argumentConflict
  else
    match state.values.lookup .directory with
    | some directory => return state.options directory
    | none => throw .missingRequiredArgument

end Golden.Options
