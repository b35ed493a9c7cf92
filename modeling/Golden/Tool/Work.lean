/-
This file describes what a tool can see and what it can do. A tool sees the files,
the directory that its names are read from, its input, and where its output leads. It
changes files, writes on two channels, reads lines of its input when it asks a
question, and ends with a status. What it did is gathered step by step, so that the
order of what was written is kept.
-/

import Golden.Tool.Arguments

namespace Golden.Tool

open Golden

/-! ### What a tool sees -/

/-- A place in a file. -/
structure Place where
  location : Location
  offset : Nat
deriving DecidableEq, Repr

/-- Where the output of a tool goes. -/
inductive Output
  /-- Nowhere, for it was closed. -/
  | closed
  | emptyDevice
  | file (place : Place)
  | elsewhere
deriving DecidableEq, Repr

/-- What a tool can see. -/
structure Scene where
  /-- The name that the tool was called by. -/
  name : Octets
  files : Files
  /-- The directory that names are read from. -/
  directory : Path
  /-- What is left of the input, or why it cannot be read. -/
  input : Except Cause Octets
  /-- Whether the input was not closed. -/
  hasInput : Bool
  /-- Where the input comes from, if that is a file. -/
  inputPlace : Option Place
  output : Output

/-- The path that a name means in a directory. The empty name means nothing anywhere. -/
def pathIn (directory : Path) (name : Octets) : Path :=
  if name.isEmpty then ⟨""⟩ else directory.join (Octets.toPath name)

/-! ### What a tool does -/

/-- Where a tool writes. -/
inductive Channel
  | out
  | err
deriving DecidableEq, Repr

/-- What a tool has done so far. -/
structure Effect where
  /-- The name that the tool was called by. -/
  name : Octets
  files : Files
  /-- The locations at which something was taken away. -/
  removed : List Location
  written : List (Channel × Octets)
  status : Nat
  /-- What the tool has not read of its input. -/
  unread : Octets
  /-- Whether the tool has read from its input. -/
  hasRead : Bool

/-- What a tool does on the way to its end. -/
abbrev Work := StateM Effect

/-- The effect of a tool that has done nothing yet. -/
def Effect.start (scene : Scene) : Effect :=
  ⟨scene.name, scene.files, [], [], 0, scene.input.toOption.getD [], false⟩

namespace Work

/-- Writes on a channel. -/
def write (channel : Channel) (text : Octets) : Work Unit :=
  modify fun effect => { effect with written := effect.written ++ [(channel, text)] }

/-- Gives the tool a status, unless it has one that is worse. -/
def fail (status : Nat) : Work Unit :=
  modify fun effect => { effect with status := max effect.status status }

/-- Writes a complaint. -/
def warn (words : Octets) : Work Unit := do
  write .err ((← get).name ++ ": ".toList ++ words ++ ['\n'])

/-- Writes a complaint, for the tool has failed. -/
def complain (words : Octets) : Work Unit := do
  warn words
  fail 1

/-- Looks at the files. -/
def look {α : Type} (request : Files → α) : Work α := do
  return request (← get).files

/-- Puts something at a location. -/
def place (location : Location) (node : Node) : Work Unit :=
  modify fun effect => { effect with files := effect.files.put location node }

/-- Takes away what stands at a location. -/
def remove (location : Location) : Work Unit :=
  modify fun effect =>
    { effect with files := effect.files.erase location, removed := location :: effect.removed }

/-- The answer to a question that is asked on the error channel: a line that starts with a `y`. -/
def ask (question : Octets) : Work Bool := do
  write .err ((← get).name ++ ": ".toList ++ question ++ "? ".toList)
  let line := (← get).unread.takeWhile (· ≠ '\n')
  modify fun effect =>
    { effect with unread := effect.unread.drop (line.length + 1), hasRead := true }
  return line.head? == some 'y' || line.head? == some 'Y'

end Work

/-- What a tool does when it stops at its command line. The advice starts with the name of the tool
where the tool always does so. -/
def stopWork (status : Nat) (named : Bool) (stop : Stop) : Work Unit := do
  let name := (← get).name
  match stop with
  | .misuse complaint =>
    Work.warn complaint
    let opening := if named then name ++ ": ".toList else []
    Work.write .err
      (opening ++ "Try '".toList ++ name ++ " --help' for more information.\n".toList)
    Work.fail status
  | .refusal complaint =>
    Work.warn complaint
    Work.fail status
  | .about => Work.write .out ("Usage: ".toList ++ name ++ " [OPTION]... [FILE]...\n".toList)

/-- What a tool does with arguments: what its work is for the settings and the operands that they
say, or what it says of them. -/
def conduct {σ : Type} (choices : List (Choice σ)) (settings : σ)
    (work : σ → List Octets → Work Unit) (arguments : List Octets) : Work Unit :=
  match readArguments (choices ++ aboutChoices) arguments settings with
  | .error stop => stopWork 1 false stop
  | .ok (settings, operands) => work settings operands

end Golden.Tool
