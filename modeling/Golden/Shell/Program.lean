/-
This file starts programs from a shell: the tools, and shells of their own. A program
is looked for by its name in the directories that the variable for them lists, or is
reached by a path; it gets the variables that are exported and the descriptors of the
shell. A shell is started on a script that is an argument, on one in a file, or on its
input.
-/

import Golden.Shell.Own
import Golden.Shell.Redirection

namespace Golden.Shell

open Golden

/-- What is looked for and can be started, or why not. -/
inductive Lookup
  /-- A program, with the path that it is reached by. -/
  | program (program : String) (path : Octets)
  | missing
  | denied

namespace Act

/-! ### Looking for programs -/

/-- The directories in which programs are looked for. -/
def homes : Act (List Octets) := do
  return (((← valueOf? "PATH".toList)).getD []).splitOn ':'

/-- The name of something in a directory in which programs are looked for. -/
def inHome (home name : Octets) : Octets :=
  if home.isEmpty then name else home ++ '/' :: name

/-- The path that a name means to the shell. -/
def pathFor (name : Octets) : Act Path := do
  return Tool.pathIn (← process).directory name

/-- Where names lead, of which the first one that leads to a program counts. -/
def firstProgram (wasDenied : Bool) : List Octets → Act Lookup
  | [] => return if wasDenied then .denied else .missing
  | name :: rest => do
    let files := (← machine).files
    let path ← pathFor name
    match Tool.programAt? files path with
    | some program => return .program program name
    | none =>
      match files.examine path with
      | .ok _ | .error .accessDenied => firstProgram true rest
      | .error _ => firstProgram wasDenied rest

/-- Where a name leads that was given to be started. -/
def lookUp (name : Octets) : Act Lookup := do
  if name.contains '/' then firstProgram false [name]
  else firstProgram false ((← homes).map fun home => inHome home name)

/-- The path of a program that is looked for by name, or of anything that is named by a path. -/
def pathOf? (name : Octets) : Act (Option Octets) := do
  match ← lookUp name with
  | .program _ path => return some path
  | .denied => return if name.contains '/' then some name else none
  | .missing => return none

/-! ### Tools -/

/-- The place in a file that a descriptor reads from or writes to. -/
def placeOf? (descriptor : Nat) : Act (Option Tool.Place) := do
  match ← description? descriptor with
  | some (_, ⟨.file location, offset, appends, _, _⟩) =>
    let length := (contentAt (← machine).files location).length
    return some ⟨location, if appends then length else offset⟩
  | _ => return none

/-- Where the output of a tool goes. -/
def outputOfTool : Act Tool.Output := do
  match ← description? 1 with
  | none => return .closed
  | some (_, description) =>
    if !description.isWritable then return .closed
    else
      match description.target, ← placeOf? 1 with
      | .emptyDevice, _ => return .emptyDevice
      | _, some place => return .file place
      | _, none => return .elsewhere

/-- Keeps what is open although it was taken away. -/
def loseFiles (removed : List Location) : Act Unit :=
  changeMachine fun machine =>
    let lost (description : Description) : Description :=
      match description.target with
      | .file location =>
        if removed.contains location then
          { description with target := .lost (contentAt machine.files location) }
        else description
      | _ => description
    { machine with descriptions := machine.descriptions.map lost }

/-- The locations at which tools find what the first three descriptors lead to. -/
def streamLocations : List (Nat × Location) :=
  [(0, ["/", "dev", "stdin"]), (1, ["/", "dev", "stdout"]), (2, ["/", "dev", "stderr"])]

/-- What a tool finds where a description leads to. -/
def nodeFor (description : Description) : Act Node := do
  match description.target with
  | .file location => return .file (contentAt (← machine).files location)
  | .lost content => return .file content
  | .pipe content => return .file (Octets.toBytes (content.drop description.offset))
  | .directory _ => return .directory
  | .emptyDevice => return .emptyDevice
  | .channel _ => return .file []

/-- The files as a tool finds them, with what its descriptors lead to. -/
def filesForTool : Act Files := do
  let mut files := (← machine).files
  for (descriptor, location) in streamLocations do
    if let some (_, description) := ← description? descriptor then
      files := files.put location (← nodeFor description)
  return files

/-- Takes over the files as a tool left them. What it wrote where a descriptor leads to is written
there. -/
def takeFiles (before after : Files) : Act Unit := do
  let own := streamLocations.foldl (fun files entry => files.erase entry.2) after
  changeMachine fun machine => { machine with files := own }
  for (descriptor, location) in streamLocations do
    match after.find? location, ← description? descriptor with
    | some (.file content), some (handle, description) =>
      if after.find? location ≠ before.find? location then
        match description.target with
        | .file place =>
          changeMachine fun machine =>
            { machine with files := machine.files.store place content }
        | _ => writeTo handle description (Octets.ofBytes content)
    | _, _ => pure ()

/-- Starts a tool, which learns the name that it was called by, and waits for its end. -/
def callTool (tool : String) (name : Octets) (arguments : List Octets) : Act Ending := do
  let input ← unreadOf 0
  let hasInput := (← description? 0).isSome
  let files ← filesForTool
  let scene : Tool.Scene :=
    ⟨name, files, (← process).directory, input, hasInput, ← placeOf? 0, ← outputOfTool⟩
  match Tool.call? tool arguments scene with
  | none => return .exited 127
  | some effect =>
    loseFiles effect.removed
    takeFiles files effect.files
    if effect.hasRead then
      advance 0 ((input.toOption.getD []).length - effect.unread.length)
    for (channel, text) in effect.written do
      let _ ← write (if channel = .err then 2 else 1) text
    return .exited effect.status

/-! ### Shells -/

/-- What a shell is to run: a script that was an argument, one that was in a file, or its input. -/
inductive Task
  | argument (script : Octets)
  | file (script : Octets)
  | input

/-- Carries out the options that a shell is started with, and gives the words that are left and
whether the first one is a script. -/
def startOptions : Nat → List Octets → Bool → Act (List Octets × Bool)
  | 0, words, hasScript => return (words, hasScript)
  | _, [], hasScript => return ([], hasScript)
  | fuel + 1, word :: rest, hasScript =>
    match word with
    | ['-'] | ['-', '-'] => return (rest, hasScript)
    | '-' :: letters => do
      let plain := letters.filter fun letter => letter ≠ 'c' && letter ≠ 'l'
      let rest ← Own.switchLetters true plain rest
      startOptions fuel rest (hasScript || letters.contains 'c')
    | '+' :: letters => do
      let rest ← Own.switchLetters false letters rest
      startOptions fuel rest hasScript
    | _ => return (word :: rest, hasScript)

/-- Settles what a shell is to run, and its name and its arguments. -/
def settleTask (arguments : List Octets) : Act Task := do
  let (words, hasScript) ← startOptions (arguments.length + 1) arguments false
  let name (words : List Octets) : Act Unit :=
    change fun process =>
      match words with
      | name :: rest => { process with name := name, arguments := rest }
      | [] => process
  match words, hasScript with
  | [], true => fail "-c requires an argument".toList
  | script :: rest, true =>
    name rest
    return .argument script
  | [], false =>
    Own.switch 's' true
    return .input
  | file :: rest, false =>
    if ← isOn 's' then
      change fun process => { process with arguments := file :: rest }
      return .input
    else
      let handle ← openToRead file
      name words
      match (← machine).descriptions[handle]? with
      | some description => return .file (((← unread description).toOption).getD [])
      | none => return .file []

/-- Runs what a shell is to run. -/
def runTask (again : Evaluator) : Task → Act Nat
  | .argument script => runText again .plain script
  | .file script =>
    runFrom again .plain true (script.length + 2) (Reader.start script 1) 0
  | .input => do
    let script := ((← unreadOf 0).toOption).getD []
    advance 0 script.length
    runFrom again .plain true (script.length + 2) (Reader.start script 1) 0

/-- The variables that every shell has. -/
def usualVariables (parent : Nat) : List (Octets × Variable) :=
  [("IFS", " \t\n"), ("OPTIND", "1"), ("PPID", toString parent), ("PS1", "# "), ("PS2", "> "),
    ("PS4", "+ ")].map fun (name, value) =>
      (name.toList, ⟨some value.toList, false, false⟩)

/-- Starts a shell, which is called by a name, and waits for its end. -/
def callShell (again : Evaluator) (name : Octets) (arguments : List Octets) : Act Ending := do
  let before ← process
  let number ← freshNumber
  let handed := before.bindings.filter fun entry =>
    entry.2.isExported && entry.2.value?.isSome && entry.1 ≠ "IFS".toList
  let usual := (usualVariables before.own).filter fun entry =>
    (handed.lookup entry.1).isNone
  let handed := handed.map fun entry => (entry.1, { entry.2 with isReadOnly := false })
  change fun process =>
    { number := number
      own := number
      parent := process.own
      name := name
      arguments := []
      bindings := handed ++ usual
      locals := []
      functions := []
      aliases := []
      switchedOn := []
      traps := process.traps.filter fun entry => entry.2.isEmpty && entry.1 ≠ 0
      pending := []
      descriptors := process.descriptors
      directory := process.directory
      mask := process.mask
      status := 0
      trapStatus? := none
      line := 0
      reached := 0
      command? := none
      outputStatus? := none
      loops := 0
      calls := 0
      jobs := []
      lastJob? := none
      optionIndex := 1
      optionPlace := 0
      isTracing := false }
  let ending ← conclude again do
    let task ← settleTask arguments
    runTask again task
  change fun _ => before
  receive
  return ending

/-- Starts a program, which is called by a name, and waits for its end. -/
def callProgram (again : Evaluator) (program : String) (name : Octets) (arguments : List Octets) :
    Act Ending :=
  if program = Tool.shellName then callShell again name arguments
  else callTool program name arguments

end Act

end Golden.Shell
