/-
This file carries out commands. A call expands its words, does its redirections, gives
its assignments to variables, and then calls a function, one of the shell's own
commands or a program. The commands that are put together from others carry these out
by the evaluator that they are given; tying the knot with a bound on the depth makes
the evaluator of the shell.
-/

import Golden.Shell.Program

namespace Golden.Shell

open Golden

namespace Act

/-! ### Calls -/

/-- What the first word of a call names. -/
inductive Callee
  | nothing
  | routine (routine : Routine)
  | own (name : String)
  | program

/-- What a name names. Functions come before the shell's own commands, unless they are passed
over. -/
def calleeOf (passesOver : Bool) (name : Octets) : Act Callee := do
  match (← process).functions.lookup name, passesOver with
  | some routine, false => return .routine routine
  | _, _ => return if Own.isOwn name then .own (String.ofList name) else .program

/-- Runs something as the work of one of the shell's own commands. What makes the command give up
makes the shell give up only if the command is special. -/
def asOwn (name : Octets) (isSpecial : Bool) (act : Act Nat) : Act Nat := do
  let before := (← process).command?
  change fun process => { process with command? := some name }
  let outcome ← outcomeOf act
  change fun process => { process with command? := before }
  match outcome with
  | .ok status => return status
  | .error .failure => if isSpecial then throw .failure else return (← process).status
  | .error interrupt => throw interrupt

/-- How many functions can call one another. -/
def callLimit : Nat := 1000

/-- Calls a function with arguments. -/
def callRoutine (again : Evaluator) (mode : Mode) (routine : Routine) (arguments : List Octets) :
    Act Nat := do
  let restore (before : Process) : Act Unit :=
    change fun process =>
      { process with
        arguments := before.arguments
        loops := before.loops
        calls := before.calls
        optionIndex := before.optionIndex
        optionPlace := before.optionPlace }
  if (← process).calls ≥ callLimit then
    fail ("Maximum function recursion depth (" ++ toString callLimit ++ ") reached").toList
  bracketed restore do
    change fun process =>
      { process with
        arguments := arguments
        loops := 0
        calls := process.calls + 1
        optionIndex := 1
        optionPlace := 0 }
    match ← outcomeOf (again routine.body ⟨mode.isTested, false⟩) with
    | .ok status => return status
    | .error .leaveFunction => return (← process).status
    | .error interrupt => throw interrupt

/-- Says that a program cannot be called, and gives the status for that. -/
def refuseCall (name : Octets) : Lookup → Act Nat
  | .denied => do
    warn (name ++ ": Permission denied".toList)
    return if name.contains '/' then 126 else 127
  | _ => do
    warn (name ++ ": not found".toList)
    return 127

/-- Calls a program, which takes the place of the shell if the shell has nothing else to do. -/
def callByName (again : Evaluator) (mode : Mode) (name : Octets) (arguments : List Octets) :
    Act Nat := do
  match ← lookUp name with
  | .program program _ =>
    let ending ← callProgram again program name arguments
    if mode.isLast && !(← hasTraps) then throw (.replaced ending)
    else
      tellEnding ending
      return ending.status
  | other => refuseCall name other

/-! ### Commands about commands -/

/-- What kind of command a name names, in words, if it names one. -/
def describe? (name : Octets) : Act (Option Octets) := do
  let text := String.ofList name
  let of (words : String) : Option Octets := some (name ++ (" is " ++ words).toList)
  if keywords.contains text then return of "a shell keyword"
  else
    match (← process).aliases.lookup name with
    | some value => return some (name ++ " is an alias for ".toList ++ value)
    | none =>
      match ← calleeOf false name with
      | .routine _ => return of "a shell function"
      | .own _ =>
        return of (if isSpecialName name then "a special shell builtin" else "a shell builtin")
      | _ => return (← pathOf? name).map fun path =>
          if name.contains '/' then name ++ " is ".toList ++ path
          else name ++ " is ".toList ++ path

/-- How a name would be called, if it names a command. -/
def spelling? (name : Octets) : Act (Option Octets) := do
  if keywords.contains (String.ofList name) then return some name
  else
    match (← process).aliases.lookup name with
    | some value => return some ("alias ".toList ++ name ++ '=' :: Own.inQuotes value)
    | none =>
      match ← calleeOf false name with
      | .routine _ | .own _ => return some name
      | _ => pathOf? name

/-- Describes names. -/
def typeNames (names : List Octets) : Act Nat := do
  let mut status := 0
  let mut text : Octets := []
  for name in names do
    match ← describe? name with
    | some words => text := text ++ words ++ ['\n']
    | none =>
      text := text ++ name ++ ": not found\n".toList
      status := 127
  Own.say status text

/-- Looks for programs. -/
def findPrograms (words : List Octets) : Act Nat := do
  let (_, names) ← Own.optionsOf "rv" words
  let mut status := 0
  for name in names do
    match ← calleeOf false name, ← lookUp name with
    | .program, .missing =>
      warn (name ++ ": not found".toList)
      status := 1
    | _, _ => pure ()
  return status

/-- Carries out what is said about a command: how it would be called, or a description. -/
def tellCommand (words : List Octets) : Act Nat := do
  let (options, names) ← Own.optionsOf "pvV" words
  match names with
  | [] => return 0
  | name :: _ =>
    if options.any fun option => option.1 = 'V' then typeNames [name]
    else
      match ← spelling? name with
      | some text => Own.say 0 (text ++ ['\n'])
      | none => return 127

/-- The words of a call without the word that passes over functions and its options, if the call
only passes over them. -/
def passedOver? : Nat → List Octets → Option (List Octets)
  | 0, _ => none
  | _, [] => none
  | fuel + 1, word :: rest =>
    match word with
    | ['-', '-'] => if rest.isEmpty then none else some rest
    | '-' :: letters => if letters = ['p'] then passedOver? fuel rest else none
    | _ => some (word :: rest)

/-- Leaves loops, or goes on with the next round of one. -/
def leave (goesOn : Bool) (words : List Octets) : Act Nat := do
  let count ←
    match words with
    | [] => pure 1
    | word :: _ => do
      let count ← Own.number word
      if count = 0 then fail ("Illegal number: ".toList ++ word)
      pure count
  let loops := (← process).loops
  if loops = 0 then return 0
  else
    setStatus 0
    throw (.leaveLoops (min count loops) goesOn)

/-- Ends the shell. -/
def leaveShell (words : List Octets) : Act Nat := do
  match words with
  | [] =>
    if let some status := (← process).trapStatus? then setStatus status
  | word :: _ => setStatus (← Own.number word)
  throw .exit

/-- Leaves the current function or script. -/
def leaveRoutine (words : List Octets) : Act Nat := do
  match words with
  | [] => pure ()
  | word :: _ => setStatus (← Own.number word)
  throw .leaveFunction

/-- The path of the script that a name means, which without a slash is looked for like a program. -/
def scriptFor (name : Octets) : Act Octets := do
  if name.contains '/' then return name
  else
    let directory := (← process).directory
    let files := (← machine).files
    let isFile (path : Octets) : Bool :=
      match files.examine (Tool.pathIn directory path) with
      | .ok (_, .file _) => true
      | _ => false
    match ((← homes).map fun home => inHome home name).find? isFile with
    | some path => return path
    | none => fail (name ++ ": not found".toList)

/-- Runs the script in a file as a part of the current one. -/
def includeFile (again : Evaluator) (words : List Octets) : Act Nat := do
  let (_, words) ← Own.optionsOf "" words
  match words with
  | [] => return 0
  | name :: _ =>
    let name ← scriptFor name
    let handle ← openToRead name
    let text ←
      match (← machine).descriptions[handle]? with
      | some description => pure (((← unread description).toOption).getD [])
      | none => pure []
    change fun process => { process with command? := some name }
    match ← outcomeOf (runFrom again .plain true (text.length + 2) (Reader.start text 1) 0) with
    | .ok status => return status
    | .error .leaveFunction => return (← process).status
    | .error interrupt => throw interrupt

/-- Puts a program in the place of the shell. -/
def replaceShell (again : Evaluator) (words : List Octets) : Act Nat := do
  match words with
  | [] => return 0
  | name :: arguments =>
    match ← lookUp name with
    | .program program _ => throw (.replaced (← callProgram again program name arguments))
    | .denied => failWith 126 (name ++ ": Permission denied".toList)
    | .missing => failWith 127 (name ++ ": not found".toList)

/-- Carries out one of the shell's own commands. -/
def callOwn (again : Evaluator) (mode : Mode) (name : String) (words : List Octets) : Act Nat :=
  match name with
  | "." => includeFile again words
  | "break" => leave false words
  | "continue" => leave true words
  | "command" => tellCommand words
  | "eval" => runText again ⟨mode.isTested, false⟩ ([' '].intercalate words)
  | "exec" => replaceShell again words
  | "exit" => leaveShell words
  | "hash" => findPrograms words
  | "return" => leaveRoutine words
  | "type" => typeNames words
  | _ =>
    match Own.plain? name with
    | some act => act words
    | none => return 127

/-! ### Calls with assignments and redirections -/

/-- The fields of the words of a call. Words that assign are not split behind a command that
declares variables. -/
def callFields (again : Evaluator) : List Word → List Octets → Act (List Octets)
  | [], fields => return fields
  | word :: rest, fields => do
    let name := fields.find? (· ≠ "command".toList)
    let declares := name.any fun name =>
      ["export", "readonly", "local"].contains (String.ofList name)
    let more ←
      match if declares then assignment? word else none with
      | some (name, value) => pure [name ++ '=' :: (← valueFor again value)]
      | none => fieldsOf again word
    callFields again rest (fields ++ more)

/-- Shows a call that is about to be carried out. -/
def traceCall (descriptors : List (Nat × Nat)) (assigned : List (Octets × Octets))
    (fields : List Octets) : Act Unit := do
  if ← isOn 'x' then
    let opening := ((← valueOf? "PS4".toList)).getD []
    let shown := assigned.map (fun (name, value) => name ++ '=' :: value) ++ fields
    match descriptors.lookup 2 with
    | some handle =>
      match (← machine).descriptions[handle]? with
      | some description =>
        writeTo handle description (opening ++ [' '].intercalate shown ++ ['\n'])
      | none => return
    | none => return

/-- Gives values to variables one after another. -/
def assignAll (again : Evaluator) (isLocal : Bool) :
    List (Octets × Word) → List (Octets × Octets) → Act (List (Octets × Octets))
  | [], assigned => return assigned
  | (name, word) :: rest, assigned => do
    let value ← valueFor again word
    if isLocal then keepForLater name
    assign name value
    if isLocal then
      let found := (← variableOf? name).getD ⟨none, false, false⟩
      putVariable name (some { found with isExported := true })
    assignAll again isLocal rest (assigned ++ [(name, value)])

/-- Marks variables to be handed to programs. -/
def markExported (names : List Octets) : Act Unit :=
  for name in names do
    let found := (← variableOf? name).getD ⟨none, false, false⟩
    putVariable name (some { found with isExported := true })

/-- Carries out what the words of a call say, when its redirections are done. -/
def carryOutFields (again : Evaluator) (mode : Mode) (descriptors : List (Nat × Nat))
    (assignments : List (Octets × Word)) (fields : List Octets) : Act Nat := do
  let direct :=
    match fields with
    | word :: rest =>
      if word = "command".toList then (passedOver? (rest.length + 1) rest).getD fields else fields
    | [] => []
  let passesOver := direct.length ≠ fields.length
  let callee ←
    match direct with
    | [] => pure .nothing
    | name :: _ => calleeOf passesOver name
  let isSpecial := (fields.head?.any isSpecialName)
  let assignThem (isLocal : Bool) : Act Unit := do
    let assigned ← assignAll again isLocal assignments []
    traceCall descriptors assigned fields
  let arguments := direct.drop 1
  let name := direct.head?.getD []
  match callee with
  | .nothing =>
    assignThem false
    return ((← process).outputStatus?).getD 0
  | .own own =>
    let act := asOwn name isSpecial (callOwn again mode own arguments)
    if isSpecial then
      assignThem false
      if own = "exec" && !arguments.isEmpty then markExported (assignments.map Prod.fst)
      act
    else if assignments.isEmpty then
      assignThem false
      act
    else
      withLocals do
        assignThem true
        act
  | .routine routine =>
    withLocals do
      assignThem true
      callRoutine again mode routine arguments
  | .program =>
    withLocals do
      assignThem true
      callByName again mode name arguments

/-- Carries out a call. -/
def carryOutCall (again : Evaluator) (mode : Mode) (line : Nat)
    (assignments : List (Octets × Word)) (words : List Word) (redirects : List Redirect) :
    Act Nat := do
  change fun process => { process with line := line, outputStatus? := none }
  let fields ← callFields again words []
  let prepared ← redirects.mapM (prepare again)
  let before ← process
  if ← redirectAll again prepared then
    let stays := fields.head? = some "exec".toList
    let restore (before : Process) : Act Unit :=
      if stays then return else restoreDescriptors before
    let status ← bracketed (fun _ => restore before)
      (carryOutFields again mode before.descriptors assignments fields)
    return status
  else
    restoreDescriptors before
    setStatus 2
    if fields.head?.any isSpecialName then throw .failure
    return 2

/-! ### Loops -/

/-- Carries out a round of a loop, and gives its status and whether the loop goes on. -/
def inLoop (act : Act Nat) : Act (Nat × Bool) := do
  let restore (before : Process) : Act Unit :=
    change fun process => { process with loops := before.loops }
  bracketed restore do
    change fun process => { process with loops := process.loops + 1 }
    match ← outcomeOf act with
    | .ok status => return (status, true)
    | .error (.leaveLoops count goesOn) =>
      if count ≤ 1 then return (0, goesOn) else throw (.leaveLoops (count - 1) goesOn)
    | .error interrupt => throw interrupt

/-- How many rounds a loop may have. -/
def roundLimit : Nat := 1000000

/-- Carries out a body while a test succeeds, or until it does. -/
def repeatBody (again : Evaluator) (mode : Mode) (isUntil : Bool) (test body : Command) :
    Nat → Nat → Act Nat
  | 0, _ => throw (.replaced (.signaled 9))
  | rounds + 1, status => do
    let (tested, goesOn) ← inLoop (again test ⟨true, false⟩)
    if !goesOn then return status
    else if (tested = 0) = isUntil then return status
    else
      let (status, goesOn) ← inLoop (again body ⟨mode.isTested, false⟩)
      if goesOn then repeatBody again mode isUntil test body rounds status else return status

/-- Carries out a body for each of some values of a variable. -/
def iterate (again : Evaluator) (mode : Mode) (name : Octets) (body : Command) :
    List Octets → Nat → Act Nat
  | [], status => return status
  | value :: rest, _ => do
    assign name value
    let (status, goesOn) ← inLoop (again body ⟨mode.isTested, false⟩)
    if goesOn then iterate again mode name body rest status else return status

/-! ### Choices -/

/-- Whether one of some patterns describes a text. -/
def matchesAny (again : Evaluator) (text : Octets) : List Word → Act Bool
  | [] => return false
  | word :: rest => do
    if (← patternFor again word).accepts text then return true
    else matchesAny again text rest

/-- Carries out the first arm of which a pattern describes a text. -/
def choose (again : Evaluator) (mode : Mode) (text : Octets) :
    List (List Word × Option Command) → Act Nat
  | [] => return 0
  | (patterns, body?) :: rest => do
    if ← matchesAny again text patterns then
      match body? with
      | some body => again body mode
      | none => return 0
    else choose again mode text rest

/-! ### Shells within the shell -/

/-- Carries out commands of which each prints to the next, given what the first one reads. -/
def carryOutPipeline (again : Evaluator) (mode : Mode) :
    List Command → Option Nat → Nat → Act Nat
  | [], _, status => return status
  | command :: rest, source?, _ => do
    let next? ←
      if rest.isEmpty then pure none
      else some <$> openDescription ⟨.pipe [], 0, false, true, true⟩
    let status ← waitForChild again do
      if source?.isSome then lead 0 source?
      if next?.isSome then lead 1 next?
      again command ⟨mode.isTested, true⟩
    carryOutPipeline again mode rest next? status

/-- Starts a command that nobody waits for. -/
def carryOutBackground (again : Evaluator) (command : Command) : Act Nat := do
  let handle ← openDescription ⟨.emptyDevice, 0, false, true, true⟩
  let number := (← machine).lastProcess + 1
  let ending ← inChild again do
    lead 0 (some handle)
    again command ⟨false, true⟩
  change fun process =>
    { process with jobs := Job.add ⟨number, ending, false⟩ process.jobs, lastJob? := some number }
  return 0

/-- Carries out a command in a shell of its own, which is the shell itself if that has nothing else
to do. -/
def carryOutSubshell (again : Evaluator) (mode : Mode) (command : Command)
    (redirects : List Redirect) : Act Nat := do
  let prepared ← redirects.mapM (prepare again)
  let act : Act Nat := do
    prepared.forM (redirect again)
    again command ⟨mode.isTested, true⟩
  if mode.isLast && !(← hasTraps) then
    let _ ← act
    throw .exit
  else waitForChild again act

/-! ### Commands -/

/-- Whether a command that fails ends the shell where that is switched on. -/
def endsShell : Command → Bool
  | .call .. | .pipeline _ | .background .. | .subshell .. => true
  | _ => false

/-- Carries out a command by an evaluator for the commands that it is put together from. -/
def carryOut (again : Evaluator) (command : Command) (mode : Mode) : Act Nat :=
  match command with
  | .call line assignments words redirects =>
    carryOutCall again mode line assignments words redirects
  | .pipeline commands => carryOutPipeline again mode commands none 0
  | .background line command => do
    change fun process => { process with line := line }
    carryOutBackground again command
  | .joined joint left right => do
    let isTested := mode.isTested || joint ≠ .sequence
    let status ← again left ⟨isTested, false⟩
    let goesOn : Bool :=
      match joint with
      | .both => status = 0
      | .either => status ≠ 0
      | .sequence => true
    if goesOn then again right mode else return status
  | .negated command => do
    let status ← again command ⟨true, false⟩
    return if status = 0 then 1 else 0
  | .redirected line command redirects => do
    change fun process => { process with line := line }
    let prepared ← redirects.mapM (prepare again)
    bracketed restoreDescriptors do
      if ← redirectAll again prepared then again command ⟨mode.isTested, false⟩ else return 2
  | .subshell line command redirects => do
    change fun process => { process with line := line }
    carryOutSubshell again mode command redirects
  | .conditional test yes no? => do
    let status ← again test ⟨true, false⟩
    if status = 0 then again yes mode
    else
      match no? with
      | some no => again no mode
      | none => return 0
  | .loop isUntil test body => repeatBody again mode isUntil test body roundLimit 0
  | .iteration line name words body => do
    change fun process => { process with line := line }
    let values ← words.mapM (fieldsOf again)
    iterate again mode name body values.flatten 0
  | .choice line subject arms => do
    change fun process => { process with line := line }
    choose again mode (← textOf again subject) arms
  | .definition line name body => do
    change fun process =>
      let others := process.functions.filter fun entry => entry.1 ≠ name
      { process with functions := (name, ⟨line, body⟩) :: others }
    return 0

/-- Carries out a command and what follows from it: the status of the shell, what is to be done for
signals, and the end of the shell if the command failed and nobody looked. -/
def step (again : Evaluator) : Evaluator := fun command mode => do
  if ← isOn 'n' then return 0
  else
    let status ← carryOut again command mode
    setStatus status
    runPending again
    if status ≠ 0 && !mode.isTested && endsShell command && (← isOn 'e') then throw .exit
    return status

/-- Carries out commands that are put together from others up to a depth. -/
def evaluate : Nat → Evaluator
  | 0 => fun _ _ => throw (.replaced (.signaled 11))
  | depth + 1 => fun command mode => step (evaluate depth) command mode

end Act

end Golden.Shell
