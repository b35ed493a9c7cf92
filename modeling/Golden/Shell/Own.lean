/-
This file carries out those of the shell's own commands that need no other command:
they print, ask, read, and change the parameters, variables, options, directory and
signals of the shell. Each one takes its words and gives its status; a mistake in the
words makes it give up.
-/

import Golden.Shell.Condition
import Golden.Shell.Expansion
import Golden.Shell.Format

namespace Golden.Shell.Own

open Golden Golden.Shell.Act

/-! ### Words of commands -/

/-- The options that words start with, each with its value, and the words behind them. A colon
follows those of the known letters that take a value. -/
def takeOptions (known : Octets) : Nat → List Octets → Act (List (Char × Octets) × List Octets)
  | 0, words => return ([], words)
  | _, [] => return ([], [])
  | fuel + 1, word :: rest =>
    match word with
    | '-' :: letter :: letters => do
      if letter = '-' && letters.isEmpty then return ([], rest)
      else if !(known.contains letter && letter ≠ ':') then
        fail ("Illegal option -".toList ++ [letter])
      else if (known.dropWhile (· ≠ letter))[1]? = some ':' then
        match letters, rest with
        | [], [] => fail ("No arg for -".toList ++ letter :: " option".toList)
        | [], value :: rest =>
          let (options, words) ← takeOptions known fuel rest
          return ((letter, value) :: options, words)
        | value, rest =>
          let (options, words) ← takeOptions known fuel rest
          return ((letter, value) :: options, words)
      else
        let after := if letters.isEmpty then rest else ('-' :: letters) :: rest
        let (options, words) ← takeOptions known fuel after
        return ((letter, []) :: options, words)
    | _ => return ([], word :: rest)

/-- The options that words start with, and the words behind them. -/
def optionsOf (known : String) (words : List Octets) :
    Act (List (Char × Octets) × List Octets) :=
  takeOptions known.toList (words.flatten.length + words.length + 1) words

/-- The natural number that a word is. -/
def number (word : Octets) : Act Nat := do
  match Condition.numberOf word with
  | .ok (.ofNat value) =>
    if value < 1 <<< 31 then return value else fail ("Illegal number: ".toList ++ word)
  | _ => fail ("Illegal number: ".toList ++ word)

/-- Prints what a command prints, and gives the status of the command. -/
def say (status : Nat) (text : Octets) : Act Nat := do
  if text.isEmpty || (← print text) then return status
  else
    warn (((← process).command?).getD [] ++ ": I/O error".toList)
    return if status = 0 then 1 else status

/-- A value between quotes, from which the shell would read it back. Single quotes stand around
everything but single quotes, around which double quotes stand. -/
def inQuotes (value : Octets) : Octets :=
  go (value.length + 1) value
where
  /-- The parts of a value, of which there are no more than the fuel says. -/
  go : Nat → Octets → Octets
    | 0, _ => []
    | fuel + 1, value =>
      let plain := value.takeWhile (· ≠ '\'')
      let rest := value.drop plain.length
      let quotes := rest.takeWhile (· = '\'')
      let after := rest.drop quotes.length
      '\'' :: plain ++ ['\''] ++ (if quotes.isEmpty then [] else '"' :: quotes ++ ['"']) ++
        (if after.isEmpty then [] else go fuel after)

/-! ### Printing and asking -/

/-- Prints words. -/
def echo (words : List Octets) : Act Nat :=
  say 0 (printWords words)

/-- Prints words by a format. -/
def printf (words : List Octets) : Act Nat := do
  match (← optionsOf "" words).2 with
  | [] => fail "usage: printf format [arg ...]".toList
  | format :: words =>
    let printed := Format.print format words
    printed.complaints.forM warn
    say printed.status printed.text

/-- The status for an answer. -/
def statusOf (answer : Bool) : Nat := if answer then 0 else 1

/-- Answers a question. -/
def test (words : List Octets) : Act Nat := do
  let process ← process
  let scene : Condition.Scene :=
    ⟨(← machine).files, process.directory, process.descriptors.map Prod.fst⟩
  match Condition.answer scene words with
  | .ok answer => return statusOf answer
  | .error complaint => fail complaint

/-- Answers a question in brackets. -/
def bracket (words : List Octets) : Act Nat := do
  if (words.getLast?.bind List.head?) = some ']' then test words.dropLast
  else fail "missing ]".toList

/-! ### Reading -/

/-- The line that an input starts with, how many octets it takes, and whether a line feed ends it.
An octet of the line comes with the flag whether it may separate. -/
def lineOf (isRaw : Bool) : Octets → List (Char × Bool) × Nat × Bool
  | [] => ([], 0, false)
  | '\n' :: _ => ([], 1, true)
  | '\\' :: rest =>
    if isRaw then
      let (line, count, ended) := lineOf isRaw rest
      (('\\', true) :: line, count + 1, ended)
    else
      match rest with
      | [] => ([], 1, false)
      | '\n' :: rest =>
        let (line, count, ended) := lineOf isRaw rest
        (line, count + 2, ended)
      | octet :: rest =>
        let (line, count, ended) := lineOf isRaw rest
        ((octet, false) :: line, count + 2, ended)
  | octet :: rest =>
    let (line, count, ended) := lineOf isRaw rest
    (if octet = '\x00' then line else (octet, true) :: line, count + 1, ended)

/-- What kind of separator an octet of a line is: none, a blank or another one. -/
inductive Separation
  | none
  | blank
  | other
deriving DecidableEq, Repr

/-- What an octet of a line separates. -/
def separation (separators : Octets) (part : Char × Bool) : Separation :=
  if !part.2 || !separators.contains part.1 then .none
  else if part.1 = ' ' || part.1 = '\t' || part.1 = '\n' then .blank
  else .other

/-- Where the last field of a line ends, if it is not the end of the line: behind the place only
blanks follow, or one separator among them that is not one if it is not the last. -/
def lastFieldEnd (separators : Octets) : List (Char × Bool) → Nat → Option Nat → Bool → Bool →
    Option Nat
  | [], _, found, _, _ => found
  | part :: rest, place, found, hasMet, awaits =>
    let kind := separation separators part
    if !hasMet then
      if kind = .none then lastFieldEnd separators rest (place + 1) none false false
      else lastFieldEnd separators rest (place + 1) (some place) true (kind = .blank)
    else if kind = .blank then
      lastFieldEnd separators rest (place + 1) (some (found.getD place)) true awaits
    else if kind = .other && awaits then
      lastFieldEnd separators rest (place + 1) found true false
    else lastFieldEnd separators rest (place + 1) none true false

/-- The fields of a line, of which there are as many as asked for; the last one gets all that is
left. -/
def fieldsOfLine (separators : Octets) : Nat → List (Char × Bool) → List Octets
  | 0, _ => []
  | count + 1, line =>
    let kind := separation separators
    let start := line.dropWhile fun part => kind part = .blank
    if count = 0 then
      match lastFieldEnd separators start 0 none false false with
      | some length => [(start.take length).map Prod.fst]
      | none => [start.map Prod.fst]
    else
      let field := start.takeWhile fun part => kind part = .none
      let rest := start.drop field.length
      let rest :=
        match rest with
        | part :: after =>
          if kind part = .blank then
            let after := after.dropWhile fun part => kind part = .blank
            match after with
            | next :: beyond => if kind next = .other then beyond else after
            | [] => []
          else after
        | [] => []
      field.map Prod.fst :: fieldsOfLine separators count rest

/-- Reads a line and gives its fields to variables. -/
def read (words : List Octets) : Act Nat := do
  let (options, names) ← optionsOf "p:r" words
  if names.isEmpty then fail "arg count".toList
  let unread := ((← unreadOf 0).toOption).getD []
  let (line, count, ended) := lineOf (options.any fun option => option.1 = 'r') unread
  advance 0 count
  for (name, field) in names.zip (fieldsOfLine (← separators) names.length line) do
    if !isName name then fail (name ++ ": bad variable name".toList)
    assign name field
  return statusOf ended

/-! ### Parameters -/

/-- Moves the arguments to the left. -/
def shift (words : List Octets) : Act Nat := do
  let count ←
    match words with
    | [] => pure 1
    | word :: _ => number word
  if (← process).arguments.length < count then fail "can't shift that many".toList
  change fun process =>
    { process with
      arguments := process.arguments.drop count
      optionIndex := 1
      optionPlace := 0 }
  return 0

/-- Switches something on or off by its letter. -/
def switch (letter : Char) (isOn : Bool) : Act Unit := do
  if !switches.any fun entry => entry.1 = letter then
    fail ("Illegal option -".toList ++ [letter])
  if letter = 'm' && isOn then warn "can't access tty; job control turned off".toList
  else
    let excluded := if letter = 'V' then 'E' else if letter = 'E' then 'V' else letter
    change fun process =>
      let others := process.switchedOn.filter fun other =>
        other ≠ letter && !(isOn && other = excluded)
      { process with switchedOn := if isOn then letter :: others else others }

/-- Switches something on or off by its name. -/
def switchNamed (name : Octets) (isOn : Bool) : Act Unit := do
  match switches.find? fun entry => entry.2.toList = name with
  | some (letter, _) => switch letter isOn
  | none => fail ("Illegal option -o ".toList ++ name)

/-- The state of all switches, in a form to look at or to read back. -/
def switchList (isForReading : Bool) : Act Octets := do
  let switchedOn := (← process).switchedOn
  let row (letter : Char) (name : String) : String :=
    let isOn := switchedOn.contains letter
    if isForReading then "set " ++ (if isOn then "-o " else "+o ") ++ name ++ "\n"
    else name ++ String.ofList (List.replicate (16 - name.length) ' ') ++
      (if isOn then "on" else "off") ++ "\n"
  let heading := if isForReading then "" else "Current option settings\n"
  return (heading ++ String.join (switches.map fun (letter, name) => row letter name)).toList

/-- Carries out the letters of a word that switches, and gives the words that are left. -/
def switchLetters (isOn : Bool) : List Char → List Octets → Act (List Octets)
  | [], rest => return rest
  | 'o' :: letters, rest => do
    match rest with
    | name :: rest =>
      switchNamed name isOn
      switchLetters isOn letters rest
    | [] =>
      let _ ← say 0 (← switchList (!isOn))
      switchLetters isOn letters []
  | letter :: letters, rest => do
    switch letter isOn
    switchLetters isOn letters rest

/-- Carries out the words that switch, and gives the words that are left; none are left if nothing
is said about arguments. -/
def switchAll : Nat → List Octets → Act (Option (List Octets))
  | 0, _ => return none
  | _, [] => return none
  | fuel + 1, word :: rest => do
    match word with
    | ['-'] =>
      switch 'x' false
      switch 'v' false
      return if rest.isEmpty then none else some rest
    | ['-', '-'] => return some rest
    | '-' :: letters => switchAll fuel (← switchLetters true letters rest)
    | '+' :: letters => switchAll fuel (← switchLetters false letters rest)
    | _ => return some (word :: rest)

/-- The variables with a property, each on a line behind a word. -/
def variableList (opening : Octets) (isShown : Variable → Bool) : Act Octets := do
  let shown := (← process).bindings.filter fun entry => isShown entry.2
  let ordered := shown.mergeSort fun left right => Octets.isOrdered left.1 right.1
  return ordered.flatMap fun (name, variable') =>
    match variable'.value? with
    | some value => opening ++ name ++ '=' :: inQuotes value ++ ['\n']
    | none => if opening.isEmpty then [] else opening ++ name ++ ['\n']

/-- Switches, and sets the arguments. -/
def set (words : List Octets) : Act Nat := do
  if words.isEmpty then say 0 (← variableList [] fun found => found.value?.isSome)
  else
    match ← switchAll (words.length + 1) words with
    | none => return 0
    | some arguments =>
      change fun process =>
        { process with arguments := arguments, optionIndex := 1, optionPlace := 0 }
      return 0

/-- A word that may assign, as a name and a value. -/
def assigned (word : Octets) : Act (Octets × Option Octets) := do
  let name := word.takeWhile (· ≠ '=')
  if !isName name then fail (name ++ ": bad variable name".toList)
  return (name, (word.drop name.length).tail?)

/-- Marks variables, with values if the words say so, or lists those that are marked. -/
def mark (command : String) (isMarked : Variable → Bool) (update : Variable → Variable)
    (words : List Octets) : Act Nat := do
  let (options, words) ← optionsOf "p" words
  if !options.isEmpty || words.isEmpty then
    say 0 (← variableList (command.toList ++ [' ']) isMarked)
  else
    for word in words do
      let (name, value?) ← assigned word
      if let some value := value? then assign name value
      let found := (← variableOf? name).getD ⟨none, false, false⟩
      putVariable name (some (update found))
    return 0

/-- Marks variables to be handed to programs. -/
def exportVariables : List Octets → Act Nat :=
  mark "export" Variable.isExported fun found => { found with isExported := true }

/-- Marks variables that keep their values. -/
def protectVariables : List Octets → Act Nat :=
  mark "readonly" Variable.isReadOnly fun found => { found with isReadOnly := true }

/-- Takes variables or functions away. -/
def unset (words : List Octets) : Act Nat := do
  let (options, names) ← optionsOf "vf" words
  let isFunction := (options.getLast?.map Prod.fst) = some 'f'
  for name in names do
    if isFunction then
      change fun process =>
        { process with functions := process.functions.filter fun entry => entry.1 ≠ name }
    else
      if !isName name then fail (name ++ ": bad variable name".toList)
      if ((← variableOf? name).map Variable.isReadOnly).getD false then
        fail (name ++ ": is read only".toList)
      putVariable name none
  return 0

/-- Makes variables local to the current function. -/
def makeLocal (words : List Octets) : Act Nat := do
  if (← process).locals.isEmpty then fail "not in a function".toList
  for word in words do
    if word = switchesName then keepForLater word
    else
      let (name, value?) ← assigned word
      keepForLater name
      match value? with
      | some value => assign name value
      | none =>
        if (← variableOf? name).isNone then putVariable name (some ⟨none, false, false⟩)
  return 0

/-! ### Options of scripts -/

/-- The next option of some words: what `getopts` finds. -/
structure Found where
  letter : Char
  value? : Option Octets
  /-- The number of the word behind the one that was looked at. -/
  next : Nat
  /-- How far the word was looked at, or zero where nothing is left of it. -/
  place : Nat
  complaint? : Option Octets
  isOver : Bool

/-- What is left of the word in which the next option stands, and the number of the word behind
it. Without such a word, all options were found. -/
def optionWord? (words : List Octets) (index place : Nat) : Except Nat (Octets × Nat) :=
  let left :=
    if index ≥ 2 && place > 0 then ((words[index - 2]?).getD []).drop place else []
  if !left.isEmpty then .ok (left, index)
  else
    match words[index - 1]? with
    | some ['-', '-'] => .error (index + 1)
    | some ('-' :: first :: others) => .ok (first :: others, index + 1)
    | _ => .error index

/-- Looks for the next option in words. -/
def findOption (known : Octets) (words : List Octets) (index place : Nat) : Found :=
  match optionWord? words index place with
  | .error next => ⟨'?', none, next, 0, none, true⟩
  | .ok (left, next) =>
    let letter := left.head?.getD '-'
    let after := left.drop 1
    let isQuiet := known.head? = some ':'
    let place := ((words[next - 2]?).getD []).length - after.length
    if !(known.contains letter && letter ≠ ':') then
      if isQuiet then ⟨'?', some [letter], next, place, none, false⟩
      else ⟨'?', none, next, place, some ("Illegal option -".toList ++ [letter]), false⟩
    else if (known.dropWhile (· ≠ letter))[1]? = some ':' then
      match after, words[next - 1]? with
      | [], none =>
        if isQuiet then ⟨':', some [letter], next, 0, none, false⟩
        else
          ⟨'?', none, next, 0, some ("No arg for -".toList ++ letter :: " option".toList), false⟩
      | [], some value => ⟨letter, some value, next + 1, 0, none, false⟩
      | value, _ => ⟨letter, some value, next, 0, none, false⟩
    else ⟨letter, some [], next, place, none, false⟩

/-- Gives the next option of a script to a variable. -/
def getopts (words : List Octets) : Act Nat := do
  match words with
  | known :: name :: own =>
    let process ← process
    let words := if own.isEmpty then process.arguments else own
    let found := findOption known words process.optionIndex process.optionPlace
    if let some complaint := found.complaint? then
      let _ ← write 2 (complaint ++ ['\n'])
    match found.value? with
    | some value => assign "OPTARG".toList value
    | none => if !found.isOver then putVariable "OPTARG".toList none
    assign "OPTIND".toList (Octets.ofNat found.next)
    change fun process => { process with optionPlace := found.place }
    if !isName name then fail (name ++ ": bad variable name".toList)
    assign name [found.letter]
    return statusOf (!found.isOver)
  | _ => fail "Usage: getopts optstring var [arg...]".toList

/-! ### Directories -/

/-- A path from the root without the steps that lead nowhere. -/
def plainPath (path : Octets) : Octets :=
  let step (reached : List Octets) (part : Octets) : List Octets :=
    if part.isEmpty || part = ['.'] then reached
    else if part = ['.', '.'] then reached.drop 1
    else part :: reached
  '/' :: ['/'].intercalate ((path.splitOn '/').foldl step []).reverse

/-- Goes to another directory. -/
def changeDirectory (words : List Octets) : Act Nat := do
  let (_, words) ← optionsOf "LP" words
  let directory := (← process).directory
  let own := Octets.ofText directory.text
  let goal ←
    match words with
    | [] => pure (((← valueOf? "HOME".toList)).getD [])
    | ['-'] :: _ => pure (((← valueOf? "OLDPWD".toList)).getD [])
    | goal :: _ => pure goal
  let after :=
    if goal.isEmpty then own
    else plainPath (if goal.head? = some '/' then goal else own ++ '/' :: goal)
  match (← machine).files.examine (Octets.toPath after) with
  | .ok (_, .directory) =>
    assign "OLDPWD".toList own
    assign "PWD".toList after
    change fun process => { process with directory := Octets.toPath after }
    if words.head? = some ['-'] then say 0 (after ++ ['\n']) else return 0
  | _ => fail ("can't cd to ".toList ++ goal)

/-- Prints the directory. -/
def printDirectory (words : List Octets) : Act Nat := do
  let _ ← optionsOf "LP" words
  say 0 (Octets.ofText (← process).directory.text ++ ['\n'])

/-! ### Jobs -/

/-- The jobs, the last one first. -/
def recentJobs : Act (List Job) := do
  return (← process).jobs.mergeSort fun left right => right.process ≤ left.process

/-- The job that a word names, which is the last one, the one before it or the one at a place. -/
def jobOf (word : Octets) : Act Job := do
  let found (job? : Option Job) (words : Octets) : Act Job :=
    match job? with
    | some job => return job
    | none => fail words
  match word with
  | ['%'] | ['%', '%'] | ['%', '+'] => found (← recentJobs).head? "No current job".toList
  | ['%', '-'] => found (← recentJobs)[1]? "No previous job".toList
  | _ =>
    let place :=
      match word with
      | '%' :: digits => if digits.all Char.isDigit then Text.numberOf 10 digits else 0
      | _ => 0
    let jobs := (← process).jobs
    found (if place = 0 then none else jobs[place - 1]?) ("No such job: ".toList ++ word)

/-- Looks for the jobs that words name. -/
def listJobs (words : List Octets) : Act Nat := do
  let (_, words) ← optionsOf "lp" words
  for word in words do
    let _ ← jobOf word
  return 0

/-- Refuses to go on with a job, for which there would have to be a terminal. -/
def resumeJob (words : List Octets) : Act Nat := do
  let (_, words) ← optionsOf "" words
  let _ ← jobOf (words.head?.getD ['%'])
  let name := words.head?.getD "(null)".toList
  fail ("job ".toList ++ name ++ " not created under job control".toList)

/-! ### Signals -/

/-- The name of a signal. -/
def signalName (signal : Nat) : Octets :=
  if signal = 0 then "EXIT".toList
  else ((signalNames[signal - 1]?).getD (toString signal)).toList

/-- Sends a signal to a process, and tells whether there is such a process. -/
def send (signal target : Nat) : Act Bool := do
  let process ← process
  if target = process.own then
    if signal ≠ 0 then deliver signal
    return true
  else if target = process.number || target = process.parent then
    changeMachine fun machine => { machine with sent := machine.sent ++ [(target, signal)] }
    return true
  else return process.jobs.any fun job => job.process = target

/-- Sends a signal to processes. -/
def sendAll (signal : Nat) (targets : List Octets) : Act Nat := do
  let mut status := 0
  for target in targets do
    let found ←
      match target with
      | '%' :: _ => do
        let _ ← jobOf target
        pure false
      | _ => send signal (← number target)
    if !found then
      warn "No such process\n".toList
      status := 1
  return status

/-- How `kill` is to be used. -/
def killUsage : Octets :=
  ("Usage: kill [-s sigspec | -signum | -sigspec] [pid | job]... or\n" ++
    "kill -l [exitstatus]").toList

/-- Sends signals, or lists them. -/
def kill (words : List Octets) : Act Nat := do
  let someTargets (signal : Nat) (targets : List Octets) : Act Nat :=
    if targets.isEmpty then fail killUsage else sendAll signal targets
  match words with
  | [] => fail killUsage
  | word :: rest =>
    match word with
    | ['-', 'l'] =>
      match rest with
      | [] =>
        let names := signalNames.flatMap fun name => (name ++ "\n").toList
        say 0 ("0\n".toList ++ names)
      | status :: _ =>
        let value ← number status
        let signal := if 128 < value then value - 128 else value
        if signal = 0 || signal > 64 then
          fail ("invalid signal number or exit status: ".toList ++ status)
        else say 0 (signalName signal ++ ['\n'])
    | ['-', 's'] =>
      match rest with
      | [] => fail "No arg for -s option".toList
      | name :: targets =>
        match signalNumber? name with
        | some signal => someTargets signal (if targets.head? = some ['-', '-'] then
            targets.drop 1 else targets)
        | none => fail ("invalid signal number or name: ".toList ++ name)
    | ['-', '-'] => someTargets 15 rest
    | '-' :: name =>
      match signalNumber? name with
      | some signal => someTargets signal rest
      | none => fail ("Illegal option -".toList ++ name.take 1)
    | _ => someTargets 15 words

/-- What is done when signals come, and when the shell ends. -/
def trap (words : List Octets) : Act Nat := do
  let (_, words) ← optionsOf "" words
  match words with
  | [] =>
    let traps := (← process).traps.mergeSort fun left right => left.1 ≤ right.1
    say 0 (traps.flatMap fun (signal, action) =>
      "trap -- ".toList ++ inQuotes action ++ ' ' :: signalName signal ++ ['\n'])
  | first :: rest =>
    let isReset := rest.isEmpty || (signalNumber? first).isSome
    let signals := if isReset then words else rest
    let action? := if isReset || first = ['-'] then none else some first
    for name in signals do
      match signalNumber? name with
      | none =>
        let _ ← write 2 ("trap: ".toList ++ name ++ ": bad trap\n".toList)
        return 1
      | some signal =>
        change fun process =>
          let others := process.traps.filter fun entry => entry.1 ≠ signal
          { process with
            traps := (action?.map fun action => (signal, action)).toList ++ others }
    return 0

/-- Waits for jobs. -/
def wait (words : List Octets) : Act Nat := do
  let (_, words) ← optionsOf "" words
  let conclude (isMeant : Job → Bool) : Act Unit := do
    if (← process).jobs.any fun job => isMeant job && !job.isOver then remember endingSignal
    change fun process =>
      { process with
        jobs := process.jobs.map fun job =>
          if isMeant job then { job with isOver := true } else job }
  if words.isEmpty then
    conclude fun _ => true
    return 0
  else
    let mut status := 127
    for word in words do
      let job? ←
        match word with
        | '%' :: _ => some <$> jobOf word
        | _ => do
          let number ← number word
          pure ((← process).jobs.find? fun job => job.process = number)
      match job? with
      | some job =>
        if !job.isOver then tellEnding job.ending
        conclude (· = job)
        status := job.ending.status
      | none => status := 127
    return status

/-! ### The rest -/

/-- The bits that a word for permissions changes in those of one kind of user. -/
def permissionBits (letters : Octets) : Nat :=
  (if letters.contains 'r' then 4 else 0) + (if letters.contains 'w' then 2 else 0) +
    (if letters.contains 'x' then 1 else 0)

/-- The permissions after the change that a part of a mode describes. -/
def changeMode? (part : Octets) (mode : Nat) : Option Nat :=
  let users := part.takeWhile fun letter => "ugoa".toList.contains letter
  match part.drop users.length with
  | operator :: letters =>
    if !"+-=".toList.contains operator || !letters.all "rwxXst".toList.contains then none
    else
      let all := users.isEmpty || users.contains 'a'
      let bits := permissionBits letters
      let changed (letter : Char) (place : Nat) : Nat :=
        let old := mode / Nat.pow 8 place % 8
        let new :=
          if !all && !users.contains letter then old
          else if operator = '+' then old ||| bits
          else if operator = '-' then old - (old &&& bits)
          else bits
        new * Nat.pow 8 place
      some (changed 'u' 2 + changed 'g' 1 + changed 'o' 0)
  | [] => none

/-- The mask that a word describes, given the current one. -/
def maskOf (mask : Nat) (word : Octets) : Act Nat := do
  if word.head?.any Char.isDigit then
    if word.all (Text.isDigitIn 8) then return Text.numberOf 8 word % 512
    else fail ("Illegal number: ".toList ++ word)
  else
    match (word.splitOn ',').foldlM (fun mode part => changeMode? part mode) (511 - mask) with
    | some mode => return 511 - mode
    | none => fail ("Illegal mode: ".toList ++ word)

/-- Shows or sets which permissions new files do not get. -/
def umask (words : List Octets) : Act Nat := do
  let (options, words) ← optionsOf "S" words
  let mask := (← process).mask
  match words with
  | word :: _ =>
    let mask ← maskOf mask word
    change fun process => { process with mask := mask }
    return 0
  | [] =>
    if options.isEmpty then
      let digits := Nat.toDigits 8 mask
      say 0 (List.replicate (4 - digits.length) '0' ++ digits ++ ['\n'])
    else
      let part (place : Nat) : String :=
        let bits := mask / Nat.pow 8 place % 8
        (if bits / 4 = 0 then "r" else "") ++ (if bits / 2 % 2 = 0 then "w" else "") ++
          (if bits % 2 = 0 then "x" else "")
      say 0 ("u=" ++ part 2 ++ ",g=" ++ part 1 ++ ",o=" ++ part 0 ++ "\n").toList

/-- The place of a name for a text in the list of such names, which is the order of a table with as
many rows as the number says. -/
def aliasRow (name : Octets) : Nat :=
  name.foldl (fun sum octet => sum + octet.toNat) ((name.head?.getD '\x00').toNat * 16) % 39

/-- Gives names to texts that are read in their places, or lists the names. -/
def giveAliases (words : List Octets) : Act Nat := do
  let row (entry : Octets × Octets) : Octets := entry.1 ++ '=' :: inQuotes entry.2 ++ ['\n']
  if words.isEmpty then
    let ordered := (← process).aliases.reverse.mergeSort fun left right =>
      aliasRow left.1 ≤ aliasRow right.1
    say 0 (ordered.flatMap row)
  else
    let mut status := 0
    for word in words do
      let name := word.take 1 ++ (word.drop 1).takeWhile (· ≠ '=')
      match (word.drop name.length).tail? with
      | some text =>
        change fun process =>
          { process with
            aliases := (name, text) :: process.aliases.filter fun entry => entry.1 ≠ name }
      | none =>
        match (← process).aliases.lookup name with
        | some text => status ← say status (row (name, text))
        | none =>
          let _ ← write 2 ("alias: ".toList ++ name ++ " not found\n".toList)
          status := 1
    return status

/-- Takes names from texts. -/
def dropAliases (words : List Octets) : Act Nat := do
  let (options, names) ← optionsOf "a" words
  if !options.isEmpty then
    change fun process => { process with aliases := [] }
    return 0
  else
    let mut status := 0
    for name in names do
      if ((← process).aliases.lookup name).isNone then
        let _ ← write 2 ("unalias: ".toList ++ name ++ " not found\n".toList)
        status := 1
      change fun process =>
        { process with aliases := process.aliases.filter fun entry => entry.1 ≠ name }
    return status

/-- Shows a limit, of which there is none, or sets one, which changes nothing. -/
def showLimit (words : List Octets) : Act Nat := do
  let (_, words) ← optionsOf "HSatfdscmlpnvwr" words
  if words.isEmpty then say 0 "unlimited\n".toList else return 0

/-! ### All of them -/

/-- The commands that are told what became of their words only. -/
def plain? (name : String) : Option (List Octets → Act Nat) :=
  match name with
  | ":" | "true" => some fun _ => return 0
  | "false" => some fun _ => return 1
  | "echo" => some echo
  | "printf" => some printf
  | "test" => some test
  | "[" => some bracket
  | "read" => some read
  | "shift" => some shift
  | "set" => some set
  | "export" => some exportVariables
  | "readonly" => some protectVariables
  | "unset" => some unset
  | "local" => some makeLocal
  | "getopts" => some getopts
  | "cd" | "chdir" => some changeDirectory
  | "pwd" => some printDirectory
  | "kill" => some kill
  | "trap" => some trap
  | "wait" => some wait
  | "umask" => some umask
  | "alias" => some giveAliases
  | "unalias" => some dropAliases
  | "ulimit" => some showLimit
  | "times" => some fun _ =>
    let line := "0m0.000000s 0m0.000000s\n"
    say 0 (line ++ line).toList
  | "jobs" => some listJobs
  | "bg" | "fg" => some resumeJob
  | _ => none

/-- The commands that are told how to carry out others. -/
def others : List String :=
  [".", "break", "command", "continue", "eval", "exec", "exit", "hash", "return", "type"]

/-- Whether a name is that of one of the shell's own commands. -/
def isOwn (name : Octets) : Bool :=
  others.contains (String.ofList name) || (plain? (String.ofList name)).isSome

end Golden.Shell.Own
