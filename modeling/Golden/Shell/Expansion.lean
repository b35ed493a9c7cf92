/-
This file turns words into what they stand for. Parameters, arithmetic and the output
of commands are put in their places first; what came from them outside quotes is then
split where it has separators, and each field that is a pattern becomes the names of
the files that it describes. Quotes keep a field whole, and there even if it is empty.
-/

import Golden.Shell.Arithmetic
import Golden.Shell.Pattern
import Golden.Shell.Running
import Golden.Text.Trim

namespace Golden.Shell

open Golden

/-! ### Atoms -/

/-- A part of an expanded word. -/
inductive Atom
  | octet (octet : Char) (isQuoted : Bool) (splits : Bool)
  /-- There is a field here, even if nothing else is in it. -/
  | mark
  /-- A field ends here. -/
  | edge
  /-- A field ends here if there is one. -/
  | gap
deriving DecidableEq, Repr

/-- The octets of atoms. -/
def octetsOf (atoms : List Atom) : Octets :=
  atoms.filterMap fun
    | .octet octet _ _ => some octet
    | _ => none

/-- The signs of atoms. -/
def signsOf (atoms : List Atom) : List Sign :=
  atoms.filterMap fun
    | .octet octet isQuoted _ => some ⟨octet, !isQuoted⟩
    | _ => none

/-- The atoms of a value that takes the place of something in a word. -/
def atomsOf (value : Octets) (isQuoted : Bool) : List Atom :=
  value.map fun octet => .octet octet isQuoted (!isQuoted)

/-! ### Fields -/

/-- Fields in the making. -/
structure Fields where
  /-- The complete fields, the last one first. -/
  complete : List (List Sign)
  /-- The field that is not complete, its last sign first, if there is one. -/
  current? : Option (List Sign)
  /-- Whether the last field was ended by a blank, so that a separator may follow. -/
  awaits : Bool

namespace Fields

/-- No fields. -/
def start : Fields := ⟨[], none, false⟩

/-- Adds signs to the current field, which there is from then on. -/
def extend (fields : Fields) (signs : List Sign) : Fields :=
  { fields with current? := some (signs ++ fields.current?.getD []), awaits := false }

/-- Completes the current field. -/
def close (fields : Fields) (awaits : Bool) : Fields :=
  ⟨(fields.current?.map List.reverse).toList ++ fields.complete, none, awaits⟩

/-- The fields after one more atom, where some octets separate. -/
def add (separators : Octets) (fields : Fields) : Atom → Fields
  | .mark => fields.extend []
  | .edge => (fields.extend []).close false
  | .gap => if fields.current?.isSome then fields.close true else fields
  | .octet octet isQuoted splits =>
    if splits && separators.contains octet then
      if octet = ' ' || octet = '\t' || octet = '\n' then
        if fields.current?.isSome then fields.close true else fields
      else if fields.current?.isSome then fields.close false
      else if fields.awaits then { fields with awaits := false }
      else (fields.extend []).close false
    else fields.extend [⟨octet, !isQuoted⟩]

/-- The fields of atoms. -/
def ofAtoms (separators : Octets) (atoms : List Atom) : List (List Sign) :=
  ((atoms.foldl (add separators) start).close false).complete.reverse

end Fields

/-! ### Names of files -/

/-- The names in a directory that a pattern describes. Names that start with a dot are hidden from
patterns that do not. -/
def namesMatching (files : Files) (directory : Path) (signs : List Sign) : List Octets :=
  let pattern := Pattern.ofSigns signs
  let isDotted := signs.head?.map Sign.octet = some '.'
  let dots : List Octets := if isDotted then [['.'], ['.', '.']] else []
  match files.list directory with
  | .error _ => []
  | .ok entries =>
    (dots ++ entries.map fun entry => Octets.ofText entry.name).filter fun name =>
      pattern.accepts name && (isDotted || name.head? ≠ some '.')

/-- The names of the files that a pattern describes, given the part of the name that is known. -/
def pathsMatching (files : Files) (directory : Path) : Nat → Octets → List Sign → List Octets
  | 0, _, _ => []
  | fuel + 1, known, signs =>
    let slashes := (signs.takeWhile fun sign => sign.octet = '/').map Sign.octet
    let signs := signs.dropWhile fun sign => sign.octet = '/'
    let known := known ++ slashes
    let part := signs.takeWhile fun sign => sign.octet ≠ '/'
    let rest := signs.drop part.length
    let exists' (name : Octets) : Bool := files.contains (Tool.pathIn directory name)
    if part.isEmpty then if exists' known then [known] else []
    else if (Pattern.ofSigns part).isOpen then
      let place := Tool.pathIn directory (if known.isEmpty then ['.'] else known)
      let found := (namesMatching files place part).map (known ++ ·)
      if rest.isEmpty then found
      else found.flatMap fun name => pathsMatching files directory fuel name rest
    else
      let name := known ++ (Pattern.ofSigns part).filterMap fun
        | .exactly octet => some octet
        | _ => none
      if rest.isEmpty then if exists' name then [name] else []
      else pathsMatching files directory fuel name rest

/-- What a field becomes: the names that it describes in order, or itself if there are none. -/
def namesFor (files : Files) (directory : Path) (field : List Sign) : List Octets :=
  let itself := [field.map Sign.octet]
  if (Pattern.ofSigns field).isOpen then
    match pathsMatching files directory (field.length + 1) [] field with
    | [] => itself
    | names => names.mergeSort Octets.isOrdered
  else itself

/-! ### Parameters -/

namespace Act

/-- The octets that separate fields. -/
def separators : Act Octets := do
  return ((← valueOf? "IFS".toList)).getD [' ', '\t', '\n']

/-- What stands between arguments that are joined. -/
def joiner : Act Octets := do
  match ← valueOf? "IFS".toList with
  | none => return [' ']
  | some separators => return separators.take 1

/-- The value of a parameter, if it has one. -/
def parameter? (name : Octets) : Act (Option Octets) := do
  let process ← process
  match name with
  | ['@'] | ['*'] => return some ((← joiner).intercalate process.arguments)
  | ['#'] => return some (Octets.ofNat process.arguments.length)
  | ['?'] => return some (Octets.ofNat process.status)
  | ['$'] => return some (Octets.ofNat process.number)
  | ['!'] => return process.lastJob?.map Octets.ofNat
  | ['-'] =>
    return some (lettersOf process.switchedOn)
  | first :: _ =>
    if first.isDigit then
      match (String.ofList name).toNat?.getD 0 with
      | 0 => return some process.name
      | place + 1 => return process.arguments[place]?
    else valueOf? name
  | [] => return none

/-- The value of a parameter that has to have one if that is switched on. -/
def needed (name : Octets) : Act (Option Octets) := do
  match ← parameter? name with
  | some value => return some value
  | none =>
    if ← isOn 'u' then
      fail (name ++ ": parameter not set".toList)
    else return none

/-- Whether each argument becomes a field of its own where all of them are used. -/
def isSeparate (separately isQuoted wantsFields : Bool) : Bool :=
  wantsFields && (separately || !isQuoted)

/-- The atoms of arguments that become fields of their own. -/
def separateAtoms (isQuoted : Bool) (arguments : List Octets) : List Atom :=
  if isQuoted then
    [Atom.edge].intercalate (arguments.map fun argument => .mark :: atomsOf argument true)
  else [Atom.gap].intercalate (arguments.map fun argument => atomsOf argument false)

/-- The atoms of all arguments. -/
def allArguments (separately isQuoted wantsFields : Bool) : Act (List Atom) := do
  let arguments := (← process).arguments
  if isSeparate separately isQuoted wantsFields then return separateAtoms isQuoted arguments
  else return atomsOf ((← joiner).intercalate arguments) isQuoted

end Act

/-! ### Cutting values -/

/-- A text up to the octet that stands between arguments that are cut together. -/
def firstPart (text : Octets) : Octets :=
  text.takeWhile (· ≠ '\x00')

/-- The shortest or the longest start of a value that a pattern describes, cut off. -/
def withoutStart (pattern : Pattern) (isLongest : Bool) (value : Octets) : Octets :=
  let lengths := List.range (value.length + 1)
  let ordered := if isLongest then lengths.reverse else lengths
  match ordered.find? fun length => pattern.accepts (firstPart (value.take length)) with
  | some length => value.drop length
  | none => value

/-- The shortest or the longest end of a value that a pattern describes, cut off. The
longest end starts in the first part of the value. -/
def withoutEnd (pattern : Pattern) (isLongest : Bool) (value : Octets) : Octets :=
  let ordered :=
    if isLongest then List.range ((firstPart value).length + 1)
    else (List.range (value.length + 1)).reverse
  match ordered.find? fun length => pattern.accepts (firstPart (value.drop length)) with
  | some length => value.take length
  | none => value

/-! ### Homes -/

/-- The rest of a word that starts with a tilde, with the name behind the tilde. -/
def tilde? (word : Word) (ends : Char → Bool) : Option (Octets × Word) :=
  match word with
  | .plain '~' :: rest =>
    let name := rest.takeWhile fun
      | .plain octet => octet ≠ '/' && !ends octet
      | _ => false
    let after := rest.drop name.length
    match after with
    | [] => (Word.bare? name).map fun name => (name, after)
    | .plain _ :: _ => (Word.bare? name).map fun name => (name, after)
    | _ => none
  | _ => none

/-- The home of a user, given the home of the user of the shell. -/
def homeOf (own? : Option Octets) (name : Octets) : Option Octets :=
  if name.isEmpty then own? else if name = "root".toList then some "/root".toList else none

/-- A word with homes in the places of tildes: at its start, and where it assigns also behind
colons. -/
def withHomes (own? : Option Octets) (assigns : Bool) : Nat → Bool → Word → Word
  | 0, _, word => word
  | _, _, [] => []
  | fuel + 1, mayStart, piece :: rest =>
    let ends (octet : Char) : Bool := assigns && octet = ':'
    let found := if mayStart then tilde? (piece :: rest) ends else none
    match found.bind fun (name, after) => (homeOf own? name).map fun home => (home, after) with
    | some (home, after) =>
      home.map Piece.quoted ++ withHomes own? assigns fuel false after
    | none =>
      let opens :=
        match piece with
        | .plain ':' => assigns
        | _ => false
      piece :: withHomes own? assigns fuel opens rest

/-! ### Words -/

namespace Act

/-- What a command prints, without the line feeds at its end. -/
def outputOf (again : Evaluator) (command? : Option Command) : Act Octets := do
  let handle ← openDescription ⟨.pipe [], 0, false, true, true⟩
  let status ← waitForChild again do
    lead 1 (some handle)
    match command? with
    | some command => again command ⟨false, true⟩
    | none => return 0
  change fun process => { process with outputStatus? := some status }
  match (← machine).descriptions[handle]? with
  | some ⟨.pipe content, _, _, _, _⟩ =>
    return Text.dropTrailing (· = '\n') (content.filter (· ≠ '\x00'))
  | _ => return []

/-- The value of an expression. -/
def calculate (text : Octets) : Act Octets := do
  let bindings := (← process).bindings
  let value (name : Octets) : Octets :=
    ((bindings.lookup name).bind Variable.value?).getD []
  match Arithmetic.evaluate text value with
  | .error (.wrong words) =>
    fail (("arithmetic expression: " ++ words ++ ": \"").toList ++ text ++ ['"'])
  | .error (.noNumber word) => fail ("Illegal number: ".toList ++ word)
  | .ok (result, assigned) =>
    for (name, number) in assigned.reverse do
      assign name (Octets.ofInt number)
    return Octets.ofInt result

/-- What a word is expanded for. -/
structure Purpose where
  /-- Whether several fields may come of it. -/
  wantsFields : Bool
  /-- Whether octets that are not quoted separate although they stand in the word itself. -/
  splitsAll : Bool

/-- A way to expand words. -/
abbrev Expander := Purpose → Word → Act (List Atom)

/-- The atoms of a word in the braces of a parameter. -/
def expandInner (inside : Expander) (purpose : Purpose) (word : Word) : Act (List Atom) := do
  let own? ← valueOf? "HOME".toList
  inside purpose (withHomes own? false (word.length + 1) true word)

/-- The atoms of a parameter that a word may take the place of. -/
def expandInstead (inside : Expander) (purpose : Purpose) (isQuoted : Bool) (name : Octets)
    (operator : Char) (orEmpty : Bool) (word : Word) : Act (List Atom) := do
  let inner : Purpose := { purpose with splitsAll := purpose.wantsFields && !isQuoted }
  let value? ← parameter? name
  let isSet := value?.any fun value => !(orEmpty && value.isEmpty)
  let own : Act (List Atom) :=
    match name with
    | ['@'] => allArguments true isQuoted purpose.wantsFields
    | ['*'] => allArguments false isQuoted purpose.wantsFields
    | _ => return atomsOf (value?.getD []) isQuoted
  let text : Act Octets := return octetsOf (← expandInner inside ⟨false, false⟩ word)
  match operator with
  | '+' => if isSet then expandInner inside inner word else return []
  | '-' => if isSet then own else expandInner inside inner word
  | '=' =>
    if isSet then own
    else
      let value ← text
      if !isName name then fail (name ++ ": bad variable name".toList)
      assign name value
      return atomsOf value isQuoted
  | _ =>
    if isSet then own
    else
      let usual := "parameter not set" ++ (if orEmpty then " or null" else "")
      let words ← if word.isEmpty then pure usual.toList else text
      fail (name ++ ": ".toList ++ words)

/-- The atoms of a parameter. -/
def expandUse (inside : Expander) (purpose : Purpose) (isQuoted : Bool) :
    Use → Act (List Atom)
  | .unknown => fail "Bad substitution".toList
  | .value ['@'] => allArguments true isQuoted purpose.wantsFields
  | .value ['*'] => allArguments false isQuoted purpose.wantsFields
  | .value name => return atomsOf ((← needed name).getD []) isQuoted
  | .length name => return atomsOf (Octets.ofNat ((← needed name).getD []).length) isQuoted
  | .trimmed name fromEnd isLongest pattern => do
    let isAll := name = ['@'] || name = ['*']
    let value := (← needed name).getD []
    let signs := signsOf (← expandInner inside ⟨false, false⟩ pattern)
    let cut := (if fromEnd then withoutEnd else withoutStart) (Pattern.ofSigns signs) isLongest
    if isAll && isSeparate (name = ['@']) isQuoted purpose.wantsFields then
      let joined := ['\x00'].intercalate (← process).arguments
      return separateAtoms isQuoted ((cut joined).splitOn '\x00')
    else return atomsOf (cut value) isQuoted
  | .instead name operator orEmpty word =>
    expandInstead inside purpose isQuoted name operator orEmpty word

/-- The atoms of a word. The fuel bounds how long words are and how deep they stand in one
another. -/
def expand (again : Evaluator) : Nat → Purpose → Word → Act (List Atom)
  | 0, _, _ => return []
  | _, _, [] => return []
  | fuel + 1, purpose, .mark :: .parameter (.value ['@']) true :: .mark :: rest => do
    let first ←
      if purpose.wantsFields then allArguments true true true
      else allArguments true true false
    return first ++ (← expand again fuel purpose rest)
  | fuel + 1, purpose, piece :: rest => do
    let first ←
      match piece with
      | .plain octet => pure [Atom.octet octet false purpose.splitsAll]
      | .quoted octet => pure [Atom.octet octet true false]
      | .mark => pure [.mark]
      | .parameter use isQuoted => expandUse (expand again fuel) purpose isQuoted use
      | .output command isQuoted => pure (atomsOf (← outputOf again command) isQuoted)
      | .arithmetic expression isQuoted => do
        let text := octetsOf (← expand again fuel ⟨false, false⟩ expression)
        pure (atomsOf (← calculate text) isQuoted)
    return first ++ (← expand again fuel purpose rest)

/-- How deep words may stand in one another. -/
def wordDepth : Nat := 100000

/-- A word with homes in the places of tildes. -/
def settled (assigns : Bool) (word : Word) : Act Word := do
  let own? ← valueOf? "HOME".toList
  return withHomes own? assigns (word.length + 1) true word

/-- The fields that a word stands for. -/
def fieldsOf (again : Evaluator) (word : Word) : Act (List Octets) := do
  let atoms ← expand again wordDepth ⟨true, false⟩ (← settled false word)
  let fields := Fields.ofAtoms (← separators) atoms
  if ← isOn 'f' then return fields.map fun field => field.map Sign.octet
  else
    let files := (← machine).files
    let directory := (← process).directory
    return fields.flatMap (namesFor files directory)

/-- The one text that a word stands for. -/
def textOf (again : Evaluator) (word : Word) : Act Octets := do
  return octetsOf (← expand again wordDepth ⟨false, false⟩ (← settled false word))

/-- The text that a word stands for that gives a value to a variable. -/
def valueFor (again : Evaluator) (word : Word) : Act Octets := do
  return octetsOf (← expand again wordDepth ⟨false, false⟩ (← settled true word))

/-- The pattern that a word stands for. -/
def patternFor (again : Evaluator) (word : Word) : Act Pattern := do
  return Pattern.ofSigns
    (signsOf (← expand again wordDepth ⟨false, false⟩ (← settled false word)))

end Act

end Golden.Shell
