/-
This file answers the questions that scripts ask by `test`. A question is about a word,
about two words, about two numbers or about a file; questions are joined by `-a` and
`-o`, turned around by `!` and put in parentheses. A word is an operator only where an
operand can follow it, so that any word can be asked about.
-/

import Golden.Text.Digits
import Golden.Tool.Call

namespace Golden.Shell.Condition

open Golden

/-! ### Operators -/

/-- The operators before one word. -/
def before : List String :=
  ["-r", "-w", "-x", "-e", "-f", "-d", "-c", "-b", "-p", "-u", "-g", "-k", "-s", "-t", "-z", "-n",
    "-h", "-O", "-G", "-L", "-S"]

/-- The operators between two words. -/
def between : List String :=
  ["=", "!=", "<", ">", "-eq", "-ne", "-ge", "-gt", "-le", "-lt", "-nt", "-ot", "-ef"]

/-- What a word is in a question. -/
inductive Role
  | finish
  | operand
  | before (operator : String)
  | between (operator : String)
  | not
  | both
  | either
  | opens
  | closes
deriving DecidableEq, Repr

/-- What a word means by itself. -/
def meaning (word : Octets) : Role :=
  let text := String.ofList word
  if before.contains text then .before text
  else if between.contains text then .between text
  else
    match text with
    | "!" => .not
    | "-a" => .both
    | "-o" => .either
    | "(" => .opens
    | ")" => .closes
    | _ => .operand

/-- What the first of some words is in a question. -/
def role : List Octets → Role
  | [] => .finish
  | word :: rest =>
    match meaning word with
    | .before operator =>
      match rest with
      | [] => .operand
      | [_] => .before operator
      | second :: _ =>
        match meaning second with
        | .between _ => .operand
        | _ => .before operator
    | .opens => if rest.isEmpty then .operand else .opens
    | other => other

/-! ### Answers -/

/-- What is known when a question is asked. -/
structure Scene where
  files : Files
  directory : Path
  /-- The descriptors that are open. -/
  descriptors : List Nat

/-- The number that a word is. -/
def numberOf (word : Octets) : Except Octets Int :=
  let (isNegative, body) := Text.withoutSign word
  let (digits, rest) := Text.leadingDigits 10 body
  let size := Text.numberOf 10 digits
  let number : Int := if isNegative then -size else size
  if digits.isEmpty || !rest.all Text.isSpace || Int.bmod number (1 <<< 64) ≠ number then
    .error ("Illegal number: ".toList ++ word)
  else .ok number

/-- The descriptor that a name in the directory of devices stands for. -/
def deviceDescriptor? (name : Octets) : Option Nat :=
  match String.ofList name with
  | "/dev/stdin" => some 0
  | "/dev/stdout" => some 1
  | "/dev/stderr" => some 2
  | _ =>
    match "/dev/fd/".toList.isPrefixOf? name with
    | some [digit] => if digit.isDigit then some (digit.toNat - 48) else none
    | _ => none

/-- The answer to a question about a file, or about the length of a word. -/
def answerBefore (scene : Scene) (operator : String) (word : Octets) : Except Octets Bool :=
  let path := Tool.pathIn scene.directory word
  let found := (scene.files.examine path).toOption.map Prod.snd
  let isDirectory := found = some .directory
  let isProgram := (Tool.programAt? scene.files path).isSome
  let isThere := found.isSome || isProgram ||
    (deviceDescriptor? word).any fun descriptor => scene.descriptors.contains descriptor
  match operator with
  | "-z" => .ok word.isEmpty
  | "-n" => .ok (!word.isEmpty)
  | "-t" => (numberOf word).map fun _ => false
  | "-e" | "-r" | "-w" | "-O" | "-G" => .ok isThere
  | "-x" => .ok (isDirectory || isProgram)
  | "-d" => .ok isDirectory
  | "-c" => .ok (found = some .emptyDevice)
  | "-f" =>
    .ok (match found with
      | some (.file _) => true
      | _ => isProgram)
  | "-s" =>
    .ok (match found with
      | some (.file content) => !content.isEmpty
      | some .directory => true
      | _ => isProgram)
  | _ => .ok false

/-- The answer to a question about two words. -/
def answerBetween (scene : Scene) (operator : String) (left right : Octets) :
    Except Octets Bool := do
  let place (word : Octets) : Option Location :=
    (scene.files.examine (Tool.pathIn scene.directory word)).toOption.map Prod.fst
  let isNewer (left right : Octets) : Bool :=
    match place left, place right with
    | some location, some other => scene.files.isNewer location other
    | _, _ => false
  let numbers (holds : Int → Int → Bool) : Except Octets Bool := do
    return holds (← numberOf left) (← numberOf right)
  match operator with
  | "=" => return left = right
  | "!=" => return left ≠ right
  | "<" => return Octets.comesBefore left right
  | ">" => return Octets.comesBefore right left
  | "-eq" => numbers fun left right => left = right
  | "-ne" => numbers fun left right => left ≠ right
  | "-ge" => numbers fun left right => right ≤ left
  | "-gt" => numbers fun left right => right < left
  | "-le" => numbers fun left right => left ≤ right
  | "-lt" => numbers fun left right => left < right
  | "-ef" => return (place left).isSome && place left = place right
  | "-nt" => return isNewer left right
  | "-ot" => return isNewer right left
  | _ => return false

/-! ### Questions -/

/-- Reading a question from words. What is read starts at the first word that is left. -/
abbrev Inquiry := StateT (List Octets) (Except Octets)

/-- What is wrong at an operator. -/
def wrong {α : Type} (operator words : String) : Inquiry α :=
  throw (operator ++ ": " ++ words).toList

/-- The role of the word behind the first one. -/
def nextRole : Inquiry Role := do
  return role ((← get).drop 1)

/-- Leaves words behind. -/
def skip (count : Nat) : Inquiry Unit :=
  modify fun words => words.drop count

mutual

/-- The answer to questions of which one has to hold. -/
def anyOf (scene : Scene) : Nat → Role → Inquiry Bool
  | 0, _ => return false
  | fuel + 1, first => do
    let holds ← allOf scene fuel first
    if (← nextRole) = .either then
      skip 2
      let others ← anyOf scene fuel (role (← get))
      return holds || others
    else return holds

/-- The answer to questions of which all have to hold. -/
def allOf (scene : Scene) : Nat → Role → Inquiry Bool
  | 0, _ => return false
  | fuel + 1, first => do
    let holds ← oneOf scene fuel first
    if (← nextRole) = .both then
      skip 2
      let others ← allOf scene fuel (role (← get))
      return holds && others
    else return holds

/-- The answer to one question. -/
def oneOf (scene : Scene) : Nat → Role → Inquiry Bool
  | 0, _ => return false
  | fuel + 1, .not => do
    let next ← nextRole
    if next ≠ .finish then skip 1
    return !(← oneOf scene fuel next)
  | _, .finish => return false
  | fuel + 1, .opens => do
    skip 1
    let next := role (← get)
    if next = .closes then return false
    else
      let holds ← anyOf scene fuel next
      skip 1
      if role (← get) = .closes then return holds
      else throw "closing paren expected".toList
  | _, .before operator => do
    skip 1
    match ← get with
    | [] => wrong operator "argument expected"
    | word :: _ => liftM (answerBefore scene operator word)
  | _, _ => do
    let left := ((← get).head?).getD []
    match ← nextRole with
    | .between operator =>
      skip 2
      match ← get with
      | [] => wrong operator "argument expected"
      | right :: _ => liftM (answerBetween scene operator left right)
    | _ => return !left.isEmpty

end

/-- The answer to the question that some words ask, of which the role of the first one is given. -/
def answerFrom (scene : Scene) (words : List Octets) (first : Role) : Except Octets Bool := do
  let (holds, left) ← (anyOf scene (4 * words.length + 16) first).run words
  match left with
  | word :: _ :: _ =>
    throw ((if word.isEmpty then [] else word ++ ": ".toList) ++ "unexpected operator".toList)
  | _ => return holds

/-- The answer to the question that some words ask. An exclamation mark before two or three words
turns the answer around, but a second one behind it does not turn it back. -/
def answerTurned (scene : Scene) (isTurned : Bool) : List Octets → Except Octets Bool
  | [] => .ok isTurned
  | first :: rest =>
    let words := first :: rest
    let count := words.length
    let plain (words : List Octets) (role : Role) : Except Octets Bool :=
      (answerFrom scene words role).map (· != isTurned)
    let isBetween : Bool :=
      match rest with
      | operator :: _ => between.contains (String.ofList operator)
      | [] => false
    if count = 3 && isBetween then plain words .operand
    else if (count = 3 || count = 4) && first = ['('] && words.getLast? = some [')'] then
      plain rest.dropLast (role rest.dropLast)
    else if (count = 3 || count = 4) && first = ['!'] then answerTurned scene true rest
    else plain words (role words)

/-- The answer to the question that some words ask. -/
def answer (scene : Scene) (words : List Octets) : Except Octets Bool :=
  answerTurned scene false words

end Golden.Shell.Condition
