/-
This file tells the options of a tool from its operands. An option is a letter after
a hyphen, alone or among others, or a word after two hyphens, which may be cut short
as long as it can be told from the others. Options and operands may be mixed; two
hyphens alone end the options. Each option says what it does to the settings of its
tool, so that reading arguments is a walk from the first settings to the last.
-/

import Golden.Tool.Quoting

namespace Golden.Tool

open Golden

/-! ### Options -/

/-- Whether an option comes with a value. -/
inductive Taking
  | nothing
  | value
  /-- Only a word takes the value, after an equals sign. -/
  | perhaps
deriving DecidableEq, Repr

/-- Why a tool does no work. -/
inductive Stop
  /-- The command line is wrong, and the tool points to its help. -/
  | misuse (complaint : Octets)
  /-- The command line is wrong in a way that the complaint says all about. -/
  | refusal (complaint : Octets)
  /-- The tool was asked to tell about itself. -/
  | about
deriving DecidableEq, Repr

/-- An option of a tool: how it is written, and what it does to the settings. -/
structure Choice (σ : Type) where
  letters : List Char
  words : List String
  taking : Taking
  apply : Option Octets → σ → Except Stop σ

variable {σ : Type}

/-- An option without a value. -/
def Choice.plain (letters : List Char) (words : List String) (change : σ → σ) : Choice σ :=
  ⟨letters, words, .nothing, fun _ settings => .ok (change settings)⟩

/-- The options that every tool has. -/
def aboutChoices : List (Choice σ) :=
  [⟨[], ["help"], .nothing, fun _ _ => .error .about⟩,
    ⟨[], ["version"], .nothing, fun _ _ => .error .about⟩]

/-! ### Words after two hyphens -/

/-- The words that a word may be short for, each with its option. -/
def candidates (choices : List (Choice σ)) (word : Octets) : List (String × Choice σ) :=
  let all := choices.flatMap fun choice => choice.words.map fun full => (full, choice)
  match all.filter fun (full, _) => full.toList = word with
  | [] => all.filter fun (full, _) => word.isPrefixOf full.toList
  | exact' => exact'

/-- The option that the word at the start of a text names, with its full name. -/
def named (choices : List (Choice σ)) (word text : Octets) : Except Stop (String × Choice σ) :=
  match candidates choices word with
  | [] => .error (.misuse ("unrecognized option '--".toList ++ text ++ ['\'']))
  | first :: others =>
    let different := others.filter fun other => !first.2.words.contains other.1
    if different.isEmpty then .ok first
    else
      let possible := (first :: different).flatMap fun other => (" '--" ++ other.1 ++ "'").toList
      .error (.misuse ("option '--".toList ++ text ++ "' is ambiguous; possibilities:".toList ++
        possible))

/-- The settings after a word with what follows an equals sign in it, or the option that still needs
a value. -/
def applyWord (choices : List (Choice σ)) (text : Octets) (settings : σ) :
    Except Stop (σ ⊕ (Octets × Choice σ)) := do
  let word := text.takeWhile (· ≠ '=')
  let value? := (text.drop word.length).tail?
  let (full, choice) ← named choices word text
  let option := "option '--".toList ++ full.toList
  match choice.taking, value? with
  | .nothing, some _ => throw (.misuse (option ++ "' doesn't allow an argument".toList))
  | .value, none => return .inr (option ++ "' requires an argument".toList, choice)
  | _, _ => return .inl (← choice.apply value? settings)

/-! ### Letters after one hyphen -/

/-- The settings after letters, or the option at their end that still needs a value. -/
def applyLetters (choices : List (Choice σ)) :
    List Char → σ → Except Stop (σ ⊕ (Octets × Choice σ))
  | [], settings => .ok (.inl settings)
  | letter :: rest, settings =>
    match choices.find? fun choice => choice.letters.contains letter with
    | none => .error (.misuse ("invalid option -- '".toList ++ [letter, '\'']))
    | some choice =>
      if choice.taking = .value then
        if rest.isEmpty then
          .ok (.inr ("option requires an argument -- '".toList ++ [letter, '\''], choice))
        else (choice.apply (some rest) settings).map .inl
      else do applyLetters choices rest (← choice.apply none settings)

/-! ### Command lines -/

/-- The settings and the operands that arguments say. -/
def readArguments (choices : List (Choice σ)) :
    List Octets → σ → Except Stop (σ × List Octets)
  | [], settings => .ok (settings, [])
  | argument :: rest, settings => do
    if argument = ['-', '-'] then return (settings, rest)
    else if argument = ['-'] || argument.head? ≠ some '-' then
      let (settings, operands) ← readArguments choices rest settings
      return (settings, argument :: operands)
    else
      let applied ←
        if "--".toList.isPrefixOf argument then applyWord choices (argument.drop 2) settings
        else applyLetters choices (argument.drop 1) settings
      match applied, rest with
      | .inl settings, rest => readArguments choices rest settings
      | .inr (_, choice), value :: rest =>
        readArguments choices rest (← choice.apply (some value) settings)
      | .inr (complaint, _), [] => throw (.misuse complaint)
termination_by arguments => arguments.length

/-! ### Values with names -/

/-- The meaning of a value that is chosen from a list of names, which may be cut short. The rows of
the list hold the names of one meaning. -/
def chosenFrom {α : Type} (rows : List (List String × α)) (option : String) (value : Octets) :
    Except Stop α :=
  let all := rows.zipIdx.flatMap fun ((names, meaning), row) =>
    names.map fun name => (name, row, meaning)
  let exact' := all.filter fun (name, _) => name.toList = value
  let matching :=
    if exact'.isEmpty then all.filter fun (name, _) => value.isPrefixOf name.toList else exact'
  let complaint (kind : String) : Octets :=
    let shown (names : List String) : String :=
      "\n  - " ++ ", ".intercalate (names.map fun name => "'" ++ name ++ "'")
    kind.toList ++ " argument ".toList ++ cited value ++ " for '".toList ++ option.toList ++
      "'\nValid arguments are:".toList ++ rows.flatMap fun (names, _) => (shown names).toList
  match matching with
  | [] => .error (.misuse (complaint "invalid"))
  | (_, row, meaning) :: others =>
    if others.all fun (_, other, _) => other = row then .ok meaning
    else .error (.misuse (complaint "ambiguous"))

end Golden.Tool
