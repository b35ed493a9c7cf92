/-
This file reads the names of fixture files. The first letter of a name tells
whether the file is an input or an expected output. The key of a file is the stem
of its name without the word or, where the word is not written out, the letter
that tells its role, so that an input and its expected output have the same key.
-/

import Golden.Files.Path

namespace Golden.Fixture

/-- The side of a pair that a file stands on. -/
inductive Role
  | input
  | output
deriving DecidableEq, Repr

namespace Role

/-- The word for a role. -/
def word : Role → String
  | .input => "input"
  | .output => "output"

/-- The letter that names of files with a role start with. -/
def letter : Role → Char
  | .input => 'i'
  | .output => 'o'

/-- The word for a role starts with its letter. -/
theorem word_toList (role : Role) : ∃ rest, role.word.toList = role.letter :: rest := by
  cases role
  · exact ⟨"nput".toList, by decide⟩
  · exact ⟨"utput".toList, by decide⟩

/-- The role of a file, by the first letter of its name. -/
def of? (name : String) : Option Role :=
  match name.toList.head? with
  | some 'i' => some .input
  | some 'o' => some .output
  | _ => none

end Role

/-- The part of a stem that is its key. -/
def keyOfStem (role : Role) (stem : List Char) : List Char :=
  match role.word.toList.isPrefixOf? stem with
  | some rest => rest
  | none =>
    match stem with
    | first :: rest => if first = role.letter then rest else stem
    | [] => []

/-- The key by which the file of a role is paired. -/
def key (role : Role) (name : String) : String :=
  let stem := ((Path.mk name).fileStem?).getD name
  String.ofList (keyOfStem role stem.toList)

end Golden.Fixture
