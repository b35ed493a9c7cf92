/-
This file collects the fixture files of a directory and pairs them. A collection
holds the names of inputs and of expected outputs, each in ascending order. They
are paired by place, where what one side has too many is left out, or by key, where
every name must find its one partner. When pairing by key fails, the first fault in
a fixed order is reported: two outputs with one key; then the first input that
shares its key with an earlier one or finds no output; then, of the outputs that no
input asks for, the least by name.
-/

import Golden.Files.Tree
import Golden.Fixture.Pair
import Golden.Fixture.Role

namespace Golden.Fixture

/-- Why fixtures cannot be collected or paired. -/
inductive Error
  | unreadable (directory : Path) (cause : Cause)
  | unmatched (name : String) (key : String) (missing : Role)
  | duplicateKey (key : String) (first second : String)
deriving DecidableEq, Repr

/-- The words in which an error is reported. -/
def Error.message : Error → String
  | .unreadable directory cause =>
    "failed to read fixture directory '" ++ directory.text ++ "': " ++ cause.message
  | .unmatched name key missing =>
    "fixture '" ++ name ++ "' has no matching " ++ missing.word ++ " file (key '" ++ key ++ "')"
  | .duplicateKey key first second =>
    "fixture key '" ++ key ++ "' is shared by '" ++ first ++ "' and '" ++ second ++ "'"

/-- How inputs find their expected outputs. -/
inductive Pairing
  /-- The first input goes with the first output, and so on. -/
  | positional
  /-- An input goes with the output that has its key. -/
  | keyed
deriving DecidableEq, Repr

/-- The names of the fixture files in a directory. -/
structure Collection where
  directory : Path
  inputs : List String
  outputs : List String
deriving DecidableEq, Repr

namespace Collection

/-- Whether a collection has no file at all. -/
def isEmpty (collection : Collection) : Bool :=
  collection.inputs.isEmpty && collection.outputs.isEmpty

/-! ### Collecting -/

/-- Names in ascending order. -/
def ascending (names : List String) : List String :=
  names.mergeSort fun left right => decide (left ≤ right)

/-- The names of the files in a listing that have a role, in ascending order. -/
def named (role : Role) (entries : List Files.Entry) : List String :=
  ascending
    ((entries.filter fun entry => !entry.isDirectory && Role.of? entry.name = some role).map
      Files.Entry.name)

/-- The collection that the listing of a directory gives. -/
def ofListing (directory : Path) (entries : List Files.Entry) : Collection :=
  ⟨directory, named .input entries, named .output entries⟩

/-- The fixture files in a directory. -/
def discover (directory : Path) (files : Files) : Except Error Collection :=
  match files.list directory with
  | .ok entries => .ok (ofListing directory entries)
  | .error cause => .error (.unreadable directory cause)

/-! ### Pairing -/

/-- The pair of an input and an output of a collection. -/
def pair (collection : Collection) (index : Nat) (input expected : String) : Pair :=
  ⟨index, key .input input, collection.directory.join ⟨input⟩,
    collection.directory.join ⟨expected⟩⟩

/-- The pairs of names that stand at the same place. -/
def positionalPairs (collection : Collection) : List Pair :=
  (collection.inputs.zip collection.outputs).zipIdx.map fun ((input, expected), index) =>
    collection.pair (index + 1) input expected

/-- The first name whose key an earlier one has, and that earlier name before it. The names seen
already come last first. -/
def repeated? (role : Role) (seen : List String) : List String → Option (String × String)
  | [] => none
  | name :: rest =>
    match seen.find? fun earlier => key role earlier = key role name with
    | some first => some (first, name)
    | none => repeated? role (name :: seen) rest

/-- The inputs with the outputs that they take, in the order of the inputs, and the outputs that
are left. An output that an input has taken is not there for the inputs after it. -/
def partners (outputs seen : List String) :
    List String → Except Error (List (String × String) × List String)
  | [] => .ok ([], outputs)
  | input :: rest =>
    match seen.find? fun earlier => key .input earlier = key .input input with
    | some first => .error (.duplicateKey (key .input input) first input)
    | none =>
      match outputs.find? fun output => key .output output = key .input input with
      | none => .error (.unmatched input (key .input input) .output)
      | some output =>
        (partners (outputs.erase output) (input :: seen) rest).map fun (matched, left) =>
          ((input, output) :: matched, left)

/-- The pairs of names that have the same key. -/
def keyedPairs (collection : Collection) : Except Error (List Pair) :=
  match repeated? .output [] collection.outputs with
  | some (first, second) => .error (.duplicateKey (key .output second) first second)
  | none =>
    match partners collection.outputs [] collection.inputs with
    | .error error => .error error
    | .ok (matched, left) =>
      match (ascending left).head? with
      | some name => .error (.unmatched name (key .output name) .input)
      | none =>
        .ok (matched.zipIdx.map fun ((input, expected), index) =>
          collection.pair (index + 1) input expected)

/-- The pairs of a collection. -/
def pairs (collection : Collection) : Pairing → Except Error (List Pair)
  | .positional => .ok collection.positionalPairs
  | .keyed => collection.keyedPairs

end Collection

end Golden.Fixture
