/-
This file introduces pairs of fixture files and narrows lists of them. A keyword
selects the pairs whose input has it in its name, never in the directory before
the name, and the pairs that remain are numbered anew.
-/

import Golden.Files.Path
import Golden.Text.Search

namespace Golden.Fixture

/-- An input file and the file that its output is compared with. -/
structure Pair where
  /-- The place in the run, from one. -/
  index : Nat
  key : String
  input : Path
  expected : Path
deriving DecidableEq, Repr

namespace Pair

/-- The name of the input file, without its directory. -/
def inputName (pair : Pair) : String :=
  pair.input.fileName?.getD ""

/-- Whether a keyword occurs in the name of the input file. -/
def mentions (keyword : String) (pair : Pair) : Bool :=
  Text.occursIn keyword.toList pair.inputName.toList

/-- The same pairs, numbered from one. -/
def renumber (pairs : List Pair) : List Pair :=
  pairs.zipIdx.map fun (pair, index) => { pair with index := index + 1 }

/-- The pairs that mention a keyword, numbered from one. -/
def select (keyword : String) (pairs : List Pair) : List Pair :=
  renumber (pairs.filter (mentions keyword))

end Pair

end Golden.Fixture
