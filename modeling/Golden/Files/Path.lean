/-
This file treats the names that files are reached by. A path is kept as the text
it was written as, because that text is what messages show; it is read as a list
of steps only where a file is looked up. The name at its end, the stem of that
name and the joining of two paths follow the customs of Unix: empty steps count for
nothing, a single dot stays where it is but needs a directory to stay in, two dots
name no file, and a dot that starts a name does not start an extension.
-/

namespace Golden

/-- The name that a file is reached by. -/
structure Path where
  text : String
deriving DecidableEq, Repr

namespace Path

/-- One step of a path on its way from a directory. -/
inductive Step
  | stay
  | up
  | down (name : String)
deriving DecidableEq, Repr

/-- The step that a piece between two slashes stands for, if it stands for one. -/
def step? (piece : List Char) : Option Step :=
  if piece = [] then none
  else if piece = ['.'] then some .stay
  else if piece = ['.', '.'] then some .up
  else some (.down (String.ofList piece))

/-- The steps of a path, in order. -/
def steps (path : Path) : List Step :=
  (path.text.toList.splitOn '/').filterMap step?

/-- Whether a path starts at the root of the machine. -/
def isAbsolute (path : Path) : Bool :=
  path.text.toList.head? == some '/'

/-- Whether a path can only name a directory, as one does that ends in a slash or in dots. -/
def namesDirectory (path : Path) : Bool :=
  match (path.text.toList.splitOn '/').getLast? with
  | some piece => piece = [] || piece = ['.'] || piece = ['.', '.']
  | none => false

/-- The name of the file at the end of a path, if the path ends in a name. -/
def fileName? (path : Path) : Option String :=
  match (path.steps.filter (· ≠ .stay)).getLast? with
  | some (.down name) => some name
  | _ => none

/-- A name is cut at its last dot, which belongs to neither part. -/
def cutAtLastDot? (name : List Char) : Option (List Char × List Char) :=
  match name with
  | [] => none
  | character :: rest =>
    match cutAtLastDot? rest with
    | some (stem, extension) => some (character :: stem, extension)
    | none => if character = '.' then some ([], rest) else none

/-- A name without its extension: what stands before its last dot, unless nothing does. -/
def stemOf (name : String) : String :=
  match cutAtLastDot? name.toList with
  | some (first :: others, _) => String.ofList (first :: others)
  | _ => name

/-- The stem of the name at the end of a path. -/
def fileStem? (path : Path) : Option String :=
  path.fileName?.map stemOf

/-- The path that the second one means when it is read from the first one. -/
def join (directory path : Path) : Path :=
  if path.isAbsolute then path
  else if directory.text.isEmpty then path
  else if directory.text.toList.getLast? = some '/' then ⟨directory.text ++ path.text⟩
  else ⟨directory.text ++ "/" ++ path.text⟩

end Path

end Golden
