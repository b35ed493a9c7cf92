/-
This file models the files that a run can see: a finite map from locations to what
stands there. A location is the list of names on the way down from the working
directory, or from the root of the machine, in which the working directory lies; so
each file has one location however its path is written. At the root, at some
locations below it and at the working directory something always stands. A path is
walked one step at a time and every step must start from a directory; the requests
to read, write, remove, copy and list then look at the one location the walk ends
at, and refuse for the reason the system would give.
-/

import Golden.Files.Cause
import Golden.Files.Path
import Golden.Text.Utf8

namespace Golden

/-- The bytes of a file. -/
abbrev Bytes := List UInt8

/-- The names on the way from the working directory to a file, or with a slash at the front the
names on the way from the root of the machine. -/
abbrev Location := List String

/-- What may stand at a location. -/
inductive Node
  | file (content : Bytes)
  | directory
  /-- The device that is always empty, and takes whatever is written to it. -/
  | emptyDevice
deriving DecidableEq, Repr

namespace Location

/-- The location of the root of the machine. -/
def root : Location := ["/"]

/-- The locations of the machine at which there are always directories. -/
def systemDirectories : List Location :=
  [root, ["/", "bin"], ["/", "dev"], ["/", "etc"], ["/", "tmp"], ["/", "usr"], ["/", "usr", "bin"]]

/-- The way from the root to the working directory. -/
def workplace : Location := ["/", "work"]

/-- The location one step down from a location. -/
def child (location : Location) (name : String) : Location :=
  if location ++ [name] = workplace then [] else location ++ [name]

/-- The location of the empty device. -/
def emptyDevice : Location := ["/", "dev", "null"]

/-- What stands at a location whatever files there are. -/
def standing? (location : Location) : Option Node :=
  if location.isEmpty || systemDirectories.contains location then some .directory
  else if location = emptyDevice then some .emptyDevice
  else none

/-- The location of the directory that a location lies in. The working directory lies in the root,
which lies in itself. -/
def parent (location : Location) : Location :=
  if location.isEmpty || location = root then root else location.dropLast

end Location

/-- The files that a run can see. -/
structure Files where
  entries : List (Location × Node)
deriving Repr

namespace Files

/-! ### The map from locations -/

/-- No file at all. -/
def empty : Files := ⟨[]⟩

/-- What stands at a location. -/
def find? (files : Files) (location : Location) : Option Node :=
  location.standing?.or (files.entries.lookup location)

/-- The files after something is put at a location. -/
def put (files : Files) (location : Location) (node : Node) : Files :=
  ⟨(location, node) :: files.entries.filter fun entry => entry.1 ≠ location⟩

/-- The files after what stands at a location is taken away. -/
def erase (files : Files) (location : Location) : Files :=
  ⟨files.entries.filter fun entry => entry.1 ≠ location⟩

theorem lookup_filter_of_ne (entries : List (Location × Node)) {location other : Location}
    (different : other ≠ location) :
    (entries.filter fun entry => entry.1 ≠ location).lookup other = entries.lookup other := by
  induction entries with
  | nil => rfl
  | cons entry rest inductionHypothesis =>
    obtain ⟨place, node⟩ := entry
    by_cases same : place = location
    · have apart : (other == place) = false := by simp [same, different]
      rw [List.filter_cons_of_neg (by simp [same]), List.lookup_cons, apart]
      exact inductionHypothesis
    · rw [List.filter_cons_of_pos (by simp [same]), List.lookup_cons, List.lookup_cons]
      cases other == place with
      | true => rfl
      | false => exact inductionHypothesis

theorem lookup_filter_self (entries : List (Location × Node)) (location : Location) :
    (entries.filter fun entry => entry.1 ≠ location).lookup location = none := by
  rw [List.lookup_eq_none_iff]
  intro entry member
  have apart := (List.mem_filter.mp member).2
  simp at apart
  simp [Ne.symm apart]

theorem find?_of_standing {location : Location} {node : Node}
    (standing : location.standing? = some node) (files : Files) :
    files.find? location = some node := by
  rw [find?, standing, Option.some_or]

theorem find?_put_self (files : Files) {location : Location} (node : Node)
    (free : location.standing? = none) : (files.put location node).find? location = some node := by
  simp [find?, put, free]

theorem find?_put_of_ne (files : Files) {location other : Location} (node : Node)
    (different : other ≠ location) :
    (files.put location node).find? other = files.find? other := by
  have apart : (other == location) = false := by simp [different]
  rw [find?, find?, put, List.lookup_cons, apart, lookup_filter_of_ne files.entries different]

theorem find?_erase_self (files : Files) {location : Location}
    (free : location.standing? = none) : (files.erase location).find? location = none := by
  rw [find?, free, Option.none_or, erase, lookup_filter_self]

theorem find?_erase_of_ne (files : Files) {location other : Location}
    (different : other ≠ location) :
    (files.erase location).find? other = files.find? other := by
  rw [find?, find?, erase, lookup_filter_of_ne files.entries different]

/-! ### Walking a path -/

/-- The location that a list of steps ends at. Every step is taken from a directory. -/
def walk (files : Files) (origin : Location) : List Path.Step → Except Cause Location
  | [] => .ok origin
  | step :: rest =>
    match files.find? origin with
    | none => .error .notFound
    | some (.file _) | some .emptyDevice => .error .notADirectory
    | some .directory =>
      match step with
      | .stay => files.walk origin rest
      | .up => files.walk origin.parent rest
      | .down name => files.walk (origin.child name) rest

/-- The location that a path names, whether or not anything stands there. -/
def locate (files : Files) (path : Path) : Except Cause Location :=
  if '\x00' ∈ path.text.toList then .error .nulInName
  else if path.text.isEmpty then .error .notFound
  else files.walk (if path.isAbsolute then Location.root else []) path.steps

/-- What a path names, when something stands there. -/
def examine (files : Files) (path : Path) : Except Cause (Location × Node) := do
  let location ← files.locate path
  match files.find? location with
  | none => throw .notFound
  | some .directory => return (location, .directory)
  | some node => if path.namesDirectory then throw .notADirectory else return (location, node)

/-- Whether anything stands where a path leads. -/
def contains (files : Files) (path : Path) : Bool :=
  (files.examine path).toOption.isSome

/-! ### Requests -/

/-- The content of the file that a path names. -/
def read (files : Files) (path : Path) : Except Cause Bytes := do
  match ← files.examine path with
  | (_, .file content) => return content
  | (_, .emptyDevice) => return []
  | (_, .directory) => throw .isADirectory

/-- The content of the file that a path names, read as text. -/
def readText (files : Files) (path : Path) : Except Cause String := do
  match Text.decode? (← files.read path) with
  | some text => return String.ofList text
  | none => throw .notText

/-- The location at which a path lets a file be written. -/
def target (files : Files) (path : Path) : Except Cause Location := do
  let location ← files.locate path
  if path.namesDirectory || files.find? location = some .directory then throw .isADirectory
  else return location

/-- The files after a content is given to the file at a location, which may be new. -/
def store (files : Files) (location : Location) (content : Bytes) : Files :=
  if location.standing?.isSome then files else files.put location (.file content)

/-- The files after a file is created or overwritten. -/
def write (files : Files) (path : Path) (content : Bytes) : Except Cause Files := do
  return files.store (← files.target path) content

/-- The files after a file is removed. -/
def remove (files : Files) (path : Path) : Except Cause Files := do
  match ← files.examine path with
  | (location, .file _) => return files.erase location
  | (_, .emptyDevice) => throw .notPermitted
  | (_, .directory) => throw .isADirectory

/-- The files after the content of one file is written to another. -/
def copy (files : Files) (source destination : Path) : Except Cause Files := do
  match ← files.examine source with
  | (_, .file content) => files.write destination content
  | _ => throw .notRegular

/-- One entry of a directory. -/
structure Entry where
  name : String
  isDirectory : Bool
deriving DecidableEq, Repr

/-- The entry that a location makes in a directory, if it lies directly in it. -/
def entryIn? (directory : Location) (location : Location) (node : Node) : Option Entry :=
  match location.getLast? with
  | some name =>
    if location.dropLast = directory then some ⟨name, node == .directory⟩ else none
  | none => none

/-- The entries of the directory that a path names, in no particular order. -/
def list (files : Files) (path : Path) : Except Cause (List Entry) := do
  match ← files.examine path with
  | (directory, .directory) =>
    return files.entries.filterMap fun (location, node) => entryIn? directory location node
  | _ => throw .notADirectory

/-- Whether the file at one location was written after the one at another location. What was put
last stands first. -/
def isNewer (files : Files) (location other : Location) : Bool :=
  let place? (location : Location) : Option Nat :=
    files.entries.findIdx? fun entry => entry.1 = location
  match place? location, place? other with
  | some place, some otherPlace => place < otherPlace
  | _, _ => false

/-! ### Setting up -/

/-- The files after every missing directory on the way to a location is made. -/
def makeDirectories (files : Files) (location : Location) : Files :=
  (List.range (location.length + 1)).foldl
    (fun made length =>
      let above := location.take length
      if (made.find? above).isSome then made else made.put above .directory)
    files

/-- The files after something is put where a path leads, with the directories on its way. -/
def plant (files : Files) (path : Path) (node : Node) : Files :=
  let location := path.steps.foldl
    (fun reached step =>
      match step with
      | .stay => reached
      | .up => reached.dropLast
      | .down name => reached ++ [name])
    []
  match node with
  | .directory => files.makeDirectories location
  | node => (files.makeDirectories location.dropLast).put location node

end Files

end Golden
