/-
This file describes the tool `cp`, which copies files, and with the option for it
directories with all that is in them. The last operand is the target: a directory, into
which the sources go under their own names, or a file, for which there is one source.
A source that is not copied is complained about, and the others are copied all the
same. What was made by this call is remembered, so that a directory is not copied into
itself and no copy is lost under another.
-/

import Golden.Text.Trim
import Golden.Tool.Work

namespace Golden.Tool.Copying

open Golden Golden.Tool

/-! ### Settings -/

/-- What becomes of a file that a copy would take the place of. -/
inductive Clash
  | overwrites
  | keeps
  | asks
deriving DecidableEq, Repr

/-- How the name of a backup is made. -/
inductive Backup
  | simple
  | numbered
  /-- By a number if there are such backups already. -/
  | existing
deriving DecidableEq, Repr

/-- How files are copied. -/
structure Manner where
  recursive : Bool
  force : Bool
  clash : Clash
  /-- Whether only files that are newer are copied. -/
  updates : Bool
  verbose : Bool
  directory? : Option Octets
  /-- Whether the target is never taken as a directory to copy into. -/
  exactTarget : Bool
  /-- Whether the directories on the way to a source are made in the target. -/
  parents : Bool
  removesFirst : Bool
  withoutContent : Bool
  stripsSlashes : Bool
  backup? : Option Backup
  suffix : Octets
  /-- Whether a copy is the file itself under another name. -/
  hardLinks : Bool
  /-- Whether a copy is a note of where the file is. -/
  symbolicLinks : Bool
  /-- How often the option that keeps files was given, which is not the same everywhere. -/
  keepings : Nat
deriving Repr

/-- How files are copied when nothing is said about it. -/
def Manner.plain : Manner where
  recursive := false
  force := false
  clash := .overwrites
  updates := false
  verbose := false
  directory? := none
  exactTarget := false
  parents := false
  removesFirst := false
  withoutContent := false
  stripsSlashes := false
  backup? := none
  suffix := ['~']
  hardLinks := false
  symbolicLinks := false
  keepings := 0

/-- Whether copies share the content of what is copied. -/
def Manner.links (manner : Manner) : Bool :=
  manner.hardLinks || manner.symbolicLinks

/-- Whether a target is looked at for what stands there itself. Then an empty name is that of the
current directory. -/
def Manner.looksAtTarget (manner : Manner) : Bool :=
  manner.exactTarget || manner.links || manner.backup?.isSome || manner.removesFirst

/-- The names for the ways in which backups are made. -/
def backupNames : List (List String × Option Backup) :=
  [(["none", "off"], none), (["simple", "never"], some .simple),
    (["existing", "nil"], some .existing), (["numbered", "t"], some .numbered)]

/-- The names of what can be preserved. -/
def preservable : List (List String × Unit) :=
  ["mode", "timestamps", "ownership", "links", "context", "xattr", "all"].map fun name =>
    ([name], ())

/-- Reads a list of what is to be preserved or not; all files are alike here. -/
def preserving (option : String) (value? : Option Octets) (manner : Manner) :
    Except Stop Manner := do
  match value? with
  | none => return manner
  | some names =>
    for name in names.splitOn ',' do
      chosenFrom preservable option name
    return manner

/-- The manner in which an update goes about. -/
def updating (value? : Option Octets) (manner : Manner) : Except Stop Manner :=
  let rows : List (List String × Manner) :=
    [(["all"], { manner with updates := false, clash := .overwrites }),
      (["none"], { manner with clash := .keeps }), (["older"], { manner with updates := true })]
  match value? with
  | none => .ok { manner with updates := true }
  | some value => chosenFrom rows "--update" value

/-- The options of the tool. -/
def choices : List (Choice Manner) :=
  [.plain ['a'] ["archive"] fun manner => { manner with recursive := true },
    .plain [] ["attributes-only"] fun manner => { manner with withoutContent := true },
    ⟨['b'], ["backup"], .perhaps, fun value? manner => do
      match value? with
      | none | some [] => return { manner with backup? := some .existing }
      | some value =>
        return { manner with backup? := ← chosenFrom backupNames "backup type" value }⟩,
    .plain [] ["copy-contents"] id,
    .plain [] ["debug"] fun manner => { manner with verbose := true },
    .plain ['L'] ["dereference"] id,
    .plain ['f'] ["force"] fun manner => { manner with force := true },
    .plain ['i'] ["interactive"] fun manner => { manner with clash := .asks },
    .plain ['l'] ["link"] fun manner => { manner with hardLinks := true },
    .plain ['n'] ["no-clobber"] fun manner =>
      { manner with clash := .keeps, keepings := manner.keepings + 1 },
    .plain ['P', 'd', 'H'] ["no-dereference"] id,
    ⟨[], ["no-preserve"], .value, preserving "--no-preserve"⟩,
    .plain ['T'] ["no-target-directory"] fun manner => { manner with exactTarget := true },
    .plain ['x'] ["one-file-system"] id,
    .plain [] ["parents", "path"] fun manner => { manner with parents := true },
    ⟨['p'], ["preserve"], .perhaps, preserving "--preserve"⟩,
    .plain ['R', 'r'] ["recursive"] fun manner => { manner with recursive := true },
    .plain [] ["remove-destination"] fun manner => { manner with removesFirst := true },
    ⟨[], ["sparse"], .value, fun value? manner =>
      (chosenFrom [(["never"], ()), (["auto"], ()), (["always"], ())] "--sparse"
        (value?.getD [])).map fun _ => manner⟩,
    ⟨[], ["reflink"], .perhaps, fun value? manner =>
      match value? with
      | none => .ok manner
      | some value =>
        (chosenFrom [(["auto"], ()), (["always"], ()), (["never"], ())] "--reflink" value).map
          fun _ => manner⟩,
    .plain [] ["strip-trailing-slashes"] fun manner => { manner with stripsSlashes := true },
    ⟨['S'], ["suffix"], .value, fun value? manner => .ok
      { manner with suffix := value?.getD [], backup? := manner.backup?.or (some .existing) }⟩,
    .plain ['s'] ["symbolic-link"] fun manner => { manner with symbolicLinks := true },
    ⟨['t'], ["target-directory"], .value, fun value? manner =>
      match manner.directory? with
      | some _ => .error (.refusal "multiple target directories specified".toList)
      | none => .ok { manner with directory? := value? }⟩,
    ⟨['u'], ["update"], .perhaps, updating⟩,
    .plain ['v'] ["verbose"] fun manner => { manner with verbose := true },
    ⟨['Z'], ["context"], .perhaps, fun _ manner => .ok manner⟩]

/-! ### Names -/

/-- A name without the slashes at its end. -/
def withoutSlashes (name : Octets) : Octets :=
  match Text.dropTrailing (· = '/') name with
  | [] => name.take 1
  | bare => bare

/-- The last part of a name. -/
def lastPart (name : Octets) : Octets :=
  ((withoutSlashes name).splitOn '/').getLast?.getD []

/-- The name of something in a directory. -/
def nameIn (directory part : Octets) : Octets :=
  let part := part.dropWhile (· = '/')
  if directory.isEmpty || directory.getLast? = some '/' then directory ++ part
  else directory ++ '/' :: part

/-- The numbers of the backups of a file among the entries of its directory. -/
def backupNumbers (entries : List String) (part : Octets) : List Nat :=
  entries.filterMap fun entry => do
    let rest ← (part ++ ".~".toList).isPrefixOf? (Octets.ofText entry)
    let digits := rest.dropLast
    if rest.getLast? = some '~' then (String.ofList digits).toNat? else none

/-! ### What is remembered -/

/-- What a call of the tool remembers. -/
structure Memory where
  /-- Whether the call has several sources, so that one can be in the way of another. -/
  several : Bool
  sources : List Location
  /-- The files that are copies of sources. -/
  made : List Location
  /-- The directories that were copied or made, each with the directory they became. -/
  directories : List (Location × Location)
  /-- Whether a directory was made for the source that is copied now. -/
  hasMade : Bool

/-- Copying, with what is remembered. -/
abbrev Copier := StateT Memory Work

/-- Complains, for the tool has failed. -/
def complain (words : String) : Copier Unit :=
  Work.complain words.toList

/-- A name as it stands in messages. -/
def shown (name : Octets) : String := String.ofList (quoted name)

/-! ### Copying one source -/

/-- The setting in which one operand is copied. -/
structure Setting where
  manner : Manner
  directory : Path
  /-- The operand that is copied, and the name that it is copied to. -/
  top : Octets × Octets

/-- The path of a target, of which the empty one may be the current directory. -/
def Setting.targetPath (setting : Setting) (looks : Bool) (target : Octets) : Path :=
  pathIn setting.directory (if target.isEmpty && looks then ['.'] else target)

/-- The names of what lies in a directory, in order. -/
def childrenOf (files : Files) (location : Location) : List String :=
  (files.entries.filterMap fun (place, node) =>
    (Files.entryIn? location place node).map Files.Entry.name).mergeSort

/-- Tells of a copy. -/
def announce (setting : Setting) (source target : Octets) (backup? : Option Octets) :
    Copier Unit := do
  if setting.manner.verbose then
    let note :=
      match backup? with
      | some backup => " (backup: " ++ shown backup ++ ")"
      | none => ""
    Work.write .out (shown source ++ " -> " ++ shown target ++ note ++ "\n").toList

/-- Makes the backup of a file, and gives the name of the backup. -/
def backUp (setting : Setting) (kind : Backup) (target : Octets) (location : Location)
    (node : Node) : Copier Octets := do
  let entries ← Work.look fun files => childrenOf files location.parent
  let part := lastPart target
  let numbers := backupNumbers entries part
  let isNumbered := kind = .numbered || (kind = .existing && !numbers.isEmpty)
  let ending : Octets :=
    if isNumbered then ".~".toList ++ Octets.ofNat (numbers.foldl max 0 + 1) ++ ['~']
    else setting.manner.suffix
  let backup := Octets.toText (part ++ ending)
  Work.place (location.parent ++ [backup]) node
  Work.remove location
  return target ++ ending

/-- Writes the content of a copy where there is no file yet, or over the one that there is. -/
def writeCopy (setting : Setting) (source target : Octets) (content : Bytes) (isNew : Bool) :
    Copier Unit := do
  let isRoot (cause : Cause) : Cause :=
    if cause = .isADirectory && target.getLast? = some '/' then .notADirectory else cause
  match ← Work.look fun files => files.target (pathIn setting.directory target) with
  | .error cause =>
    complain ("cannot create regular file " ++ shown target ++ ": " ++ (isRoot cause).description)
  | .ok location =>
    if setting.manner.links && !isNew then
      if setting.manner.force then Work.place location (.file content)
      else
        complain ("cannot create hard link " ++ shown target ++ " to " ++ shown source ++ ": " ++
          Cause.alreadyExists.description)
    else if location.standing?.isNone then
      if !setting.manner.withoutContent then Work.place location (.file content)
      else if isNew then Work.place location (.file [])
    modify fun memory => { memory with made := location :: memory.made }

/-- Whether a file may be overwritten, for which the tool may have to ask. -/
def mayOverwrite (manner : Manner) (target : Octets) : Copier Bool :=
  if manner.clash = .asks then Work.ask ("overwrite ".toList ++ quoted target) else pure true

/-- Copies a file to a target at which there may be another one. -/
def copyFile (setting : Setting) (onCommandLine : Bool) (source target : Octets)
    (origin : Location) (content : Bytes) : Copier Unit := do
  let manner := setting.manner
  let path := setting.targetPath manner.looksAtTarget target
  match ← Work.look fun files => files.examine path with
  | .error .notFound =>
    announce setting source target none
    writeCopy setting source target content true
  | .error cause => complain ("cannot stat " ++ shown target ++ ": " ++ cause.description)
  | .ok (location, node) =>
    if location = origin && manner.clash ≠ .keeps then
      if !manner.links then
        complain (shown source ++ " and " ++ shown target ++ " are the same file")
    else if manner.clash = .keeps then return
    else if manner.updates && !(← Work.look fun files => files.isNewer origin location) then return
    else if !(← mayOverwrite manner target) then Work.fail 1
    else if node = .directory then
      complain ("cannot overwrite directory " ++ shown target ++ " with non-directory")
    else if onCommandLine && manner.backup? ≠ some .numbered &&
        (← get).several && (← get).made.contains location then
      complain ("will not overwrite just-created " ++ shown target ++ " with " ++ shown source)
    else
      match manner.backup? with
      | some kind =>
        let backup ← backUp setting kind target location node
        announce setting source target (some backup)
        writeCopy setting source target content true
      | none =>
        if manner.removesFirst && location.standing?.isNone then
          Work.remove location
          if manner.verbose then Work.write .out ("removed " ++ shown target ++ "\n").toList
          announce setting source target none
          writeCopy setting source target content true
        else
          announce setting source target none
          writeCopy setting source target content false

/-- The directory that a directory was copied to before, or is now marked as copied to. -/
def earlierCopy (onCommandLine : Bool) (origin : Location) (location : Location) :
    Copier (Option Location) := do
  match (← get).directories.lookup origin with
  | some earlier => return some earlier
  | none =>
    if onCommandLine then
      modify fun memory =>
        { memory with directories := (origin, location) :: memory.directories }
    return none

/-- Makes a directory for the content of another one. -/
def makeCopy (setting : Setting) (source target : Octets) (location : Location) :
    Copier Unit := do
  Work.place location .directory
  if !(← get).hasMade then
    modify fun memory =>
      { memory with
        directories := (location, location) :: memory.directories
        hasMade := true }
  announce setting source target none

/-- Copies a file or a directory. The fuel bounds how deep directories lie in one another. -/
def copy (setting : Setting) : Nat → Bool → Octets → Octets → Copier Unit
  | 0, _, _, _ => return
  | fuel + 1, onCommandLine, source, target => do
    match ← Work.look fun files => files.examine (pathIn setting.directory source) with
    | .error cause => complain ("cannot stat " ++ shown source ++ ": " ++ cause.description)
    | .ok (origin, .directory) =>
      if !setting.manner.recursive then
        complain ("-r not specified; omitting directory " ++ shown source)
      else copyDirectory fuel onCommandLine source target origin
    | .ok (origin, node) =>
      let content :=
        match node with
        | .file content => content
        | _ => []
      if onCommandLine && (← get).several then
        if setting.manner.backup?.isNone && (← get).sources.contains origin then
          Work.warn
            ("warning: source file " ++ shown source ++ " specified more than once").toList
          return
        modify fun memory => { memory with sources := origin :: memory.sources }
      copyFile setting onCommandLine source target origin content
where
  /-- Copies a directory with all that is in it. -/
  copyDirectory (fuel : Nat) (onCommandLine : Bool) (source target : Octets)
      (origin : Location) : Copier Unit := do
    let path := setting.targetPath true target
    match ← Work.look fun files => (files.locate path, files.examine path) with
    | (.error cause, .error .notFound) =>
      complain ("cannot create directory " ++ shown target ++ ": " ++ cause.description)
    | (.error cause, _) | (_, .error cause) =>
      if cause = .notFound then enter fuel onCommandLine source target origin true
      else complain ("cannot stat " ++ shown target ++ ": " ++ cause.description)
    | (_, .ok (location, .directory)) =>
      if location = origin then
        complain (shown source ++ " and " ++ shown target ++ " are the same file")
      else enter fuel onCommandLine source target origin false
    | (_, .ok _) =>
      complain ("cannot overwrite non-directory " ++ shown target ++ " with directory " ++
        shown source)
  /-- Copies a directory to where there is none or another one. -/
  enter (fuel : Nat) (onCommandLine : Bool) (source target : Octets) (origin : Location)
      (isNew : Bool) : Copier Unit := do
    match ← Work.look fun files => files.locate (setting.targetPath true target) with
    | .error cause =>
      complain ("cannot create directory " ++ shown target ++ ": " ++ cause.description)
    | .ok location =>
      match ← earlierCopy onCommandLine origin location with
      | some earlier =>
        if earlier = origin then
          complain ("cannot copy a directory, " ++ shown setting.top.1 ++ ", into itself, " ++
            shown setting.top.2)
        else if earlier = location then
          Work.warn ("warning: source directory " ++ shown setting.top.1 ++
            " specified more than once").toList
        else
          complain ("will not create hard link " ++ shown target ++ " to directory " ++
            shown target)
      | none =>
        if isNew then makeCopy setting source target location
        let children ← Work.look fun files => childrenOf files origin
        for child in children do
          let name := Octets.ofText child
          copy setting fuel false (nameIn source name) (nameIn target name)

/-! ### Command lines -/

/-- Makes the directories in the target that a source lies in, and tells whether all are there. -/
def makeParents (manner : Manner) (directory : Path) (target source : Octets) : Copier Bool := do
  let parts := ((withoutSlashes source).splitOn '/').dropLast
  let mut ok := true
  for count in List.range parts.length do
    let way := ['/'].intercalate (parts.take (count + 1))
    let made := nameIn target way
    if ok && !way.isEmpty then
      let path := pathIn directory made
      match ← Work.look fun files => (files.examine path, files.locate path) with
      | (.ok (_, .directory), _) => pure ()
      | (.error .notFound, .ok location) =>
        Work.place location .directory
        if manner.verbose then Work.write .out (way ++ " -> ".toList ++ made ++ ['\n'])
      | (.error cause, _) =>
        complain ("cannot make directory " ++ shown made ++ ": " ++ cause.description)
        ok := false
      | _ =>
        complain (shown made ++ " exists but is not a directory")
        ok := false
  return ok

/-- How deep directories may lie in one another. -/
def depthOf (files : Files) : Nat :=
  (files.entries.map fun entry => entry.1.length).foldl max 0 + 8

/-- Copies a source to a target. -/
def copyTo (manner : Manner) (directory : Path) (source target : Octets) : Copier Unit := do
  let depth ← Work.look depthOf
  modify fun memory => { memory with hasMade := false }
  copy ⟨manner, directory, (source, target)⟩ (2 * depth) true source target

/-- Copies sources into a directory. -/
def copyInto (manner : Manner) (directory : Path) (target : Octets) (sources : List Octets) :
    Copier Unit :=
  for source in sources do
    let source := if manner.stripsSlashes then withoutSlashes source else source
    if manner.parents then
      if ← makeParents manner directory target source then
        copyTo manner directory source (nameIn target (withoutSlashes source))
    else
      let part := lastPart source
      copyTo manner directory source (nameIn target (if part = ['.', '.'] then ['.'] else part))

/-- Copies operands, of which the last one is the target unless an option names it. -/
def copyOperands (manner : Manner) (directory : Path) (operands : List Octets) : Work Unit := do
  let run (several : Bool) (copier : Copier Unit) : Work Unit := do
    let _ ← copier.run ⟨several, [], [], [], false⟩
  let refuse (words : Octets) : Work Unit := stopWork 1 false (.misuse words)
  let directoryAt (name : Octets) : Work (Except Cause Unit) :=
    Work.look fun files =>
      match files.examine (pathIn directory name) with
      | .ok (_, .directory) => .ok ()
      | .ok _ => .error .notADirectory
      | .error cause => .error cause
  match operands, manner.directory? with
  | [], _ => refuse "missing file operand".toList
  | [operand], none =>
    refuse ("missing destination file operand after ".toList ++ quoted operand)
  | _, some target =>
    if manner.exactTarget then
      Work.complain
        "cannot combine --target-directory (-t) and --no-target-directory (-T)".toList
    else
      match ← directoryAt target with
      | .error cause =>
        Work.complain ("target directory " ++ shown target ++ ": " ++ cause.description).toList
      | .ok _ => run (2 ≤ operands.length) (copyInto manner directory target operands)
  | source :: target :: more, none =>
    let last := (more.getLast?).getD target
    match more, manner.exactTarget with
    | extra :: _, true => refuse ("extra operand ".toList ++ quoted extra)
    | _, exactly =>
      match ← if exactly then pure (.error .notFound) else directoryAt last with
      | .ok _ => run (!more.isEmpty) (copyInto manner directory last operands.dropLast)
      | .error cause =>
        if !more.isEmpty then
          Work.complain ("target " ++ shown last ++ ": " ++ cause.description).toList
        else if manner.parents then
          refuse "with --parents, the destination must be a directory".toList
        else run false (copyTo manner directory source target)

/-- The work of the tool. -/
def work (scene : Scene) : List Octets → Work Unit :=
  conduct choices .plain fun manner operands => do
    for _ in List.range manner.keepings do
      Work.warn ("warning: behavior of -n is non-portable and may change in future; " ++
        "use --update=none instead").toList
    if manner.hardLinks && manner.symbolicLinks then
      stopWork 1 false (.misuse "cannot make both hard and symbolic links".toList)
    else copyOperands manner scene.directory operands

end Golden.Tool.Copying
