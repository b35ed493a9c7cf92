/-
This file describes the tool `rm`, which removes files, and with the options for it
directories. It can ask before each file or once before all, tell what it removes, and
say nothing about files that are not there. What lies in a directory is removed before
the directory; the working directory, those above it and the root are never removed.
-/

import Golden.Tool.Copying

namespace Golden.Tool.Removal

open Golden Golden.Tool

/-! ### Settings -/

/-- When the tool asks whether to remove. -/
inductive Asking
  | never
  /-- Once, if there is much to remove. -/
  | once
  | always
deriving DecidableEq, Repr

/-- How files are removed. -/
structure Manner where
  /-- Whether files that are not there are no reason to complain. -/
  ignoresMissing : Bool
  asking : Asking
  recursive : Bool
  emptyDirectories : Bool
  verbose : Bool
  keepsRoot : Bool
deriving DecidableEq, Repr

/-- The times at which the tool may ask, with the names for them. -/
def askingNames : List (List String × Asking) :=
  [(["never", "no", "none"], .never), (["once"], .once), (["always", "yes"], .always)]

/-- The options of the tool. -/
def choices : List (Choice Manner) :=
  [.plain ['f'] ["force"] fun manner => { manner with ignoresMissing := true, asking := .never },
    .plain ['i'] [] fun manner => { manner with ignoresMissing := false, asking := .always },
    .plain ['I'] [] fun manner => { manner with ignoresMissing := false, asking := .once },
    ⟨[], ["interactive"], .perhaps, fun value? manner => do
      match value? with
      | none => return { manner with asking := .always }
      | some value =>
        return { manner with asking := ← chosenFrom askingNames "--interactive" value }⟩,
    .plain [] ["one-file-system"] id,
    .plain [] ["no-preserve-root"] fun manner => { manner with keepsRoot := false },
    ⟨[], ["preserve-root"], .perhaps, fun value? manner =>
      match value? with
      | none => .ok { manner with keepsRoot := true }
      | some value =>
        if value = "all".toList then .ok { manner with keepsRoot := true }
        else .error (.refusal ("unrecognized --preserve-root argument: ".toList ++ quoted value))⟩,
    .plain [] ["-presume-input-tty"] id,
    .plain ['r', 'R'] ["recursive"] fun manner => { manner with recursive := true },
    .plain ['d'] ["dir"] fun manner => { manner with emptyDirectories := true },
    .plain ['v'] ["verbose"] fun manner => { manner with verbose := true }]

/-! ### Removing -/

/-- What is said of a directory that is not empty. -/
def notEmpty : Cause := .other "Directory not empty"

/-- A name with one slash at its end at most. -/
def withOneSlash (name : Octets) : Octets :=
  let bare := Text.dropTrailing (· = '/') name
  if bare.length = name.length then name else bare ++ ['/']

/-- Complains that something cannot be removed. -/
def refuse (name : Octets) (cause : Cause) : Work Unit :=
  Work.complain ("cannot remove ".toList ++ quoted name ++
    (": " ++ cause.description).toList)

/-- Asks, if the tool asks every time. -/
def mayGoOn (manner : Manner) (deed : String) (name : Octets) : Work Bool :=
  if manner.asking = .always then
    Work.ask (deed.toList ++ ' ' :: quoted name)
  else pure true

/-- Takes something away and tells of it. -/
def takeAway (manner : Manner) (kind : String) (name : Octets) (location : Location) :
    Work Unit := do
  if location.standing?.isSome then refuse name .notPermitted
  else
    Work.remove location
    if manner.verbose then
      Work.write .out (("removed " ++ kind).toList ++ quoted name ++ ['\n'])

/-- Whether the tool must not touch a directory, and says so. Only operands are looked at. -/
def isForbidden (manner : Manner) (isOperand : Bool) (name : Octets) (location : Location) :
    Work Bool := do
  let last := Copying.lastPart name
  if !isOperand then return false
  else if last = ['.'] || last = ['.', '.'] then
    Work.complain ("refusing to remove '.' or '..' directory: skipping ".toList ++
      quoted name)
    return true
  else if manner.keepsRoot && location = Location.root then
    let same := if name = ['/'] then "" else " (same as '/')"
    Work.complain ("it is dangerous to operate recursively on ".toList ++ quoted name ++
      same.toList)
    Work.warn "use --no-preserve-root to override this failsafe".toList
    return true
  else return false

/-- Removes what a name names. The fuel bounds how deep directories lie in one another. -/
def removeAt (manner : Manner) (directory : Path) : Nat → Bool → Octets → Work Unit
  | 0, _, _ => return
  | fuel + 1, isOperand, name => do
    match ← Work.look fun files => files.examine (pathIn directory name) with
    | .error cause =>
      if manner.ignoresMissing && (cause = .notFound || cause = .notADirectory) then return
      else refuse name cause
    | .ok (location, .directory) =>
      let children ← Work.look fun files => Copying.childrenOf files location
      let isEmpty := children.isEmpty && (location = [] || location.standing?.isNone)
      if !manner.recursive && !(manner.emptyDirectories && isEmpty) then
        refuse name (if manner.emptyDirectories then notEmpty else .isADirectory)
      else if ← isForbidden manner isOperand name location then return
      else if children.isEmpty then
        if ← mayGoOn manner "remove directory" name then
          takeAway manner "directory " name location
      else if ← mayGoOn manner "descend into directory" name then
        for child in children do
          removeAt manner directory fuel false (Copying.nameIn name (Octets.ofText child))
        if ← mayGoOn manner "remove directory" name then
          if (← Work.look fun files => Copying.childrenOf files location).isEmpty then
            takeAway manner "directory " name location
          else refuse name notEmpty
    | .ok (location, node) =>
      let kind := if node = .file [] then "remove regular empty file" else "remove regular file"
      if ← mayGoOn manner kind name then takeAway manner "" name location

/-- Removes operands, unless the answer to the one question is no. -/
def removeOperands (manner : Manner) (directory : Path) (operands : List Octets) :
    Work Unit := do
  if operands.isEmpty then
    if !manner.ignoresMissing then
      stopWork 1 false (.misuse "missing operand".toList)
  else
    let count := operands.length
    let asks := manner.asking = .once && (manner.recursive || 3 < count)
    let question := "remove " ++ toString count ++
      (if count = 1 then " argument" else " arguments") ++
      (if manner.recursive then " recursively" else "")
    let agreed ← if asks then Work.ask question.toList else pure true
    if agreed then
      let depth ← Work.look Copying.depthOf
      for operand in operands do
        removeAt manner directory depth true (withOneSlash operand)

/-- The work of the tool. -/
def work (scene : Scene) : List Octets → Work Unit :=
  conduct choices ⟨false, .never, false, false, false, true⟩ fun manner operands =>
    removeOperands manner scene.directory operands

end Golden.Tool.Removal
