/-
This file carries out redirections. Their words are expanded first, so that a fault in
one of them comes before any file is touched; then they are done from left to right,
and what was changed before one that fails stays changed, but for the descriptors.
-/

import Golden.Shell.Condition
import Golden.Shell.Expansion

namespace Golden.Shell

open Golden

/-- A redirection whose words are expanded, but for the text of a document, which is expanded only
when the redirection is done. -/
inductive Prepared
  | file (descriptor : Nat) (opening : Opening) (name : Octets)
  /-- Without a source the descriptor is closed. -/
  | duplicate (descriptor : Nat) (source? : Option Nat)
  | document (descriptor : Nat) (text : Word)

namespace Act

/-! ### Preparing -/

/-- Expands the words of a redirection. -/
def prepare (again : Evaluator) : Redirect → Act Prepared
  | .file descriptor opening name => return .file descriptor opening (← textOf again name)
  | .document descriptor text => return .document descriptor text
  | .duplicate descriptor source => do
    let text ←
      match Word.bare? source with
      | some text => pure text
      | none => pure (((← fieldsOf again source).head?).getD [])
    let refuse : Act Prepared := do failAt ⟨(← process).reached, "Bad fd number"⟩
    match text with
    | ['-'] => return .duplicate descriptor none
    | [digit] =>
      if digit.isDigit then return .duplicate descriptor (some (digit.toNat - 48)) else refuse
    | _ => refuse

/-! ### Opening -/

/-- The words for a refusal to open a file. -/
def openingWords (creates : Bool) (cause : Cause) : String :=
  match cause with
  | .notFound | .notADirectory => if creates then "Directory nonexistent" else "No such file"
  | cause => cause.description

/-- Opens a file to read it. -/
def openToRead (name : Octets) : Act Nat := do
  let refuse (cause : Cause) : Act Nat :=
    fail ("cannot open ".toList ++ name ++ (": " ++ openingWords false cause).toList)
  let opened (target : Target) : Act Nat := openDescription ⟨target, 0, false, true, false⟩
  match (← machine).files.examine (Tool.pathIn (← process).directory name) with
  | .ok (location, .file _) => opened (.file location)
  | .ok (location, .directory) => opened (.directory location)
  | .ok (_, .emptyDevice) => opened .emptyDevice
  | .error cause => refuse cause

/-- Opens a file to write it. -/
def openToWrite (opening : Opening) (name : Octets) : Act Nat := do
  let refuse (cause : Cause) : Act Nat :=
    fail ("cannot create ".toList ++ name ++ (": " ++ openingWords true cause).toList)
  let files := (← machine).files
  match files.target (Tool.pathIn (← process).directory name) with
  | .error cause => refuse cause
  | .ok location =>
    let found := files.find? location
    let isProtected := opening = .write && (← isOn 'C') &&
      (match found with
        | some (.file _) => true
        | _ => false)
    if isProtected then refuse .alreadyExists
    else
      let keeps := (opening = .append || opening = .both) && found.isSome
      if !keeps then
        changeMachine fun machine => { machine with files := machine.files.store location [] }
      let target := if found = some .emptyDevice then Target.emptyDevice else .file location
      openDescription ⟨target, 0, opening = .append, opening = .both, true⟩

/-- Opens a file. -/
def openFile (opening : Opening) (name : Octets) : Act Nat := do
  let device? ←
    match Condition.deviceDescriptor? name with
    | some descriptor => pure ((← process).descriptors.lookup descriptor)
    | none => pure none
  match device? with
  | some handle => return handle
  | none => if opening = .read then openToRead name else openToWrite opening name

/-! ### Redirecting -/

/-- Carries out a redirection. -/
def redirect (again : Evaluator) : Prepared → Act Unit
  | .file descriptor opening name => do lead descriptor (some (← openFile opening name))
  | .document descriptor text => do
    let text := octetsOf (← expand again wordDepth ⟨false, false⟩ text)
    lead descriptor (some (← openDescription ⟨.pipe text, 0, false, true, false⟩))
  | .duplicate descriptor none => lead descriptor none
  | .duplicate descriptor (some source) => do
    if source ≠ descriptor then
      match (← process).descriptors.lookup source with
      | some handle => lead descriptor (some handle)
      | none => fail (Octets.ofNat source ++ ": Bad file descriptor".toList)

/-- Makes descriptors lead where they did before. -/
def restoreDescriptors (before : Process) : Act Unit :=
  change fun process => { process with descriptors := before.descriptors }

/-- Carries out redirections, and tells whether all could be. -/
def redirectAll (again : Evaluator) (prepared : List Prepared) : Act Bool := do
  match ← outcomeOf (prepared.forM (redirect again)) with
  | .ok _ => return true
  | .error .failure => return false
  | .error interrupt => throw interrupt

end Act

end Golden.Shell
