/-
This file lists the reasons for which the operating system, or the reading of a
file as text, refuses a request, and the words in which each is reported.
-/

namespace Golden

/-- Why a request to the operating system was refused. -/
inductive Cause
  | notPermitted
  | notFound
  | accessDenied
  | alreadyExists
  | notADirectory
  | isADirectory
  /-- A file that is read as text does not hold UTF-8. -/
  | notText
  /-- A file that is copied is a directory or a device. -/
  | notRegular
  /-- The name of a file holds the character that ends names. -/
  | nulInName
  /-- The name or an argument of a program holds the character that ends arguments. -/
  | nulInArgument
  | other (description : String)
deriving DecidableEq, Repr

namespace Cause

/-- The number by which the system knows a refusal, and its words for it. -/
def numbered? : Cause → Option (Nat × String)
  | .notPermitted => some (1, "Operation not permitted")
  | .notFound => some (2, "No such file or directory")
  | .accessDenied => some (13, "Permission denied")
  | .alreadyExists => some (17, "File exists")
  | .notADirectory => some (20, "Not a directory")
  | .isADirectory => some (21, "Is a directory")
  | _ => none

/-- The words without the number, as a tool prints them. -/
def description (cause : Cause) : String :=
  match cause, cause.numbered? with
  | _, some (_, words) => words
  | .notText, _ => "stream did not contain valid UTF-8"
  | .notRegular, _ => "the source path is neither a regular file nor a symlink to a regular file"
  | .nulInName, _ => "file name contained an unexpected NUL byte"
  | .nulInArgument, _ => "nul byte found in provided data"
  | .other words, _ => words
  | _, none => ""

/-- The words in which a refusal is reported. -/
def message (cause : Cause) : String :=
  match cause.numbered? with
  | some (number, words) => words ++ " (os error " ++ toString number ++ ")"
  | none => cause.description

/-- The refusal that the system knows by a number. -/
def ofNumber? (number : Nat) : Option Cause :=
  [.notPermitted, .notFound, .accessDenied, .alreadyExists, .notADirectory, .isADirectory].find?
    fun cause => (cause.numbered?.map Prod.fst) = some number

end Cause

end Golden
