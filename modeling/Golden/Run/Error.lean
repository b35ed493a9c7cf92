/-
This file lists what can go wrong while a program is built, run and compared, and
the words in which each is reported. An error in collecting fixtures is reported in
its own words.
-/

import Golden.Fixture.Collection

namespace Golden.Run

open Golden

/-- Why a run, or a part of it, could not be carried out. -/
inductive Error
  | fixtures (error : Fixture.Error)
  /-- A line does not write the call of a program. -/
  | invalidCommand (command reason : String)
  | cannotStart (program : String) (cause : Cause)
  | buildFailed (status output : String)
  /-- A file that is to be compared cannot be read. -/
  | unreadable (path : Path) (cause : Cause)
  | comparisonFailed (tool status stderr : String)
  | refused (cause : Cause)
deriving DecidableEq, Repr

namespace Error

/-- The words in which an error is reported. -/
def message : Error → String
  | .fixtures error => error.message
  | .invalidCommand command reason => "invalid command line '" ++ command ++ "': " ++ reason
  | .cannotStart program cause => "failed to start '" ++ program ++ "': " ++ cause.message
  | .buildFailed status output => "build failed (" ++ status ++ ")\n" ++ output
  | .unreadable path cause => "failed to read '" ++ path.text ++ "': " ++ cause.message
  | .comparisonFailed tool status stderr =>
    "diff tool '" ++ tool ++ "' failed (" ++ status ++ "): " ++ stderr
  | .refused cause => "I/O error: " ++ cause.message

/-- The refusal by the system that an error goes back to. -/
def cause? : Error → Option Cause
  | .fixtures (.unreadable _ cause) | .cannotStart _ cause | .unreadable _ cause
  | .refused cause => some cause
  | _ => none

end Error

end Golden.Run
