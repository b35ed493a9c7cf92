/-
This file compares files by their lines. Terminators do not count, and the files
need not hold text: lines are compared as bytes, and only the difference that is
shown reads them as text. When the bytes differ but the texts that are shown do not,
there is no difference to show, and the files are said to differ.
-/

import Golden.Diff.Unified
import Golden.Run.Outcome

namespace Golden.Run

open Golden Golden.Text

/-- What is shown of two files whose lines differ in bytes alone. -/
def binaryDifference (actual expected : String) : String :=
  "Binary files " ++ actual ++ " and " ++ expected ++ " differ\n"

/-- The comparison of two contents, under the names of their files. -/
def compareContents (actual expected : Bytes) (actualLabel expectedLabel : String) : Comparison :=
  if byteLines actual = byteLines expected then .same
  else
    let before := String.ofList (decodeLossy actual)
    let after := String.ofList (decodeLossy expected)
    match Diff.render? before after actualLabel expectedLabel with
    | some difference => .differ difference
    | none => .differ (binaryDifference actualLabel expectedLabel)

/-- The comparison of two files by their lines. -/
def compareFiles (files : Files) (actual expected : Path) : Except Error Comparison :=
  match files.read actual with
  | .error cause => .error (.unreadable actual cause)
  | .ok before =>
    match files.read expected with
    | .error cause => .error (.unreadable expected cause)
    | .ok after => .ok (compareContents before after actual.text expected.text)

end Golden.Run
