/-
This file introduces the calls of programs that are written as one line: a program
and the arguments it always gets. A line that is split into no word at all, or that
leaves a quote open, calls no program.
-/

import Golden.CommandLine.Words

namespace Golden

/-- A program and the arguments that it is called with before any others. -/
structure CommandLine where
  program : String
  arguments : List String
deriving DecidableEq, Repr

namespace CommandLine

/-- Why a line calls no program. -/
inductive Fault
  | unclosedQuote
  | noWord
deriving DecidableEq, Repr

/-- The words in which a fault is reported. -/
def Fault.message : Fault → String
  | .unclosedQuote => "missing closing quote"
  | .noWord => "command is empty"

/-- The call that a line writes. -/
def parse (line : String) : Except Fault CommandLine :=
  match Words.split line.toList with
  | none => .error .unclosedQuote
  | some [] => .error .noWord
  | some (program :: arguments) =>
    .ok ⟨String.ofList program, arguments.map String.ofList⟩

/-- The line that writes a call. -/
def display (command : CommandLine) : String :=
  String.ofList (Words.join ((command.program :: command.arguments).map String.toList))

end CommandLine

end Golden
