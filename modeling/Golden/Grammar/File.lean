/-
This file expands grammars that are kept in files. The source is read as text,
the start symbol is expanded, and only then is the expansion written, without a
line feed at its end; so a source that cannot be expanded leaves every file as it
was. Four things can go wrong, and each has its own words.
-/

import Golden.Files.Tree
import Golden.Grammar.Expansion
import Golden.Grammar.Source

namespace Golden.Grammar

open Golden.Text

/-- Why a grammar could not be expanded. -/
inductive Error
  | missingArrow (place : MissingArrow)
  | recursive (cycle : Cycle)
  | unreadable (path : Path) (cause : Cause)
  | unwritable (path : Path) (cause : Cause)
deriving DecidableEq, Repr

namespace Error

/-- The text of an error. -/
def message : Error → String
  | .missingArrow place =>
    "line " ++ toString place.line ++ ": expected a rule of the form `A -> x|y`"
  | .recursive cycle => "rule for `" ++ cycle.symbol ++ "` expands into itself"
  | .unreadable path _ => "failed to read grammar '" ++ path.text ++ "'"
  | .unwritable path _ => "failed to write expansion to '" ++ path.text ++ "'"

/-- The code under which a kind of error is documented. -/
def code : Error → String
  | .missingArrow _ => "bnf::missing_arrow"
  | .recursive _ => "bnf::recursive_rule"
  | .unreadable _ _ | .unwritable _ _ => "bnf::io"

/-- The advice that goes with an error. -/
def help? : Error → Option String
  | .missingArrow _ => some "separate the non-terminal from its productions with `->`"
  | .recursive cycle => some ("expansion path: " ++ " -> ".intercalate cycle.path)
  | .unreadable _ _ | .unwritable _ _ => none

/-- The words under the part of the source that an error is about. -/
def label? : Error → Option (String × MissingArrow)
  | .missingArrow place => some ("no `->` on this line", place)
  | _ => none

/-- The refusal behind an error. -/
def cause? : Error → Option Cause
  | .unreadable _ cause | .unwritable _ cause => some cause
  | _ => none

end Error

/-- The symbol whose expansion is written to a file. -/
def startSymbol : String := "S"

/-- Expands the start symbol of the grammar in one file and writes the expansion to another. -/
def expandFile (input output : Path) (files : Files) : Except Error String × Files :=
  match files.readText input with
  | .error cause => (.error (.unreadable input cause), files)
  | .ok source =>
    match parse source with
    | .error place => (.error (.missingArrow place), files)
    | .ok grammar =>
      match grammar.expand startSymbol with
      | .error cycle => (.error (.recursive cycle), files)
      | .ok expansion =>
        match files.write output (encode expansion.toList) with
        | .error cause => (.error (.unwritable output cause), files)
        | .ok written => (.ok expansion, written)

end Golden.Grammar
