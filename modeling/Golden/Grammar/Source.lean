/-
This file reads grammars. A source has one rule to a line, a name and its
productions with an arrow between them and a bar between two productions. Blank
lines are skipped; carriage returns and line feeds at the end of a line are not
part of it; nothing after a second arrow counts; and the empty productions at the
end of a line are dropped as long as one production remains. The first line that
is neither blank nor a rule is reported with its number, the offset of its first
byte and its length in bytes.
-/

import Golden.Grammar.Basic
import Golden.Text.Lines
import Golden.Text.Utf8

namespace Golden.Grammar

open Golden.Text

/-! ### One line -/

/-- A text is cut at its first arrow, which belongs to neither part. -/
def cutAtArrow? : List Char → Option (List Char × List Char)
  | [] => none
  | '-' :: '>' :: rest => some ([], rest)
  | character :: rest =>
    (cutAtArrow? rest).map fun (before, after) => (character :: before, after)

/-- The part of a text after an arrow in which productions are written: a second arrow ends it. -/
def bodyOf (written : List Char) : List Char :=
  match cutAtArrow? written with
  | some (before, _) => before
  | none => written

/-- The productions that are written after an arrow. -/
def productionsOf (written : List Char) : List String :=
  match (bodyOf written).splitOn '|' with
  | [] => []
  | first :: others => (first :: dropTrailing List.isEmpty others).map String.ofList

/-- What a line of a source says. -/
inductive Reading
  | blank
  | rule (rule : Rule)
  | malformed
deriving DecidableEq, Repr

/-- The reading of one line, given without its terminator. -/
def readLine (line : List Char) : Reading :=
  if (trim line).isEmpty then .blank
  else
    match cutAtArrow? line with
    | some (name, written) => .rule ⟨String.ofList (trim name), productionsOf written⟩
    | none => .malformed

/-! ### All lines -/

/-- Where a line without an arrow stands. -/
structure MissingArrow where
  /-- The number of the line, from one. -/
  line : Nat
  /-- The number of bytes before the line. -/
  offset : Nat
  /-- The number of bytes of the line, without its terminator. -/
  length : Nat
deriving DecidableEq, Repr

/-- Whether a character belongs to the end of a line and not to its text. -/
def isTerminator (character : Char) : Bool :=
  character = '\n' || character = '\r'

/-- Adds the rules on the given lines to a grammar. The number and the offset are those of the
first of the lines. -/
def readLines (grammar : Grammar) (number offset : Nat) :
    List (List Char) → Except MissingArrow Grammar
  | [] => .ok grammar
  | chunk :: rest =>
    let line := dropTrailing isTerminator chunk
    match readLine line with
    | .blank => readLines grammar (number + 1) (offset + byteLength chunk) rest
    | .rule rule => readLines (grammar.add rule) (number + 1) (offset + byteLength chunk) rest
    | .malformed => .error ⟨number, offset, byteLength line⟩

/-- The grammar that a source states. -/
def parse (source : String) : Except MissingArrow Grammar :=
  readLines empty 1 0 (chunks source.toList)

end Golden.Grammar
