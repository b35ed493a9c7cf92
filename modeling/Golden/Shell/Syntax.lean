/-
This file introduces the commands of the shell as they are read from a script, before
anything in them has a value. A word is a list of pieces: octets that stand outside or
within quotes, and uses of parameters, of the output of commands and of arithmetic. A
command is a call, or is put together from other commands.
-/

import Golden.Text.Octets

namespace Golden.Shell

open Golden

/-- What becomes of the file that a redirection opens. -/
inductive Opening
  | read
  | write
  /-- Writing even where files are protected. -/
  | overwrite
  | append
  | both
deriving DecidableEq, Repr

/-- How two commands are joined. -/
inductive Joint
  /-- The second one is carried out if the first one succeeds. -/
  | both
  /-- The second one is carried out if the first one fails. -/
  | either
  | sequence
deriving DecidableEq, Repr

mutual

/-- A part of a word. -/
inductive Piece
  | plain (octet : Char)
  | quoted (octet : Char)
  /-- A quotation starts or ends here. -/
  | mark
  | parameter (use : Use) (isQuoted : Bool)
  /-- What a command prints. -/
  | output (command : Option Command) (isQuoted : Bool)
  | arithmetic (expression : List Piece) (isQuoted : Bool)

/-- A way to use a parameter. -/
inductive Use
  | value (name : Octets)
  | length (name : Octets)
  /-- A word takes the place of a value, or the value takes that of nothing, as the operator says;
  the flag tells whether an empty value counts as none. -/
  | instead (name : Octets) (operator : Char) (orEmpty : Bool) (word : List Piece)
  /-- What a pattern matches is cut from the end or the start of a value. -/
  | trimmed (name : Octets) (fromEnd isLongest : Bool) (pattern : List Piece)
  /-- No way that the shell knows. -/
  | unknown

/-- A change to what a descriptor leads to. -/
inductive Redirect
  | file (descriptor : Nat) (opening : Opening) (name : List Piece)
  /-- The descriptor is made to lead where another one does, or is closed by a hyphen. -/
  | duplicate (descriptor : Nat) (source : List Piece)
  | document (descriptor : Nat) (text : List Piece)

/-- A command. -/
inductive Command
  | call (line : Nat) (assignments : List (Octets × List Piece)) (words : List (List Piece))
      (redirects : List Redirect)
  | pipeline (commands : List Command)
  | background (line : Nat) (command : Command)
  | joined (joint : Joint) (left right : Command)
  | negated (command : Command)
  | redirected (line : Nat) (command : Command) (redirects : List Redirect)
  | subshell (line : Nat) (command : Command) (redirects : List Redirect)
  | conditional (test yes : Command) (no : Option Command)
  /-- The body is carried out while the test succeeds, or until it does. -/
  | loop (isUntil : Bool) (test body : Command)
  | iteration (line : Nat) (name : Octets) (words : List (List Piece)) (body : Command)
  | choice (line : Nat) (subject : List Piece) (arms : List (List (List Piece) × Option Command))
  | definition (line : Nat) (name : Octets) (body : Command)

end

/-- A word of a script. -/
abbrev Word := List Piece

namespace Piece

/-- The octet that a piece stands for by itself. -/
def octet? : Piece → Option Char
  | .plain octet | .quoted octet => some octet
  | _ => none

/-- Whether a piece comes of quotation. -/
def isQuotation : Piece → Bool
  | .quoted _ | .mark => true
  | _ => false

end Piece

namespace Word

/-- The word that stands for an octet sequence literally. -/
def ofOctets (octets : Octets) : Word :=
  octets.map Piece.plain

/-- The octets of a word in which nothing has to be looked up. -/
def octets (word : Word) : Octets :=
  word.filterMap Piece.octet?

/-- The octets of a word that has neither quotes nor anything to look up. -/
def bare? (word : Word) : Option Octets :=
  word.mapM fun
    | .plain octet => some octet
    | _ => none

end Word

/-! ### Names -/

/-- Whether an octet may start a name. -/
def startsName (octet : Char) : Bool :=
  octet.isAlpha || octet = '_'

/-- Whether an octet may go on in a name. -/
def continuesName (octet : Char) : Bool :=
  octet.isAlphanum || octet = '_'

/-- Whether octets are the name of a variable. -/
def isName : Octets → Bool
  | [] => false
  | first :: rest => startsName first && rest.all continuesName

/-- Whether an octet is the name of a parameter by itself. -/
def isSpecial (octet : Char) : Bool :=
  octet.isDigit || "@*#?-$!".toList.contains octet

/-- A word that assigns, as the name and the word for the value. -/
def assignment? (word : Word) : Option (Octets × Word) :=
  let named := word.takeWhile fun
    | .plain octet => octet ≠ '='
    | _ => false
  match word.drop named.length with
  | .plain '=' :: value =>
    (Word.bare? named).bind fun name => if isName name then some (name, value) else none
  | _ => none

end Golden.Shell
