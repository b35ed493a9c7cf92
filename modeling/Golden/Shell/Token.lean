/-
This file introduces what a script is read as before it is understood: words,
keywords, operators, redirections and ends of lines. A keyword is a word that is read
where a command may start. The reader remembers where it is in the script and on which
line; the line that a reader is on includes lines that were read ahead for a document.
-/

import Golden.Shell.Syntax

namespace Golden.Shell

open Golden

/-! ### Tokens -/

/-- The smallest thing that a script is made of. -/
inductive Token
  | finish
  | newline
  | operator (symbol : String)
  | redirect (descriptor? : Option Nat) (symbol : String)
  | keyword (word : String)
  | word (word : Word)

/-- The words that shape commands. -/
def keywords : List String :=
  ["!", "case", "do", "done", "elif", "else", "esac", "fi", "for", "if", "in", "then", "until",
    "while", "\x7b", "\x7d"]

namespace Token

/-- What a token is called in complaints. -/
def describe : Token → String
  | .finish => "end of file"
  | .newline => "newline"
  | .operator text | .keyword text => "\"" ++ text ++ "\""
  | .redirect .. => "redirection"
  | .word _ => "word"

/-- Whether a token is an operator. -/
def isOperator (token : Token) (symbol : String) : Bool :=
  match token with
  | .operator text => text = symbol
  | _ => false

/-- Whether a token is a keyword. -/
def isKeyword (token : Token) (name : String) : Bool :=
  match token with
  | .keyword text => text = name
  | _ => false

/-- Whether a token can only stand after the last command of a list. -/
def endsList : Token → Bool
  | .finish => true
  | .operator symbol => [")", ";;"].contains symbol
  | .keyword text =>
    ["do", "done", "elif", "else", "esac", "fi", "then", "\x7d"].contains text
  | _ => false

/-- The word that a token is where no command can start. -/
def word? : Token → Option Word
  | .word pieces => some pieces
  | .keyword text => some (Word.ofOctets text.toList)
  | _ => none

/-- A word as the keyword that it is, if it is one. -/
def classified : Token → Token
  | .word pieces =>
    match (Word.bare? pieces).map String.ofList with
    | some text => if keywords.contains text then .keyword text else .word pieces
    | none => .word pieces
  | token => token

end Token

/-! ### The reader -/

/-- What is wrong with a script. -/
structure Fault where
  line : Nat
  words : String
deriving DecidableEq, Repr

/-- Where a reader is in a script. -/
structure Reader where
  input : Octets
  line : Nat
  /-- A token that was read and given back. -/
  held? : Option Token
  /-- How many lines were taken from behind the end of the current line. -/
  ahead : Nat
  /-- The names that are replaced by texts where a command may start. -/
  aliases : List (Octets × Octets)
  /-- The names in whose texts the reader is, each with the length of the input behind the text and
  whether the text ends in a blank. -/
  uses : List (Octets × Nat × Bool)
  /-- How many parentheses have to close before the command whose output is used ends, if the
  reader is in such a command. -/
  openings : Nat

/-- A reader at the start of a script whose first line has a number. -/
def Reader.start (input : Octets) (line : Nat) : Reader := ⟨input, line, none, 0, [], [], 0⟩

/-- Reading from a script. -/
abbrev Reading := StateT Reader (Except Fault)

namespace Reading

/-- Gives up. -/
def fail {α : Type} (words : String) : Reading α := do
  throw ⟨(← get).line, words⟩

/-- Gives up because a token cannot stand where it does. -/
def unexpected {α : Type} (token : Token) (wanted? : Option Token) : Reading α :=
  let hope :=
    match wanted? with
    | some wanted => " (expecting " ++ wanted.describe ++ ")"
    | none => ""
  fail (token.describe ++ " unexpected" ++ hope)

/-- The input without the backslashes at its start that join two lines, and how many there are. -/
def withoutJoins : Octets → Octets × Nat
  | '\\' :: '\n' :: rest =>
    let (bare, count) := withoutJoins rest
    (bare, count + 1)
  | input => (input, 0)

/-- Steps over the joins of lines. -/
def skipJoins : Reading Unit :=
  modify fun reader =>
    let (input, count) := withoutJoins reader.input
    { reader with input := input, line := reader.line + count }

/-- The next octet, which is not taken. -/
def peek : Reading (Option Char) := do
  skipJoins
  return (← get).input.head?

/-- Takes the next octet as it stands in the script. -/
def takeRaw : Reading (Option Char) := do
  let reader ← get
  match reader.input with
  | [] => return none
  | '\n' :: rest =>
    set { reader with input := rest, line := reader.line + 1 + reader.ahead, ahead := 0 }
    return some '\n'
  | octet :: rest =>
    set { reader with input := rest }
    return some octet

/-- Takes the next octet. -/
def take : Reading (Option Char) := do
  skipJoins
  takeRaw

/-- Takes the next octet if it is the given one, and tells whether it was. -/
def takeIf (octet : Char) : Reading Bool := do
  if (← peek) = some octet then
    let _ ← take
    return true
  else return false

/-- Takes octets as long as they have a property. -/
def takeWhile (wanted : Char → Bool) : Reading Octets := do
  let budget := (← get).input.length
  let rec go : Nat → Reading Octets
    | 0 => return []
    | fuel + 1 => do
      match ← peek with
      | some octet =>
        if wanted octet then
          let _ ← take
          return octet :: (← go fuel)
        else return []
      | none => return []
  go budget

/-- Takes a comment up to the end of its line. -/
def skipComment : Reading Unit :=
  modify fun reader => { reader with input := reader.input.dropWhile (· ≠ '\n') }

/-- Takes everything up to a single quote, and the quote. -/
def takeQuotation : Reading Octets := do
  let reader ← get
  let inside := reader.input.takeWhile (· ≠ '\'')
  let rest := reader.input.drop inside.length
  let feeds := inside.count '\n'
  set { reader with
    input := rest.drop 1
    line := reader.line + feeds + (if feeds = 0 then 0 else reader.ahead)
    ahead := if feeds = 0 then reader.ahead else 0 }
  if rest.isEmpty then fail "Unterminated quoted string"
  return inside

/-- Gives a token back. -/
def hold (token : Token) : Reading Unit :=
  modify fun reader => { reader with held? := some token }

/-- Reads something in a text of its own whose first line has a number, after which the reader goes
on where it was. -/
def within {α : Type} (input : Octets) (line : Nat) (reading : Reading α) : Reading α := do
  let before ← get
  set { Reader.start input line with aliases := before.aliases }
  let result ← reading
  set before
  return result

/-- Reads what stands behind an opening parenthesis, with a number of parentheses that are open
there. -/
def behindOpening {α : Type} (openings : Nat) (reading : Reading α) : Reading α := do
  let before := (← get).openings
  modify fun reader => { reader with openings := openings }
  let result ← reading
  modify fun reader => { reader with openings := before }
  return result

/-! ### Names for texts -/

/-- Whether an octet is a blank. -/
def isBlank (octet : Char) : Bool :=
  octet = ' ' || octet = '\t'

/-- Steps over blanks, leaves the texts that end there, and tells whether one of them ends in a
blank, so that the next word may be a name for a text again. -/
def leaveAliases : Reading Bool := do
  skipJoins
  let _ ← takeWhile isBlank
  let reader ← get
  let length := reader.input.length
  set { reader with uses := reader.uses.filter fun entry => entry.2.1 < length }
  return reader.uses.any fun entry => length ≤ entry.2.1 && entry.2.2

/-- Puts a text in the place of a token that is a name for it, and tells whether it is one. Within
its own text a name stands for itself. -/
def enterAlias (uses : List (Octets × Nat × Bool)) (token : Token) : Reading Bool := do
  let reader ← get
  let name? :=
    match token with
    | .word pieces => Word.bare? pieces
    | _ => none
  match name?.bind fun name => (reader.aliases.lookup name).map fun text => (name, text) with
  | some (name, text) =>
    if (uses.lookup name).isSome then return false
    else
      let use := (name, reader.input.length, text.getLast?.any isBlank)
      set { reader with input := text ++ reader.input, uses := use :: reader.uses }
      return true
  | none => return false

/-! ### Documents -/

/-- Whether a line of a document goes on on the next one, as it does behind a backslash. -/
def goesOn : Octets → Bool
  | [] => false
  | ['\\'] => true
  | '\\' :: _ :: rest => goesOn rest
  | _ :: rest => goesOn rest

/-- The lines of a document up to the line that ends it, and what follows that line. In a document
in which backslashes count, a line that goes on on the next one cannot be followed by the end. -/
def documentLines (ending : Octets) (dropsTabs isLiteral : Bool) (mayEnd : Bool) (budget : Nat)
    (input : Octets) : Octets × Octets :=
  match budget, input with
  | 0, input => ([], input)
  | _, [] => ([], [])
  | budget + 1, input =>
    let line := input.takeWhile (· ≠ '\n')
    let rest := input.drop line.length
    let shown := if dropsTabs && mayEnd then line.dropWhile (· = '\t') else line
    if mayEnd && shown = ending then ([], rest.drop 1)
    else
      let mayEnd := isLiteral || !goesOn shown
      let (others, after) :=
        documentLines ending dropsTabs isLiteral mayEnd budget (rest.drop 1)
      (shown ++ rest.take 1 ++ others, after)

/-- How long the rest of the current line is, with the lines that are joined to it and those that a
quotation or a command in parentheses behind a dollar sign goes on in. The reader may be inside of
parentheses and behind a mark that opens a quotation or, for a comment, ends with the line. -/
def lineLength : Nat → Option Char → Octets → Nat
  | _, _, [] => 0
  | 0, none, '\n' :: _ | 0, some '\n', '\n' :: _ => 0
  | openings, some '\'', octet :: rest =>
    lineLength openings (if octet = '\'' then none else some '\'') rest + 1
  | openings, some '\n', octet :: rest =>
    lineLength openings (if octet = '\n' then none else some '\n') rest + 1
  | openings, mark?, '\\' :: _ :: rest => lineLength openings mark? rest + 2
  | openings, some quote, octet :: rest =>
    lineLength openings (if octet = quote then none else some quote) rest + 1
  | openings, none, ' ' :: '#' :: rest => lineLength openings (some '\n') rest + 2
  | openings, none, '$' :: '(' :: rest => lineLength (openings + 1) none rest + 2
  | openings + 1, none, '(' :: rest => lineLength (openings + 2) none rest + 1
  | openings + 1, none, ')' :: rest => lineLength openings none rest + 1
  | openings, none, octet :: rest =>
    lineLength openings (if octet = '\'' || octet = '"' then some octet else none) rest + 1

/-- Whether a text closes a number of parentheses. -/
def closes : Nat → Option Char → Octets → Bool
  | 0, _, _ => true
  | _, _, [] => false
  | openings, some '\'', octet :: rest =>
    closes openings (if octet = '\'' then none else some '\'') rest
  | openings, quotation?, '\\' :: _ :: rest => closes openings quotation? rest
  | openings, some quote, octet :: rest =>
    closes openings (if octet = quote then none else some quote) rest
  | openings, none, '(' :: rest => closes (openings + 1) none rest
  | openings + 1, none, ')' :: rest => closes openings none rest
  | openings, none, octet :: rest =>
    closes openings (if octet = '\'' || octet = '"' then some octet else none) rest

/-- Takes the lines of a document from behind the end of the current line, and tells the number of
the first one. A document of a command that ends on that line is empty. -/
def takeDocument (ending : Octets) (dropsTabs isLiteral : Bool) : Reading (Octets × Nat) := do
  let reader ← get
  let length := lineLength 0 none reader.input
  let current := reader.input.take length
  let line := reader.line + current.count '\n' + 1 + reader.ahead
  if reader.openings > 0 && closes reader.openings none current then return ([], line)
  else
    let behind := reader.input.drop (length + 1)
    let (text, after) :=
      documentLines ending dropsTabs isLiteral true reader.input.length behind
    let taken := (behind.take (behind.length - after.length)).count '\n'
    set { reader with
      input := reader.input.take (length + 1) ++ after
      ahead := reader.ahead + taken }
    return (text, line)

end Reading

end Golden.Shell
