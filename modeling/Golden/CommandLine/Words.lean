/-
This file splits a line into words by the rules of the shell, and quotes words so
that they are split back. Words are separated by spaces, tabs and line feeds.
Single quotes keep everything; double quotes keep everything but a backslash
before a dollar sign, a back quote, a double quote or a backslash, which goes, and
before a line feed, which goes with it; elsewhere a backslash keeps the character
after it. A number sign starts a comment where a word could start. The reader is a
machine with eight modes that takes one character at a time.
-/

namespace Golden.Words

/-! ### Splitting -/

/-- What the reader is in the middle of. -/
inductive Mode
  /-- Between two words. -/
  | between
  /-- After a backslash between two words. -/
  | betweenEscape
  /-- Within a word, outside quotes. -/
  | word
  /-- After a backslash within a word. -/
  | wordEscape
  | singleQuoted
  | doubleQuoted
  /-- After a backslash within double quotes. -/
  | doubleEscape
  | comment
deriving DecidableEq, Repr

/-- Whether a character separates words. -/
def isSeparator (character : Char) : Bool :=
  character = ' ' || character = '\t' || character = '\n'

/-- Whether a backslash within double quotes takes the meaning from a character. -/
def isEscapable (character : Char) : Bool :=
  character = '$' || character = '\x60' || character = '"' || character = '\\'

/-- The words of the rest of a line, the first of which starts with what was read of it. There are
none when a quote is not closed. -/
def splitFrom (mode : Mode) (begun : List Char) : List Char → Option (List (List Char))
  | [] =>
    match mode with
    | .between | .comment => some []
    | .betweenEscape | .wordEscape => some [begun ++ ['\\']]
    | .word => some [begun]
    | .singleQuoted | .doubleQuoted | .doubleEscape => none
  | character :: rest =>
    match mode with
    | .between =>
      if character = '\'' then splitFrom .singleQuoted begun rest
      else if character = '"' then splitFrom .doubleQuoted begun rest
      else if character = '\\' then splitFrom .betweenEscape begun rest
      else if isSeparator character then splitFrom .between begun rest
      else if character = '#' then splitFrom .comment begun rest
      else splitFrom .word (begun ++ [character]) rest
    | .betweenEscape =>
      if character = '\n' then splitFrom .between begun rest
      else splitFrom .word (begun ++ [character]) rest
    | .word =>
      if character = '\'' then splitFrom .singleQuoted begun rest
      else if character = '"' then splitFrom .doubleQuoted begun rest
      else if character = '\\' then splitFrom .wordEscape begun rest
      else if isSeparator character then (splitFrom .between [] rest).map (begun :: ·)
      else splitFrom .word (begun ++ [character]) rest
    | .wordEscape =>
      if character = '\n' then splitFrom .word begun rest
      else splitFrom .word (begun ++ [character]) rest
    | .singleQuoted =>
      if character = '\'' then splitFrom .word begun rest
      else splitFrom .singleQuoted (begun ++ [character]) rest
    | .doubleQuoted =>
      if character = '"' then splitFrom .word begun rest
      else if character = '\\' then splitFrom .doubleEscape begun rest
      else splitFrom .doubleQuoted (begun ++ [character]) rest
    | .doubleEscape =>
      if character = '\n' then splitFrom .doubleQuoted begun rest
      else if isEscapable character then splitFrom .doubleQuoted (begun ++ [character]) rest
      else splitFrom .doubleQuoted (begun ++ ['\\', character]) rest
    | .comment =>
      if character = '\n' then splitFrom .between begun rest
      else splitFrom .comment begun rest

/-- The words of a line, unless a quote in it is not closed. -/
def split (line : List Char) : Option (List (List Char)) :=
  splitFrom .between [] line

/-! ### Quoting -/

/-- The characters for which a word is put in quotes. -/
def special : List Char :=
  ['|', '&', ';', '<', '>', '(', ')', '$', '\x60', '\\', '"', '\'', ' ', '\t', '\n', '*', '?', '[',
    '#', '~', '=', '%']

/-- One character within single quotes. A single quote ends them, stands behind a backslash, and
opens them again. -/
def quoteCharacter (character : Char) : List Char :=
  if character = '\'' then ['\'', '\\', '\'', '\''] else [character]

/-- A word as it is written on a line: as it is when it has only plain characters, and in single
quotes otherwise. -/
def quote (word : List Char) : List Char :=
  if word = [] || word.any (special.contains ·) then
    '\'' :: word.flatMap quoteCharacter ++ ['\'']
  else word

/-- Words as they are written on one line. -/
def join (words : List (List Char)) : List Char :=
  [' '].intercalate (words.map quote)

end Golden.Words
