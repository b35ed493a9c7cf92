/-
This file resolves escapes. An escape is a backslash with a letter or with up to three
octal digits; a backslash before anything else stands for itself.
-/

import Golden.Text.Digits

namespace Golden.Shell

open Golden

/-- The octet that a letter after a backslash stands for. -/
def letterEscape? (letter : Char) : Option Char :=
  [('a', '\x07'), ('b', '\x08'), ('e', '\x1b'), ('f', '\x0c'), ('n', '\n'), ('r', '\x0d'),
    ('t', '\t'), ('v', '\x0b'), ('\\', '\\')].lookup letter

/-- The octet that octal digits stand for. -/
def octalValue (digits : Octets) : Char :=
  Char.ofNat (Text.numberOf 8 digits % 256)

/-- What a text after a backslash stands for: an octet, and the number of octets that say so. -/
def escape? (rest : Octets) : Option (Char × Nat) :=
  let digits := (rest.take 3).takeWhile (Text.isDigitIn 8)
  if digits.isEmpty then (rest.head?.bind letterEscape?).map fun octet => (octet, 1)
  else some (octalValue digits, digits.length)

/-- The same for words that are printed, where a zero may stand before three octal digits. -/
def wordEscape? (rest : Octets) : Option (Char × Nat) :=
  match rest with
  | '0' :: others =>
    let digits := (others.take 3).takeWhile (Text.isDigitIn 8)
    some (octalValue digits, digits.length + 1)
  | _ => escape? rest

/-- A word with its escapes resolved, and whether printing goes on after it; a backslash with the
letter `c` ends it. -/
def resolve : Octets → Octets × Bool
  | [] => ([], true)
  | octet :: rest =>
    if octet = '\\' then
      if rest.head? = some 'c' then ([], false)
      else
        match wordEscape? rest with
        | some (value, length) =>
          let (others, goesOn) := resolve (rest.drop length)
          (value :: others, goesOn)
        | none =>
          let (others, goesOn) := resolve rest
          (octet :: others, goesOn)
    else
      let (others, goesOn) := resolve rest
      (octet :: others, goesOn)
termination_by octets => octets.length
decreasing_by all_goals (simp only [List.length_cons, List.length_drop]; omega)

/-- What is printed for words, with a space between two of them. -/
def printWords (words : List Octets) : Octets :=
  let feeds := words.head? ≠ some ['-', 'n']
  let shown := if feeds then words else words.drop 1
  let (resolved, goesOn) := resolve ([' '].intercalate shown)
  if feeds && goesOn then resolved ++ ['\n'] else resolved

end Golden.Shell
