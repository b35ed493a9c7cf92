/-
This file writes names in messages so that a shell would read them back as the same
names. A name is put between single quotes; within them a single quote is written
with a backslash between two quoted parts, and an octet that cannot be printed is
written with a backslash in a part of its own. A name with single quotes whose other
characters mean nothing to a shell is put between double quotes instead.
-/

import Golden.Text.Octets

namespace Golden.Tool

open Golden

/-! ### Classes of characters -/

/-- Whether an octet can be printed. -/
def isPrintable (octet : Char) : Bool :=
  ' ' ≤ octet && octet ≤ '~'

/-- The letter that stands for a control character after a backslash. -/
def controlLetter? (octet : Char) : Option Char :=
  [('\x07', 'a'), ('\x08', 'b'), ('\x0c', 'f'), ('\n', 'n'), ('\x0d', 'r'), ('\t', 't'),
    ('\x0b', 'v')].lookup octet

/-- The characters that mean something to a shell wherever they stand. -/
def isMeaningful (octet : Char) : Bool :=
  "!\"$&()*;<=>?[\\^`|".toList.contains octet

/-- The characters that mean something to a shell at the start of a word. -/
def isOpening (octet : Char) : Bool :=
  octet = '#' || octet = '~'

/-- The characters that mean something to a shell when they are a word of their own. -/
def isBrace (octet : Char) : Bool :=
  octet = '\x7b' || octet = '\x7d'

/-! ### Quoting -/

/-- An octet as a backslash and what says which octet it is. -/
def escaped (octet : Char) : Octets :=
  match controlLetter? octet with
  | some letter => ['\\', letter]
  | none =>
    let digit (place : Nat) : Char := Char.ofNat (48 + octet.toNat / Nat.pow 8 place % 8)
    ['\\', digit 2, digit 1, digit 0]

/-- What stands between single quotes for a name. The flag tells whether a part with backslashes is
open before it. -/
def betweenQuotes : Bool → Octets → Octets
  | _, [] => []
  | open', octet :: rest =>
    if octet = '\'' then "'\\''".toList ++ betweenQuotes false rest
    else if isPrintable octet then
      (if open' then "''".toList else []) ++ octet :: betweenQuotes false rest
    else (if open' then [] else "'$'".toList) ++ escaped octet ++ betweenQuotes true rest

/-- Whether a name can stand between double quotes as it is. -/
def suitsDoubleQuotes (name : Octets) : Bool :=
  let harmless (octet : Char) : Bool :=
    isPrintable octet && !isMeaningful octet && !isOpening octet && !isBrace octet
  match name with
  | [single] => harmless single || isOpening single || isBrace single
  | first :: others => (harmless first || isOpening first) && others.all harmless
  | [] => false

/-- A name between quotes. A name with a quote in it is gone through twice, and a part with
backslashes that is open at its end counts as open when it is gone through again. -/
def quoted (name : Octets) : Octets :=
  if name.contains '\'' && suitsDoubleQuotes name then '"' :: name ++ ['"']
  else
    let isOpen := name.contains '\'' && name.getLast?.any fun octet => !isPrintable octet
    '\'' :: betweenQuotes isOpen name ++ ['\'']

/-- Whether a shell could read a name without quotes as something else. -/
def needsQuotes (name : Octets) : Bool :=
  let astray (octet : Char) : Bool :=
    octet = ' ' || octet = '\'' || octet = ':' || isMeaningful octet || !isPrintable octet
  match name with
  | [] => true
  | [single] => astray single || isOpening single || isBrace single
  | first :: _ => isOpening first || name.any astray

/-- A name between quotes if it needs them. -/
def quotedIfNeeded (name : Octets) : Octets :=
  if needsQuotes name then quoted name else name

/-- A word of a command line between single quotes, in which a backslash stands before what could
be misread. -/
def cited (word : Octets) : Octets :=
  let inside := word.flatMap fun octet =>
    if octet = '\'' || octet = '\\' then ['\\', octet]
    else if isPrintable octet then [octet]
    else escaped octet
  '\'' :: inside ++ ['\'']

end Golden.Tool
