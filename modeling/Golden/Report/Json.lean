/-
This file writes flat JSON objects in their most compact form. Strings escape the
quote, the backslash and the control characters below the space, five of which have
a letter of their own; everything else stands for itself, so an object never
contains a line feed.
-/

namespace Golden.Report.Json

/-- A value that is no object and no array. -/
inductive Value
  | text (content : String)
  | number (value : Int)
  | flag (value : Bool)
deriving DecidableEq, Repr

/-- A digit of a hexadecimal number. -/
def hexDigit (digit : Nat) : Char :=
  if digit < 10 then Char.ofNat ('0'.toNat + digit) else Char.ofNat ('a'.toNat + (digit - 10))

/-- A character as it is written within a string. -/
def escape (character : Char) : List Char :=
  if character = '"' then ['\\', '"']
  else if character = '\\' then ['\\', '\\']
  else if character = '\x08' then ['\\', 'b']
  else if character = '\x0c' then ['\\', 'f']
  else if character = '\n' then ['\\', 'n']
  else if character = '\r' then ['\\', 'r']
  else if character = '\t' then ['\\', 't']
  else if character.toNat < 0x20 then
    ['\\', 'u', '0', '0', hexDigit (character.toNat / 16), hexDigit (character.toNat % 16)]
  else [character]

/-- A string with its quotes. -/
def quote (content : List Char) : List Char :=
  '"' :: content.flatMap escape ++ ['"']

/-- A value as it is written. -/
def Value.render : Value → List Char
  | .text content => quote content.toList
  | .number value => (toString value).toList
  | .flag value => (if value then "true" else "false").toList

/-- A field of an object. -/
structure NamedValue where
  name : String
  value : Value
deriving DecidableEq, Repr

/-- A field as it is written. -/
def NamedValue.render (field : NamedValue) : List Char :=
  quote field.name.toList ++ ':' :: field.value.render

/-- An object with the given fields, in order. -/
def renderObject (fields : List NamedValue) : List Char :=
  '\x7b' :: [','].intercalate (fields.map NamedValue.render) ++ ['\x7d']

end Golden.Report.Json
