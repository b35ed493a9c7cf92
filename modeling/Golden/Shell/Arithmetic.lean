/-
This file evaluates arithmetic. Numbers are integers of sixty-four bits that wrap
around. The operators bind as in the language C; an assignment gives a value to a
variable, and the part of an expression that is not chosen by a condition is read but
changes nothing and cannot fail by what its values are.
-/

import Golden.Text.Digits

namespace Golden.Shell.Arithmetic

open Golden

/-! ### Numbers -/

/-- A number of sixty-four bits. -/
abbrev Number := Int

/-- A number within the bounds. -/
def wrap (number : Int) : Number :=
  Int.bmod number (1 <<< 64)

/-- The greatest number. -/
def greatest : Number := Int.ofNat (1 <<< 63) - 1

/-- The number at the start of a text in the base that the text says, and what follows it. -/
def leadingNumber (text : Octets) : Nat × Octets :=
  let (base, text) := Text.baseOf text
  let (digits, rest) := Text.leadingDigits base text
  (Text.numberOf base digits, rest)

/-- The number that a whole text is, in the base that the text says. Blanks alone are zero. -/
def number? (text : Octets) : Option Number :=
  let (isNegative, digits) := Text.withoutSign text
  if text.all Text.isSpace then some 0
  else if !(digits.head?.any Char.isDigit) then none
  else
    let (size, rest) := leadingNumber digits
    let value : Int := if isNegative then -size else size
    if rest.all Text.isSpace && wrap value = value then some value else none

/-! ### Symbols -/

/-- The smallest thing that an expression is made of. -/
inductive Symbol
  | number (value : Number)
  | name (name : Octets)
  | operator (text : String)
  /-- Nothing that belongs into an expression. -/
  | stray
deriving DecidableEq, Repr

/-- The operators, each before those that it starts with. -/
def operators : List String :=
  ["<<=", ">>=", "<<", ">>", "<=", ">=", "==", "!=", "&&", "||", "+=", "-=", "*=", "/=", "%=",
    "&=", "^=", "|=", "<", ">", "+", "-", "*", "/", "%", "&", "^", "|", "!", "~", "?", ":", "=",
    "(", ")"]

/-- The symbols of an expression up to the first thing that does not belong into one. -/
def symbols : Nat → Octets → List Symbol
  | 0, _ => []
  | _, [] => []
  | fuel + 1, octet :: rest =>
    let text := octet :: rest
    if octet = ' ' || octet = '\t' || octet = '\n' then symbols fuel rest
    else if octet.isDigit then
      let (value, after) := leadingNumber text
      .number (min greatest value) :: symbols fuel after
    else if octet.isAlpha || octet = '_' then
      let name := text.takeWhile fun other => other.isAlphanum || other = '_'
      .name name :: symbols fuel (text.drop name.length)
    else
      match operators.find? fun operator => operator.toList.isPrefixOf text with
      | some operator => .operator operator :: symbols fuel (text.drop operator.length)
      | none => [.stray]

/-! ### Evaluation -/

/-- Why an expression has no value. -/
inductive Fault
  /-- The expression is wrong, in these words. -/
  | wrong (words : String)
  /-- The value of a variable is no number. -/
  | noNumber (text : Octets)
deriving DecidableEq, Repr

/-- What is left of an expression, and the values of the variables. -/
structure Course where
  left : List Symbol
  valueOf : Octets → Octets
  assigned : List (Octets × Number)

/-- Evaluation of an expression. -/
abbrev Evaluation := StateT Course (Except Fault)

/-- The next symbol, which is not taken. -/
def peek : Evaluation (Option Symbol) := do
  return (← get).left.head?

/-- Takes the next symbol. -/
def advance : Evaluation Unit :=
  modify fun course => { course with left := course.left.drop 1 }

/-- Takes the next symbol if it is one of the given operators, and gives it. -/
def takeOperator (wanted : List String) : Evaluation (Option String) := do
  match ← peek with
  | some (.operator text) =>
    if wanted.contains text then
      advance
      return some text
    else return none
  | _ => return none

/-- The value of a variable as a number. -/
def valueOf (name : Octets) : Evaluation Number := do
  let course ← get
  match course.assigned.lookup name with
  | some value => return value
  | none =>
    let text := course.valueOf name
    match number? text with
    | some value => return value
    | none => throw (.noNumber text)

/-- The truth of a statement as a number. -/
def truth (holds : Bool) : Number := if holds then 1 else 0

/-- The bits of two numbers combined. -/
def bitwise (combine : UInt64 → UInt64 → UInt64) (left right : Number) : Number :=
  wrap (combine (UInt64.ofInt left) (UInt64.ofInt right)).toNat

/-- What an operator makes of two numbers. -/
def combine (operator : String) (left right : Number) : Except Fault Number :=
  let distance := (right % 64).toNat
  match operator with
  | "*" => .ok (wrap (left * right))
  | "/" | "%" =>
    if right = 0 then .error (.wrong "division by zero")
    else .ok (wrap (if operator = "/" then left.tdiv right else left.tmod right))
  | "+" => .ok (wrap (left + right))
  | "-" => .ok (wrap (left - right))
  | "<<" => .ok (wrap (left * Int.ofNat (1 <<< distance)))
  | ">>" => .ok (left >>> distance)
  | "<" => .ok (truth (left < right))
  | "<=" => .ok (truth (left ≤ right))
  | ">" => .ok (truth (right < left))
  | ">=" => .ok (truth (right ≤ left))
  | "==" => .ok (truth (left = right))
  | "!=" => .ok (truth (left ≠ right))
  | "&" => .ok (bitwise (· &&& ·) left right)
  | "^" => .ok (bitwise (· ^^^ ·) left right)
  | "|" => .ok (bitwise (· ||| ·) left right)
  | _ => .ok right

/-- The operators between two numbers, those that bind least first. -/
def levels : List (List String) :=
  [["|"], ["^"], ["&"], ["==", "!="], ["<", "<=", ">", ">="], ["<<", ">>"], ["+", "-"],
    ["*", "/", "%"]]

/-- The operators that assign. -/
def assigning : List String :=
  ["=", "+=", "-=", "*=", "/=", "%=", "<<=", ">>=", "&=", "^=", "|="]

mutual

/-- The value of an expression that may assign. The flag tells whether the value counts. -/
def assignment : Nat → Bool → Evaluation Number
  | 0, _ => throw (.wrong "expecting primary")
  | fuel + 1, counts => do
    let before ← get
    match before.left with
    | .name name :: .operator operator :: _ =>
      if assigning.contains operator then
        advance
        advance
        let right ← assignment fuel counts
        if counts then
          let value ←
            if operator = "=" then pure right
            else do
              let left ← valueOf name
              liftM (combine (String.ofList operator.toList.dropLast) left right)
          modify fun course => { course with assigned := (name, value) :: course.assigned }
          return value
        else return right
      else conditional fuel counts
    | _ => conditional fuel counts

/-- The value of an expression that may choose between two others. -/
def conditional : Nat → Bool → Evaluation Number
  | 0, _ => throw (.wrong "expecting primary")
  | fuel + 1, counts => do
    let test ← disjunction fuel counts
    match ← takeOperator ["?"] with
    | none => return test
    | some _ =>
      let yes ← assignment fuel (counts && test ≠ 0)
      if (← takeOperator [":"]).isNone then throw (.wrong "expecting ':'")
      let no ← conditional fuel (counts && test = 0)
      return if test ≠ 0 then yes else no

/-- The value of an expression of which one part has to be true. -/
def disjunction : Nat → Bool → Evaluation Number
  | 0, _ => throw (.wrong "expecting primary")
  | fuel + 1, counts => do
    let left ← conjunction fuel counts
    match ← takeOperator ["||"] with
    | none => return left
    | some _ =>
      let right ← disjunction fuel (counts && left = 0)
      return truth (left ≠ 0 || right ≠ 0)

/-- The value of an expression of which all parts have to be true. -/
def conjunction : Nat → Bool → Evaluation Number
  | 0, _ => throw (.wrong "expecting primary")
  | fuel + 1, counts => do
    let left ← operation fuel counts levels
    match ← takeOperator ["&&"] with
    | none => return left
    | some _ =>
      let right ← conjunction fuel (counts && left ≠ 0)
      return truth (left ≠ 0 && right ≠ 0)

/-- The value of an expression with operators of some levels. -/
def operation : Nat → Bool → List (List String) → Evaluation Number
  | 0, _, _ => throw (.wrong "expecting primary")
  | fuel + 1, counts, [] => primary fuel counts
  | fuel + 1, counts, level :: tighter => do
    operationAfter fuel counts level tighter (← operation fuel counts tighter)

/-- The value of what goes on after the first operand of a level. -/
def operationAfter : Nat → Bool → List String → List (List String) → Number → Evaluation Number
  | 0, _, _, _, _ => throw (.wrong "expecting primary")
  | fuel + 1, counts, level, tighter, left => do
    match ← takeOperator level with
    | none => return left
    | some operator =>
      let right ← operation fuel counts tighter
      let value ← if counts then liftM (combine operator left right) else pure right
      operationAfter fuel counts level tighter value

/-- The value of an expression without operators between two parts. -/
def primary : Nat → Bool → Evaluation Number
  | 0, _ => throw (.wrong "expecting primary")
  | fuel + 1, counts => do
    match ← peek with
    | some (.number value) =>
      advance
      return value
    | some (.name name) =>
      advance
      if counts then valueOf name else return 0
    | some (.operator "(") =>
      advance
      let value ← assignment fuel counts
      if (← takeOperator [")"]).isNone then throw (.wrong "expecting ')'")
      return value
    | some (.operator "+") =>
      advance
      primary fuel counts
    | some (.operator "-") =>
      advance
      return wrap (-(← primary fuel counts))
    | some (.operator "!") =>
      advance
      return truth ((← primary fuel counts) = 0)
    | some (.operator "~") =>
      advance
      return -(← primary fuel counts) - 1
    | _ => throw (.wrong "expecting primary")

end

/-- The value of an expression, and the values that it gives to variables, the last one first. -/
def evaluate (text : Octets) (value : Octets → Octets) :
    Except Fault (Number × List (Octets × Number)) := do
  let (result, course) ←
    (assignment (16 * text.length + 64) true).run ⟨symbols text.length text, value, []⟩
  if course.left.isEmpty then return (result, course.assigned)
  else throw (.wrong "expecting EOF")

end Golden.Shell.Arithmetic
