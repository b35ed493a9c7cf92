/-
This file matches texts against patterns. A pattern is a list of marks for one octet,
for any octet, for one of a set and for any text. What is quoted in a word stands for
itself; outside quotes a star, a question mark and a bracket that is closed are marks,
and a backslash takes their meaning from them.
-/

import Golden.Text.Octets

namespace Golden.Shell

open Golden

/-! ### Marks -/

/-- What a bracket can list. -/
inductive Member
  | range (first last : Char)
  /-- The octets that a predicate describes. -/
  | named (name : Octets)
deriving DecidableEq, Repr

/-- A part of a pattern. -/
inductive Mark
  | exactly (octet : Char)
  | anyOctet
  | anyText
  | oneOf (isInverted : Bool) (members : List Member)
deriving DecidableEq, Repr

/-- A pattern. -/
abbrev Pattern := List Mark

/-- The classes of octets by name. -/
def classes : List (String × (Char → Bool)) :=
  [("alnum", Char.isAlphanum), ("alpha", Char.isAlpha),
    ("blank", fun octet => octet = ' ' || octet = '\t'),
    ("cntrl", fun octet => octet < ' ' || octet = '\x7f'), ("digit", Char.isDigit),
    ("graph", fun octet => '!' ≤ octet && octet ≤ '~'), ("lower", Char.isLower),
    ("print", fun octet => ' ' ≤ octet && octet ≤ '~'),
    ("punct", fun octet => '!' ≤ octet && octet ≤ '~' && !octet.isAlphanum),
    ("space", fun octet => octet = ' ' || ('\t' ≤ octet && octet ≤ '\x0d')),
    ("upper", Char.isUpper),
    ("xdigit", fun octet => octet.isDigit || "abcdefABCDEF".toList.contains octet)]

/-- Whether an octet belongs to the class of a name. -/
def belongsTo (octet : Char) (name : Octets) : Bool :=
  (classes.lookup (String.ofList name)).any fun holds => holds octet

/-- Whether a bracket lists an octet. -/
def Member.covers (octet : Char) : Member → Bool
  | .range first last => first ≤ octet && octet ≤ last
  | .named name => belongsTo octet name

namespace Pattern

/-- Whether a text is what a pattern describes. -/
def accepts : Pattern → Octets → Bool
  | [], text => text.isEmpty
  | .exactly _ :: _, [] => false
  | .exactly wanted :: rest, octet :: text => wanted = octet && accepts rest text
  | .anyOctet :: _, [] => false
  | .anyOctet :: rest, _ :: text => accepts rest text
  | .oneOf _ _ :: _, [] => false
  | .oneOf isInverted members :: rest, octet :: text =>
    members.any (Member.covers octet) != isInverted && accepts rest text
  | .anyText :: rest, [] => accepts rest []
  | .anyText :: rest, octet :: text =>
    accepts rest (octet :: text) || accepts (.anyText :: rest) text

/-- The pattern that describes one text only. -/
def ofText (text : Octets) : Pattern :=
  text.map Mark.exactly

theorem accepts_ofText (wanted text : Octets) :
    (ofText wanted).accepts text = true ↔ text = wanted := by
  induction wanted generalizing text with
  | nil => simp [ofText, accepts]
  | cons first others inductionHypothesis =>
    cases text with
    | nil => simp [ofText, accepts]
    | cons octet rest =>
      have step := inductionHypothesis rest
      rw [ofText] at step
      rw [ofText, List.map_cons, accepts, Bool.and_eq_true, step, List.cons_eq_cons]
      simp [eq_comm]

/-- Whether a pattern can describe more than one text. -/
def isOpen (pattern : Pattern) : Bool :=
  pattern.any fun
    | .exactly _ => false
    | _ => true

end Pattern

/-! ### Reading patterns -/

/-- An octet of a word, and whether it may be a mark. -/
structure Sign where
  octet : Char
  isActive : Bool
deriving DecidableEq, Repr

/-- Whether a sign is a given mark. -/
def Sign.isMark (sign : Sign) (octet : Char) : Bool :=
  sign.isActive && sign.octet = octet

/-- The name of a class that there is in a bracket, and what follows it. -/
def takeClass? (signs : List Sign) : Option (Octets × List Sign) :=
  match signs with
  | ⟨'[', true⟩ :: ⟨':', true⟩ :: rest =>
    let name := rest.takeWhile fun sign => sign.octet.isLower
    match rest.drop name.length with
    | ⟨':', true⟩ :: ⟨']', true⟩ :: after =>
      let name := name.map Sign.octet
      if (classes.lookup (String.ofList name)).isSome then some (name, after) else none
    | _ => none
  | _ => none

/-- A sign that stands for itself in a bracket, and what follows it. -/
def takeMember? : List Sign → Option (Char × List Sign)
  | ⟨'\\', true⟩ :: sign :: rest => some (sign.octet, rest)
  | sign :: rest => some (sign.octet, rest)
  | [] => none

/-- The members of a bracket up to its end, and what follows it. -/
def takeMembers? : Nat → Bool → List Sign → Option (List Member × List Sign)
  | 0, _, _ => none
  | _, _, [] => none
  | fuel + 1, isFirst, sign :: rest =>
    if sign.isMark ']' && !isFirst then some ([], rest)
    else
      match takeClass? (sign :: rest) with
      | some (name, after) =>
        (takeMembers? fuel false after).map fun (members, left) =>
          (.named name :: members, left)
      | none => do
        let (first, after) ← takeMember? (sign :: rest)
        let (last, after) :=
          match after with
          | hyphen :: next :: beyond =>
            if hyphen.isMark '-' && !next.isMark ']' then
              (takeMember? (next :: beyond)).getD (first, after)
            else (first, after)
          | _ => (first, after)
        let (members, left) ← takeMembers? fuel false after
        return (.range first last :: members, left)

/-- The pattern that signs write. A bracket that is not closed stands for itself. -/
def patternOf : Nat → List Sign → Pattern
  | 0, signs => signs.map fun sign => .exactly sign.octet
  | _, [] => []
  | fuel + 1, sign :: rest =>
    if sign.isMark '*' then .anyText :: patternOf fuel rest
    else if sign.isMark '?' then .anyOctet :: patternOf fuel rest
    else if sign.isMark '\\' then
      match rest with
      | next :: after => .exactly next.octet :: patternOf fuel after
      | [] => [.exactly '\\']
    else if sign.isMark '[' then
      let isInverted :=
        match rest with
        | first :: _ => first.isMark '!'
        | [] => false
      let listed := if isInverted then rest.drop 1 else rest
      match takeMembers? (fuel + 1) true listed with
      | some (members, after) => .oneOf isInverted members :: patternOf fuel after
      | none => .exactly '[' :: patternOf fuel rest
    else .exactly sign.octet :: patternOf fuel rest

/-- The pattern that signs write. -/
def Pattern.ofSigns (signs : List Sign) : Pattern :=
  patternOf signs.length signs

theorem patternOf_of_inactive (signs : List Sign) (fuel : Nat) (enough : signs.length ≤ fuel)
    (inactive : ∀ sign ∈ signs, sign.isActive = false) :
    patternOf fuel signs = Pattern.ofText (signs.map Sign.octet) := by
  induction signs generalizing fuel with
  | nil => cases fuel <;> rfl
  | cons sign rest inductionHypothesis =>
    cases fuel with
    | zero => simp at enough
    | succ fuel =>
      have quiet : sign.isActive = false := inactive sign List.mem_cons_self
      have others := inductionHypothesis fuel (by simpa using enough)
        fun other member => inactive other (List.mem_cons_of_mem _ member)
      simp [patternOf, Sign.isMark, quiet, others, Pattern.ofText]

end Golden.Shell
