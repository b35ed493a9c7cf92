/-
This file describes the tool `cmp`, which compares two files byte by byte. It tells
where the first difference is, or all of them, or says by its status alone that there
is one. A file that ends before the other one is told of on the error channel. What
stands at the start of a file may be skipped, and how much is compared may be limited.
-/

import Golden.Text.Digits
import Golden.Tool.Work

namespace Golden.Tool.Comparison

open Golden Golden.Tool

/-! ### Settings -/

/-- How much a comparison tells. -/
inductive Telling
  | first
  | all
  /-- The end of a file only. -/
  | ends
  | nothing
deriving DecidableEq, Repr

/-- How files are compared. -/
structure Manner where
  telling? : Option Telling
  /-- Whether differing bytes are shown. -/
  shows : Bool
  limit? : Option Nat
  /-- How many bytes are skipped in each file. -/
  skipped : Nat × Nat
deriving DecidableEq, Repr

/-- By how much the letters after a number multiply it. -/
def multiplier? (ending : Octets) : Option Nat :=
  let powers : List (Char × Nat) :=
    [('k', 1), ('K', 1), ('M', 2), ('G', 3), ('T', 4), ('P', 5), ('E', 6), ('Z', 7), ('Y', 8)]
  match ending with
  | [] => some 1
  | letter :: rest =>
    (powers.lookup letter).bind fun power =>
      if rest.isEmpty || rest = ['i', 'B'] then some (Nat.pow 1024 power)
      else if rest = ['B'] || rest = ['D'] then some (Nat.pow 1000 power)
      else none

/-- The size that a text says: a number, with letters that multiply it. -/
def size? (text : Octets) : Option Nat :=
  let bare := text.dropWhile fun octet => octet = ' ' || octet = '\t'
  let bare := if bare.head? = some '+' then bare.drop 1 else bare
  let (base, body) : Nat × Octets :=
    match bare with
    | '0' :: 'x' :: rest | '0' :: 'X' :: rest => (16, rest)
    | '0' :: _ => (8, bare)
    | _ => (10, bare)
  let (digits, ending) := Text.leadingDigits base body
  if digits.isEmpty then none
  else
    (multiplier? ending).bind fun factor =>
      let size := Text.numberOf base digits * factor
      if size < 1 <<< 64 then some size else none

/-- Settles how much is told, once and for all. -/
def tell (telling : Telling) (manner : Manner) : Except Stop Manner :=
  match manner.telling? with
  | none => .ok { manner with telling? := some telling }
  | some other =>
    if other = telling then .ok manner
    else .error (.misuse "options -l and -s are incompatible".toList)

/-- A size that an option asks for. -/
def sizeFor (option : String) (text : Octets) : Except Stop Nat :=
  match size? text with
  | some size => .ok size
  | none =>
    .error (.misuse (("invalid --" ++ option ++ " value '").toList ++ text ++ ['\'']))

/-- Reads how much is skipped, in both files alike or in each. -/
def skip (text : Octets) (manner : Manner) : Except Stop Manner := do
  let left := text.takeWhile (· ≠ ':')
  let (first, second) ←
    match text.drop left.length with
    | _ :: right =>
      match size? left with
      | none => throw (.misuse ("invalid --ignore-initial value '".toList ++ text ++ ['\'']))
      | some first => pure (first, ← sizeFor "ignore-initial" right)
    | [] => do
      let size ← sizeFor "ignore-initial" left
      pure (size, size)
  return { manner with skipped := (max manner.skipped.1 first, max manner.skipped.2 second) }

/-- The options of the tool. -/
def choices : List (Choice Manner) :=
  [.plain ['b'] ["print-bytes"] fun manner => { manner with shows := true },
    .plain ['c'] ["print-chars"] fun manner => { manner with shows := true },
    ⟨['i'], ["ignore-initial"], .value, fun value? => skip (value?.getD [])⟩,
    ⟨['l'], ["verbose"], .nothing, fun _ => tell .all⟩,
    ⟨['n'], ["bytes"], .value, fun value? manner => do
      let size ← sizeFor "bytes" (value?.getD [])
      return { manner with limit? := some (min size (manner.limit?.getD size)) }⟩,
    ⟨['s'], ["silent", "quiet"], .nothing, fun _ => tell .nothing⟩,
    ⟨['v'], [], .nothing, fun _ _ => .error .about⟩]

/-! ### Comparing contents -/

/-- How far two contents have been alike. -/
structure Course where
  bytes : Nat
  feeds : Nat
  /-- Whether the last byte was a line feed, or there was none. -/
  atStart : Bool
deriving DecidableEq, Repr

/-- What a comparison finds on its way. -/
inductive Finding
  /-- Two bytes differ, of which the first is here. -/
  | differ (course : Course) (left right : Char)
  /-- The first content ends before the second one, or the second before the first. -/
  | ends (isFirst : Bool) (course : Course)
deriving DecidableEq, Repr

/-- How far two contents have been compared after one more byte. -/
def Course.next (course : Course) (octet : Char) : Course :=
  ⟨course.bytes + 1, if octet = '\n' then course.feeds + 1 else course.feeds, octet = '\n'⟩

/-- All that a comparison finds. -/
def findings : Octets → Octets → Course → List Finding
  | [], [], _ => []
  | [], _ :: _, course => [.ends true course]
  | _ :: _, [], course => [.ends false course]
  | left :: lefts, right :: rights, course =>
    let rest := findings lefts rights (course.next left)
    if left = right then rest else .differ course left right :: rest

/-- Two contents are the same exactly if a comparison finds nothing. -/
theorem findings_eq_nil_iff (left right : Octets) (course : Course) :
    findings left right course = [] ↔ left = right := by
  induction left generalizing right course with
  | nil => cases right <;> simp [findings]
  | cons first rest inductionHypothesis =>
    cases right with
    | nil => simp [findings]
    | cons second others =>
      by_cases same : first = second <;> simp [findings, same, inductionHypothesis]

/-! ### Telling -/

/-- A byte in octal, in three columns. -/
def octal (octet : Char) : Octets :=
  let digits := Nat.toDigits 8 octet.toNat
  List.replicate (3 - digits.length) ' ' ++ digits

/-- A byte as a character that can be seen. -/
def visible (octet : Char) : Octets :=
  let low (number : Nat) : Octets :=
    if number < 32 then ['^', Char.ofNat (number + 64)]
    else if number = 127 then ['^', '?']
    else [Char.ofNat number]
  if octet.toNat < 128 then low octet.toNat else 'M' :: '-' :: low (octet.toNat - 128)

/-- The line that tells of the first difference. -/
def firstLine (shows : Bool) (names : Octets) (course : Course) (left right : Char) : Octets :=
  let place := Octets.ofNat (course.bytes + 1) ++ ", line ".toList ++
    Octets.ofNat (course.feeds + 1)
  if shows then
    names ++ " differ: byte ".toList ++ place ++ " is ".toList ++ octal left ++ ' ' ::
      visible left ++ ' ' :: octal right ++ ' ' :: visible right ++ ['\n']
  else names ++ " differ: char ".toList ++ place ++ ['\n']

/-- The line that tells of one difference among all. -/
def everyLine (shows : Bool) (width : Nat) (course : Course) (left right : Char) : Octets :=
  let pad (length : Nat) (text : Octets) : Octets := List.replicate (length - text.length) ' '
  let place := Octets.ofNat (course.bytes + 1)
  let start := pad width place ++ place ++ ' ' :: octal left
  let seen := visible left
  if shows then
    start ++ ' ' :: seen ++ pad 4 seen ++ ' ' :: octal right ++ ' ' :: visible right ++ ['\n']
  else start ++ ' ' :: octal right ++ ['\n']

/-- The line that tells of the end of one file. -/
def endLine (telling : Telling) (name : Octets) (course : Course) : Octets :=
  let opening := "cmp: EOF on ".toList ++ name
  let line :=
    if telling ≠ .first then []
    else if course.atStart then ", line ".toList ++ Octets.ofNat course.feeds
    else ", in line ".toList ++ Octets.ofNat (course.feeds + 1)
  if course.bytes = 0 then opening ++ " which is empty\n".toList
  else opening ++ " after byte ".toList ++ Octets.ofNat course.bytes ++ line ++ ['\n']

/-! ### The tool -/

/-- What one of the two operands gives to compare. -/
structure Side where
  name : Octets
  location? : Option Location
  content : Except Cause Octets
  offset : Nat

/-- Opens an operand, or says why it cannot be opened. A directory can be opened but not read. -/
def openSide (scene : Scene) (name : Octets) (skipped : Nat) : Except Cause Side :=
  if name = ['-'] then
    let offset := (scene.inputPlace.map Place.offset).getD 0
    .ok ⟨name, scene.inputPlace.map Place.location, scene.input.map (·.drop skipped),
      offset + skipped⟩
  else
    match scene.files.examine (pathIn scene.directory name) with
    | .error cause => .error cause
    | .ok (location, .directory) =>
      .ok ⟨name, some location, .error .isADirectory, skipped⟩
    | .ok (location, .emptyDevice) => .ok ⟨name, some location, .ok [], skipped⟩
    | .ok (location, .file content) =>
      .ok ⟨name, some location, .ok ((Octets.ofBytes content).drop skipped), skipped⟩

/-- Tells what was found. -/
def report (manner : Manner) (telling : Telling) (left right : Side) (first second : Octets) :
    Work Unit := do
  let ends (isFirst : Bool) (course : Course) : Work Unit := do
    if telling ≠ .nothing then
      Work.write .err (endLine telling (if isFirst then left.name else right.name) course)
  match findings first second ⟨0, 0, true⟩ with
  | [] => return
  | found =>
    Work.fail 1
    match telling, found with
    | .first, .differ course one other :: _ =>
      Work.write .out
        (firstLine manner.shows (left.name ++ ' ' :: right.name) course one other)
    | .all, found =>
      let width := (Octets.ofNat (min first.length second.length)).length
      for finding in found do
        match finding with
        | .differ course one other =>
          Work.write .out (everyLine manner.shows width course one other)
        | .ends isFirst course => ends isFirst course
    | _, .ends isFirst course :: _ => ends isFirst course
    | _, _ => return

/-- Compares two operands that could be opened. -/
def compare (scene : Scene) (manner : Manner) (left right : Side) : Work Unit := do
  let telling :=
    match scene.output, manner.telling?.getD .first with
    | .closed, _ | _, .nothing => .nothing
    | .emptyDevice, _ => .ends
    | _, telling => telling
  let unreadable (side : Side) (cause : Cause) : Work Unit := do
    Work.warn (side.name ++ (": " ++ cause.description).toList)
    Work.fail 2
  let isSame := left.location?.isSome && left.location? = right.location? &&
    left.offset = right.offset
  if isSame || (left.name = right.name && left.offset = right.offset) then return
  else
    match left.content, right.content with
    | .error cause, _ => unreadable left cause
    | _, .error cause => unreadable right cause
    | .ok first, .ok second =>
      let cut (content : Octets) : Octets :=
        match manner.limit? with
        | some limit => content.take limit
        | none => content
      report manner telling left right (cut first) (cut second)

/-- Opens the operands and compares them. -/
def compareOperands (scene : Scene) (manner : Manner) (left right : Octets) : Work Unit := do
  let refuse (name : Octets) (cause : Cause) : Work Unit := do
    if manner.telling? ≠ some .nothing then
      Work.warn (name ++ (": " ++ cause.description).toList)
    Work.fail 2
  if left = ['-'] || right = ['-'] then
    modify fun effect => { effect with unread := [], hasRead := true }
  match openSide scene left manner.skipped.1, openSide scene right manner.skipped.2 with
  | .ok first, .ok second => compare scene manner first second
  | .error cause, _ => refuse left cause
  | _, .error cause => refuse right cause

/-- The work of the tool. -/
def work (scene : Scene) (arguments : List Octets) : Work Unit := do
  let stop := stopWork 2 true
  match readArguments (choices ++ aboutChoices) arguments ⟨none, false, none, (0, 0)⟩ with
  | .error reason => stop reason
  | .ok (manner, operands) =>
    let skipping (manner : Manner) (text : Octets) (isFirst : Bool) : Except Stop Manner :=
      (sizeFor "ignore-initial" text).map fun size =>
        let (first, second) := manner.skipped
        { manner with
          skipped := if isFirst then (max first size, second) else (first, max second size) }
    match operands with
    | [] =>
      let last := (arguments.getLast?).getD scene.name
      stop (.misuse ("missing operand after '".toList ++ last ++ ['\'']))
    | [left] => compareOperands scene manner left ['-']
    | left :: right :: more =>
      let settled := do
        let manner ←
          match more with
          | first :: _ => skipping manner first true
          | [] => pure manner
        match more with
        | _ :: second :: [] => skipping manner second false
        | _ :: second :: extra :: _ =>
          let _ ← skipping manner second false
          Except.error (Stop.misuse ("extra operand '".toList ++ extra ++ ['\'']))
        | _ => pure manner
      match settled with
      | .error reason => stop reason
      | .ok manner => compareOperands scene manner left right

end Golden.Tool.Comparison
