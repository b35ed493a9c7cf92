/-
This file describes the tool `cat`, which prints files one after another. It can
number lines, squeeze blank ones, and make ends of lines, tabs and other characters
visible; lines go on from one file to the next, so what it remembers of the last line
outlives the file.
-/

import Golden.Tool.Work

namespace Golden.Tool.Concatenation

open Golden Golden.Tool

/-! ### Settings -/

/-- How what is printed is changed. -/
structure Layout where
  numbers : Bool
  /-- Whether blank lines have no number. -/
  skipsBlank : Bool
  squeezes : Bool
  showsEnds : Bool
  showsTabs : Bool
  showsControls : Bool
deriving DecidableEq, Repr

/-- The layout that changes nothing. -/
def Layout.raw : Layout := ⟨false, false, false, false, false, false⟩

/-- The options of the tool. -/
def choices : List (Choice Layout) :=
  [.plain ['b'] ["number-nonblank"] fun layout =>
      { layout with numbers := true, skipsBlank := true },
    .plain ['n'] ["number"] fun layout => { layout with numbers := true },
    .plain ['s'] ["squeeze-blank"] fun layout => { layout with squeezes := true },
    .plain ['v'] ["show-nonprinting"] fun layout => { layout with showsControls := true },
    .plain ['E'] ["show-ends"] fun layout => { layout with showsEnds := true },
    .plain ['T'] ["show-tabs"] fun layout => { layout with showsTabs := true },
    .plain ['A'] ["show-all"] fun layout =>
      { layout with showsEnds := true, showsTabs := true, showsControls := true },
    .plain ['e'] [] fun layout => { layout with showsEnds := true, showsControls := true },
    .plain ['t'] [] fun layout => { layout with showsTabs := true, showsControls := true },
    .plain ['u'] [] id]

/-! ### Laying out -/

/-- What is remembered of what was printed. -/
structure Memory where
  /-- Whether the next character starts a line. -/
  atStart : Bool
  /-- How many lines before it were blank. -/
  blank : Nat
  /-- How many lines have a number. -/
  counted : Nat
deriving DecidableEq, Repr

/-- The number of the next line, in front of it. -/
def numbering (memory : Memory) : Octets :=
  let digits := Octets.ofNat (memory.counted + 1)
  List.replicate (6 - digits.length) ' ' ++ digits ++ ['\t']

/-- A character that may not be printable, made visible. -/
def visible (octet : Char) : Octets :=
  let low (number : Nat) : Octets :=
    if number < 32 then ['^', Char.ofNat (number + 64)]
    else if number = 127 then ['^', '?']
    else [Char.ofNat number]
  if octet.toNat < 128 then low octet.toNat else 'M' :: '-' :: low (octet.toNat - 128)

/-- A character within a line as it is printed. -/
def shown (layout : Layout) (octet : Char) : Octets :=
  if octet = '\t' then if layout.showsTabs then ['^', 'I'] else ['\t']
  else if layout.showsControls then visible octet
  else [octet]

/-- What is printed for a content, and what is remembered then. -/
def layOut (layout : Layout) : Octets → Memory → Octets × Memory
  | [], memory => ([], memory)
  | '\n' :: rest, memory =>
    let blank := if memory.atStart then memory.blank + 1 else 0
    if layout.squeezes && blank ≥ 2 then
      layOut layout rest { memory with blank := blank }
    else
      let numbered := memory.atStart && layout.numbers && !layout.skipsBlank
      let counted := if numbered then memory.counted + 1 else memory.counted
      let (others, after) := layOut layout rest ⟨true, blank, counted⟩
      ((if numbered then numbering memory else []) ++ (if layout.showsEnds then ['$'] else []) ++
        '\n' :: others, after)
  | octet :: rest, memory =>
    let numbered := memory.atStart && layout.numbers
    let counted := if numbered then memory.counted + 1 else memory.counted
    let returns := octet = '\x0d' && layout.showsEnds && rest.head? = some '\n'
    let (others, after) := layOut layout rest ⟨false, 0, counted⟩
    ((if numbered then numbering memory else []) ++
      (if returns then ['^', 'M'] else shown layout octet) ++ others, after)

/-- The layout that changes nothing prints a content as it is. -/
theorem layOut_raw (content : Octets) (memory : Memory) :
    (layOut .raw content memory).1 = content := by
  induction content generalizing memory with
  | nil => rfl
  | cons octet rest inductionHypothesis =>
    by_cases feeds : octet = '\n'
    · subst feeds
      simp [layOut, Layout.raw]
      exact inductionHypothesis _
    · have plain : shown .raw octet = [octet] := by
        by_cases tab : octet = '\t' <;> simp [shown, Layout.raw, tab]
      rw [layOut]
      · simp only [plain, inductionHypothesis]
        simp [Layout.raw]
      · exact feeds

/-! ### The tool -/

/-- What the tool has printed of files: how much, and what it remembers. -/
structure Course where
  memory : Memory
  printed : Nat

/-- Prints one file, or complains about it. -/
def print (scene : Scene) (layout : Layout) (operand : Octets) (course : Course) :
    Work Course := do
  let complain (words : String) : Work Course := do
    Work.complain (quotedIfNeeded operand ++ (": " ++ words).toList)
    return course
  let isInput := operand = ['-']
  let path := pathIn scene.directory operand
  let place? := if isInput then scene.inputPlace
    else ((scene.files.examine path).toOption.map fun (location, _) => ⟨location, 0⟩)
  let content ←
    if isInput then do
      let unread := (← get).unread
      modify fun effect => { effect with unread := [], hasRead := true }
      pure (scene.input.map fun _ => unread)
    else pure ((scene.files.read path).map Octets.ofBytes)
  match content, place?, scene.output with
  | .error cause, _, _ => complain cause.description
  | .ok content, some source, .file target =>
    if source.location = target.location && source.offset < target.offset + course.printed then
      complain "input file is output file"
    else
      let (text, memory) := layOut layout content course.memory
      Work.write .out text
      return ⟨memory, course.printed + text.length⟩
  | .ok content, _, _ =>
    let (text, memory) := layOut layout content course.memory
    Work.write .out text
    return ⟨memory, course.printed + text.length⟩

/-- The work of the tool. It does nothing when its output is closed. -/
def work (scene : Scene) : List Octets → Work Unit :=
  conduct choices .raw fun layout operands => do
    let operands := if operands.isEmpty then [['-']] else operands
    if scene.output = .closed then
      Work.complain "standard output: Bad file descriptor".toList
    else
      let _ ← operands.foldlM (fun course operand => print scene layout operand course)
        ⟨⟨true, 0, 0⟩, 0⟩
      if operands.contains ['-'] && !scene.hasInput then
        Work.complain "closing standard input: Bad file descriptor".toList

end Golden.Tool.Concatenation
