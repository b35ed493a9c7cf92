/-
This file proves that a grammar in a file is expanded into another file or else nothing
is changed. Four things may stand in the way: the source cannot be read as text, a line
of it has no arrow, the start symbol needs itself, or the output cannot be written. The
first three are found in the source alone, and each hides what comes after it; but whether
the output can be written has nothing to do with them, so it may stand in the way together
with any of them. What is reported is the first.

Everything is found out before anything is written. That an output is also the input, or
that something stood there, therefore makes no difference to what is written.
-/

import Golden.Grammar.File
import Golden.Proofs.Files.Locations
import Golden.Proofs.Grammar.Recursion

namespace Golden.Grammar

open Golden.Text

/-! ### What stands in the way -/

/-- A file has the text of a grammar. -/
def Provides (files : Files) (input : Path) (grammar : Grammar) : Prop :=
  ∃ source, files.readText input = .ok source ∧ parse source = .ok grammar

/-- What stands in the way of expanding the grammar in one file into another. -/
inductive Obstacle (files : Files) (input output : Path) : Error → Prop
  | unreadable {cause : Cause} (refused : files.readText input = .error cause) :
    Obstacle files input output (.unreadable input cause)
  | missingArrow {source : String} {place : MissingArrow}
      (readable : files.readText input = .ok source) (fault : parse source = .error place) :
    Obstacle files input output (.missingArrow place)
  | recursive {grammar : Grammar} {cycle : Cycle} (provides : Provides files input grammar)
      (met : grammar.expand startSymbol = .error cycle) :
    Obstacle files input output (.recursive cycle)
  | unwritable {cause : Cause} (refused : files.target output = .error cause) :
    Obstacle files input output (.unwritable output cause)

/-- The order in which obstacles are met. -/
def Error.stage : Error → Nat
  | .unreadable _ _ => 0
  | .missingArrow _ => 1
  | .recursive _ => 2
  | .unwritable _ _ => 3

/-- An obstacle before which no other is met. -/
structure FirstObstacle (files : Files) (input output : Path) (error : Error) : Prop where
  stands : Obstacle files input output error
  first : ∀ other, Obstacle files input output other → error.stage ≤ other.stage

variable {files : Files} {input output : Path}

theorem Provides.eq {grammar other : Grammar} (provides : Provides files input grammar)
    (providesOther : Provides files input other) : grammar = other := by
  obtain ⟨source, readable, parsed⟩ := provides
  obtain ⟨text, readableText, parsedText⟩ := providesOther
  obtain rfl := Except.ok.inj (readable.symm.trans readableText)
  exact Except.ok.inj (parsed.symm.trans parsedText)

/-- Obstacles that are met at the same time are the same. -/
theorem Obstacle.eq_of_stage_eq {error other : Error} (stands : Obstacle files input output error)
    (standsToo : Obstacle files input output other) (same : error.stage = other.stage) :
    error = other := by
  cases stands with
  | unreadable refused =>
    cases standsToo with
    | unreadable refusedToo => rw [Except.error.inj (refused.symm.trans refusedToo)]
    | missingArrow | recursive | unwritable => cases same
  | missingArrow readable fault =>
    cases standsToo with
    | missingArrow readableToo faultToo =>
      obtain rfl := Except.ok.inj (readable.symm.trans readableToo)
      rw [Except.error.inj (fault.symm.trans faultToo)]
    | unreadable | recursive | unwritable => cases same
  | recursive provides met =>
    cases standsToo with
    | recursive providesToo metToo =>
      obtain rfl := provides.eq providesToo
      rw [Except.error.inj (met.symm.trans metToo)]
    | unreadable | missingArrow | unwritable => cases same
  | unwritable refused =>
    cases standsToo with
    | unwritable refusedToo => rw [Except.error.inj (refused.symm.trans refusedToo)]
    | unreadable | missingArrow | recursive => cases same

/-- Only one obstacle is the first. -/
theorem FirstObstacle.eq {error other : Error} (first : FirstObstacle files input output error)
    (firstToo : FirstObstacle files input output other) : error = other :=
  first.stands.eq_of_stage_eq firstToo.stands
    (Nat.le_antisymm (first.first _ firstToo.stands) (firstToo.first _ first.stands))

/-- No obstacle in the source is met before its first line without an arrow. -/
theorem Obstacle.one_le_stage {source : String} {error : Error}
    (stands : Obstacle files input output error) (readable : files.readText input = .ok source) :
    1 ≤ error.stage := by
  cases stands with
  | unreadable refused =>
    rw [readable] at refused
    cases refused
  | missingArrow | recursive | unwritable => simp [Error.stage]

/-- When a grammar is read, only its expansion and the output can stand in the way. -/
theorem Obstacle.of_provides {grammar : Grammar} {error : Error}
    (stands : Obstacle files input output error) (provides : Provides files input grammar) :
    (∃ cycle, error = .recursive cycle ∧ grammar.expand startSymbol = .error cycle) ∨
      ∃ cause, error = .unwritable output cause ∧ files.target output = .error cause := by
  cases stands with
  | unreadable refused =>
    obtain ⟨source, readable, -⟩ := provides
    rw [readable] at refused
    cases refused
  | missingArrow readableToo fault =>
    obtain ⟨source, readable, parsed⟩ := provides
    obtain rfl := Except.ok.inj (readable.symm.trans readableToo)
    rw [parsed] at fault
    cases fault
  | recursive providesToo met =>
    obtain rfl := provides.eq providesToo
    exact .inl ⟨_, rfl, met⟩
  | unwritable refused => exact .inr ⟨_, rfl, refused⟩

/-- Nothing stands in the way of an expansion for which there is a grammar and an output. -/
theorem not_obstacle_of_provides {grammar : Grammar} {expansion : String} {location : Location}
    (provides : Provides files input grammar)
    (expanded : grammar.expand startSymbol = .ok expansion)
    (targeted : files.target output = .ok location) (error : Error) :
    ¬ Obstacle files input output error := by
  intro stands
  rcases stands.of_provides provides with ⟨cycle, -, met⟩ | ⟨cause, -, refused⟩
  · rw [expanded] at met
    cases met
  · rw [targeted] at refused
    cases refused

/-! ### What an expansion comes to -/

/-- All that can come of expanding the grammar in one file into another: the first obstacle and the
files as they were, or the expansion and the files in which it is stored. -/
inductive Course (files : Files) (input output : Path) : Except Error String × Files → Prop
  | obstructed {error : Error} (first : FirstObstacle files input output error) :
    Course files input output (.error error, files)
  | written {grammar : Grammar} {expansion : String} {location : Location}
      (provides : Provides files input grammar)
      (expanded : grammar.expand startSymbol = .ok expansion)
      (targeted : files.target output = .ok location) :
    Course files input output (.ok expansion, files.store location (encode expansion.toList))

theorem course (files : Files) (input output : Path) :
    Course files input output (expandFile input output files) := by
  unfold expandFile
  cases readable : files.readText input with
  | error cause => exact .obstructed ⟨.unreadable readable, fun _ _ => Nat.zero_le _⟩
  | ok source =>
    dsimp only
    cases parsed : parse source with
    | error place =>
      exact .obstructed ⟨.missingArrow readable parsed, fun _ other => other.one_le_stage readable⟩
    | ok grammar =>
      have provides : Provides files input grammar := ⟨source, readable, parsed⟩
      dsimp only
      cases expanded : grammar.expand startSymbol with
      | error cycle =>
        refine .obstructed ⟨.recursive provides expanded, fun error other => ?_⟩
        rcases other.of_provides provides with ⟨_, rfl, -⟩ | ⟨_, rfl, -⟩ <;> simp [Error.stage]
      | ok expansion =>
        unfold Files.write
        cases targeted : files.target output with
        | ok location => exact .written provides expanded targeted
        | error cause =>
          refine .obstructed ⟨.unwritable targeted, fun error other => ?_⟩
          rcases other.of_provides provides with ⟨cycle, -, met⟩ | ⟨_, rfl, -⟩
          · rw [expanded] at met
            cases met
          · exact Nat.le_refl _

/-- Nothing that a symbol reaches needs itself. -/
def Straight (grammar : Grammar) (symbol : String) : Prop :=
  ∀ reached ∈ grammar.names, grammar.Reaches symbol reached → ¬ grammar.Recursive reached

theorem exists_expand_iff_straight (grammar : Grammar) (symbol : String) :
    (∃ expansion, grammar.expand symbol = .ok expansion) ↔ grammar.Straight symbol := by
  refine (exists_expandUnder_iff grammar [] symbol).trans ?_
  simp only [List.not_mem_nil, not_false_eq_true, true_and]
  rfl

/-- A path leads to where a file can be written. -/
def Writable (files : Files) (output : Path) : Prop :=
  ∃ location, files.locate output = .ok location ∧ output.namesDirectory = false ∧
    files.find? location ≠ some .directory

/-- An expansion is given back when there is one and it can be written. -/
theorem exists_expandFile_eq_ok_iff (files : Files) (input output : Path) :
    (∃ expansion, (expandFile input output files).1 = .ok expansion) ↔
      (∃ grammar, Provides files input grammar ∧ grammar.Straight startSymbol) ∧
        Writable files output := by
  have ran := course files input output
  generalize expandFile input output files = done at ran
  cases ran with
  | obstructed first =>
    refine iff_of_false nofun ?_
    rintro ⟨⟨grammar, provides, straight⟩, location, writable⟩
    obtain ⟨expansion, expanded⟩ := (exists_expand_iff_straight grammar _).mpr straight
    have targeted := Files.target_eq_ok_iff.mpr writable
    exact not_obstacle_of_provides provides expanded targeted _ first.stands
  | @written grammar expansion location provides expanded targeted =>
    refine iff_of_true ⟨expansion, rfl⟩ ⟨⟨grammar, provides, ?_⟩, location, ?_⟩
    · exact (exists_expand_iff_straight grammar _).mp ⟨expansion, expanded⟩
    · exact Files.target_eq_ok_iff.mp targeted

/-- The error is the first obstacle. -/
theorem expandFile_eq_error_iff (files : Files) (input output : Path) (error : Error) :
    (expandFile input output files).1 = .error error ↔ FirstObstacle files input output error := by
  have ran := course files input output
  generalize expandFile input output files = done at ran
  cases ran with
  | obstructed first =>
    constructor
    · rintro ⟨⟩
      exact first
    · intro other
      rw [first.eq other]
  | written provides expanded targeted =>
    exact iff_of_false nofun fun first =>
      not_obstacle_of_provides provides expanded targeted error first.stands

/-- What an expansion has written when it is given back. -/
structure WrittenTo (files left : Files) (output : Path) (expansion : String)
    (location : Location) : Prop where
  leads : files.locate output = .ok location
  wrote : files.write output (encode expansion.toList) = .ok left
  /-- The output holds the expansion and nothing else; only the empty device, which is no file,
  keeps nothing of what is written to it. -/
  holds : left.read output = .ok (encode expansion.toList) ∨
    location = Location.emptyDevice ∧ left = files
  others : ∀ other, other ≠ location → left.find? other = files.find? other

/-- An expansion that is given back is that of the grammar in the input, and it has been written. -/
theorem writtenTo_of_expandFile_eq_ok {expansion : String}
    (succeeded : (expandFile input output files).1 = .ok expansion) :
    (∃ grammar, Provides files input grammar ∧ grammar.expand startSymbol = .ok expansion) ∧
      ∃ location, WrittenTo files (expandFile input output files).2 output expansion location := by
  have ran := course files input output
  generalize expandFile input output files = done at ran succeeded ⊢
  cases ran with
  | obstructed first => cases succeeded
  | @written grammar expansion location provides expanded targeted =>
    obtain rfl := Except.ok.inj succeeded
    refine ⟨⟨grammar, provides, expanded⟩, location, ?_⟩
    exact
      { leads := (Files.target_eq_ok_iff.mp targeted).1
        wrote := Files.write_eq_ok_iff.mpr ⟨location, targeted, rfl⟩
        holds := by
          by_cases device : location = Location.emptyDevice
          · exact .inr ⟨device, by rw [device, Files.store_emptyDevice]⟩
          · exact .inl (Files.read_store _ targeted
              (Files.standing?_eq_none_of_target targeted device))
        others := fun other different => Files.find?_store_of_ne _ different }

/-- An obstacle leaves all files as they were. -/
theorem files_of_expandFile_eq_error {error : Error}
    (failed : (expandFile input output files).1 = .error error) :
    (expandFile input output files).2 = files := by
  have ran := course files input output
  generalize expandFile input output files = done at ran failed ⊢
  cases ran with
  | obstructed first => rfl
  | written provides expanded targeted => cases failed

/-- A grammar in a file is expanded exactly when the file can be read as text, its grammar can be
read, nothing that the start symbol reaches needs itself, and the output can be written. The output
then holds the expansion and nothing else, which is that of the grammar that was read before, and
nothing stands at any other location but what stood there. If anything is in the way, the first
obstacle in the order of reading, finding rules, expanding and writing is reported, and all files
are as they were. -/
theorem expansion_is_written_or_nothing (files : Files) (input output : Path) :
    let done := expandFile input output files
    ((∃ expansion, done.1 = .ok expansion) ↔
      (∃ grammar, Provides files input grammar ∧ grammar.Straight startSymbol) ∧
        Writable files output) ∧
    (∀ expansion, done.1 = .ok expansion →
      (∃ grammar, Provides files input grammar ∧ grammar.expand startSymbol = .ok expansion) ∧
        ∃ location, WrittenTo files done.2 output expansion location) ∧
    (∀ error, done.1 = .error error ↔ FirstObstacle files input output error) ∧
    ∀ error, done.1 = .error error → done.2 = files :=
  ⟨exists_expandFile_eq_ok_iff files input output, fun _ => writtenTo_of_expandFile_eq_ok,
    expandFile_eq_error_iff files input output, fun _ => files_of_expandFile_eq_error⟩

/-- A grammar, and one whose start symbol needs itself. -/
def grammarFiles : Files :=
  ⟨[(["grammar.txt"], .file (encode "S->aB\nB->b|c\n".toList)),
    (["circle.txt"], .file (encode "S->aA\nA->bS".toList))]⟩

/-- A grammar is replaced by its expansion. Where there is no expansion, this is reported even when
it could not be written either, and nothing is changed. -/
theorem expansion_over_its_grammar :
    (expandFile ⟨"grammar.txt"⟩ ⟨"grammar.txt"⟩ grammarFiles).1 = .ok "(a(b|c))" ∧
    (expandFile ⟨"grammar.txt"⟩ ⟨"grammar.txt"⟩ grammarFiles).2.read ⟨"grammar.txt"⟩ =
      .ok (encode "(a(b|c))".toList) ∧
    (expandFile ⟨"circle.txt"⟩ ⟨"."⟩ grammarFiles).1 =
      .error (.recursive ⟨"S", ["S", "A", "S"]⟩) ∧
    Obstacle grammarFiles ⟨"circle.txt"⟩ ⟨"."⟩ (.unwritable ⟨"."⟩ .isADirectory) ∧
    (expandFile ⟨"circle.txt"⟩ ⟨"."⟩ grammarFiles).2 = grammarFiles := by
  have succeeds : (expandFile ⟨"grammar.txt"⟩ ⟨"grammar.txt"⟩ grammarFiles).1 =
      .ok "(a(b|c))" := by decide +kernel
  have fails : (expandFile ⟨"circle.txt"⟩ ⟨"."⟩ grammarFiles).1 =
      .error (.recursive ⟨"S", ["S", "A", "S"]⟩) := by decide +kernel
  obtain ⟨-, location, written⟩ :=
    (expansion_is_written_or_nothing grammarFiles ⟨"grammar.txt"⟩ ⟨"grammar.txt"⟩).2.1 _ succeeds
  have here : location = ["grammar.txt"] := (Except.ok.inj written.leads).symm
  have holds := written.holds.resolve_right fun device =>
    absurd (here.symm.trans device.1) (by decide)
  obtain ⟨-, -, -, unchanged⟩ :=
    expansion_is_written_or_nothing grammarFiles ⟨"circle.txt"⟩ ⟨"."⟩
  exact ⟨succeeds, holds, fails, .unwritable rfl, unchanged _ fails⟩

end Golden.Grammar
