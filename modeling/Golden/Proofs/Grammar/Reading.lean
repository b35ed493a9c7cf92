/-
This file takes the reading of a source apart. One part looks for the first line
that is neither blank nor a rule, and needs only the lines and where they stand; the
other gathers the rules that the lines state, and needs only the lines. A source
with a fault has no grammar, and a source without one has the grammar to which its
rules were added in order, which gives a name what the last rule for it gives.
-/

import Golden.Grammar.Source
import Golden.Proofs.Grammar.Rules
import Golden.Proofs.Text.Lines
import Golden.Proofs.Text.Trimming

namespace Golden.Grammar

open Golden.Text

/-! ### Adding rules in order -/

/-- The grammar with rules added in order. -/
def addAll (grammar : Grammar) (rules : List Rule) : Grammar :=
  rules.foldl add grammar

/-- What the last of the rules for a name gives. -/
def lastFor? (name : String) (rules : List Rule) : Option (List String) :=
  (rules.reverse.find? fun rule => rule.name = name).map Rule.productions

theorem lastFor?_append (name : String) (first second : List Rule) :
    lastFor? name (first ++ second) = (lastFor? name second).or (lastFor? name first) := by
  rw [lastFor?, List.reverse_append, List.find?_append, Option.map_or]
  rfl

theorem productions?_add (grammar : Grammar) (rule : Rule) (name : String) :
    (grammar.add rule).productions? name =
      (lastFor? name [rule]).or (grammar.productions? name) := by
  by_cases same : rule.name = name
  · rw [← same, productions?_add_self]
    simp [lastFor?]
  · rw [productions?_add_of_ne grammar (Ne.symm same)]
    simp [lastFor?, same]

/-- The last of the rules for a name replaces those before it. -/
theorem productions?_addAll (grammar : Grammar) (rules : List Rule) (name : String) :
    (grammar.addAll rules).productions? name =
      (lastFor? name rules).or (grammar.productions? name) := by
  induction rules generalizing grammar with
  | nil => rfl
  | cons rule rest inductionHypothesis =>
    have last : lastFor? name (rule :: rest) = (lastFor? name rest).or (lastFor? name [rule]) :=
      lastFor?_append name [rule] rest
    rw [addAll, List.foldl_cons, ← addAll, inductionHypothesis, productions?_add, last,
      Option.or_assoc]

/-- Rules for distinct names that have none yet are appended. -/
theorem rules_addAll_of_distinct {grammar : Grammar} {rules : List Rule}
    (distinct : ((grammar.rules ++ rules).map Rule.name).Nodup) :
    (grammar.addAll rules).rules = grammar.rules ++ rules := by
  induction rules generalizing grammar with
  | nil => exact (List.append_nil _).symm
  | cons rule rest inductionHypothesis =>
    have kept : grammar.rules.filter (fun earlier => earlier.name ≠ rule.name) = grammar.rules := by
      refine List.filter_eq_self.mpr fun earlier member => ?_
      rw [List.map_append, List.nodup_append] at distinct
      simpa using distinct.2.2 _ (List.mem_map_of_mem member) rule.name (by simp)
    have added : (grammar.add rule).rules = grammar.rules ++ [rule] := congrArg (· ++ [rule]) kept
    rw [addAll, List.foldl_cons, ← addAll, inductionHypothesis, added, List.append_assoc]
    · rfl
    · rwa [added, List.append_assoc]

/-! ### Lines -/

/-- The rule that a line states, given with its terminator. -/
def ruleOf? (chunk : List Char) : Option Rule :=
  match readLine (dropTrailing isTerminator chunk) with
  | .rule rule => some rule
  | .blank | .malformed => none

/-- The first of the given lines that is neither blank nor a rule. The number and the offset are
those of the first of the lines. -/
def firstFault? (number offset : Nat) : List (List Char) → Option MissingArrow
  | [] => none
  | chunk :: rest =>
    let line := dropTrailing isTerminator chunk
    if readLine line = .malformed then some ⟨number, offset, byteLength line⟩
    else firstFault? (number + 1) (offset + byteLength chunk) rest

theorem firstFault?_eq_none_iff (number offset : Nat) (chunks : List (List Char)) :
    firstFault? number offset chunks = none ↔
      ∀ chunk ∈ chunks, readLine (dropTrailing isTerminator chunk) ≠ .malformed := by
  induction chunks generalizing number offset with
  | nil => simp [firstFault?]
  | cons chunk rest inductionHypothesis =>
    rw [firstFault?, List.forall_mem_cons]
    by_cases malformed : readLine (dropTrailing isTerminator chunk) = .malformed
    · simp [malformed]
    · simp [malformed, inductionHypothesis]

/-- What is read is a fault, or else the rules that were stated. -/
def outcomeOf (fault : Option MissingArrow) (grammar : Grammar) : Except MissingArrow Grammar :=
  match fault with
  | some place => .error place
  | none => .ok grammar

theorem readLines_eq (grammar : Grammar) (number offset : Nat) (lines : List (List Char)) :
    readLines grammar number offset lines =
      outcomeOf (firstFault? number offset lines) (grammar.addAll (lines.filterMap ruleOf?)) := by
  induction lines generalizing grammar number offset with
  | nil => rfl
  | cons chunk rest inductionHypothesis =>
    rw [readLines, firstFault?, List.filterMap_cons, ruleOf?]
    cases readLine (dropTrailing isTerminator chunk) with
    | blank => exact inductionHypothesis _ _ _
    | rule rule => exact inductionHypothesis _ _ _
    | malformed => rfl

/-- The place of a fault, when more lines stand before it. -/
def MissingArrow.behind (lines bytes : Nat) (place : MissingArrow) : MissingArrow :=
  ⟨place.line + lines, place.offset + bytes, place.length⟩

theorem MissingArrow.behind_comp_behind (lines bytes others more : Nat) :
    behind others more ∘ behind lines bytes = behind (lines + others) (bytes + more) := by
  funext place
  simp [behind, Nat.add_assoc]

theorem firstFault?_add (number offset lines bytes : Nat) (chunks : List (List Char)) :
    firstFault? (number + lines) (offset + bytes) chunks =
      (firstFault? number offset chunks).map (MissingArrow.behind lines bytes) := by
  induction chunks generalizing number offset with
  | nil => rfl
  | cons chunk rest inductionHypothesis =>
    rw [firstFault?, firstFault?]
    by_cases malformed : readLine (dropTrailing isTerminator chunk) = .malformed
    · simp [malformed, MissingArrow.behind]
    · simp only [malformed, if_false]
      rw [Nat.add_right_comm, Nat.add_right_comm offset, inductionHypothesis]

theorem firstFault?_append (number offset : Nat) (first second : List (List Char)) :
    firstFault? number offset (first ++ second) =
      (firstFault? number offset first).or
        ((firstFault? number offset second).map
          (MissingArrow.behind first.length (byteLength first.flatten))) := by
  induction first generalizing number offset with
  | nil =>
    rw [List.nil_append, ← firstFault?_add]
    rfl
  | cons chunk rest inductionHypothesis =>
    rw [List.cons_append, firstFault?, firstFault?]
    by_cases malformed : readLine (dropTrailing isTerminator chunk) = .malformed
    · simp [malformed]
    · simp only [malformed, if_false]
      rw [inductionHypothesis, firstFault?_add number offset 1 (byteLength chunk) second,
        Option.map_map, MissingArrow.behind_comp_behind, List.length_cons, List.flatten_cons,
        byteLength_append, Nat.add_comm 1]

/-! ### Sources -/

/-- The rules that the lines of a source state, in order. -/
def rulesOf (source : List Char) : List Rule :=
  (chunks source).filterMap ruleOf?

/-- The first line of a source that is neither blank nor a rule. -/
def faultOf? (source : List Char) : Option MissingArrow :=
  firstFault? 1 0 (chunks source)

theorem parse_eq (source : String) :
    parse source = outcomeOf (faultOf? source.toList) (empty.addAll (rulesOf source.toList)) :=
  readLines_eq empty 1 0 (chunks source.toList)

theorem parse_eq_ok_iff (source : String) (grammar : Grammar) :
    parse source = .ok grammar ↔
      faultOf? source.toList = none ∧ empty.addAll (rulesOf source.toList) = grammar := by
  rw [parse_eq]
  cases faultOf? source.toList <;> simp [outcomeOf]

theorem parse_eq_error_iff (source : String) (place : MissingArrow) :
    parse source = .error place ↔ faultOf? source.toList = some place := by
  rw [parse_eq]
  cases faultOf? source.toList <;> simp [outcomeOf]

/-- A name is given what the last rule for it in the source gives. -/
theorem productions?_of_parse {source : String} {grammar : Grammar}
    (parsed : parse source = .ok grammar) (name : String) :
    grammar.productions? name = lastFor? name (rulesOf source.toList) := by
  rw [← ((parse_eq_ok_iff source grammar).mp parsed).2, productions?_addAll, productions?_empty,
    Option.or_none]

theorem rulesOf_append {front : List Char} (closed : ClosedText front) (rest : List Char) :
    rulesOf (front ++ rest) = rulesOf front ++ rulesOf rest := by
  rw [rulesOf, chunks_append_of_closedText closed, List.filterMap_append]
  rfl

theorem faultOf?_append {front : List Char} (closed : ClosedText front) (rest : List Char) :
    faultOf? (front ++ rest) =
      (faultOf? front).or
        ((faultOf? rest).map (MissingArrow.behind (front.count '\n') (byteLength front))) := by
  rw [faultOf?, chunks_append_of_closedText closed, firstFault?_append,
    length_chunks_of_closedText closed, chunks_flatten]
  rfl

/-! ### Sources one after another -/

theorem closedText_flatMap {texts : List String} (closed : ∀ text ∈ texts, ClosedText text.toList) :
    ClosedText (texts.flatMap String.toList) := by
  induction texts with
  | nil => exact .inl rfl
  | cons text rest inductionHypothesis =>
    obtain ⟨first, others⟩ := List.forall_mem_cons.mp closed
    rw [List.flatMap_cons]
    exact first.append (inductionHypothesis others)

theorem rulesOf_flatMap {texts : List String} (closed : ∀ text ∈ texts, ClosedText text.toList) :
    rulesOf (texts.flatMap String.toList) = texts.flatMap fun text => rulesOf text.toList := by
  induction texts with
  | nil => rfl
  | cons text rest inductionHypothesis =>
    obtain ⟨first, others⟩ := List.forall_mem_cons.mp closed
    rw [List.flatMap_cons, List.flatMap_cons, rulesOf_append first, inductionHypothesis others]

theorem faultOf?_flatMap {texts : List String} (closed : ∀ text ∈ texts, ClosedText text.toList)
    (sound : ∀ text ∈ texts, faultOf? text.toList = none) :
    faultOf? (texts.flatMap String.toList) = none := by
  induction texts with
  | nil => rfl
  | cons text rest inductionHypothesis =>
    obtain ⟨first, others⟩ := List.forall_mem_cons.mp closed
    obtain ⟨soundFirst, soundOthers⟩ := List.forall_mem_cons.mp sound
    rw [List.flatMap_cons, faultOf?_append first, soundFirst,
      inductionHypothesis others soundOthers]
    rfl

end Golden.Grammar
