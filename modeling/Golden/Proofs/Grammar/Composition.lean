/-
This file puts sources together. When one source ends with a whole line, the lines
of another can follow it, and what is read of the two is told by what is read of
each: a fault of the first is the fault of both, a fault of the second moves behind
the lines of the first, and without faults the second grammar takes precedence. So
blank lines change nothing, an earlier rule for a name is lost, and lines may change
their places as long as those for one name keep their order.
-/

import Golden.Proofs.Grammar.Reading

namespace Golden.Grammar

open Golden.Text

/-! ### Texts that follow one another -/

theorem byteLength_of_perm {left right : List Char} (perm : left.Perm right) :
    byteLength left = byteLength right := by
  induction perm with
  | nil => rfl
  | cons character _ inductionHypothesis => rw [byteLength, byteLength, inductionHypothesis]
  | swap first second rest =>
    rw [byteLength, byteLength, byteLength, byteLength, Nat.add_left_comm]
  | trans _ _ first second => exact first.trans second

/-! ### Blank lines -/

theorem readLine_of_blank {line : List Char}
    (blank : ∀ character ∈ line, isBlank character = true) : readLine line = .blank := by
  rw [readLine, (trim_eq_nil_iff line).mpr blank]
  rfl

theorem readLine_of_mem_chunks_blank {text chunk : List Char}
    (blank : ∀ character ∈ text, isBlank character = true) (member : chunk ∈ chunks text) :
    readLine (dropTrailing isTerminator chunk) = .blank := by
  refine readLine_of_blank fun character inside => blank character ?_
  rw [← chunks_flatten text]
  exact List.mem_flatten_of_mem member ((dropTrailing_isPrefix _ _).subset inside)

theorem rulesOf_blank {text : List Char} (blank : ∀ character ∈ text, isBlank character = true) :
    rulesOf text = [] := by
  refine List.filterMap_eq_nil_iff.mpr fun chunk member => ?_
  rw [ruleOf?, readLine_of_mem_chunks_blank blank member]

theorem faultOf?_blank {text : List Char} (blank : ∀ character ∈ text, isBlank character = true) :
    faultOf? text = none := by
  refine (firstFault?_eq_none_iff 1 0 _).mpr fun chunk member => ?_
  rw [readLine_of_mem_chunks_blank blank member]
  exact Reading.noConfusion

/-! ### Sources that are read alike -/

/-- Two readings are alike when they give the same productions to every name, or fail at the same
place. -/
def Alike (left right : Except MissingArrow Grammar) : Prop :=
  match left, right with
  | .ok grammar, .ok other => ∀ name, grammar.productions? name = other.productions? name
  | .error place, .error other => place = other
  | _, _ => False

theorem alike_of_faultOf?_eq {left right : String}
    (fault : faultOf? left.toList = faultOf? right.toList)
    (last : ∀ name, lastFor? name (rulesOf left.toList) = lastFor? name (rulesOf right.toList)) :
    Alike (parse left) (parse right) := by
  rw [parse_eq, parse_eq, fault]
  cases faultOf? right.toList with
  | some place => rfl
  | none =>
    intro name
    rw [productions?_addAll, productions?_addAll, last]

/-- Whether a source states a rule for a name. -/
def states (name source : String) : Bool :=
  match parse source with
  | .ok grammar => (grammar.productions? name).isSome
  | .error _ => false

theorem lastFor?_of_states_eq_false {name source : String}
    (sound : faultOf? source.toList = none) (other : states name source = false) :
    lastFor? name (rulesOf source.toList) = none := by
  have parsed := (parse_eq_ok_iff source _).mpr ⟨sound, rfl⟩
  rw [states, parsed] at other
  rw [← productions?_of_parse parsed]
  exact Option.not_isSome_iff_eq_none.mp (Bool.not_eq_true _ ▸ other)

/-- For the last rule for a name only the sources matter that state one. -/
theorem lastFor?_flatMap_filter {texts : List String}
    (sound : ∀ text ∈ texts, faultOf? text.toList = none) (name : String) :
    lastFor? name (texts.flatMap fun text => rulesOf text.toList) =
      lastFor? name ((texts.filter (states name)).flatMap fun text => rulesOf text.toList) := by
  induction texts with
  | nil => rfl
  | cons text rest inductionHypothesis =>
    obtain ⟨first, others⟩ := List.forall_mem_cons.mp sound
    rw [List.flatMap_cons, lastFor?_append, inductionHypothesis others]
    cases stated : states name text with
    | true => rw [List.filter_cons_of_pos stated, List.flatMap_cons, lastFor?_append]
    | false =>
      rw [List.filter_cons_of_neg (by simp [stated]), lastFor?_of_states_eq_false first stated,
        Option.or_none]

/-! ### Two sources as one -/

section

variable {front back : String} (closed : ClosedText front.toList)

include closed

theorem faultOf?_toList_append :
    faultOf? (front ++ back).toList =
      (faultOf? front.toList).or ((faultOf? back.toList).map
        (MissingArrow.behind (front.toList.count '\n') (byteLength front.toList))) := by
  rw [String.toList_append, faultOf?_append closed]

theorem rulesOf_toList_append :
    rulesOf (front ++ back).toList = rulesOf front.toList ++ rulesOf back.toList := by
  rw [String.toList_append, rulesOf_append closed]

/-- Without faults the second of two sources takes precedence. -/
theorem exists_parse_append {first second : Grammar} (parsedFront : parse front = .ok first)
    (parsedBack : parse back = .ok second) :
    ∃ whole, parse (front ++ back) = .ok whole ∧ ∀ name,
      whole.productions? name = (second.productions? name).or (first.productions? name) := by
  have sound : faultOf? (front ++ back).toList = none := by
    rw [faultOf?_toList_append closed, ((parse_eq_ok_iff front first).mp parsedFront).1,
      ((parse_eq_ok_iff back second).mp parsedBack).1]
    rfl
  refine ⟨_, (parse_eq_ok_iff _ _).mpr ⟨sound, rfl⟩, fun name => ?_⟩
  rw [productions?_addAll, productions?_empty, Option.or_none, rulesOf_toList_append closed,
    lastFor?_append, productions?_of_parse parsedFront, productions?_of_parse parsedBack]

/-- A fault of the first of two sources is the fault of both. -/
theorem parse_append_of_error {place : MissingArrow} (failed : parse front = .error place) :
    parse (front ++ back) = .error place := by
  rw [parse_eq_error_iff, faultOf?_toList_append closed, (parse_eq_error_iff front place).mp failed]
  rfl

/-- A fault of the second of two sources moves behind the lines of the first. -/
theorem parse_append_of_ok_of_error {first : Grammar} {place : MissingArrow}
    (parsed : parse front = .ok first) (failed : parse back = .error place) :
    parse (front ++ back) = .error
      (place.behind (front.toList.count '\n') (byteLength front.toList)) := by
  rw [parse_eq_error_iff, faultOf?_toList_append closed,
    ((parse_eq_ok_iff front first).mp parsed).1, (parse_eq_error_iff back place).mp failed]
  rfl

/-- Blank lines between two sources do not change the grammar. -/
theorem toOption_parse_gap {gap : String} (closedGap : ClosedText gap.toList)
    (blank : ∀ character ∈ gap.toList, isBlank character = true) :
    (parse (front ++ gap ++ back)).toOption = (parse (front ++ back)).toOption := by
  have rules : rulesOf (gap ++ back).toList = rulesOf back.toList := by
    rw [rulesOf_toList_append closedGap, rulesOf_blank blank, List.nil_append]
  have fault : faultOf? (gap ++ back).toList = (faultOf? back.toList).map
      (MissingArrow.behind (gap.toList.count '\n') (byteLength gap.toList)) := by
    rw [faultOf?_toList_append closedGap, faultOf?_blank blank, Option.none_or]
  rw [String.append_assoc, parse_eq, parse_eq, faultOf?_toList_append closed,
    faultOf?_toList_append closed, rulesOf_toList_append closed, rulesOf_toList_append closed,
    rules, fault]
  cases faultOf? front.toList <;> cases faultOf? back.toList <;> rfl

/-- Sources between two others may change their places when those that state rules for one name
keep their order. -/
theorem alike_of_perm {texts others : List String} (perm : texts.Perm others)
    (parsed : ∀ text ∈ texts, ClosedText text.toList ∧ ∃ grammar, parse text = .ok grammar)
    (inOrder : ∀ name, texts.filter (states name) = others.filter (states name)) :
    Alike (parse (front ++ String.join texts ++ back))
      (parse (front ++ String.join others ++ back)) := by
  have closedTexts : ∀ text ∈ texts, ClosedText text.toList := fun text member =>
    (parsed text member).1
  have sound : ∀ text ∈ texts, faultOf? text.toList = none := fun text member =>
    let ⟨_, read⟩ := (parsed text member).2
    ((parse_eq_ok_iff text _).mp read).1
  have closedOthers : ∀ text ∈ others, ClosedText text.toList := fun text member =>
    closedTexts text (perm.mem_iff.mpr member)
  have soundOthers : ∀ text ∈ others, faultOf? text.toList = none := fun text member =>
    sound text (perm.mem_iff.mpr member)
  -- The two rows of sources have the same length in lines and bytes, and the same last rules.
  have characters := perm.flatMap_right String.toList
  refine alike_of_faultOf?_eq ?_ fun name => ?_
  · rw [String.append_assoc, String.append_assoc, faultOf?_toList_append closed,
      faultOf?_toList_append closed, String.toList_append, String.toList_append,
      String.toList_join, String.toList_join, faultOf?_append (closedText_flatMap closedTexts),
      faultOf?_append (closedText_flatMap closedOthers), faultOf?_flatMap closedTexts sound,
      faultOf?_flatMap closedOthers soundOthers, characters.count_eq,
      byteLength_of_perm characters]
  · have last : lastFor? name (rulesOf (texts.flatMap String.toList)) =
        lastFor? name (rulesOf (others.flatMap String.toList)) := by
      rw [rulesOf_flatMap closedTexts, rulesOf_flatMap closedOthers,
        lastFor?_flatMap_filter sound, lastFor?_flatMap_filter soundOthers, inOrder name]
    rw [String.append_assoc, String.append_assoc, rulesOf_toList_append closed,
      rulesOf_toList_append closed, String.toList_append, String.toList_append,
      String.toList_join, String.toList_join, rulesOf_append (closedText_flatMap closedTexts),
      rulesOf_append (closedText_flatMap closedOthers), lastFor?_append, lastFor?_append,
      lastFor?_append, lastFor?_append, last]

/-- Rules do not count when a later source has one for each of their names. -/
theorem alike_of_names_subset {text : String} {first second : Grammar}
    (closedText : ClosedText text.toList) (parsed : parse text = .ok first)
    (parsedBack : parse back = .ok second) (replaced : first.names ⊆ second.names) :
    Alike (parse (front ++ text ++ back)) (parse (front ++ back)) := by
  refine alike_of_faultOf?_eq ?_ fun name => ?_
  · rw [String.append_assoc, faultOf?_toList_append closed, faultOf?_toList_append closed,
      faultOf?_toList_append closedText, ((parse_eq_ok_iff text first).mp parsed).1,
      ((parse_eq_ok_iff back second).mp parsedBack).1]
    rfl
  · rw [String.append_assoc, rulesOf_toList_append closed, rulesOf_toList_append closed,
      rulesOf_toList_append closedText, lastFor?_append, lastFor?_append, lastFor?_append,
      ← productions?_of_parse parsed, ← productions?_of_parse parsedBack]
    cases given : second.productions? name with
    | some productions => rfl
    | none =>
      have absent : name ∉ first.names := fun member =>
        (productions?_eq_none_iff second name).mp given (replaced member)
      rw [(productions?_eq_none_iff first name).mpr absent, Option.none_or]

end

/-- What is read of two sources as one, when the first ends with a whole line: the second takes
precedence, a fault of the first stays where it is, and one of the second moves behind the first.
Blank lines between the two change nothing but where a fault stands, lines for different names may
change their places, and of the rules for one name the last one counts alone. -/
theorem parse_is_compositional (front back : String) (closed : ClosedText front.toList) :
    (∀ first second, parse front = .ok first → parse back = .ok second →
      ∃ whole, parse (front ++ back) = .ok whole ∧
        ∀ name, whole.productions? name = (second.productions? name).or (first.productions? name)) ∧
    (∀ place, parse front = .error place → parse (front ++ back) = .error place) ∧
    (∀ first place, parse front = .ok first → parse back = .error place →
      parse (front ++ back) = .error
        ⟨place.line + front.toList.count '\n', place.offset + byteLength front.toList,
          place.length⟩) ∧
    (∀ gap, ClosedText gap.toList → (∀ character ∈ gap.toList, isBlank character = true) →
      (parse (front ++ gap ++ back)).toOption = (parse (front ++ back)).toOption) ∧
    (∀ texts others : List String, texts.Perm others →
      (∀ text ∈ texts, ClosedText text.toList ∧ ∃ grammar, parse text = .ok grammar) →
      (∀ name, texts.filter (states name) = others.filter (states name)) →
      Alike (parse (front ++ String.join texts ++ back))
        (parse (front ++ String.join others ++ back))) ∧
    ∀ text first second, ClosedText text.toList → parse text = .ok first →
      parse back = .ok second → first.names ⊆ second.names →
      Alike (parse (front ++ text ++ back)) (parse (front ++ back)) := by
  refine ⟨?_, ?_, ?_, ?_, ?_, ?_⟩
  · intro first second parsedFront parsedBack
    exact exists_parse_append closed parsedFront parsedBack
  · intro place failed
    exact parse_append_of_error closed failed
  · intro first place parsed failed
    exact parse_append_of_ok_of_error closed parsed failed
  · intro gap closedGap blank
    exact toOption_parse_gap closed closedGap blank
  · intro texts others perm parsed inOrder
    exact alike_of_perm closed perm parsed inOrder
  · intro text first second closedText parsed parsedBack replaced
    exact alike_of_names_subset closed closedText parsed parsedBack replaced

/-- Two rules with a blank line between them. -/
def leadingRules : String := "S->A|\u00e9\r\n \nA->x\n"

/-- The second rule is replaced, and a rule for the empty name joins the first; and a line that is
no rule behind them is found where it stands in the whole. -/
theorem parse_behind_leadingRules :
    ClosedText leadingRules.toList ∧
    (∃ whole, parse (leadingRules ++ "A->y\n->|z") = .ok whole ∧
      whole.productions? "S" = some ["A", "\u00e9"] ∧ whole.productions? "A" = some ["y"] ∧
      whole.productions? "" = some ["", "z"]) ∧
    parse (leadingRules ++ "A->y\n->|z\nA = y") = .error ⟨6, 26, 5⟩ := by
  have closed : ClosedText leadingRules.toList := .inr (by decide)
  obtain ⟨first, parsed⟩ : ∃ first, parse leadingRules = .ok first ∧
      first.productions? "S" = some ["A", "\u00e9"] := ⟨_, rfl, by decide⟩
  obtain ⟨second, parsedBack⟩ : ∃ second, parse "A->y\n->|z" = .ok second ∧
      second.productions? "S" = none ∧ second.productions? "A" = some ["y"] ∧
      second.productions? "" = some ["", "z"] := ⟨_, rfl, by decide⟩
  refine ⟨closed, ?_, ?_⟩
  · obtain ⟨whole, read, given⟩ := (parse_is_compositional leadingRules "A->y\n->|z" closed).1
      first second parsed.1 parsedBack.1
    refine ⟨whole, read, ?_, ?_, ?_⟩
    · rw [given, parsedBack.2.1, parsed.2, Option.none_or]
    · rw [given, parsedBack.2.2.1, Option.some_or]
    · rw [given, parsedBack.2.2.2, Option.some_or]
  · exact (parse_is_compositional leadingRules "A->y\n->|z\nA = y" closed).2.2.1 first ⟨3, 10, 5⟩
      parsed.1 rfl

end Golden.Grammar
