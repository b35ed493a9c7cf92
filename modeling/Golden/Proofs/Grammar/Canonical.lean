/-
This file says which grammars can be read at all. Names are trimmed and an arrow ends
them, bars and a second arrow end productions, line feeds end lines, and empty
productions at the end of a line are dropped; so no rule that was read has these
things where they would not have been read. The converse is shown by writing: every
grammar without them can be written so that it is read back, with one line for each
rule in any order, and with a bar behind the last production to keep blanks and
carriage returns that stand at its end.
-/

import Golden.Proofs.Grammar.Parsed
import Golden.Proofs.Grammar.Reading

namespace Golden.Grammar

open Golden.Text

/-! ### Arrows -/

/-- The characters between a name and its productions. -/
def arrow : List Char := ['-', '>']

theorem cutAtArrow?_cons_of_not_isPrefix {character : Char} {rest : List Char}
    (apart : ¬ arrow <+: character :: rest) :
    cutAtArrow? (character :: rest) =
      (cutAtArrow? rest).map fun (before, after) => (character :: before, after) := by
  rw [cutAtArrow?]
  rintro others rfl rfl
  exact apart ⟨others, rfl⟩

/-- A text is cut at its first arrow, when there is one before it. -/
theorem cutAtArrow?_append {before : List Char} (clean : ¬ arrow <:+: before)
    (after : List Char) : cutAtArrow? (before ++ arrow ++ after) = some (before, after) := by
  induction before with
  | nil => rfl
  | cons character rest inductionHypothesis =>
    rw [List.infix_cons_iff, not_or] at clean
    have apart : ¬ arrow <+: character :: (rest ++ arrow ++ after) := by
      intro starts
      obtain ⟨rfl, second⟩ := List.cons_prefix_cons.mp starts
      cases rest with
      | nil => exact absurd (List.cons_prefix_cons.mp second).1 (by decide)
      | cons next others =>
        obtain ⟨rfl, -⟩ := List.cons_prefix_cons.mp second
        exact clean.1 ⟨others, rfl⟩
    rw [List.cons_append, List.cons_append, cutAtArrow?_cons_of_not_isPrefix apart,
      inductionHypothesis clean.2]
    rfl

/-- What a text is cut into has no arrow before the one it is cut at. -/
theorem of_cutAtArrow?_eq_some {text before after : List Char}
    (cut : cutAtArrow? text = some (before, after)) :
    text = before ++ arrow ++ after ∧ ¬ arrow <:+: before := by
  fun_induction cutAtArrow? text generalizing before with
  | case1 => cases cut
  | case2 rest =>
    obtain ⟨rfl, rfl⟩ := Prod.mk.inj (Option.some.inj cut)
    exact ⟨rfl, by decide⟩
  | case3 character rest apart inductionHypothesis =>
    obtain ⟨⟨later, others⟩, found, equal⟩ := Option.map_eq_some_iff.mp cut
    obtain ⟨rfl, rfl⟩ := Prod.mk.inj equal
    obtain ⟨split, clean⟩ := inductionHypothesis found
    refine ⟨congrArg (character :: ·) split, ?_⟩
    rw [List.infix_cons_iff, not_or]
    refine ⟨fun starts => ?_, clean⟩
    obtain ⟨rfl, ⟨tail, second⟩⟩ := List.cons_prefix_cons.mp starts
    refine apart (tail ++ arrow ++ others) rfl ?_
    rw [split, ← second]
    rfl

theorem cutAtArrow?_eq_none_iff (text : List Char) :
    cutAtArrow? text = none ↔ ¬ arrow <:+: text := by
  constructor
  · intro uncut
    fun_induction cutAtArrow? text with
    | case1 => decide
    | case2 rest => cases uncut
    | case3 character rest apart inductionHypothesis =>
      rw [List.infix_cons_iff, not_or]
      refine ⟨fun starts => ?_, inductionHypothesis (Option.map_eq_none_iff.mp uncut)⟩
      obtain ⟨rfl, ⟨tail, second⟩⟩ := List.cons_prefix_cons.mp starts
      exact apart tail rfl second.symm
  · intro clean
    cases cut : cutAtArrow? text with
    | none => rfl
    | some parts =>
      exact absurd ⟨parts.1, parts.2, (of_cutAtArrow?_eq_some cut).1.symm⟩ clean

/-! ### Bodies -/

theorem bodyOf_isPrefix (written : List Char) : bodyOf written <+: written := by
  unfold bodyOf
  split
  next before after cut =>
    rw [(of_cutAtArrow?_eq_some cut).1, List.append_assoc]
    exact List.prefix_append _ _
  next => exact List.prefix_refl written

theorem arrow_not_isInfix_bodyOf (written : List Char) : ¬ arrow <:+: bodyOf written := by
  unfold bodyOf
  split
  next before after cut => exact (of_cutAtArrow?_eq_some cut).2
  next uncut => exact (cutAtArrow?_eq_none_iff written).mp uncut

theorem bodyOf_of_clean {written : List Char} (clean : ¬ arrow <:+: written) :
    bodyOf written = written := by
  rw [bodyOf, (cutAtArrow?_eq_none_iff written).mpr clean]

/-- Closing productions with bars puts no arrow between them. -/
theorem arrow_not_isInfix_flatMap {pieces : List (List Char)}
    (clean : ∀ piece ∈ pieces, ¬ arrow <:+: piece) :
    ¬ arrow <:+: pieces.flatMap fun piece => piece ++ ['|'] := by
  induction pieces with
  | nil => decide
  | cons piece rest inductionHypothesis =>
    obtain ⟨first, others⟩ := List.forall_mem_cons.mp clean
    rw [List.flatMap_cons, List.append_assoc, List.infix_append_iff, List.singleton_append,
      List.infix_cons_iff]
    rintro (inside | (starts | later) | ⟨left, right, parts, ends, starts⟩)
    · exact first inside
    · exact absurd (List.cons_prefix_cons.mp starts).1 (by decide)
    · exact inductionHypothesis others later
    · -- An arrow across the end of a production would have the bar in it.
      have bar : right = [] ∨ '|' ∈ right := by
        cases right with
        | nil => exact .inl rfl
        | cons character others =>
          exact .inr ((List.cons_prefix_cons.mp starts).1 ▸ List.mem_cons_self)
      rcases bar with rfl | inside
      · rw [List.append_nil] at parts
        exact first (parts ▸ ends.isInfix)
      · have barred : '|' ∈ arrow := parts ▸ List.mem_append_right left inside
        exact absurd barred (by decide)

/-! ### Productions -/

theorem isInfix_intercalate {α : Type} {separator piece : List α} {pieces : List (List α)}
    (member : piece ∈ pieces) : piece <:+: separator.intercalate pieces := by
  induction pieces with
  | nil => cases member
  | cons first rest inductionHypothesis =>
    cases rest with
    | nil =>
      have whole : separator.intercalate [first] = first := List.intercalate_singleton
      exact whole.symm ▸ List.mem_singleton.mp member ▸ List.infix_refl piece
    | cons second others =>
      rw [List.intercalate_cons_cons]
      rcases List.mem_cons.mp member with rfl | later
      · rw [List.append_assoc]
        exact (List.prefix_append _ _).isInfix
      · exact (inductionHypothesis later).trans (List.suffix_append _ _).isInfix

/-- Pieces that are joined by a separator, with one more at the end. -/
theorem intercalate_append {α : Type} (separator : List α) {pieces : List (List α)}
    (nonempty : pieces ≠ []) :
    separator.intercalate pieces ++ separator = pieces.flatMap fun piece => piece ++ separator := by
  induction pieces with
  | nil => exact absurd rfl nonempty
  | cons first rest inductionHypothesis =>
    cases rest with
    | nil => simp
    | cons second others =>
      rw [List.intercalate_cons_cons, List.append_assoc, inductionHypothesis (List.cons_ne_nil _ _)]
      rfl

/-! ### Canonical rules -/

/-- A rule that a line can state. -/
structure CanonicalRule (rule : Rule) : Prop where
  name_trimmed : trim rule.name.toList = rule.name.toList
  name_line : '\n' ∉ rule.name.toList
  name_arrow : ¬ arrow <:+: rule.name.toList
  productions_ne_nil : rule.productions ≠ []
  production_clean : ∀ production ∈ rule.productions, '\n' ∉ production.toList ∧
    '|' ∉ production.toList ∧ ¬ arrow <:+: production.toList
  /-- The last production is not empty unless it is the only one. -/
  last_some : rule.productions.getLast? = some "" → rule.productions = [""]

/-- A grammar all of whose rules a line can state. -/
def IsCanonical (grammar : Grammar) : Prop :=
  ∀ rule ∈ grammar.rules, CanonicalRule rule

/-- The productions of a line are parts of what is written there. -/
theorem isInfix_of_mem_productionsOf {written : List Char} {production : String}
    (member : production ∈ productionsOf written) : production.toList <:+: bodyOf written := by
  obtain ⟨piece, listed, rfl⟩ := exists_piece_of_mem_productionsOf member
  have joined : ['|'].intercalate ((bodyOf written).splitOn '|') = bodyOf written :=
    List.intercalate_splitOn '|'
  rw [String.toList_ofList, ← joined]
  exact isInfix_intercalate listed

theorem getLast?_productionsOf {written : List Char}
    (last : (productionsOf written).getLast? = some "") : productionsOf written = [""] := by
  obtain ⟨first, others, -, equal⟩ := exists_productionsOf_eq written
  rw [equal] at last ⊢
  rw [dropTrailing_eq_rdropWhile] at last ⊢
  cases kept : others.rdropWhile List.isEmpty with
  | nil =>
    rw [kept, List.map_singleton, List.getLast?_singleton] at last
    rw [List.map_singleton, Option.some.inj last]
  | cons second rest =>
    -- What is kept of the others does not end in an empty production.
    have nonempty : others.rdropWhile List.isEmpty ≠ [] := kept ▸ List.cons_ne_nil _ _
    have final := List.rdropWhile_last_not List.isEmpty others nonempty
    rw [List.getLast?_map, List.getLast?_cons, List.getLast?_eq_some_getLast nonempty] at last
    have empty : (others.rdropWhile List.isEmpty).getLast nonempty = [] :=
      String.ofList_eq_empty_iff.mp (Option.some.inj last)
    rw [empty] at final
    exact absurd rfl final

theorem isCanonical_of_readLine {line : List Char} {rule : Rule} (clean : '\n' ∉ line)
    (reading : readLine line = .rule rule) : CanonicalRule rule := by
  unfold readLine at reading
  split at reading
  · cases reading
  · split at reading
    next blank name written cut =>
      obtain ⟨split, nameClean⟩ := of_cutAtArrow?_eq_some cut
      cases reading
      have namePart : trim name <:+: line := by
        rw [split, List.append_assoc]
        exact (trim_isInfix name).trans (List.prefix_append _ _).isInfix
      have writtenPart : bodyOf written <:+: line := by
        rw [split]
        exact (bodyOf_isPrefix written).isInfix.trans (List.suffix_append _ _).isInfix
      refine ⟨?_, ?_, ?_, productionsOf_ne_nil written, ?_, getLast?_productionsOf⟩
      · rw [String.toList_ofList, trim_trim]
      · rw [String.toList_ofList]
        exact fun inside => clean (namePart.subset inside)
      · rw [String.toList_ofList]
        exact fun inside => nameClean (inside.trans (trim_isInfix name))
      · intro production member
        have part := isInfix_of_mem_productionsOf member
        exact ⟨fun inside => clean (writtenPart.subset (part.subset inside)),
          bar_not_mem_of_mem_productionsOf member,
          fun inside => arrow_not_isInfix_bodyOf written (inside.trans part)⟩
    next => cases reading

/-- The line of a chunk has no line feed. -/
theorem lineFeed_not_mem_of_mem_chunks {text chunk : List Char} (member : chunk ∈ chunks text) :
    '\n' ∉ dropTrailing isTerminator chunk := by
  have inside {line : List Char} (clean : '\n' ∉ line) : '\n' ∉ dropTrailing isTerminator line :=
    fun feed => clean ((dropTrailing_isPrefix _ _).subset feed)
  induction text using cases_at_separator '\n' with
  | empty => cases member
  | unclosed line clean nonempty =>
    rw [chunks_of_not_mem clean nonempty, List.mem_singleton] at member
    exact member ▸ inside clean
  | closed line rest clean inductionHypothesis =>
    rw [chunks_append_lineFeed clean] at member
    rcases List.mem_cons.mp member with rfl | later
    · rw [dropTrailing_eq_rdropWhile, List.rdropWhile_concat_pos _ _ _ rfl,
        ← dropTrailing_eq_rdropWhile]
      exact inside clean
    · exact inductionHypothesis later

theorem isCanonical_of_parse {source : String} {grammar : Grammar}
    (parsed : parse source = .ok grammar) : grammar.IsCanonical :=
  forall_rules_of_parse
    (fun _ member _ => isCanonical_of_readLine (lineFeed_not_mem_of_mem_chunks member)) parsed

/-! ### Writing canonical rules -/

/-- The line that states a rule, with a bar behind the last production. -/
def lineOf (rule : Rule) : String :=
  rule.name ++ "->" ++ "|".intercalate rule.productions ++ "|\n"

/-- A source that states rules in order. -/
def sourceOf (rules : List Rule) : String :=
  String.join (rules.map lineOf)

/-- What stands behind the arrow in the line of a rule. -/
def writtenOf (rule : Rule) : List Char :=
  ['|'].intercalate (rule.productions.map String.toList) ++ ['|']

/-- The line of a rule without its line feed. -/
def openLineOf (rule : Rule) : List Char :=
  rule.name.toList ++ arrow ++ writtenOf rule

theorem toList_lineOf (rule : Rule) : (lineOf rule).toList = openLineOf rule ++ ['\n'] := by
  simp [lineOf, openLineOf, writtenOf, arrow, String.toList_intercalate]

theorem closedText_lineOf (rule : Rule) : ClosedText (lineOf rule).toList := by
  rw [toList_lineOf]
  exact .inr List.getLast?_concat

/-- The bar at the end of a line keeps what stands before it. -/
theorem dropTrailing_lineOf (rule : Rule) :
    dropTrailing isTerminator (openLineOf rule ++ ['\n']) = openLineOf rule := by
  rw [dropTrailing_eq_rdropWhile, List.rdropWhile_concat_pos _ _ _ rfl, openLineOf, writtenOf,
    ← List.append_assoc, List.rdropWhile_concat_neg _ _ _ (by decide)]

section

variable {rule : Rule} (canonical : CanonicalRule rule)

include canonical

theorem writtenOf_eq_flatMap :
    writtenOf rule =
      (rule.productions.map String.toList).flatMap fun production => production ++ ['|'] :=
  intercalate_append ['|'] (mt List.map_eq_nil_iff.mp canonical.productions_ne_nil)

theorem productionsOf_writtenOf : productionsOf (writtenOf rule) = rule.productions := by
  have clean : ∀ piece ∈ rule.productions.map String.toList, ¬ arrow <:+: piece :=
    List.forall_mem_map.mpr fun production member =>
      (canonical.production_clean production member).2.2
  have unbarred : ∀ piece ∈ rule.productions.map String.toList, '|' ∉ piece :=
    List.forall_mem_map.mpr fun production member =>
      (canonical.production_clean production member).2.1
  have cut : (bodyOf (writtenOf rule)).splitOn '|' =
      rule.productions.map String.toList ++ [[]] := by
    rw [writtenOf_eq_flatMap canonical, bodyOf_of_clean (arrow_not_isInfix_flatMap clean),
      splitOn_flatMap_append unbarred]
  obtain ⟨first, others, equal⟩ := List.exists_cons_of_ne_nil canonical.productions_ne_nil
  -- Of the pieces behind the first, only the empty one behind the last bar is dropped.
  have kept : dropTrailing List.isEmpty (others.map String.toList ++ [[]]) =
      others.map String.toList := by
    rw [dropTrailing_eq_rdropWhile, List.rdropWhile_concat_pos _ _ _ rfl,
      List.rdropWhile_eq_self_iff]
    intro nonempty empty
    rw [List.getLast_map, List.isEmpty_iff, String.toList_eq_nil_iff] at empty
    have some : others ≠ [] := mt List.map_eq_nil_iff.mpr nonempty
    have last : rule.productions.getLast? = Option.some "" := by
      rw [equal, List.getLast?_cons, List.getLast?_eq_some_getLast some, empty]
      rfl
    exact some (List.cons.inj (equal.symm.trans (canonical.last_some last))).2
  rw [productionsOf, cut, equal, List.map_cons, List.cons_append]
  dsimp only
  rw [kept, List.map_cons, List.map_map, String.ofList_toList]
  exact congrArg _ ((List.map_congr_left fun production _ => String.ofList_toList).trans
    (List.map_id others))

theorem readLine_openLineOf : readLine (openLineOf rule) = .rule rule := by
  have visible : ¬ (trim (openLineOf rule)).isEmpty = true := by
    rw [List.isEmpty_iff, trim_eq_nil_iff]
    intro blank
    exact absurd (blank '-' (by simp [openLineOf, arrow])) (by decide)
  rw [readLine, if_neg visible, openLineOf, cutAtArrow?_append canonical.name_arrow]
  dsimp only
  rw [canonical.name_trimmed, productionsOf_writtenOf canonical, String.ofList_toList]

theorem lineFeed_not_mem_openLineOf : '\n' ∉ openLineOf rule := by
  rw [openLineOf, writtenOf_eq_flatMap canonical, List.mem_append, List.mem_append, not_or, not_or]
  refine ⟨⟨canonical.name_line, by decide⟩, fun inside => ?_⟩
  obtain ⟨piece, member, inPiece⟩ := List.mem_flatMap.mp inside
  obtain ⟨production, listed, rfl⟩ := List.mem_map.mp member
  rcases List.mem_append.mp inPiece with inProduction | inBar
  · exact (canonical.production_clean production listed).1 inProduction
  · exact absurd inBar (by decide)

theorem chunks_lineOf : chunks (lineOf rule).toList = [openLineOf rule ++ ['\n']] := by
  rw [toList_lineOf, chunks_append_lineFeed (lineFeed_not_mem_openLineOf canonical)]
  rfl

theorem rulesOf_lineOf : rulesOf (lineOf rule).toList = [rule] := by
  have stated : ruleOf? (openLineOf rule ++ ['\n']) = some rule := by
    rw [ruleOf?, dropTrailing_lineOf, readLine_openLineOf canonical]
  rw [rulesOf, chunks_lineOf canonical, List.filterMap_cons_some stated, List.filterMap_nil]

theorem faultOf?_lineOf : faultOf? (lineOf rule).toList = none := by
  rw [faultOf?, chunks_lineOf canonical, firstFault?_eq_none_iff, List.forall_mem_singleton,
    dropTrailing_lineOf, readLine_openLineOf canonical]
  exact Reading.noConfusion

end

/-! ### Reading what was written -/

/-- Canonical rules for distinct names are read back from the lines that state them. -/
theorem parse_sourceOf {rules : List Rule} (canonical : ∀ rule ∈ rules, CanonicalRule rule)
    (distinct : (rules.map Rule.name).Nodup) :
    parse (sourceOf rules) = .ok ⟨rules, distinct⟩ := by
  have closed : ∀ text ∈ rules.map lineOf, ClosedText text.toList :=
    List.forall_mem_map.mpr fun rule _ => closedText_lineOf rule
  have sound : ∀ text ∈ rules.map lineOf, faultOf? text.toList = none :=
    List.forall_mem_map.mpr fun rule member => faultOf?_lineOf (canonical rule member)
  have stated : rulesOf (sourceOf rules).toList = rules := by
    rw [sourceOf, String.toList_join, rulesOf_flatMap closed, List.flatMap_map]
    refine (List.flatMap_congr fun rule member => rulesOf_lineOf (canonical rule member)).trans ?_
    exact List.flatMap_singleton' rules
  rw [parse_eq_ok_iff, stated]
  constructor
  · rw [sourceOf, String.toList_join, faultOf?_flatMap closed sound]
  · have added : (empty.addAll rules).rules = rules := rules_addAll_of_distinct distinct
    exact eq_of_rules_eq added

/-- A grammar can be read exactly when it is canonical. A canonical grammar is read from the lines
that state its rules, in whatever order the rules are; so what was read can be written and read
again. -/
theorem read_grammars_are_canonical (grammar : Grammar) :
    ((∃ source, parse source = .ok grammar) ↔ grammar.IsCanonical) ∧
    (grammar.IsCanonical → ∀ rules : List Rule, rules.Perm grammar.rules →
      ∃ read, parse (sourceOf rules) = .ok read ∧ read.rules = rules ∧
        ∀ name, read.productions? name = grammar.productions? name) ∧
    ∀ source, parse source = .ok grammar → parse (sourceOf grammar.rules) = .ok grammar := by
  refine ⟨⟨?_, ?_⟩, ?_, ?_⟩
  · rintro ⟨source, parsed⟩
    exact isCanonical_of_parse parsed
  · intro canonical
    exact ⟨_, parse_sourceOf canonical grammar.distinct⟩
  · intro canonical rules perm
    have distinct : (rules.map Rule.name).Nodup :=
      (perm.map Rule.name).nodup_iff.mpr grammar.distinct
    refine ⟨⟨rules, distinct⟩,
      parse_sourceOf (fun rule member => canonical rule (perm.mem_iff.mp member)) distinct, rfl, ?_⟩
    intro name
    refine Option.ext fun productions => ?_
    rw [productions?_eq_some_iff, productions?_eq_some_iff]
    exact perm.mem_iff
  · intro source parsed
    exact parse_sourceOf (isCanonical_of_parse parsed) grammar.distinct

/-- A grammar with a name that ends like an arrow, a production that starts like the rest of one,
and productions that are empty or end in a carriage return. -/
def intricate : Grammar where
  rules := [⟨"a-", [">b", "", " c\r"]⟩, ⟨"", [""]⟩]
  distinct := by decide

/-- The grammar is read from a source with blanks around its names, productions that are dropped and
text behind a second arrow, and it is read again from the lines of its rules in the other order. -/
theorem read_intricate :
    parse "\t a-\u3000->>b|| c\r|||\r\n \n->->a|b" = .ok intricate ∧ intricate.IsCanonical ∧
    sourceOf intricate.rules.reverse = "->|\na-->>b|| c\r|\n" ∧
    ∃ read, parse "->|\na-->>b|| c\r|\n" = .ok read ∧ read.rules = intricate.rules.reverse := by
  have parsed : parse "\t a-\u3000->>b|| c\r|||\r\n \n->->a|b" = .ok intricate := by rfl
  have canonical := (read_grammars_are_canonical intricate).1.mp ⟨_, parsed⟩
  have written : sourceOf intricate.rules.reverse = "->|\na-->>b|| c\r|\n" := by decide
  obtain ⟨read, again, rules, -⟩ := (read_grammars_are_canonical intricate).2.1 canonical
    intricate.rules.reverse (List.reverse_perm _)
  exact ⟨parsed, canonical, written, read, written ▸ again, rules⟩

end Golden.Grammar
