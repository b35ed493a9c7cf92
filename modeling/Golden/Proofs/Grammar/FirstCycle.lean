/-
This file says which cycle is reported when a symbol has no expansion. The report is a
path of names. It starts at the symbol that was asked for, and each of its names is the
first symbol, in the order in which the productions of the name before it are written,
that has no expansion even on its own. It ends at the first name that stands on it
already. So the path runs into a cycle of the grammar and once round it.

The search does not expand symbols on their own: it expands them under the names that
are being expanded, and those alone can make it fail. What carries the proof is that
these names always lie on a way to the symbol that is being expanded. A symbol that
leads back to one of them therefore lies on a cycle, and fails on its own as well. So
both kinds of failure meet the same symbol first.
-/

import Golden.Grammar.File
import Golden.Proofs.Grammar.Recursion
import Mathlib.Data.List.Chain
import Mathlib.Data.List.Nodup

namespace Golden.Grammar

/-! ### The first symbol that fails -/

/-- The first symbol in the productions of a name that has no expansion on its own. -/
def culprit? (grammar : Grammar) (name : String) : Option String :=
  ((grammar.written name).find? fun character =>
    !(grammar.expand (String.singleton character)).isOk).map String.singleton

variable {grammar : Grammar} {active : List String} {symbol : String}

theorem isOk_eq_true_iff {α ε : Type} (outcome : Except ε α) :
    outcome.isOk = true ↔ ∃ value, outcome = .ok value := by
  cases outcome <;> simp [Except.isOk, Except.toBool]

theorem isOk_eq_false_iff {α ε : Type} (outcome : Except ε α) :
    outcome.isOk = false ↔ ∃ fault, outcome = .error fault := by
  cases outcome <;> simp [Except.isOk, Except.toBool]

/-- A name is the first symbol that fails exactly when it has no expansion and is written behind
symbols that have one. -/
theorem culprit?_eq_some_iff (grammar : Grammar) (symbol name : String) :
    grammar.culprit? symbol = some name ↔
      ∃ before character after, grammar.written symbol = before ++ character :: after ∧
        (∀ other ∈ before, ∃ part, grammar.expand (String.singleton other) = .ok part) ∧
        (∃ cycle, grammar.expand (String.singleton character) = .error cycle) ∧
        String.singleton character = name := by
  unfold culprit?
  simp only [Option.map_eq_some_iff, List.find?_eq_some_iff_append, Bool.not_not,
    Bool.not_eq_true', isOk_eq_true_iff, isOk_eq_false_iff]
  constructor
  · rintro ⟨character, ⟨fails, before, after, split, earlier⟩, named⟩
    exact ⟨before, character, after, split, earlier, fails, named⟩
  · rintro ⟨before, character, after, split, earlier, fails, named⟩
    exact ⟨character, ⟨fails, before, after, split, earlier⟩, named⟩

/-- The first symbol that fails is used and has no expansion. -/
theorem of_culprit?_eq_some {name : String} (first : grammar.culprit? symbol = some name) :
    grammar.Uses symbol name ∧ ∃ cycle, grammar.expand name = .error cycle := by
  obtain ⟨before, character, after, split, -, ⟨cycle, fails⟩, rfl⟩ :=
    (culprit?_eq_some_iff grammar symbol name).mp first
  have written : character ∈ grammar.written symbol := by
    rw [split]
    exact List.mem_append_right before List.mem_cons_self
  exact ⟨⟨mem_names_of_expandUnder_eq_error fails, character,
    (mem_written_iff grammar symbol character).mp written, rfl⟩, cycle, fails⟩

/-! ### Failing alone and failing on the way -/

/-- While the names on a way to a symbol are being expanded, a character of its productions has an
expansion exactly when it has one on its own. -/
theorem exists_expandUnder_iff_exists_expand (ways : ∀ name ∈ active, grammar.Reaches name symbol)
    {character : Char} (written : character ∈ grammar.written symbol) :
    (∃ part, grammar.expandUnder (active ++ [symbol]) (String.singleton character) = .ok part) ↔
      ∃ part, grammar.expand (String.singleton character) = .ok part := by
  unfold expand
  rw [exists_expandUnder_iff, exists_expandUnder_iff]
  constructor
  · intro free reached ruled way
    exact ⟨List.not_mem_nil, (free reached ruled way).2⟩
  · intro free reached ruled way
    refine ⟨fun met => ?_, (free reached ruled way).2⟩
    -- A name that is being expanded and is reached from the character is reached from itself.
    have use := ((mem_written_iff grammar symbol character).mp written).uses way ruled
    have back : grammar.Reaches reached symbol := by
      rcases List.mem_append.mp met with earlier | last
      · exact ways reached earlier
      · rw [List.mem_singleton.mp last]
        exact .refl
    exact (free reached ruled way).2 (Relation.TransGen.trans_right back (.head' use way))

/-! ### The path that is reported -/

/-- A path goes on, from one of its names to the next, with the first symbol that fails. -/
def FollowsCulprits (grammar : Grammar) (path : List String) : Prop :=
  path.IsChain fun name next => grammar.culprit? name = some next

/-- A path ends with a name at the first place at which a name stands on it again. -/
def EndsAtReturn (path : List String) (name : String) : Prop :=
  ∃ passed, path = passed ++ [name] ∧ passed.Nodup ∧ name ∈ passed

/-- The path that is reported while the names on a way to a symbol are being expanded goes on from
these names with the symbol, follows the first symbols that fail, and ends at the first return. -/
theorem exists_trail_of_expandUnder_eq_error {cycle : Cycle} (distinct : active.Nodup)
    (ways : ∀ name ∈ active, grammar.Reaches name symbol)
    (failed : grammar.expandUnder active symbol = .error cycle) :
    ∃ trail, cycle.path = active ++ symbol :: trail ∧
      grammar.FollowsCulprits (symbol :: trail) ∧ EndsAtReturn cycle.path cycle.symbol := by
  induction active, symbol using expandUnder.induct grammar with
  | case1 active symbol literal =>
    rw [expandUnder_of_no_rule literal] at failed
    cases failed
  | case2 active symbol productions ruled met =>
    rw [expandUnder_of_mem ruled met] at failed
    cases failed
    exact ⟨[], rfl, .singleton symbol, active, rfl, distinct, met⟩
  | case3 active symbol productions ruled fresh inductionHypothesis =>
    obtain ⟨before, character, after, split, earlier, below⟩ :=
      (expandUnder_eq_error_iff ruled fresh cycle).mp failed
    have written : ∀ other ∈ before ++ character :: after, other ∈ grammar.written symbol :=
      fun other member => split ▸ member
    have alone : ∀ other ∈ before, ∃ part, grammar.expand (String.singleton other) = .ok part :=
      fun other member => (exists_expandUnder_iff_exists_expand ways
        (written other (List.mem_append_left _ member))).mp (earlier other member)
    have here : character ∈ grammar.written symbol := written character (by simp)
    have fails : ∃ fault, grammar.expand (String.singleton character) = .error fault := by
      rw [← isOk_eq_false_iff, Bool.eq_false_iff, ne_eq, isOk_eq_true_iff,
        ← exists_expandUnder_iff_exists_expand ways here, below]
      simp
    have first : grammar.culprit? symbol = some (String.singleton character) :=
      (culprit?_eq_some_iff _ _ _).mpr ⟨before, character, after, split, alone, fails, rfl⟩
    have use := (of_culprit?_eq_some first).1
    have furtherDistinct : (active ++ [symbol]).Nodup :=
      distinct.append (List.nodup_singleton symbol) (List.disjoint_singleton.mpr fresh)
    have furtherWays : ∀ name ∈ active ++ [symbol],
        grammar.Reaches name (String.singleton character) := by
      intro name member
      rcases List.mem_append.mp member with earlier | last
      · exact (ways name earlier).tail use
      · rw [List.mem_singleton.mp last]
        exact .single use
    obtain ⟨trail, path, chain, returns⟩ :=
      inductionHypothesis character furtherDistinct furtherWays below
    refine ⟨String.singleton character :: trail, ?_, .cons_cons first chain, returns⟩
    rw [path, List.append_assoc, List.singleton_append]

/-- The names on a path of first failures are used by one another. -/
theorem FollowsCulprits.uses {path : List String} (follows : grammar.FollowsCulprits path) :
    path.IsChain grammar.Uses :=
  follows.imp fun _ _ first => (of_culprit?_eq_some first).1

/-- Every name on a path of first failures has a rule when its first name has one. -/
theorem FollowsCulprits.mem_names {path : List String} {name : String}
    (follows : grammar.FollowsCulprits (symbol :: path)) (ruled : symbol ∈ grammar.names)
    (member : name ∈ symbol :: path) : name ∈ grammar.names := by
  induction path generalizing symbol with
  | nil => exact List.mem_singleton.mp member ▸ ruled
  | cons next rest inductionHypothesis =>
    obtain ⟨first, further⟩ := List.isChain_cons_cons.mp follows
    rcases List.mem_cons.mp member with rfl | later
    · exact ruled
    · exact inductionHypothesis further (of_culprit?_eq_some first).1.1 later

/-- From the first occurrence of the name to which it returns on, a path of first failures is a
cycle. -/
theorem exists_cycle_of_endsAtReturn {path : List String} {name : String}
    (follows : grammar.FollowsCulprits path) (returns : EndsAtReturn path name) :
    ∃ before between, path = before ++ name :: (between ++ [name]) ∧
      (name :: (between ++ [name])).IsChain grammar.Uses := by
  obtain ⟨passed, rfl, -, member⟩ := returns
  obtain ⟨before, between, rfl⟩ := List.append_of_mem member
  have whole : before ++ name :: between ++ [name] = before ++ name :: (between ++ [name]) := by
    rw [List.append_assoc, List.cons_append]
  rw [whole] at follows ⊢
  exact ⟨before, between, rfl, follows.uses.right_of_append⟩

/-- A path of names with rules that ends at its first return has at most one name more than there
are rules. -/
theorem length_le_of_endsAtReturn {path : List String} {name : String}
    (returns : EndsAtReturn path name) (ruled : ∀ other ∈ path, other ∈ grammar.names) :
    path.length ≤ grammar.size + 1 := by
  obtain ⟨passed, rfl, distinct, -⟩ := returns
  have bound : passed.length ≤ grammar.size :=
    length_le_size distinct fun other member => ruled other (List.mem_append_left _ member)
  rw [List.length_append, List.length_singleton]
  exact Nat.add_le_add_right bound 1

/-- When a symbol has no expansion, the path to the first cycle is reported. The path starts at
the symbol, goes on with the first symbol of its last name's productions that has no expansion on
its own, and ends at the first name that stands on it already, which is the one that is reported.
All names on the path have rules, those before the last one are distinct, there are at most as
many of these as rules, and from the earlier occurrence of the reported name on the path is a
cycle of the grammar. -/
theorem reported_cycle_is_first {cycle : Cycle} (failed : grammar.expand symbol = .error cycle) :
    (Error.recursive cycle).help? =
        some ("expansion path: " ++ " -> ".intercalate cycle.path) ∧
    cycle.path.head? = some symbol ∧
    cycle.path.IsChain (fun name next => grammar.culprit? name = some next) ∧
    (∃ passed, cycle.path = passed ++ [cycle.symbol] ∧ passed.Nodup ∧ cycle.symbol ∈ passed) ∧
    (∀ name ∈ cycle.path, name ∈ grammar.names) ∧
    cycle.path.length ≤ grammar.size + 1 ∧
    ∃ before between, cycle.path = before ++ cycle.symbol :: (between ++ [cycle.symbol]) ∧
      (cycle.symbol :: (between ++ [cycle.symbol])).IsChain grammar.Uses := by
  obtain ⟨trail, path, follows, returns⟩ :=
    exists_trail_of_expandUnder_eq_error List.nodup_nil (by simp) failed
  rw [List.nil_append] at path
  have ruled : ∀ name ∈ cycle.path, name ∈ grammar.names := by
    rw [path]
    exact fun name => follows.mem_names (mem_names_of_expandUnder_eq_error failed)
  rw [← path] at follows
  refine ⟨rfl, ?_, follows, returns, ruled, length_le_of_endsAtReturn returns ruled,
    exists_cycle_of_endsAtReturn follows returns⟩
  rw [path]
  rfl

/-- A grammar with two cycles that have names in common, and a rule that is met on two ways. -/
def crossingCycles : Grammar :=
  empty.add ⟨"S", ["xD", "AB"]⟩ |>.add ⟨"A", ["DB", "S"]⟩ |>.add ⟨"B", ["zC"]⟩
    |>.add ⟨"C", ["y", "AS"]⟩ |>.add ⟨"D", ["y"]⟩

/-- Of two cycles through one name the one that is met first is reported, and the rule that is met
on two ways is passed over. -/
theorem reported_of_crossing_cycles :
    crossingCycles.expand "S" = .error ⟨"A", ["S", "A", "B", "C", "A"]⟩ ∧
    (Error.recursive ⟨"A", ["S", "A", "B", "C", "A"]⟩).help? =
      some "expansion path: S -> A -> B -> C -> A" ∧
    ["S", "A", "B", "C", "A"].IsChain fun name next =>
      crossingCycles.culprit? name = some next := by
  have failed : crossingCycles.expand "S" = .error ⟨"A", ["S", "A", "B", "C", "A"]⟩ := by
    decide +kernel
  obtain ⟨help, -, chain, -⟩ := reported_cycle_is_first failed
  exact ⟨failed, help.trans (by decide), chain⟩

end Golden.Grammar
