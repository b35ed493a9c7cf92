/-
This file proves that pairing by key is the bijection of keys. It succeeds exactly
when the keys of the inputs differ from one another, those of the outputs do too,
and both sides have the same keys; every input is then paired with the one output
that has its key.

The inputs are gone through in order, and each takes its output away from those after
it. That cannot hinder an input with another key, and an input with the same key is
refused before it looks for an output. So the outputs that are taken, together with
those that are left, are always the outputs at the start, in another order. When none
are left, each output was taken once. The pairs depend on the outputs only through
the output of each key, and hence not on the order of the outputs.
-/

import Mathlib.Data.List.Nodup
import Mathlib.Data.List.Perm.Basic
import Golden.Fixture.Collection

namespace Golden.Fixture

namespace Collection

/-! ### Keys that were not seen before -/

/-- A name with a given key is not found when no name has it. -/
theorem find?_key_eq_none_iff (role : Role) (names : List String) (wanted : String) :
    (names.find? fun name => key role name = wanted) = none ↔ wanted ∉ names.map (key role) := by
  rw [List.find?_eq_none, List.mem_map]
  constructor
  · rintro missing ⟨name, member, same⟩
    exact missing name member (decide_eq_true same)
  · intro missing name member found
    exact missing ⟨name, member, of_decide_eq_true found⟩

/-- A name with a given key is found when there is one. -/
theorem exists_find?_key_iff (role : Role) (names : List String) (wanted : String) :
    (∃ found, (names.find? fun name => key role name = wanted) = some found) ↔
      wanted ∈ names.map (key role) := by
  rw [← Option.ne_none_iff_exists', ne_eq, find?_key_eq_none_iff, not_not]

/-- What is found has the key. -/
theorem of_find?_key_eq_some {role : Role} {names : List String} {wanted name : String}
    (found : (names.find? fun other => key role other = wanted) = some name) :
    name ∈ names ∧ key role name = wanted :=
  ⟨List.mem_of_find?_eq_some found, by simpa using List.find?_some found⟩

/-- Among names that can be told apart by their keys, the one with a given key is found. -/
theorem find?_key_eq_some_iff {role : Role} {names : List String}
    (differ : (names.map (key role)).Nodup) (wanted name : String) :
    (names.find? fun other => key role other = wanted) = some name ↔
      name ∈ names ∧ key role name = wanted := by
  constructor
  · exact of_find?_key_eq_some
  · rintro ⟨member, rfl⟩
    obtain ⟨other, found⟩ := (exists_find?_key_iff role names _).mpr (List.mem_map_of_mem member)
    obtain ⟨otherMember, same⟩ := of_find?_key_eq_some found
    rw [found, List.inj_on_of_nodup_map differ otherMember member same]

/-- The keys of names differ from one another and from the keys of those seen before. -/
def Fresh (role : Role) (seen names : List String) : Prop :=
  (names.map (key role)).Nodup ∧ (names.map (key role)).Disjoint (seen.map (key role))

theorem fresh_nil (role : Role) (seen : List String) : Fresh role seen [] :=
  ⟨List.nodup_nil, List.disjoint_nil_left _⟩

theorem fresh_cons_iff (role : Role) (seen : List String) (name : String) (rest : List String) :
    Fresh role seen (name :: rest) ↔
      key role name ∉ seen.map (key role) ∧ Fresh role (name :: seen) rest := by
  unfold Fresh
  rw [List.map_cons, List.map_cons, List.nodup_cons, List.disjoint_cons_left,
    List.disjoint_cons_right]
  tauto

theorem fresh_nothing_seen_iff (role : Role) (names : List String) :
    Fresh role [] names ↔ (names.map (key role)).Nodup := by
  unfold Fresh
  rw [List.map_nil]
  exact and_iff_left (List.disjoint_nil_right _)

/-- No key is repeated when every key is fresh. -/
theorem repeated?_eq_none_iff (role : Role) (seen names : List String) :
    repeated? role seen names = none ↔ Fresh role seen names := by
  induction names generalizing seen with
  | nil => exact iff_of_true rfl (fresh_nil role seen)
  | cons name rest inductionHypothesis =>
    rw [repeated?, fresh_cons_iff, ← find?_key_eq_none_iff]
    cases found : seen.find? fun earlier => key role earlier = key role name with
    | some first => simp
    | none => simpa using inductionHypothesis (name :: seen)

/-! ### The outputs that are taken -/

/-- The outputs that are taken by inputs with their keys, and those that are left, are all
outputs. -/
theorem of_partners_eq_ok {outputs seen inputs : List String} {matched : List (String × String)}
    {left : List String} (taken : partners outputs seen inputs = .ok (matched, left)) :
    matched.map Prod.fst = inputs ∧
      (∀ pair ∈ matched, key .output pair.2 = key .input pair.1) ∧
      (matched.map Prod.snd ++ left).Perm outputs := by
  induction inputs generalizing outputs seen matched left with
  | nil =>
    cases taken
    exact ⟨rfl, by simp, List.Perm.refl _⟩
  | cons input rest inductionHypothesis =>
    rw [partners] at taken
    split at taken
    · cases taken
    split at taken
    · cases taken
    · rename_i output found
      obtain ⟨member, same⟩ := of_find?_key_eq_some found
      cases later : partners (outputs.erase output) (input :: seen) rest with
      | error error =>
        rw [later] at taken
        cases taken
      | ok result =>
        rw [later] at taken
        cases taken
        obtain ⟨firsts, keys, all⟩ := inductionHypothesis later
        refine ⟨?_, ?_, ?_⟩
        · rw [List.map_cons, firsts]
        · intro pair listed
          rcases List.mem_cons.mp listed with rfl | further
          · exact same
          · exact keys pair further
        · exact (all.cons output).trans (List.perm_cons_erase member).symm

/-- An input with another key finds its output whether or not an output has been taken. -/
theorem mem_map_key_erase_iff {role : Role} {names : List String} {taken wanted : String}
    (other : wanted ≠ key role taken) :
    wanted ∈ (names.erase taken).map (key role) ↔ wanted ∈ names.map (key role) := by
  rw [List.mem_map, List.mem_map]
  constructor
  · rintro ⟨name, member, same⟩
    exact ⟨name, List.mem_of_mem_erase member, same⟩
  · rintro ⟨name, member, same⟩
    have kept : name ≠ taken := by
      rintro rfl
      exact other same.symm
    exact ⟨name, (List.mem_erase_of_ne kept).mpr member, same⟩

/-- Once an input has taken its output, outputs are there for the inputs after it if they were there
before. -/
theorem forall_mem_map_key_erase_iff {input output : String} {seen rest : List String}
    (outputs : List String) (same : key .output output = key .input input)
    (fresh : Fresh .input (input :: seen) rest) :
    (∀ later ∈ rest, key .input later ∈ (outputs.erase output).map (key .output)) ↔
      ∀ later ∈ rest, key .input later ∈ outputs.map (key .output) := by
  refine forall₂_congr fun later listed => mem_map_key_erase_iff ?_
  rw [same]
  intro equal
  refine fresh.2 (List.mem_map_of_mem listed) ?_
  rw [equal, List.map_cons]
  exact List.mem_cons_self

theorem exists_map_eq_ok_iff {ε α β : Type} (change : α → β) (outcome : Except ε α) :
    (∃ result, outcome.map change = .ok result) ↔ ∃ result, outcome = .ok result := by
  cases outcome <;> simp [Except.map]

/-- Every input finds an output when the keys of the inputs are fresh and outputs have them. -/
theorem exists_partners_iff (outputs seen inputs : List String) :
    (∃ result, partners outputs seen inputs = .ok result) ↔
      Fresh .input seen inputs ∧
        ∀ input ∈ inputs, key .input input ∈ outputs.map (key .output) := by
  induction inputs generalizing outputs seen with
  | nil => exact iff_of_true ⟨_, rfl⟩ ⟨fresh_nil .input seen, by simp⟩
  | cons input rest inductionHypothesis =>
    rw [partners, fresh_cons_iff, List.forall_mem_cons, ← find?_key_eq_none_iff]
    cases earlier : seen.find? fun earlier => key .input earlier = key .input input with
    | some first => simp
    | none =>
      cases found : outputs.find? fun output => key .output output = key .input input with
      | none =>
        have missing := (find?_key_eq_none_iff .output outputs (key .input input)).mp found
        simp [missing]
      | some output =>
        obtain ⟨-, same⟩ := of_find?_key_eq_some found
        have available := (exists_find?_key_iff .output outputs (key .input input)).mp ⟨_, found⟩
        have remaining : Fresh .input (input :: seen) rest → _ :=
          forall_mem_map_key_erase_iff outputs same
        simp only [exists_map_eq_ok_iff, inductionHypothesis]
        tauto

/-! ### The output of an input -/

/-- The inputs and the outputs of a collection can be told apart by their keys, and both have the
same keys. -/
structure KeysAgree (collection : Collection) : Prop where
  inputsDiffer : (collection.inputs.map (key .input)).Nodup
  outputsDiffer : (collection.outputs.map (key .output)).Nodup
  same : ∀ shared,
    shared ∈ collection.inputs.map (key .input) ↔ shared ∈ collection.outputs.map (key .output)

/-- The output with the key of an input; it is of no interest when there is none. -/
def partner (outputs : List String) (input : String) : String :=
  (outputs.find? fun output => key .output output = key .input input).getD ""

/-- The output with the key of an input is the only one with that key. -/
theorem eq_partner {outputs : List String} (differ : (outputs.map (key .output)).Nodup)
    {input output : String} (member : output ∈ outputs)
    (same : key .output output = key .input input) : output = partner outputs input := by
  unfold partner
  rw [(find?_key_eq_some_iff differ (key .input input) output).mpr ⟨member, same⟩, Option.getD_some]

/-- An input whose key outputs have is given an output with that key. -/
theorem partner_spec {outputs : List String} {input : String}
    (available : key .input input ∈ outputs.map (key .output)) :
    partner outputs input ∈ outputs ∧ key .output (partner outputs input) = key .input input := by
  obtain ⟨output, found⟩ := (exists_find?_key_iff .output outputs _).mpr available
  unfold partner
  rw [found]
  exact of_find?_key_eq_some found

/-- There is a least name unless there is no name. -/
theorem head?_ascending_eq_none_iff (names : List String) :
    (ascending names).head? = none ↔ names = [] := by
  have ordered : (ascending names).Perm names := List.mergeSort_perm names _
  rw [List.head?_eq_none_iff]
  constructor
  · intro empty
    exact List.nil_perm.mp (empty ▸ ordered)
  · intro empty
    exact List.perm_nil.mp (empty ▸ ordered)

/-- Pairing by key succeeds when no key is repeated and no output is left. -/
theorem keyedPairs_eq_ok_iff_partners (collection : Collection) (pairs : List Pair) :
    collection.keyedPairs = .ok pairs ↔
      (collection.outputs.map (key .output)).Nodup ∧ ∃ matched,
        partners collection.outputs [] collection.inputs = .ok (matched, []) ∧
        pairs = matched.zipIdx.map fun ((input, expected), index) =>
          collection.pair (index + 1) input expected := by
  rw [← fresh_nothing_seen_iff, ← repeated?_eq_none_iff]
  unfold keyedPairs
  cases repeated? .output [] collection.outputs with
  | some names => simp
  | none =>
    cases partners collection.outputs [] collection.inputs with
    | error error => simp
    | ok result =>
      obtain ⟨matched, left⟩ := result
      cases least : (ascending left).head? with
      | none =>
        obtain rfl := (head?_ascending_eq_none_iff left).mp least
        simp [least, eq_comm]
      | some name =>
        have remaining : left ≠ [] := by
          rw [ne_eq, ← head?_ascending_eq_none_iff, least]
          exact Option.some_ne_none name
        simp [least, remaining]

/-! ### Pairing by key -/

/-- The output that an input takes is the one that has its key. -/
theorem eq_map_partner_of_partners_eq_ok {outputs seen inputs : List String}
    {matched : List (String × String)} {left : List String}
    (differ : (outputs.map (key .output)).Nodup)
    (taken : partners outputs seen inputs = .ok (matched, left)) :
    matched = inputs.map fun input => (input, partner outputs input) := by
  obtain ⟨firsts, keys, all⟩ := of_partners_eq_ok taken
  have second : ∀ pair ∈ matched, (pair.1, partner outputs pair.1) = pair := by
    intro pair listed
    have member : pair.2 ∈ outputs :=
      all.subset (List.mem_append_left left (List.mem_map_of_mem listed))
    rw [← eq_partner differ member (keys pair listed)]
  rw [← firsts, List.map_map]
  exact ((List.map_congr_left second).trans (List.map_id matched)).symm

/-- Of outputs that can be told apart by their keys, those are left whose key no input has. -/
theorem mem_left_iff {outputs seen inputs : List String} {matched : List (String × String)}
    {left : List String} (differ : (outputs.map (key .output)).Nodup)
    (taken : partners outputs seen inputs = .ok (matched, left)) (output : String) :
    output ∈ left ↔ output ∈ outputs ∧ key .output output ∉ inputs.map (key .input) := by
  obtain ⟨firsts, keys, all⟩ := of_partners_eq_ok taken
  have takenKeys : (matched.map Prod.snd).map (key .output) = inputs.map (key .input) := by
    rw [← firsts, List.map_map, List.map_map]
    exact List.map_congr_left keys
  have apart := (all.map (key .output)).nodup_iff.mpr differ
  rw [List.map_append, takenKeys, List.nodup_append'] at apart
  constructor
  · intro member
    exact ⟨all.subset (List.mem_append_right _ member),
      fun asked => apart.2.2 asked (List.mem_map_of_mem member)⟩
  · rintro ⟨listed, unasked⟩
    rcases List.mem_append.mp (all.symm.subset listed) with gone | member
    · exact absurd (takenKeys ▸ List.mem_map_of_mem gone) unasked
    · exact member

/-- When every output is taken, both sides have the same keys. -/
theorem keysAgree_of_partners_eq_ok {collection : Collection} {matched : List (String × String)}
    (differ : (collection.outputs.map (key .output)).Nodup)
    (taken : partners collection.outputs [] collection.inputs = .ok (matched, [])) :
    KeysAgree collection := by
  obtain ⟨fresh, available⟩ := (exists_partners_iff _ _ _).mp ⟨_, taken⟩
  refine ⟨(fresh_nothing_seen_iff _ _).mp fresh, differ, fun shared => ⟨?_, ?_⟩⟩
  · rw [List.mem_map]
    rintro ⟨input, member, rfl⟩
    exact available input member
  · rw [List.mem_map]
    rintro ⟨output, member, rfl⟩
    by_contra unasked
    exact List.not_mem_nil ((mem_left_iff differ taken output).mpr ⟨member, unasked⟩)

/-- When both sides have the same keys, every input takes the output with its key, and no output
is left. -/
theorem partners_of_keysAgree {collection : Collection} (agree : KeysAgree collection) :
    partners collection.outputs [] collection.inputs =
      .ok (collection.inputs.map fun input => (input, partner collection.outputs input), []) := by
  have available : ∀ input ∈ collection.inputs,
      key .input input ∈ collection.outputs.map (key .output) :=
    fun input member => (agree.same _).mp (List.mem_map_of_mem member)
  obtain ⟨⟨matched, left⟩, taken⟩ := (exists_partners_iff collection.outputs [] _).mpr
    ⟨(fresh_nothing_seen_iff _ _).mpr agree.inputsDiffer, available⟩
  have noneLeft : left = [] := by
    refine List.eq_nil_iff_forall_not_mem.mpr fun output member => ?_
    obtain ⟨listed, unasked⟩ := (mem_left_iff agree.outputsDiffer taken output).mp member
    exact unasked ((agree.same _).mpr (List.mem_map_of_mem listed))
  rw [taken, noneLeft, eq_map_partner_of_partners_eq_ok agree.outputsDiffer taken]

/-- The pairs of the inputs with the outputs that have their keys. -/
def pairsByKey (collection : Collection) : List Pair :=
  collection.inputs.zipIdx.map fun (input, index) =>
    collection.pair (index + 1) input (partner collection.outputs input)

/-- Pairing by key succeeds exactly when both sides have the same keys, none of them twice, and
then gives every input the output with its key. -/
theorem keyedPairs_eq_ok_iff (collection : Collection) (pairs : List Pair) :
    collection.keyedPairs = .ok pairs ↔
      KeysAgree collection ∧ pairs = collection.pairsByKey := by
  rw [keyedPairs_eq_ok_iff_partners]
  have numbered : pairsByKey collection =
      (collection.inputs.map fun input =>
          (input, partner collection.outputs input)).zipIdx.map fun ((input, expected), index) =>
        collection.pair (index + 1) input expected := by
    unfold pairsByKey
    rw [List.zipIdx_map, List.map_map]
    rfl
  constructor
  · rintro ⟨differ, matched, taken, rfl⟩
    refine ⟨keysAgree_of_partners_eq_ok differ taken, ?_⟩
    rw [numbered, eq_map_partner_of_partners_eq_ok differ taken]
  · rintro ⟨agree, rfl⟩
    exact ⟨agree.outputsDiffer, _, partners_of_keysAgree agree, numbered⟩

/-- The outputs that the inputs are paired with are all outputs. -/
theorem KeysAgree.map_partner_perm {collection : Collection} (agree : KeysAgree collection) :
    (collection.inputs.map (partner collection.outputs)).Perm collection.outputs := by
  obtain ⟨-, -, all⟩ := of_partners_eq_ok (partners_of_keysAgree agree)
  rw [List.map_map, List.append_nil] at all
  exact all

/-! ### Other orders -/

/-- Agreement of keys does not depend on the order of names. -/
theorem KeysAgree.of_perm {collection other : Collection} (agree : KeysAgree collection)
    (inputs : other.inputs.Perm collection.inputs)
    (outputs : other.outputs.Perm collection.outputs) : KeysAgree other where
  inputsDiffer := (inputs.map (key .input)).nodup_iff.mpr agree.inputsDiffer
  outputsDiffer := (outputs.map (key .output)).nodup_iff.mpr agree.outputsDiffer
  same shared := by
    rw [(inputs.map (key .input)).mem_iff, (outputs.map (key .output)).mem_iff]
    exact agree.same shared

/-- The pairs do not depend on the order of the outputs. -/
theorem pairsByKey_of_outputs_perm {collection : Collection} {outputs : List String}
    (reordered : outputs.Perm collection.outputs) (agree : KeysAgree collection) :
    pairsByKey { collection with outputs := outputs } = collection.pairsByKey := by
  unfold pairsByKey
  refine List.map_congr_left fun ⟨input, index⟩ placed => ?_
  have member : input ∈ collection.inputs := List.fst_mem_of_mem_zipIdx placed
  obtain ⟨listed, same⟩ := partner_spec ((agree.same _).mp (List.mem_map_of_mem member))
  have differ : (outputs.map (key .output)).Nodup :=
    (reordered.map (key .output)).nodup_iff.mpr agree.outputsDiffer
  have equal := eq_partner differ (reordered.symm.subset listed) same
  show collection.pair (index + 1) input (partner outputs input) = _
  rw [← equal]

/-- An order of the names that a list of things has is the order of names of a list of the same
things. -/
theorem exists_perm_of_perm_map {α β : Type} {name : α → β} {things : List α} {names : List β}
    (reordered : names.Perm (things.map name)) :
    ∃ others : List α, others.Perm things ∧ others.map name = names := by
  have named : List.Forall₂ (fun label thing => label = name thing) (things.map name) things :=
    List.forall₂_map_left_iff.mpr (List.forall₂_same.mpr fun _ _ => rfl)
  obtain ⟨others, labelled, same⟩ := List.perm_comp_forall₂ reordered named
  refine ⟨others, same, ?_⟩
  rw [← List.forall₂_eq_eq_eq]
  exact List.forall₂_map_left_iff.mpr (labelled.flip.imp fun _ _ equal => equal.symm)

/-- In another order of the inputs the same pairs stand in another order, numbered anew. -/
theorem pairsByKey_of_inputs_perm {collection : Collection} {inputs : List String}
    (reordered : inputs.Perm collection.inputs) :
    ∃ pairs, pairs.Perm collection.pairsByKey ∧
      pairsByKey { collection with inputs := inputs } = Pair.renumber pairs := by
  rw [← List.zipIdx_map_fst 0 collection.inputs] at reordered
  obtain ⟨placed, same, rfl⟩ := exists_perm_of_perm_map reordered
  refine ⟨placed.map fun (input, index) =>
    collection.pair (index + 1) input (partner collection.outputs input), same.map _, ?_⟩
  unfold pairsByKey Pair.renumber
  rw [List.zipIdx_map, List.zipIdx_map, List.map_map, List.map_map]
  rfl

/-! ### The bijection of keys -/

/-- Pairing by key is the bijection of keys. It succeeds exactly when the keys of the inputs
differ, those of the outputs differ, and both sides have the same keys. Then it has one pair for
each input, in order and numbered from one, with the only output that has the key of the input,
and every output is in one pair. The order of the outputs does not matter, and another order of
the inputs gives the same pairs in another order, numbered anew. -/
theorem keyed_pairs_are_bijection_of_keys (collection : Collection) :
    ((∃ result, collection.pairs .keyed = .ok result) ↔
      (collection.inputs.map (key .input)).Nodup ∧
      (collection.outputs.map (key .output)).Nodup ∧
      ∀ shared, shared ∈ collection.inputs.map (key .input) ↔
        shared ∈ collection.outputs.map (key .output)) ∧
    (∀ result, collection.pairs .keyed = .ok result →
      ∃ partner : String → String,
        (∀ input ∈ collection.inputs, ∀ output ∈ collection.outputs,
          key .output output = key .input input ↔ output = partner input) ∧
        (collection.inputs.map partner).Perm collection.outputs ∧
        result = collection.inputs.zipIdx.map fun (input, index) =>
          { index := index + 1
            key := key .input input
            input := collection.directory.join ⟨input⟩
            expected := collection.directory.join ⟨partner input⟩ }) ∧
    (∀ outputs, outputs.Perm collection.outputs →
      ∀ result, pairs { collection with outputs := outputs } .keyed = .ok result ↔
        collection.pairs .keyed = .ok result) ∧
    (∀ inputs, inputs.Perm collection.inputs →
      ∀ result, collection.pairs .keyed = .ok result →
        ∃ reordered, reordered.Perm result ∧
          pairs { collection with inputs := inputs } .keyed = .ok (Pair.renumber reordered)) := by
  have paired : ∀ (other : Collection) (pairs : List Pair),
      other.pairs .keyed = .ok pairs ↔ KeysAgree other ∧ pairs = other.pairsByKey :=
    keyedPairs_eq_ok_iff
  refine ⟨?_, ?_, ?_, ?_⟩
  · constructor
    · rintro ⟨pairs, given⟩
      obtain ⟨agree, -⟩ := (paired collection pairs).mp given
      exact ⟨agree.inputsDiffer, agree.outputsDiffer, agree.same⟩
    · rintro ⟨inputsDiffer, outputsDiffer, same⟩
      exact ⟨_, (paired collection _).mpr ⟨⟨inputsDiffer, outputsDiffer, same⟩, rfl⟩⟩
  · intro pairs given
    obtain ⟨agree, rfl⟩ := (paired collection pairs).mp given
    refine ⟨partner collection.outputs, ?_, agree.map_partner_perm, rfl⟩
    intro input member output listed
    constructor
    · exact eq_partner agree.outputsDiffer listed
    · rintro rfl
      exact (partner_spec ((agree.same _).mp (List.mem_map_of_mem member))).2
  · intro outputs reordered pairs
    rw [paired, paired]
    constructor
    · rintro ⟨agreeOther, rfl⟩
      have agree : KeysAgree collection := agreeOther.of_perm (.refl _) reordered.symm
      exact ⟨agree, pairsByKey_of_outputs_perm reordered agree⟩
    · rintro ⟨agree, rfl⟩
      exact ⟨agree.of_perm (.refl _) reordered, (pairsByKey_of_outputs_perm reordered agree).symm⟩
  · intro inputs reordered pairs given
    obtain ⟨agree, rfl⟩ := (paired collection pairs).mp given
    obtain ⟨others, same, numbered⟩ := pairsByKey_of_inputs_perm reordered
    refine ⟨others, same, ?_⟩
    rw [paired, ← numbered]
    exact ⟨agree.of_perm reordered (.refl _), rfl⟩

/-- Full words and single letters give the same key, and the inputs keep their order. -/
example :
    pairs ⟨⟨"cases"⟩, ["input2.txt", "i1.txt"], ["o1.txt", "o2.txt"]⟩ .keyed =
      .ok [⟨1, "2", ⟨"cases/input2.txt"⟩, ⟨"cases/o2.txt"⟩⟩,
        ⟨2, "1", ⟨"cases/i1.txt"⟩, ⟨"cases/o1.txt"⟩⟩] := by
  decide +kernel

end Collection

end Golden.Fixture
