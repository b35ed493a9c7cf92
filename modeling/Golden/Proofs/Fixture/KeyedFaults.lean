/-
This file says which fault is reported when fixtures cannot be paired by key. The
outputs are looked at first, and the first of them that has the key of an earlier one
is reported together with that one. Then the inputs are gone through, and the first is
reported that has the key of an earlier one, or the key of no output. Last come the
outputs that no input asks for, of which the least by name is reported.

An input takes its output away from those after it. So an input whose key was seen
before would find no output, but its key is looked for among the earlier inputs first,
and it is reported as a repetition. An input with a key of its own finds its output
among those that are left exactly when there is one at all. Hence the two lists of
names determine the fault; and the order of the outputs matters for nothing but which
two outputs with one key are reported.
-/

import Golden.Proofs.Fixture.KeyedPairing
import Golden.Proofs.Fixture.Listings
import Golden.Proofs.Traversal

namespace Golden.Fixture

namespace Collection

/-! ### The first name that is refused -/

/-- A repetition is found at the first name that has the key of one seen before. -/
theorem repeated?_eq_some_iff {role : Role} {seen : List String}
    (differ : (seen.map (key role)).Nodup) (names : List String) (first second : String) :
    repeated? role seen names = some (first, second) ↔
      ∃ before name after, names = before ++ name :: after ∧
        (Fresh role seen before ∧ first ∈ before.reverse ++ seen ∧
          key role first = key role name ∧ name = second) := by
  induction names generalizing seen with
  | nil => simp [repeated?]
  | cons name rest inductionHypothesis =>
    rw [repeated?, exists_split_cons_iff]
    cases found : seen.find? fun earlier => key role earlier = key role name with
    | some earlier =>
      have met := (exists_find?_key_iff role seen (key role name)).mp ⟨_, found⟩
      have only := find?_key_eq_some_iff differ (key role name) first
      rw [found, Option.some_inj] at only
      simp [-List.mem_map, fresh_nil, fresh_cons_iff, met, only, and_assoc]
    | none =>
      have unmet := (find?_key_eq_none_iff role seen (key role name)).mp found
      have differNow : ((name :: seen).map (key role)).Nodup :=
        List.nodup_cons.mpr ⟨unmet, differ⟩
      have other (member : first ∈ seen) : key role first ≠ key role name :=
        fun same => unmet (List.mem_map.mpr ⟨first, member, same⟩)
      rw [or_iff_right fun here => other here.2.1 here.2.2.1]
      simp [-List.mem_map, fresh_cons_iff, unmet, inductionHypothesis differNow]

/-- What is wrong with an input that is refused: its key was seen, or no output has it. -/
inductive Refused (outputs seen : List String) (input : String) : Error → Prop
  | repeated (first : String) (member : first ∈ seen)
      (same : key .input first = key .input input) :
      Refused outputs seen input (.duplicateKey (key .input input) first input)
  | unmatched (unmet : key .input input ∉ seen.map (key .input))
      (missing : key .input input ∉ outputs.map (key .output)) :
      Refused outputs seen input (.unmatched input (key .input input) .output)

/-- The output that another input has taken makes no difference to an input that is refused. -/
theorem refused_erase_iff {outputs seen : List String} {input output item : String} {error : Error}
    (same : key .output output = key .input input) (member : input ∈ seen) :
    Refused (outputs.erase output) seen item error ↔ Refused outputs seen item error := by
  have kept (unmet : key .input item ∉ seen.map (key .input)) :
      key .input item ∈ (outputs.erase output).map (key .output) ↔
        key .input item ∈ outputs.map (key .output) := by
    refine mem_map_key_erase_iff fun equal => unmet ?_
    rw [equal, same]
    exact List.mem_map_of_mem member
  constructor
  · rintro (⟨first, earlier, shared⟩ | ⟨unmet, missing⟩)
    · exact .repeated first earlier shared
    · exact .unmatched unmet (mt (kept unmet).mpr missing)
  · rintro (⟨first, earlier, shared⟩ | ⟨unmet, missing⟩)
    · exact .repeated first earlier shared
    · exact .unmatched unmet (mt (kept unmet).mp missing)

/-- An input is refused, or it takes an output with its key and a later one is refused. -/
theorem partners_cons_eq_error_iff (outputs : List String) {seen : List String}
    (differ : (seen.map (key .input)).Nodup) (input : String) (rest : List String)
    (error : Error) :
    partners outputs seen (input :: rest) = .error error ↔
      Refused outputs seen input error ∨
        key .input input ∉ seen.map (key .input) ∧ ∃ output,
          (outputs.find? fun output => key .output output = key .input input) = some output ∧
          partners (outputs.erase output) (input :: seen) rest = .error error := by
  rw [partners]
  cases earlier : seen.find? fun earlier => key .input earlier = key .input input with
  | some first =>
    obtain ⟨member, same⟩ := of_find?_key_eq_some earlier
    have met := (exists_find?_key_iff .input seen (key .input input)).mp ⟨_, earlier⟩
    constructor
    · rintro ⟨⟩
      exact .inl (.repeated first member same)
    · rintro ((⟨other, listed, shared⟩ | ⟨unmet, -⟩) | ⟨unmet, -⟩)
      · rw [List.inj_on_of_nodup_map differ listed member (shared.trans same.symm)]
      · exact absurd met unmet
      · exact absurd met unmet
  | none =>
    have unmet := (find?_key_eq_none_iff .input seen (key .input input)).mp earlier
    have unseen {other : String} (listed : other ∈ seen) : key .input other ≠ key .input input :=
      fun same => unmet (List.mem_map.mpr ⟨other, listed, same⟩)
    cases found : outputs.find? fun output => key .output output = key .input input with
    | none =>
      have missing := (find?_key_eq_none_iff .output outputs (key .input input)).mp found
      constructor
      · rintro ⟨⟩
        exact .inl (.unmatched unmet missing)
      · rintro ((⟨other, listed, same⟩ | -) | ⟨-, output, ⟨⟩, -⟩)
        · exact absurd same (unseen listed)
        · rfl
    | some output =>
      have available := (exists_find?_key_iff .output outputs (key .input input)).mp ⟨_, found⟩
      dsimp only
      rw [map_eq_error_iff]
      constructor
      · intro later
        exact .inr ⟨unmet, output, rfl, later⟩
      · rintro ((⟨other, listed, same⟩ | ⟨-, missing⟩) | ⟨-, _, ⟨⟩, later⟩)
        · exact absurd same (unseen listed)
        · exact absurd available missing
        · exact later

/-- The inputs are refused at the first of them whose key was seen or is the key of no output. -/
theorem partners_eq_error_iff (outputs : List String) {seen : List String}
    (differ : (seen.map (key .input)).Nodup) (inputs : List String) (error : Error) :
    partners outputs seen inputs = .error error ↔
      ∃ before input after, inputs = before ++ input :: after ∧
        (Fresh .input seen before ∧
          (∀ earlier ∈ before, key .input earlier ∈ outputs.map (key .output)) ∧
          Refused outputs (before.reverse ++ seen) input error) := by
  -- The outputs that are left and the names seen change with every input; that the latter have
  -- different keys is what every step keeps.
  induction inputs generalizing outputs seen with
  | nil => simp [partners]
  | cons input rest inductionHypothesis =>
    rw [partners_cons_eq_error_iff outputs differ, exists_split_cons_iff]
    refine or_congr (by simp [fresh_nil]) ?_
    simp only [fresh_cons_iff, List.forall_mem_cons, List.reverse_cons, List.append_assoc,
      List.singleton_append]
    have differNow (unmet : key .input input ∉ seen.map (key .input)) :
        ((input :: seen).map (key .input)).Nodup := List.nodup_cons.mpr ⟨unmet, differ⟩
    constructor
    · rintro ⟨unmet, output, found, later⟩
      obtain ⟨-, same⟩ := of_find?_key_eq_some found
      have available := (exists_find?_key_iff .output outputs (key .input input)).mp ⟨_, found⟩
      obtain ⟨before, item, after, split, fresh, matched, refused⟩ :=
        (inductionHypothesis _ (differNow unmet)).mp later
      exact ⟨before, item, after, split, ⟨unmet, fresh⟩,
        ⟨available, (forall_mem_map_key_erase_iff outputs same fresh).mp matched⟩,
        (refused_erase_iff same (by simp)).mp refused⟩
    · rintro ⟨before, item, after, split, ⟨unmet, fresh⟩, ⟨available, matched⟩, refused⟩
      obtain ⟨output, found⟩ := (exists_find?_key_iff .output outputs _).mpr available
      obtain ⟨-, same⟩ := of_find?_key_eq_some found
      refine ⟨unmet, output, found, (inductionHypothesis _ (differNow unmet)).mpr ?_⟩
      exact ⟨before, item, after, split, fresh,
        (forall_mem_map_key_erase_iff outputs same fresh).mpr matched,
        (refused_erase_iff same (by simp)).mpr refused⟩

/-- The least name is the first in ascending order. -/
theorem head?_ascending_eq_some_iff (names : List String) (name : String) :
    (ascending names).head? = some name ↔ name ∈ names ∧ ∀ other ∈ names, name ≤ other := by
  have ordered := pairwise_ascending names
  have member (other : String) : other ∈ ascending names ↔ other ∈ names := mem_ascending_iff
  simp only [← member]
  cases inOrder : ascending names with
  | nil => simp
  | cons least rest =>
    rw [inOrder, List.pairwise_cons] at ordered
    rw [List.head?_cons, Option.some_inj, List.forall_mem_cons]
    constructor
    · rintro rfl
      exact ⟨List.mem_cons_self, String.le_refl least, ordered.1⟩
    · rintro ⟨listed, below, -⟩
      rcases List.mem_cons.mp listed with rfl | later
      · rfl
      · exact String.le_antisymm (ordered.1 name later) below

/-! ### The first fault -/

/-- No two names of one side share a key, and every input has the key of an output. -/
structure Accepted (outputs inputs : List String) : Prop where
  outputsDiffer : (outputs.map (key .output)).Nodup
  inputsDiffer : (inputs.map (key .input)).Nodup
  matched : ∀ input ∈ inputs, key .input input ∈ outputs.map (key .output)

/-- The fault that is reported of a collection that cannot be paired by key. -/
inductive FirstFault (collection : Collection) : Error → Prop
  /-- An output has the key of an earlier one, and the outputs before it have different keys. -/
  | outputsShareKey (before after : List String) (first second : String)
      (split : collection.outputs = before ++ second :: after)
      (differ : (before.map (key .output)).Nodup)
      (member : first ∈ before) (same : key .output first = key .output second) :
      FirstFault collection (.duplicateKey (key .output second) first second)
  /-- An input has the key of an earlier one, and the inputs before it are accepted. -/
  | inputsShareKey (before after : List String) (first second : String)
      (split : collection.inputs = before ++ second :: after)
      (accepted : Accepted collection.outputs before)
      (member : first ∈ before) (same : key .input first = key .input second) :
      FirstFault collection (.duplicateKey (key .input second) first second)
  /-- An input has a key that neither an earlier one nor any output has, and the inputs before it
  are accepted. -/
  | outputMissing (before after : List String) (input : String)
      (split : collection.inputs = before ++ input :: after)
      (accepted : Accepted collection.outputs before)
      (unmet : key .input input ∉ before.map (key .input))
      (missing : key .input input ∉ collection.outputs.map (key .output)) :
      FirstFault collection (.unmatched input (key .input input) .output)
  /-- All inputs are accepted, and of the outputs whose key no input has this is the least by
  name. -/
  | inputMissing (output : String)
      (accepted : Accepted collection.outputs collection.inputs)
      (member : output ∈ collection.outputs)
      (missing : key .output output ∉ collection.inputs.map (key .input))
      (least : ∀ other ∈ collection.outputs,
        key .output other ∉ collection.inputs.map (key .input) → output ≤ other) :
      FirstFault collection (.unmatched output (key .output output) .input)

/-- Pairing by key fails at two outputs with one key, else at an input, else at the least output
that is left. -/
theorem keyedPairs_eq_error_iff_partners (collection : Collection) (error : Error) :
    collection.keyedPairs = .error error ↔
      (∃ first second, repeated? .output [] collection.outputs = some (first, second) ∧
        error = .duplicateKey (key .output second) first second) ∨
      (collection.outputs.map (key .output)).Nodup ∧
        (partners collection.outputs [] collection.inputs = .error error ∨
          ∃ matched left output,
            partners collection.outputs [] collection.inputs = .ok (matched, left) ∧
            (ascending left).head? = some output ∧
            error = .unmatched output (key .output output) .input) := by
  rw [← fresh_nothing_seen_iff, ← repeated?_eq_none_iff]
  unfold keyedPairs
  cases repeated? .output [] collection.outputs with
  | some names =>
    obtain ⟨first, second⟩ := names
    simp [eq_comm]
  | none =>
    cases partners collection.outputs [] collection.inputs with
    | error fault => simp
    | ok result =>
      obtain ⟨matched, left⟩ := result
      cases least : (ascending left).head? with
      | none => simp [least]
      | some name => simp [least, eq_comm]

/-- Inputs take outputs exactly when they are accepted. -/
theorem exists_partners_iff_accepted {outputs : List String}
    (differ : (outputs.map (key .output)).Nodup) (inputs : List String) :
    (∃ result, partners outputs [] inputs = .ok result) ↔ Accepted outputs inputs := by
  rw [exists_partners_iff, fresh_nothing_seen_iff]
  exact ⟨fun ⟨fresh, matched⟩ => ⟨differ, fresh, matched⟩,
    fun accepted => ⟨accepted.inputsDiffer, accepted.matched⟩⟩

/-- Of the outputs that are left the least by name is the first in ascending order. -/
theorem head?_ascending_left_iff {outputs inputs : List String} {matched : List (String × String)}
    {left : List String} (differ : (outputs.map (key .output)).Nodup)
    (taken : partners outputs [] inputs = .ok (matched, left)) (output : String) :
    (ascending left).head? = some output ↔
      output ∈ outputs ∧ key .output output ∉ inputs.map (key .input) ∧
        ∀ other ∈ outputs, key .output other ∉ inputs.map (key .input) → output ≤ other := by
  rw [head?_ascending_eq_some_iff]
  simp only [mem_left_iff differ taken, and_imp, and_assoc]

/-- Pairing by key fails with the first fault and in no other way. -/
theorem keyedPairs_eq_error_iff (collection : Collection) (error : Error) :
    collection.keyedPairs = .error error ↔ FirstFault collection error := by
  have nothing (role : Role) : (([] : List String).map (key role)).Nodup := List.nodup_nil
  have shared := repeated?_eq_some_iff (nothing .output) collection.outputs
  have refused := partners_eq_error_iff collection.outputs (nothing .input) collection.inputs error
  simp only [List.append_nil, List.mem_reverse, fresh_nothing_seen_iff] at shared refused
  rw [keyedPairs_eq_error_iff_partners]
  constructor
  · rintro (⟨first, second, found, rfl⟩ |
      ⟨outputsDiffer, failed | ⟨_, left, output, taken, head, rfl⟩⟩)
    · obtain ⟨before, _, after, split, differ, member, same, rfl⟩ := (shared first second).mp found
      exact .outputsShareKey before after first _ split differ member same
    · obtain ⟨before, input, after, split, inputsDiffer, matched, fault⟩ := refused.mp failed
      have accepted : Accepted collection.outputs before := ⟨outputsDiffer, inputsDiffer, matched⟩
      rcases fault with ⟨first, member, same⟩ | ⟨unmet, missing⟩
      · exact .inputsShareKey before after first input split accepted (by simpa using member) same
      · exact .outputMissing before after input split accepted (by simpa using unmet) missing
    · have accepted := (exists_partners_iff_accepted outputsDiffer _).mp ⟨_, taken⟩
      obtain ⟨member, missing, least⟩ :=
        (head?_ascending_left_iff outputsDiffer taken output).mp head
      exact .inputMissing output accepted member missing least
  · rintro (⟨before, after, first, second, split, differ, member, same⟩ |
      ⟨before, after, first, second, split, accepted, member, same⟩ |
      ⟨before, after, input, split, accepted, unmet, missing⟩ |
      ⟨output, accepted, member, missing, least⟩)
    · exact .inl ⟨first, second,
        (shared first second).mpr ⟨before, second, after, split, differ, member, same, rfl⟩, rfl⟩
    · refine .inr ⟨accepted.outputsDiffer, .inl (refused.mpr ?_)⟩
      exact ⟨before, second, after, split, accepted.inputsDiffer, accepted.matched,
        .repeated first (List.mem_reverse.mpr member) same⟩
    · refine .inr ⟨accepted.outputsDiffer, .inl (refused.mpr ?_)⟩
      exact ⟨before, input, after, split, accepted.inputsDiffer, accepted.matched,
        .unmatched (by simpa using unmet) missing⟩
    · obtain ⟨⟨matched, left⟩, taken⟩ :=
        (exists_partners_iff_accepted accepted.outputsDiffer _).mpr accepted
      have head := (head?_ascending_left_iff accepted.outputsDiffer taken output).mpr
        ⟨member, missing, least⟩
      exact .inr ⟨accepted.outputsDiffer, .inr ⟨matched, left, output, taken, head, rfl⟩⟩

/-! ### Success and other orders -/

/-- Both sides have the same keys when the inputs are accepted and every output is asked for. -/
theorem keysAgree_iff_accepted (collection : Collection) :
    KeysAgree collection ↔ Accepted collection.outputs collection.inputs ∧
      ∀ output ∈ collection.outputs,
        key .output output ∈ collection.inputs.map (key .input) := by
  constructor
  · intro agree
    exact ⟨⟨agree.outputsDiffer, agree.inputsDiffer,
        fun input member => (agree.same _).mp (List.mem_map_of_mem member)⟩,
      fun output member => (agree.same _).mpr (List.mem_map_of_mem member)⟩
  · rintro ⟨accepted, asked⟩
    exact ⟨accepted.inputsDiffer, accepted.outputsDiffer,
      fun shared => ⟨(List.forall_mem_map.mpr accepted.matched) shared,
        (List.forall_mem_map.mpr asked) shared⟩⟩

/-- Whether inputs are accepted does not depend on the order of the outputs. -/
theorem Accepted.of_perm {outputs others inputs : List String} (accepted : Accepted outputs inputs)
    (order : others.Perm outputs) : Accepted others inputs where
  outputsDiffer := (order.map (key .output)).nodup_iff.mpr accepted.outputsDiffer
  inputsDiffer := accepted.inputsDiffer
  matched input member := (order.map (key .output)).mem_iff.mpr (accepted.matched input member)

/-- The fault does not depend on the order of outputs that have different keys. -/
theorem FirstFault.of_outputs_perm {collection : Collection} {outputs : List String}
    (order : outputs.Perm collection.outputs)
    (differ : (collection.outputs.map (key .output)).Nodup) {error : Error}
    (fault : FirstFault collection error) :
    FirstFault { collection with outputs := outputs } error := by
  cases fault with
  | outputsShareKey before after first second split _ member same =>
    rw [split, List.map_append, List.nodup_append'] at differ
    refine absurd (List.mem_map_of_mem member) fun listed => differ.2.2 listed ?_
    rw [same]
    exact List.mem_cons_self
  | inputsShareKey before after first second split accepted member same =>
    exact .inputsShareKey before after first second split (accepted.of_perm order) member same
  | outputMissing before after input split accepted unmet missing =>
    exact .outputMissing before after input split (accepted.of_perm order) unmet
      (mt (order.map (key .output)).mem_iff.mp missing)
  | inputMissing output accepted member missing least =>
    exact .inputMissing output (accepted.of_perm order) (order.mem_iff.mpr member) missing
      fun other listed => least other (order.mem_iff.mp listed)

/-- When fixtures cannot be paired by key, the fault is the first one, and the names alone determine
it. It is the first output that has the key of an earlier one, with that one. If there is none, it
is the first input that has the key of an earlier one or of no output; whether its key was seen
before is asked first. If there is none either, it is the least by name of the outputs whose key no
input has, and if there is no such output, there is no fault. Outputs that have different keys may
come in any order. -/
theorem keyed_pairing_reports_first_fault (collection : Collection) :
    (∀ error, collection.pairs .keyed = .error error ↔ FirstFault collection error) ∧
    ((∃ result, collection.pairs .keyed = .ok result) ↔
      Accepted collection.outputs collection.inputs ∧
        ∀ output ∈ collection.outputs,
          key .output output ∈ collection.inputs.map (key .input)) ∧
    (∀ outputs, outputs.Perm collection.outputs →
      (collection.outputs.map (key .output)).Nodup →
        pairs { collection with outputs := outputs } .keyed = collection.pairs .keyed) := by
  refine ⟨keyedPairs_eq_error_iff collection, ?_, ?_⟩
  · rw [← keysAgree_iff_accepted]
    constructor
    · rintro ⟨result, paired⟩
      exact ((keyedPairs_eq_ok_iff collection result).mp paired).1
    · intro agree
      exact ⟨_, (keyedPairs_eq_ok_iff collection _).mpr ⟨agree, rfl⟩⟩
  · intro outputs order differ
    show keyedPairs { collection with outputs := outputs } = collection.keyedPairs
    cases outcome : collection.keyedPairs with
    | error error =>
      rw [keyedPairs_eq_error_iff] at outcome ⊢
      exact outcome.of_outputs_perm order differ
    | ok result =>
      rw [keyedPairs_eq_ok_iff] at outcome ⊢
      obtain ⟨agree, rfl⟩ := outcome
      exact ⟨agree.of_perm (.refl _) order, (pairsByKey_of_outputs_perm order agree).symm⟩

/-- A collection whose second input has the key of the first, which takes the only output with that
key, and whose other output no input asks for. -/
def askedTwice : Collection :=
  ⟨⟨"cases"⟩, ["i1.txt", "input1.txt"], ["output1.txt", "output7.txt"]⟩

/-- A key that was taken is reported as a repetition, before what no input asks for, and in
whatever order the outputs come. -/
theorem repetition_of_taken_key :
    ["output7.txt", "output1.txt"].Perm askedTwice.outputs ∧
    (askedTwice.outputs.map (key .output)).Nodup ∧
    FirstFault askedTwice (.duplicateKey "1" "i1.txt" "input1.txt") ∧
    pairs { askedTwice with outputs := ["output7.txt", "output1.txt"] } .keyed =
      .error (.duplicateKey "1" "i1.txt" "input1.txt") := by
  obtain ⟨faults, -, orders⟩ := keyed_pairing_reports_first_fault askedTwice
  have order : ["output7.txt", "output1.txt"].Perm askedTwice.outputs := .swap _ _ []
  have differ : (askedTwice.outputs.map (key .output)).Nodup := by decide +kernel
  have fails : askedTwice.pairs .keyed = .error (.duplicateKey "1" "i1.txt" "input1.txt") := by
    decide +kernel
  exact ⟨order, differ, (faults _).mp fails, (orders _ order differ).trans fails⟩

end Collection

end Golden.Fixture
