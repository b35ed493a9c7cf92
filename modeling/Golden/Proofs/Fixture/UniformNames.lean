/-
This file proves that both ways of pairing agree on fixtures that are named alike: the
inputs are the word for inputs followed by suffixes, the outputs the word for outputs
followed by the same suffixes.

Texts that begin alike stand in the order of their ends. So under either word the names
are in the order of the suffixes, and the input and the output with one suffix stand at
the same place: pairing by place joins them. They also have the same key, for the key
depends on the suffix alone. Pairing by key therefore joins them too if it succeeds,
and only keys that are repeated can hinder it; those may come of suffixes that differ
behind their last dots only, or of one suffix that is given twice.
-/

import Golden.Proofs.Fixture.KeyedPairing
import Golden.Proofs.Fixture.Keys

namespace Golden.Fixture

namespace Collection

/-! ### The order of names -/

/-- Texts that begin alike stand in the order of their ends. -/
theorem append_le_append_iff (front left right : String) :
    front ++ left ≤ front ++ right ↔ left ≤ right := by
  rw [String.le_iff_toList_le, String.le_iff_toList_le, String.toList_append,
    String.toList_append]
  have increasing : StrictMono fun rest : List Char => front.toList ++ rest :=
    fun _ _ below => List.append_left_lt below
  exact increasing.le_iff_le

/-- What is put in front of all names does not change their order. -/
theorem ascending_map_append (front : String) (names : List String) :
    ascending (names.map (front ++ ·)) = (ascending names).map (front ++ ·) :=
  (List.map_mergeSort fun left _ right _ =>
    decide_eq_decide.mpr (append_le_append_iff front left right).symm).symm

/-! ### Names with the same suffixes -/

/-- The fixtures of a directory whose names are the words for the roles with the same suffixes. -/
def uniform (directory : Path) (suffixes : List String) : Collection where
  directory := directory
  inputs := ascending (suffixes.map Role.input.name)
  outputs := ascending (suffixes.map Role.output.name)

/-- The names for a role stand in the order of their suffixes. -/
theorem ascending_map_name (role : Role) (suffixes : List String) :
    ascending (suffixes.map role.name) = (ascending suffixes).map role.name :=
  ascending_map_append role.word suffixes

section Flat

variable {directory : Path} {suffixes : List String}
  (flat : ∀ suffix ∈ suffixes, '/' ∉ suffix.toList)
include flat

/-- In either role the keys are those of the suffixes. -/
theorem map_key_ascending_map_name (role : Role) :
    (ascending (suffixes.map role.name)).map (key role) =
      (ascending suffixes).map Path.beforeLastDot := by
  rw [ascending_map_name, List.map_map]
  exact List.map_congr_left fun suffix member =>
    key_name role (flat suffix (List.mem_mergeSort.mp member))

/-- Both sides have the same keys, so pairing by key needs no more than that none is repeated. -/
theorem keysAgree_uniform_iff :
    KeysAgree (uniform directory suffixes) ↔
      ((uniform directory suffixes).inputs.map (key .input)).Nodup := by
  have same : (uniform directory suffixes).outputs.map (key .output) =
      (uniform directory suffixes).inputs.map (key .input) :=
    (map_key_ascending_map_name flat .output).trans (map_key_ascending_map_name flat .input).symm
  constructor
  · exact KeysAgree.inputsDiffer
  · intro differ
    refine ⟨differ, ?_, fun shared => ?_⟩
    · rw [same]
      exact differ
    · rw [same]

/-- The output with the key of an input is the one with its suffix. -/
theorem partner_uniform (agree : KeysAgree (uniform directory suffixes)) {suffix : String}
    (member : suffix ∈ suffixes) :
    partner (uniform directory suffixes).outputs (Role.input.name suffix) =
      Role.output.name suffix := by
  refine (eq_partner agree.outputsDiffer ?_ ?_).symm
  · exact List.mem_mergeSort.mpr (List.mem_map_of_mem member)
  · rw [key_name .output (flat suffix member), key_name .input (flat suffix member)]

/-- The pairs by key are the pairs by place. -/
theorem pairsByKey_uniform (agree : KeysAgree (uniform directory suffixes)) :
    (uniform directory suffixes).pairsByKey = (uniform directory suffixes).positionalPairs := by
  have inputs : (uniform directory suffixes).inputs =
      (ascending suffixes).map Role.input.name := ascending_map_name .input suffixes
  have outputs : (uniform directory suffixes).outputs =
      (ascending suffixes).map Role.output.name := ascending_map_name .output suffixes
  -- The input and the output with one suffix stand at the same place.
  have together : (uniform directory suffixes).inputs.zip (uniform directory suffixes).outputs =
      (ascending suffixes).map fun suffix => (Role.input.name suffix, Role.output.name suffix) := by
    rw [inputs, outputs, List.zip_map']
  unfold pairsByKey positionalPairs
  rw [together, inputs, List.zipIdx_map, List.zipIdx_map, List.map_map, List.map_map]
  refine List.map_congr_left fun ⟨suffix, index⟩ placed => ?_
  have member : suffix ∈ suffixes := List.mem_mergeSort.mp (List.fst_mem_of_mem_zipIdx placed)
  show pair _ (index + 1) (Role.input.name suffix) (partner _ (Role.input.name suffix)) = _
  rw [partner_uniform flat agree member]
  rfl

end Flat

/-! ### Both ways of pairing -/

/-- On fixtures that are named alike, pairing by key succeeds exactly when no two inputs have the
same key, and whenever it succeeds it gives the pairs that pairing by place gives. -/
theorem pairings_agree_on_uniform_names (directory : Path) (suffixes : List String)
    (flat : ∀ suffix ∈ suffixes, '/' ∉ suffix.toList) :
    ((∃ result, (uniform directory suffixes).pairs .keyed = .ok result) ↔
      ((uniform directory suffixes).inputs.map (key .input)).Nodup) ∧
    ∀ result, (uniform directory suffixes).pairs .keyed = .ok result →
      (uniform directory suffixes).pairs .positional = .ok result := by
  have paired : ∀ result, (uniform directory suffixes).pairs .keyed = .ok result ↔
      KeysAgree (uniform directory suffixes) ∧
        result = (uniform directory suffixes).pairsByKey :=
    keyedPairs_eq_ok_iff (uniform directory suffixes)
  constructor
  · rw [← keysAgree_uniform_iff flat]
    constructor
    · rintro ⟨result, given⟩
      exact ((paired result).mp given).1
    · intro agree
      exact ⟨_, (paired _).mpr ⟨agree, rfl⟩⟩
  · intro result given
    obtain ⟨agree, rfl⟩ := (paired result).mp given
    rw [pairsByKey_uniform flat agree]
    rfl

/-- Suffixes with two dots, with one and without any. The names stand in the order of the suffixes,
which is not the order they are given in. -/
theorem names_with_and_without_dots_pair_alike :
    (∀ suffix ∈ ["2", "10.tar.gz", ".txt"], '/' ∉ suffix.toList) ∧
    (∀ mode, (uniform ⟨"cases"⟩ ["2", "10.tar.gz", ".txt"]).pairs mode =
      .ok [⟨1, "", ⟨"cases/input.txt"⟩, ⟨"cases/output.txt"⟩⟩,
        ⟨2, "10.tar", ⟨"cases/input10.tar.gz"⟩, ⟨"cases/output10.tar.gz"⟩⟩,
        ⟨3, "2", ⟨"cases/input2"⟩, ⟨"cases/output2"⟩⟩]) := by
  have flat : ∀ suffix ∈ ["2", "10.tar.gz", ".txt"], '/' ∉ suffix.toList := by decide
  have ordered : uniform ⟨"cases"⟩ ["2", "10.tar.gz", ".txt"] =
      ⟨⟨"cases"⟩, ["input.txt", "input10.tar.gz", "input2"],
        ["output.txt", "output10.tar.gz", "output2"]⟩ := by
    simp [uniform, ascending, List.mergeSort, Role.name, Role.word]
  obtain ⟨succeeds, same⟩ :=
    pairings_agree_on_uniform_names ⟨"cases"⟩ ["2", "10.tar.gz", ".txt"] flat
  rw [ordered] at succeeds same ⊢
  obtain ⟨result, keyed⟩ := succeeds.mpr (by decide +kernel)
  have positional := same result keyed
  refine ⟨flat, fun mode => ?_⟩
  cases mode with
  | positional => decide +kernel
  | keyed =>
    rw [keyed, ← positional]
    decide +kernel

end Collection

end Golden.Fixture
