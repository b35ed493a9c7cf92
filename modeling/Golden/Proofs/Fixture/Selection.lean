/-
This file proves that keywords select pairs together. When pairs are narrowed by one
keyword after the other, the numbers that they are given on the way are given anew by
the next keyword, and a keyword looks at nothing but the name of the input. So what is
left depends on what the pairs are besides their numbers, and it is what a single choice
leaves: the pairs whose input mentions all of the keywords, in their order and numbered
from one. An input stays with its expected output, since they are never apart.

The name of the input is read from the end of a path. For pairs of a collection this
path has been joined of the directory and a name without a slash, and what is read is
that name, whatever the directory is called.
-/

import Mathlib.Data.List.Infix
import Golden.Proofs.Fixture.KeyedPairing
import Golden.Proofs.Fixture.Keys

namespace Golden.Fixture

namespace Pair

/-! ### Pairs and their numbers -/

/-- What a pair is besides its number: its key, its input and its expected output. -/
def content (pair : Pair) : String × Path × Path :=
  (pair.key, pair.input, pair.expected)

/-- The pairs of given contents, numbered from one. -/
def number (contents : List (String × Path × Path)) : List Pair :=
  contents.zipIdx.map fun ((key, input, expected), index) => ⟨index + 1, key, input, expected⟩

theorem renumber_eq_number (pairs : List Pair) : renumber pairs = number (pairs.map content) := by
  unfold renumber number
  rw [List.zipIdx_map, List.map_map]
  rfl

theorem map_content_number (contents : List (String × Path × Path)) :
    (number contents).map content = contents := by
  unfold number
  rw [List.map_map]
  exact List.zipIdx_map_fst 0 contents

/-- Pairs that are made of things in a row are numbered from one. -/
theorem map_index_zipIdx {α : Type} (make : α × Nat → Pair)
    (indexed : ∀ item index, (make (item, index)).index = index + 1) (items : List α) :
    (items.zipIdx.map make).map Pair.index =
      List.range' 1 (items.zipIdx.map make).length := by
  have place : Pair.index ∘ make = (· + 1) ∘ Prod.snd :=
    funext fun (item, index) => indexed item index
  rw [List.map_map, place, ← List.map_map, List.zipIdx_map_snd, ← List.range'_succ_left,
    List.length_map, List.length_zipIdx]

/-- The name of the input is part of the content. -/
theorem map_inputName (pairs : List Pair) :
    pairs.map inputName =
      (pairs.map content).map fun (_, input, _) => input.fileName?.getD "" := by
  rw [List.map_map]
  rfl

/-! ### Several keywords -/

/-- The pairs that are left when one keyword after the other selects. -/
def narrow (keywords : List String) (pairs : List Pair) : List Pair :=
  keywords.foldl (fun left keyword => select keyword left) pairs

/-- Whether every keyword occurs in the name of the input. -/
def mentionsAll (keywords : List String) : String × Path × Path → Bool
  | (_, input, _) =>
    keywords.all fun keyword => Text.occursIn keyword.toList (input.fileName?.getD "").toList

theorem mentionsAll_content_iff (keywords : List String) (pair : Pair) :
    mentionsAll keywords pair.content = true ↔
      ∀ keyword ∈ keywords, keyword.toList <:+: pair.inputName.toList := by
  unfold mentionsAll content
  dsimp only
  rw [List.all_eq_true]
  refine forall₂_congr fun keyword member => ?_
  rw [Text.occursIn_iff]
  exact exists₂_congr fun left right => eq_comm

/-- A keyword selects by the contents of pairs. -/
theorem select_eq_number (keyword : String) (pairs : List Pair) :
    select keyword pairs = number ((pairs.map content).filter (mentionsAll [keyword])) := by
  have same : mentionsAll [keyword] ∘ content = mentions keyword :=
    funext fun pair => Bool.and_true _
  rw [select, renumber_eq_number, List.filter_map, same]

/-- What is selected twice is selected by the keywords of both selections. -/
theorem filter_mentionsAll (front back : List String) (contents : List (String × Path × Path)) :
    (contents.filter (mentionsAll front)).filter (mentionsAll back) =
      contents.filter (mentionsAll (front ++ back)) := by
  rw [List.filter_filter]
  refine List.filter_congr fun content _ => ?_
  rw [Bool.and_comm]
  exact List.all_append.symm

/-- Keywords that select one after the other leave the contents that mention them all. -/
theorem map_content_narrow (keywords : List String) (pairs : List Pair) :
    (narrow keywords pairs).map content = (pairs.map content).filter (mentionsAll keywords) := by
  induction keywords generalizing pairs with
  | nil => exact (List.filter_true _).symm
  | cons keyword rest inductionHypothesis =>
    show (narrow rest (select keyword pairs)).map content = _
    rw [inductionHypothesis, select_eq_number, map_content_number, filter_mentionsAll,
      List.singleton_append]

/-- Only the numbers that the last keyword gives are left. -/
theorem narrow_eq_number {keywords : List String} (given : keywords ≠ []) (pairs : List Pair) :
    narrow keywords pairs = number ((pairs.map content).filter (mentionsAll keywords)) := by
  have taken : keywords.dropLast ++ [keywords.getLast given] = keywords :=
    List.dropLast_append_getLast given
  have last : narrow keywords pairs =
      select (keywords.getLast given) (narrow keywords.dropLast pairs) := by
    conv_lhs => rw [← taken]
    exact List.foldl_concat _ _ _ _
  rw [last, select_eq_number, map_content_narrow, filter_mentionsAll, taken]

/-- Which keywords select is all that matters of a list of keywords. -/
theorem narrow_eq_of_mem_iff {keywords others : List String} (given : keywords ≠ [])
    (same : ∀ keyword, keyword ∈ others ↔ keyword ∈ keywords) (pairs : List Pair) :
    narrow others pairs = narrow keywords pairs := by
  have givenToo : others ≠ [] := by
    obtain ⟨keyword, member⟩ := List.exists_mem_of_ne_nil keywords given
    exact List.ne_nil_of_mem ((same keyword).mpr member)
  have select : mentionsAll others = mentionsAll keywords := by
    funext content
    rw [Bool.eq_iff_iff]
    simp only [mentionsAll, List.all_eq_true, same]
  rw [narrow_eq_number givenToo, narrow_eq_number given, select]

end Pair

/-! ### The inputs of pairs -/

namespace Collection

/-- The first things of two lists are paired in their order. -/
theorem map_fst_zip_prefix {α β : Type} (things : List α) (others : List β) :
    (things.zip others).map Prod.fst <+: things := by
  rw [List.zip_eq_zip_take_min, List.map_fst_zip (by simp)]
  exact List.take_prefix _ things

/-- However pairs are found, they are made of names in a row, which give the inputs in order. -/
theorem exists_matched_of_pairs {collection : Collection} {pairing : Pairing} {pairs : List Pair}
    (paired : collection.pairs pairing = .ok pairs) :
    ∃ matched : List (String × String), matched.map Prod.fst <+: collection.inputs ∧
      pairs = matched.zipIdx.map fun ((input, expected), index) =>
        collection.pair (index + 1) input expected := by
  cases pairing with
  | positional =>
    rw [← Except.ok.inj paired]
    exact ⟨collection.inputs.zip collection.outputs, map_fst_zip_prefix _ _, rfl⟩
  | keyed =>
    obtain ⟨-, matched, taken, rfl⟩ := (collection.keyedPairs_eq_ok_iff_partners pairs).mp paired
    obtain ⟨firsts, -, -⟩ := of_partners_eq_ok taken
    exact ⟨matched, firsts ▸ List.prefix_rfl, rfl⟩

/-- However pairs are found, they are numbered from one. -/
theorem index_of_pairs {collection : Collection} {pairing : Pairing} {pairs : List Pair}
    (paired : collection.pairs pairing = .ok pairs) :
    pairs.map Pair.index = List.range' 1 pairs.length := by
  obtain ⟨matched, -, rfl⟩ := exists_matched_of_pairs paired
  exact Pair.map_index_zipIdx _ (fun _ _ => rfl) matched

/-- However pairs are found, their inputs are the first ones of the collection, in order, each read
from its directory. -/
theorem input_of_pairs {collection : Collection} {pairing : Pairing} {pairs : List Pair}
    (paired : collection.pairs pairing = .ok pairs) :
    pairs.map Pair.input =
      (collection.inputs.take pairs.length).map fun name => collection.directory.join ⟨name⟩ := by
  obtain ⟨matched, ordered, rfl⟩ := exists_matched_of_pairs paired
  have firsts := List.prefix_iff_eq_take.mp ordered
  rw [List.length_map] at firsts
  rw [List.length_map, List.length_zipIdx, ← firsts, List.map_map, List.map_map,
    ← List.zipIdx_map_fst 0 matched, List.map_map, List.zipIdx_map_fst]
  rfl

/-- A name that starts with the letter for a role, read from a directory, is found again as the name
of the input. -/
theorem inputName_of_pairs {collection : Collection} {pairing : Pairing} {pairs : List Pair}
    (found : ∀ name ∈ collection.inputs,
      '/' ∉ name.toList ∧ ∃ role : Role, name.toList.head? = some role.letter)
    (paired : collection.pairs pairing = .ok pairs) :
    pairs.map Pair.inputName = collection.inputs.take pairs.length := by
  have named : pairs.map Pair.inputName =
      (pairs.map Pair.input).map fun path => path.fileName?.getD "" := by
    rw [List.map_map]
    rfl
  rw [named, input_of_pairs paired, List.map_map]
  refine (List.map_congr_left fun name member => ?_).trans (List.map_id _)
  obtain ⟨flat, role, begins⟩ := found name (List.mem_of_mem_take member)
  simp only [Function.comp_apply, Path.fileName?_join _ flat (Role.proper_of_head? begins),
    Option.getD_some, id]

end Collection

/-! ### Selection by several keywords -/

open Pair in
/-- Keywords, at least one, select pairs together. What they leave one after the other are the pairs
whose input has all of them in its name, in their order, as they were but for their numbers, which
go from one. So it matters neither in which order or how often the keywords are given nor how the
pairs were numbered. And the name of the input of a pair that was found in a collection, by place or
by key, is its name in the directory, whatever the directory is called. -/
theorem keywords_select_together (keywords : List String) (given : keywords ≠ []) :
    (∀ pairs : List Pair,
      (narrow keywords pairs).map content =
        (pairs.filter fun pair =>
          ∀ keyword ∈ keywords, keyword.toList <:+: pair.inputName.toList).map content ∧
      (narrow keywords pairs).map Pair.index = List.range' 1 (narrow keywords pairs).length ∧
      (∀ others : List String, (∀ keyword, keyword ∈ others ↔ keyword ∈ keywords) →
        narrow others pairs = narrow keywords pairs) ∧
      ∀ others : List Pair, others.map content = pairs.map content →
        narrow keywords others = narrow keywords pairs) ∧
    ∀ (collection : Collection) (pairing : Pairing) (pairs : List Pair),
      (∀ name ∈ collection.inputs,
        '/' ∉ name.toList ∧ ∃ role : Role, name.toList.head? = some role.letter) →
      collection.pairs pairing = .ok pairs →
      pairs.map inputName = collection.inputs.take pairs.length ∧
        pairs.map Pair.input = (collection.inputs.take pairs.length).map
          (fun name => collection.directory.join ⟨name⟩) ∧
        (narrow keywords pairs).map inputName =
          (collection.inputs.take pairs.length).filter fun name =>
            ∀ keyword ∈ keywords, keyword.toList <:+: name.toList := by
  have chosen (pairs : List Pair) : (narrow keywords pairs).map content =
      (pairs.filter fun pair =>
        ∀ keyword ∈ keywords, keyword.toList <:+: pair.inputName.toList).map content := by
    rw [map_content_narrow, List.filter_map]
    refine congrArg (List.map content) (List.filter_congr fun pair _ => ?_)
    rw [Bool.eq_iff_iff, decide_eq_true_iff]
    exact mentionsAll_content_iff keywords pair
  refine ⟨fun pairs => ⟨chosen pairs, ?_, ?_, ?_⟩, ?_⟩
  · rw [narrow_eq_number given]
    exact map_index_zipIdx _ (fun _ _ => rfl) _
  · intro others same
    exact narrow_eq_of_mem_iff given same pairs
  · intro others same
    rw [narrow_eq_number given, narrow_eq_number given, same]
  · intro collection pairing pairs found paired
    have names := Collection.inputName_of_pairs found paired
    refine ⟨names, Collection.input_of_pairs paired, ?_⟩
    rw [← names, List.filter_map, map_inputName, chosen, ← map_inputName]
    rfl

/-- Fixtures in a directory whose own name has what the keywords are. -/
def overshadowed : Collection :=
  ⟨⟨"input3/"⟩, ["i2.txt", "input1.txt", "input3.txt"], ["o2.txt", "output1.txt", "output3.txt"]⟩

/-- Keywords that the name of the directory has select the one input that has them itself. -/
theorem keywords_of_directory_select_by_name :
    ["3", "input", "3"] ≠ [] ∧
    (∀ name ∈ overshadowed.inputs,
      '/' ∉ name.toList ∧ ∃ role : Role, name.toList.head? = some role.letter) ∧
    ∀ pairing, ∃ pairs, overshadowed.pairs pairing = .ok pairs ∧
      (Pair.narrow ["3", "input", "3"] pairs).map Pair.inputName = ["input3.txt"] := by
  have found : ∀ name ∈ overshadowed.inputs,
      '/' ∉ name.toList ∧ ∃ role : Role, name.toList.head? = some role.letter := by
    intro name member
    refine ⟨?_, .input, ?_⟩ <;> revert name member <;> decide
  have paired : ∀ pairing, overshadowed.pairs pairing =
      .ok [⟨1, "2", ⟨"input3/i2.txt"⟩, ⟨"input3/o2.txt"⟩⟩,
        ⟨2, "1", ⟨"input3/input1.txt"⟩, ⟨"input3/output1.txt"⟩⟩,
        ⟨3, "3", ⟨"input3/input3.txt"⟩, ⟨"input3/output3.txt"⟩⟩] := by
    intro pairing
    cases pairing <;> decide +kernel
  refine ⟨by decide, found, fun pairing => ⟨_, paired pairing, ?_⟩⟩
  obtain ⟨-, together⟩ := keywords_select_together ["3", "input", "3"] (by decide)
  obtain ⟨-, -, names⟩ := together overshadowed pairing _ found (paired pairing)
  rw [names]
  decide +kernel

end Golden.Fixture
