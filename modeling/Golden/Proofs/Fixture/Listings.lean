/-
This file proves that fixtures are collected from a listing as from a set. A listing of a
directory comes in whatever order the system gives, and between the fixtures it has
directories and files with other names. Of all this the collection keeps nothing: its
names are those of the files with a role, and there is only one ascending order of them.
Listings that have the same fixtures, in any order and with anything else between them,
therefore give the same collection, and whatever is made of it is the same too, be it
pairs, some of them, or the fault for which there are none.

Names are compared as texts. That order is the order of their bytes.
-/

import Golden.Proofs.Fixture.Selection
import Golden.Proofs.Text.Order

namespace Golden.Fixture

open Text

namespace Collection

/-! ### Ascending order -/

theorem mem_ascending_iff {names : List String} {name : String} :
    name ∈ ascending names ↔ name ∈ names :=
  List.mem_mergeSort

theorem pairwise_ascending (names : List String) :
    (ascending names).Pairwise fun left right => left ≤ right := by
  refine (List.pairwise_mergeSort ?_ ?_ names).imp of_decide_eq_true
  · intro first second third below above
    exact decide_eq_true (String.le_trans (of_decide_eq_true below) (of_decide_eq_true above))
  · intro first second
    simpa using String.le_total first second

/-- Names have one ascending order, in whatever order they come. -/
theorem ascending_eq_of_perm {names others : List String} (reordered : others.Perm names) :
    ascending others = ascending names := by
  have same : (ascending others).Perm (ascending names) :=
    (List.mergeSort_perm others _).trans (reordered.trans (List.mergeSort_perm names _).symm)
  exact same.eq_of_pairwise (fun _ _ _ _ => String.le_antisymm) (pairwise_ascending others)
    (pairwise_ascending names)

/-- Different names in ascending order have ascending encodings. -/
theorem pairwise_encode_ascending {names : List String} (distinct : names.Nodup) :
    (ascending names).Pairwise fun left right => encode left.toList < encode right.toList := by
  have apart : (ascending names).Nodup := (List.mergeSort_perm names _).nodup_iff.mpr distinct
  refine ((pairwise_ascending names).and apart).imp fun ⟨below, different⟩ => ?_
  exact encode_lt_encode (String.lt_iff_toList_lt.mp (lt_of_le_of_ne below different))

/-! ### Names with a role -/

/-- The names that a collection has for a role. -/
def names (collection : Collection) : Role → List String
  | .input => collection.inputs
  | .output => collection.outputs

theorem names_ofListing (directory : Path) (entries : List Files.Entry) (role : Role) :
    (ofListing directory entries).names role = named role entries := by
  cases role <;> rfl

/-- The names for a role are those of the files that start with its letter. -/
theorem mem_named_iff {role : Role} {entries : List Files.Entry} {name : String} :
    name ∈ named role entries ↔
      ⟨name, false⟩ ∈ entries ∧ name.toList.head? = some role.letter := by
  unfold named
  rw [mem_ascending_iff, List.mem_map, ← Role.of?_eq_some_iff]
  constructor
  · rintro ⟨⟨_, isDirectory⟩, kept, rfl⟩
    obtain ⟨listed, chosen⟩ := List.mem_filter.mp kept
    cases isDirectory with
    | true => cases chosen
    | false => exact ⟨listed, by simpa using chosen⟩
  · rintro ⟨listed, role⟩
    exact ⟨⟨name, false⟩, List.mem_filter.mpr ⟨listed, by simpa using role⟩, rfl⟩

/-- Names for a role are different in a listing whose names are. -/
theorem nodup_named {entries : List Files.Entry} (distinct : (entries.map Files.Entry.name).Nodup)
    (role : Role) :
    ((entries.filter fun entry => !entry.isDirectory && Role.of? entry.name = some role).map
      Files.Entry.name).Nodup :=
  distinct.sublist (List.filter_sublist.map _)

/-- No name stands on both sides. -/
theorem disjoint_named (entries : List Files.Entry) :
    (named .input entries).Disjoint (named .output entries) := by
  intro name input output
  have letters := (mem_named_iff.mp input).2.symm.trans (mem_named_iff.mp output).2
  exact absurd letters (by decide)

/-! ### Entries that are collected -/

/-- Whether an entry is a file that has a role. -/
def isFixture (entry : Files.Entry) : Bool :=
  !entry.isDirectory && (Role.of? entry.name).isSome

/-- A directory is no fixture, and nor is what starts with another letter. -/
theorem isFixture_eq_false_iff (entry : Files.Entry) :
    isFixture entry = false ↔
      entry.isDirectory = true ∨ ∀ role : Role, entry.name.toList.head? ≠ some role.letter := by
  unfold isFixture
  rw [Bool.and_eq_false_iff, Bool.not_eq_eq_eq_not, Bool.not_false, Option.isSome_eq_false_iff,
    Option.isNone_iff_eq_none, Option.eq_none_iff_forall_ne_some]
  simp only [ne_eq, Role.of?_eq_some_iff]

/-- Nothing but the fixtures of a listing is looked at for a role. -/
theorem named_filter_isFixture (role : Role) (entries : List Files.Entry) :
    named role (entries.filter isFixture) = named role entries := by
  unfold named
  rw [List.filter_filter]
  congr 2
  refine List.filter_congr fun entry _ => ?_
  rw [Bool.and_eq_left_iff_imp]
  intro chosen
  simp only [Bool.and_eq_true, decide_eq_true_iff] at chosen
  simp [isFixture, chosen]

/-- The same fixtures in another order give the same names. -/
theorem named_eq_of_perm {entries others : List Files.Entry}
    (same : (others.filter isFixture).Perm (entries.filter isFixture)) (role : Role) :
    named role others = named role entries := by
  rw [← named_filter_isFixture role others, ← named_filter_isFixture role entries]
  exact ascending_eq_of_perm ((same.filter _).map _)

/-- The same fixtures in another order give the same collection. -/
theorem ofListing_eq_of_perm {entries others : List Files.Entry}
    (same : (others.filter isFixture).Perm (entries.filter isFixture)) (directory : Path) :
    ofListing directory others = ofListing directory entries := by
  rw [ofListing, named_eq_of_perm same, named_eq_of_perm same, ofListing]

/-- Entries that are no fixtures may stand anywhere in a listing. -/
theorem filter_isFixture_insert {noise : List Files.Entry}
    (idle : ∀ entry ∈ noise, isFixture entry = false) (front back : List Files.Entry) :
    (front ++ noise ++ back).filter isFixture = (front ++ back).filter isFixture := by
  have none : noise.filter isFixture = [] :=
    List.filter_eq_nil_iff.mpr fun entry member => ne_true_of_eq_false (idle entry member)
  rw [List.filter_append, List.filter_append, none, List.append_nil, List.filter_append]

/-! ### Collections -/

theorem discover_of_list {files : Files} {directory : Path} {entries : List Files.Entry}
    (listed : files.list directory = .ok entries) :
    discover directory files = .ok (ofListing directory entries) := by
  unfold discover
  rw [listed]

/-- The pairs of the fixtures in a directory that mention the keywords. -/
def selected (directory : Path) (pairing : Pairing) (keywords : List String) (files : Files) :
    Except Error (List Pair) := do
  let collection ← discover directory files
  let pairs ← collection.pairs pairing
  return Pair.narrow keywords pairs

end Collection

open Collection

/-- Fixtures are collected from the listing of a directory as from a set. On each side are the names
of the files that start with its letter, in ascending order byte by byte if the names of the listing
are different, and no name is on both sides. Directories and files that start with another letter
make no difference wherever they stand; and listings that have the same fixtures, in whatever order,
give the same collection, and the same pairs or the same error however these are paired and
selected. -/
theorem collection_is_of_set_of_fixtures (files : Files) (directory : Path)
    (entries : List Files.Entry) (listed : files.list directory = .ok entries) :
    (∃ collection, discover directory files = .ok collection ∧ collection.directory = directory ∧
      (∀ role name, name ∈ collection.names role ↔
        ⟨name, false⟩ ∈ entries ∧ name.toList.head? = some role.letter) ∧
      ((entries.map Files.Entry.name).Nodup → ∀ role,
        (collection.names role).Pairwise fun left right =>
          encode left.toList < encode right.toList) ∧
      collection.inputs.Disjoint collection.outputs) ∧
    (∀ (other : Files) (front noise back : List Files.Entry),
      (∀ entry ∈ noise, entry.isDirectory = true ∨
        ∀ role : Role, entry.name.toList.head? ≠ some role.letter) →
      entries = front ++ back → other.list directory = .ok (front ++ noise ++ back) →
      discover directory other = discover directory files) ∧
    ∀ (other : Files) (others : List Files.Entry), other.list directory = .ok others →
      (others.filter isFixture).Perm (entries.filter isFixture) →
      discover directory other = discover directory files ∧
      ∀ pairing keywords,
        selected directory pairing keywords other = selected directory pairing keywords files := by
  have same (other : Files) (others : List Files.Entry)
      (listedToo : other.list directory = .ok others)
      (reordered : (others.filter isFixture).Perm (entries.filter isFixture)) :
      discover directory other = discover directory files := by
    rw [discover_of_list listedToo, discover_of_list listed, ofListing_eq_of_perm reordered]
  refine ⟨⟨ofListing directory entries, discover_of_list listed, rfl, ?_, ?_, ?_⟩, ?_, ?_⟩
  · intro role name
    rw [names_ofListing, mem_named_iff]
  · intro distinct role
    rw [names_ofListing]
    exact pairwise_encode_ascending (nodup_named distinct role)
  · exact disjoint_named entries
  · intro other front noise back idle split listedToo
    refine same other _ listedToo (.of_eq ?_)
    rw [split]
    exact filter_isFixture_insert
      (fun entry member => (isFixture_eq_false_iff entry).mpr (idle entry member)) front back
  · intro other others listedToo reordered
    refine ⟨same other others listedToo reordered, fun pairing keywords => ?_⟩
    unfold selected
    rw [same other others listedToo reordered]

/-- A directory with three fixtures. -/
def tidy : Files :=
  ⟨[(["cases"], .directory), (["cases", "input1.txt"], .file []),
    (["cases", "input2.txt"], .file []), (["cases", "output1.txt"], .file [])]⟩

/-- The same fixtures in another order, with a directory and another file between them. -/
def cluttered : Files :=
  ⟨[(["cases"], .directory), (["cases", "output1.txt"], .file []), (["cases", "inner"], .directory),
    (["cases", "input2.txt"], .file []), (["cases", "notes.txt"], .file []),
    (["cases", "input1.txt"], .file [])]⟩

/-- From both directories come the same names, and the same error by key: that the second input has
no output. -/
theorem clutter_makes_no_difference :
    cluttered.list ⟨"cases"⟩ =
      .ok [⟨"output1.txt", false⟩, ⟨"inner", true⟩, ⟨"input2.txt", false⟩, ⟨"notes.txt", false⟩,
        ⟨"input1.txt", false⟩] ∧
    tidy.list ⟨"cases"⟩ =
      .ok [⟨"input1.txt", false⟩, ⟨"input2.txt", false⟩, ⟨"output1.txt", false⟩] ∧
    (∃ collection, discover ⟨"cases"⟩ cluttered = .ok collection ∧
      collection.inputs.Pairwise fun left right => encode left.toList < encode right.toList) ∧
    selected ⟨"cases"⟩ .keyed ["input"] tidy = selected ⟨"cases"⟩ .keyed ["input"] cluttered := by
  have listed : cluttered.list ⟨"cases"⟩ =
      .ok [⟨"output1.txt", false⟩, ⟨"inner", true⟩, ⟨"input2.txt", false⟩, ⟨"notes.txt", false⟩,
        ⟨"input1.txt", false⟩] := by
    decide +kernel
  have listedToo : tidy.list ⟨"cases"⟩ =
      .ok [⟨"input1.txt", false⟩, ⟨"input2.txt", false⟩, ⟨"output1.txt", false⟩] := by
    decide +kernel
  obtain ⟨⟨collection, discovered, -, -, ascends, -⟩, -, same⟩ :=
    collection_is_of_set_of_fixtures cluttered ⟨"cases"⟩ _ listed
  refine ⟨listed, listedToo, ⟨collection, discovered, ascends (by decide +kernel) .input⟩, ?_⟩
  exact (same tidy _ listedToo (by decide +kernel)).2 .keyed ["input"]

end Golden.Fixture
