/-
This file says what clearing an output does to the files. Only a regular file is
taken away, so the same directories stand afterwards and every way that leads
somewhere leads there still. After a clearing nothing stands at the output, and a
clearing takes away just what was written there since.

Two file systems that one clearing makes the same differ in what stands at the output
alone. This is the relation in which the pairs of a run leave the files to one another.
-/

import Golden.Proofs.Files.Locations
import Golden.Run.Plan

namespace Golden

namespace Run

open Files

/-! ### Clearing -/

/-- Nothing stands where a path leads. -/
def Vacant (path : Path) (files : Files) : Prop :=
  files.examine path = .error .notFound

theorem removeOutput_of_vacant {output : Path} {files : Files} (vacant : Vacant output files) :
    Plan.removeOutput output files = (.ok (), files) := by
  have failed : files.remove output = .error .notFound := by
    unfold remove
    rw [show files.examine output = .error .notFound from vacant]
    rfl
  unfold Plan.removeOutput
  rw [failed]

theorem removeOutput_of_file {output : Path} {files : Files} {location : Location}
    {content : Bytes} (examined : files.examine output = .ok (location, .file content)) :
    Plan.removeOutput output files = (.ok (), files.erase location) := by
  have removed : files.remove output = .ok (files.erase location) := by
    unfold remove
    rw [examined]
    rfl
  unfold Plan.removeOutput
  rw [removed]

/-- An output is cleared when nothing or a regular file stands there. Otherwise the files are left
as they are. -/
theorem removeOutput_cases (output : Path) (files : Files) :
    (Vacant output files ∧ Plan.removeOutput output files = (.ok (), files)) ∨
    (∃ location content, files.examine output = .ok (location, .file content) ∧
      Plan.removeOutput output files = (.ok (), files.erase location)) ∨
    ∃ cause, Plan.removeOutput output files = (.error cause, files) := by
  cases examined : files.examine output with
  | error cause =>
    by_cases absent : cause = .notFound
    · subst absent
      exact .inl ⟨examined, removeOutput_of_vacant examined⟩
    · have failed : files.remove output = .error cause := by
        unfold remove
        rw [examined]
        rfl
      refine .inr (.inr ⟨cause, ?_⟩)
      unfold Plan.removeOutput
      rw [failed]
      split
      next refused => cases refused
      next refused => exact absurd (Except.error.inj refused) absent
      next refused => rw [Except.error.inj refused]
  | ok found =>
    obtain ⟨location, node⟩ := found
    cases node with
    | file content => exact .inr (.inl ⟨location, content, rfl, removeOutput_of_file examined⟩)
    | directory =>
      refine .inr (.inr ⟨.isADirectory, ?_⟩)
      have refused : files.remove output = .error .isADirectory := by
        unfold remove
        rw [examined]
        rfl
      unfold Plan.removeOutput
      rw [refused]
    | emptyDevice =>
      refine .inr (.inr ⟨.notPermitted, ?_⟩)
      have refused : files.remove output = .error .notPermitted := by
        unfold remove
        rw [examined]
        rfl
      unfold Plan.removeOutput
      rw [refused]

section

variable (output : Path) (files : Files)

/-- Clearing changes nothing at a location to which the output does not lead. -/
theorem find?_removeOutput {location : Location}
    (elsewhere : files.locate output ≠ .ok location) :
    (Plan.removeOutput output files).2.find? location = files.find? location := by
  rcases removeOutput_cases output files with
    ⟨-, cleared⟩ | ⟨place, content, examined, cleared⟩ | ⟨cause, cleared⟩
  · rw [cleared]
  · rw [cleared]
    have leads := (examine_eq_ok_iff.mp examined).1
    refine find?_erase_of_ne files ?_
    rintro rfl
    exact elsewhere leads
  · rw [cleared]

/-- Clearing neither makes nor removes a directory. -/
theorem find?_removeOutput_eq_directory_iff (location : Location) :
    (Plan.removeOutput output files).2.find? location = some .directory ↔
      files.find? location = some .directory := by
  rcases removeOutput_cases output files with
    ⟨-, cleared⟩ | ⟨place, content, examined, cleared⟩ | ⟨cause, cleared⟩
  · rw [cleared]
  · rw [cleared]
    have stands := (examine_eq_ok_iff.mp examined).2.1
    by_cases same : location = place
    · rw [same, find?_erase_self files (standing?_of_find?_file stands), stands]
      simp
    · rw [find?_erase_of_ne files same]
  · rw [cleared]

/-- After a clearing every path leads where it led before. -/
theorem locate_removeOutput_eq_ok_iff (path : Path) (location : Location) :
    (Plan.removeOutput output files).2.locate path = .ok location ↔
      files.locate path = .ok location :=
  ⟨locate_of_directories fun _ => (find?_removeOutput_eq_directory_iff output files _).mp,
    locate_of_directories fun _ => (find?_removeOutput_eq_directory_iff output files _).mpr⟩

/-- Nothing stands at an output that was cleared. -/
theorem vacant_removeOutput (cleared : (Plan.removeOutput output files).1 = .ok ()) :
    Vacant output (Plan.removeOutput output files).2 := by
  rcases removeOutput_cases output files with
    ⟨vacant, same⟩ | ⟨place, content, examined, erased⟩ | ⟨cause, failed⟩
  · rw [same]
    exact vacant
  · obtain ⟨leads, stands, -⟩ := examine_eq_ok_iff.mp examined
    have leadsStill := (locate_removeOutput_eq_ok_iff output files output place).mpr leads
    rw [erased] at leadsStill ⊢
    exact examine_of_find?_eq_none leadsStill
      (find?_erase_self files (standing?_of_find?_file stands))
  · rw [failed] at cleared
    cases cleared

/-- Nothing is changed by a clearing that fails. -/
theorem removeOutput_of_error {cause : Cause}
    (failed : (Plan.removeOutput output files).1 = .error cause) :
    (Plan.removeOutput output files).2 = files := by
  rcases removeOutput_cases output files with
    ⟨-, cleared⟩ | ⟨place, content, -, cleared⟩ | ⟨cause, refused⟩
  · rw [cleared] at failed
    cases failed
  · rw [cleared] at failed
    cases failed
  · rw [refused]

/-- A second clearing changes nothing. -/
theorem removeOutput_removeOutput :
    Plan.removeOutput output (Plan.removeOutput output files).2 =
      Plan.removeOutput output files := by
  rcases removeOutput_cases output files with
    ⟨-, same⟩ | ⟨place, content, -, erased⟩ | ⟨cause, failed⟩
  · rw [same]
    exact same
  · have vacant := vacant_removeOutput output files (by rw [erased])
    rw [erased] at vacant ⊢
    exact removeOutput_of_vacant vacant
  · rw [failed]
    exact failed

end

/-- Clearing takes away what was written to an output at which nothing stood. -/
theorem removeOutput_write {output : Path} {files written : Files} {content : Bytes}
    (vacant : Vacant output files) (wrote : files.write output content = .ok written) :
    Plan.removeOutput output written = (.ok (), files) := by
  obtain ⟨location, targeted, rfl⟩ := write_eq_ok_iff.mp wrote
  have nothing := find?_eq_none_of_examine vacant (target_eq_ok_iff.mp targeted).1
  obtain ⟨free, unlisted⟩ := Option.or_eq_none_iff.mp nothing
  have others : files.entries.filter (fun entry => entry.1 ≠ location) = files.entries := by
    refine List.filter_eq_self.mpr fun entry member => ?_
    have apart : location ≠ entry.1 := by
      simpa using List.lookup_eq_none_iff.mp unlisted entry member
    exact decide_eq_true (Ne.symm apart)
  have taken : (files.store location content).erase location = files := by
    rw [store, free, Option.isSome_none, if_neg Bool.false_ne_true, erase, put,
      List.filter_cons_of_neg (by simp), others, others]
  rw [removeOutput_of_file (examine_store content targeted free), taken]

/-! ### Files that differ at an output alone -/

/-- Two file systems differ at most in a regular file to which an output leads: clearing it leaves
the same of both. -/
def SameBeside (output : Path) (files other : Files) : Prop :=
  Plan.removeOutput output files = Plan.removeOutput output other

namespace SameBeside

variable {output : Path} {files other : Files} (same : SameBeside output files other)

include same

/-- The same directories stand in both. -/
theorem find?_eq_directory_iff (location : Location) :
    files.find? location = some .directory ↔ other.find? location = some .directory := by
  rw [← find?_removeOutput_eq_directory_iff output files, same,
    find?_removeOutput_eq_directory_iff]

/-- A path leads to the same location in both. -/
theorem locate_eq_ok_iff (path : Path) (location : Location) :
    files.locate path = .ok location ↔ other.locate path = .ok location := by
  rw [← locate_removeOutput_eq_ok_iff output files, same, locate_removeOutput_eq_ok_iff]

/-- The same stands in both wherever the output does not lead. -/
theorem find?_eq {location : Location} (elsewhere : other.locate output ≠ .ok location) :
    files.find? location = other.find? location := by
  have elsewhereToo : files.locate output ≠ .ok location := fun leads =>
    elsewhere ((same.locate_eq_ok_iff output location).mp leads)
  rw [← find?_removeOutput output files elsewhereToo, same,
    find?_removeOutput output other elsewhere]

/-- Both are the same when the output cannot be cleared. -/
theorem eq_of_error {cause : Cause}
    (failed : (Plan.removeOutput output other).1 = .error cause) : files = other := by
  have failedToo : (Plan.removeOutput output files).1 = .error cause := same ▸ failed
  rw [← removeOutput_of_error output files failedToo, same,
    removeOutput_of_error output other failed]

end SameBeside

end Run

end Golden
