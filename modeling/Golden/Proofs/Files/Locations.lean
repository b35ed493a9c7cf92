/-
This file says where paths lead, what is listed there and what becomes of what stands
there. A way that leads somewhere is a walk through directories, so it leads to the same
location as long as the directories stay; and neither a file that is written nor one that
is taken away is a directory. Hence what was written is found where it was written, and
nothing else is changed. Only the empty device keeps nothing of it.
-/

import Golden.Files.Tree

namespace Golden

namespace Files

/-! ### Ways -/

section

variable {files kept : Files}
  (directories : ∀ location, files.find? location = some .directory →
    kept.find? location = some .directory)

include directories

/-- A way that leads somewhere leads to the same location when the directories are kept. -/
theorem walk_of_directories {origin location : Location} {steps : List Path.Step}
    (led : files.walk origin steps = .ok location) : kept.walk origin steps = .ok location := by
  induction steps generalizing origin with
  | nil => exact led
  | cons step rest inductionHypothesis =>
    unfold walk at led ⊢
    split at led
    next => cases led
    next => cases led
    next => cases led
    next stands =>
      rw [directories origin stands]
      cases step with
      | stay => exact inductionHypothesis led
      | up => exact inductionHypothesis led
      | down name => exact inductionHypothesis led

/-- A path that leads somewhere leads to the same location when the directories are kept. -/
theorem locate_of_directories {path : Path} {location : Location}
    (led : files.locate path = .ok location) : kept.locate path = .ok location := by
  unfold locate at led ⊢
  split at led
  next => cases led
  next named =>
    split at led
    next => cases led
    next written =>
      rw [if_neg named, if_neg written]
      exact walk_of_directories directories led

end

/-! ### What stands at the end of a way -/

/-- A path that leads to anything but a directory must not be written as that of one. -/
theorem examine_eq_ok_iff {files : Files} {path : Path} {location : Location} {node : Node} :
    files.examine path = .ok (location, node) ↔
      files.locate path = .ok location ∧ files.find? location = some node ∧
        (node ≠ .directory → path.namesDirectory = false) := by
  unfold examine
  cases files.locate path with
  | error cause => simp [bind, Except.bind]
  | ok place =>
    simp only [bind, Except.bind, Except.ok.injEq]
    constructor
    · intro examined
      split at examined
      next => cases examined
      next stands =>
        obtain ⟨rfl, rfl⟩ := Prod.mk.inj (Except.ok.inj examined)
        exact ⟨rfl, stands, fun other => absurd rfl other⟩
      next found stands =>
        split at examined
        next => cases examined
        next regular =>
          obtain ⟨rfl, rfl⟩ := Prod.mk.inj (Except.ok.inj examined)
          exact ⟨rfl, stands, fun _ => by simpa using regular⟩
    · rintro ⟨rfl, stands, regular⟩
      cases node <;> simp_all [pure, Except.pure]

/-- Nothing stands at the location that a path leads to when nothing is found there. -/
theorem find?_eq_none_of_examine {files : Files} {path : Path} {location : Location}
    (absent : files.examine path = .error .notFound) (leads : files.locate path = .ok location) :
    files.find? location = none := by
  unfold examine at absent
  rw [leads] at absent
  simp only [bind, Except.bind] at absent
  split at absent
  next nothing => exact nothing
  next => cases absent
  next =>
    split at absent
    next => cases absent
    next => cases absent

theorem examine_of_find?_eq_none {files : Files} {path : Path} {location : Location}
    (leads : files.locate path = .ok location) (nothing : files.find? location = none) :
    files.examine path = .error .notFound := by
  unfold examine
  rw [leads]
  simp [nothing, bind, Except.bind, throw, throwThe, MonadExceptOf.throw]

/-- A location is free of what always stands there when a regular file does. -/
theorem standing?_of_find?_file {files : Files} {location : Location} {content : Bytes}
    (stands : files.find? location = some (.file content)) : location.standing? = none := by
  cases always : location.standing? with
  | none => rfl
  | some node =>
    have same := (find?_of_standing always files).symm.trans stands
    unfold Location.standing? at always
    split at always
    next => cases same; cases always
    next =>
      split at always
      next => cases same; cases always
      next => cases always

/-! ### Listings -/

/-- The entries that a directory has among the files. -/
def entriesIn (files : Files) (directory : Location) : List Entry :=
  files.entries.filterMap fun entry => entryIn? directory entry.1 entry.2

/-- A listing is made of the directory that the path leads to. -/
theorem list_eq_ok_iff {files : Files} {path : Path} {entries : List Entry} :
    files.list path = .ok entries ↔ ∃ directory, files.locate path = .ok directory ∧
      files.find? directory = some .directory ∧ files.entriesIn directory = entries := by
  constructor
  · intro listed
    unfold list at listed
    cases examined : files.examine path with
    | error cause =>
      rw [examined] at listed
      cases listed
    | ok found =>
      obtain ⟨location, node⟩ := found
      rw [examined] at listed
      cases node with
      | directory =>
        obtain ⟨leads, stands, -⟩ := examine_eq_ok_iff.mp examined
        exact ⟨location, leads, stands, Except.ok.inj listed⟩
      | file content => cases listed
      | emptyDevice => cases listed
  · rintro ⟨directory, leads, stands, rfl⟩
    unfold list
    rw [examine_eq_ok_iff.mpr ⟨leads, stands, fun other => absurd rfl other⟩]
    rfl

/-- An entry of a directory stands one name below it. -/
theorem eq_append_of_entryIn? {directory location : Location} {node : Node} {entry : Entry}
    (listed : entryIn? directory location node = some entry) :
    location = directory ++ [entry.name] := by
  unfold entryIn? at listed
  split at listed
  next name last =>
    split at listed
    next inside =>
      obtain ⟨front, rfl⟩ := List.getLast?_eq_some_iff.mp last
      rw [List.dropLast_concat] at inside
      rw [← Option.some.inj listed, inside]
    next => cases listed
  next => cases listed

/-! ### Writing -/

/-- A path lets a file be written where it leads, unless it is written as that of a directory or a
directory stands there. -/
theorem target_eq_ok_iff {files : Files} {path : Path} {location : Location} :
    files.target path = .ok location ↔
      files.locate path = .ok location ∧ path.namesDirectory = false ∧
        files.find? location ≠ some .directory := by
  unfold target
  cases files.locate path with
  | error cause => simp [bind, Except.bind]
  | ok place =>
    simp only [bind, Except.bind, Except.ok.injEq]
    by_cases refused : (path.namesDirectory || files.find? place = some .directory) = true
    · rw [if_pos refused]
      refine iff_of_false nofun ?_
      rintro ⟨rfl, regular, other⟩
      simp [regular, other] at refused
    · rw [if_neg refused]
      rw [Bool.or_eq_true, not_or, Bool.not_eq_true, decide_eq_true_eq] at refused
      constructor
      · intro equal
        exact Except.ok.inj equal ▸ ⟨rfl, refused⟩
      · rintro ⟨rfl, -⟩
        rfl

theorem write_eq_ok_iff {files written : Files} {path : Path} {content : Bytes} :
    files.write path content = .ok written ↔
      ∃ location, files.target path = .ok location ∧ files.store location content = written := by
  unfold write
  cases files.target path with
  | error cause => simp [bind, Except.bind]
  | ok location => simp [bind, Except.bind, pure, Except.pure]

section

variable {files : Files} {path : Path} {location : Location} (content : Bytes)

/-- What is written changes nothing at any other location. -/
theorem find?_store_of_ne {other : Location} (different : other ≠ location) :
    (files.store location content).find? other = files.find? other := by
  unfold store
  split
  · rfl
  · exact find?_put_of_ne files _ different

/-- What is written where nothing always stands is found there. -/
theorem examine_store (targeted : files.target path = .ok location)
    (free : location.standing? = none) :
    (files.store location content).examine path = .ok (location, .file content) := by
  obtain ⟨leads, regular, other⟩ := target_eq_ok_iff.mp targeted
  have directories (place : Location) (stands : files.find? place = some .directory) :
      (files.store location content).find? place = some .directory := by
    have apart : place ≠ location := by
      rintro rfl
      exact other stands
    rw [find?_store_of_ne content apart, stands]
  refine examine_eq_ok_iff.mpr
    ⟨locate_of_directories directories leads, ?_, fun _ => regular⟩
  unfold store
  rw [free]
  exact find?_put_self files _ free

/-- What is written where nothing always stands is read there. -/
theorem read_store (targeted : files.target path = .ok location)
    (free : location.standing? = none) :
    (files.store location content).read path = .ok content := by
  unfold read
  rw [examine_store content targeted free]
  rfl

/-- Of the locations at which something always stands, only that of the empty device lets a file be
written. -/
theorem standing?_eq_none_of_target (targeted : files.target path = .ok location)
    (other : location ≠ Location.emptyDevice) : location.standing? = none := by
  obtain ⟨-, -, noDirectory⟩ := target_eq_ok_iff.mp targeted
  cases always : location.standing? with
  | none => rfl
  | some node =>
    have stands := find?_of_standing always files
    unfold Location.standing? at always
    rw [if_neg other] at always
    split at always
    · rw [stands, ← always] at noDirectory
      exact absurd rfl noDirectory
    · cases always

/-- The empty device keeps nothing of what is written to it. -/
theorem store_emptyDevice : files.store Location.emptyDevice content = files := rfl

end

end Files

end Golden
