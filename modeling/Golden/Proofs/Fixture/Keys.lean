/-
This file reads names. A name that is read from a directory is what stands behind the
last slash of the path, and so it is found again at the end of the path whatever the
directory is called.

Keys are read of names that start with the word of their role. The word has no dot, so
such a name is cut at the last dot of what follows the word, if there is one; and the
word is not empty, so what stands before that dot is never nothing, which would make the
dot belong to the stem. The stem is then the word with the rest of the name up to its
last dot, and the key is that rest. Which role the name has makes no difference to its
key.
-/

import Mathlib.Data.String.Basic
import Golden.Fixture.Role

namespace Golden

namespace Path

/-! ### Names -/

/-- A name without a slash is one step down. -/
theorem steps_mk {name : String} (flat : '/' ∉ name.toList)
    (proper : name.toList ∉ [[], ['.'], ['.', '.']]) : (Path.mk name).steps = [.down name] := by
  simp only [List.mem_cons, List.not_mem_nil, or_false, not_or] at proper
  unfold steps
  rw [List.splitOn_eq_singleton flat]
  simp [step?, proper]

/-- A path whose last step is down to a name ends in this name. -/
theorem fileName?_of_steps {path : Path} (before : List Step) {name : String}
    (taken : path.steps = before ++ [.down name]) : path.fileName? = some name := by
  unfold fileName?
  rw [taken, List.filter_append, List.filter_singleton]
  simp

/-- A name without a slash is the name at the end of the path that it makes. -/
theorem fileName?_mk {name : String} (flat : '/' ∉ name.toList)
    (proper : name.toList ∉ [[], ['.'], ['.', '.']]) : (Path.mk name).fileName? = some name :=
  fileName?_of_steps [] (steps_mk flat proper)

/-- Steps on either side of a slash are taken one after the other. -/
theorem steps_append_slash (front back : String) :
    (Path.mk (front ++ "/" ++ back)).steps = (Path.mk front).steps ++ (Path.mk back).steps := by
  unfold steps
  rw [← List.filterMap_append, String.toList_append, String.toList_append, List.append_assoc]
  refine congrArg (List.filterMap step?) ?_
  rw [List.splitOn_eq_splitOnP, List.splitOn_eq_splitOnP, List.splitOn_eq_splitOnP]
  exact List.splitOnP_append_cons front.toList back.toList (beq_self_eq_true '/')

/-- In front of a relative path that is read from a directory stands nothing, or a text and a
slash. -/
theorem join_eq_or (directory : Path) {path : Path} (relative : path.isAbsolute = false) :
    directory.join path = path ∨ ∃ front, directory.join path = ⟨front ++ "/" ++ path.text⟩ := by
  unfold join
  rw [relative, if_neg Bool.false_ne_true]
  split_ifs with unnamed closed
  · exact .inl rfl
  · obtain ⟨front, ends⟩ := List.getLast?_eq_some_iff.mp closed
    refine .inr ⟨String.ofList front, ?_⟩
    rw [← String.ofList_toList (s := directory.text), ends, String.ofList_append]
  · exact .inr ⟨directory.text, rfl⟩

/-- A name that is read from a directory is the name at the end of the path, whatever the directory
is called. -/
theorem fileName?_join (directory : Path) {name : String} (flat : '/' ∉ name.toList)
    (proper : name.toList ∉ [[], ['.'], ['.', '.']]) :
    (directory.join ⟨name⟩).fileName? = some name := by
  have relative : (Path.mk name).isAbsolute = false := by
    unfold isAbsolute
    rw [beq_eq_false_iff_ne]
    exact fun slash => flat (List.mem_of_mem_head? slash)
  rcases directory.join_eq_or relative with alone | ⟨front, behind⟩
  · rw [alone, fileName?_mk flat proper]
  · refine fileName?_of_steps (Path.mk front).steps ?_
    rw [behind, steps_append_slash, steps_mk flat proper]

/-! ### Stems -/

/-- Letters other than the dot, in front of a name, stand before its last dot. -/
theorem cutAtLastDot?_append {letters : List Char} (dotless : '.' ∉ letters) (name : List Char) :
    cutAtLastDot? (letters ++ name) =
      (cutAtLastDot? name).map fun (stem, extension) => (letters ++ stem, extension) := by
  induction letters with
  | nil => simp
  | cons letter rest inductionHypothesis =>
    obtain ⟨other, dotlessRest⟩ := not_or.mp (List.mem_cons.not.mp dotless)
    rw [List.cons_append, cutAtLastDot?, inductionHypothesis dotlessRest]
    cases cutAtLastDot? name with
    | none => simp [Ne.symm other]
    | some parts => rfl

/-- What stands before the last dot of a text, or the whole text if it has no dot. -/
def beforeLastDot (text : String) : String :=
  match cutAtLastDot? text.toList with
  | some (before, _) => String.ofList before
  | none => text

/-- The stem of a name that starts with letters other than the dot. -/
theorem stemOf_append {letters : String} (named : letters.toList ≠ [])
    (dotless : '.' ∉ letters.toList) (text : String) :
    stemOf (letters ++ text) = letters ++ beforeLastDot text := by
  unfold stemOf beforeLastDot
  rw [String.toList_append, cutAtLastDot?_append dotless]
  cases cutAtLastDot? text.toList with
  | none => rfl
  | some parts =>
    obtain ⟨before, extension⟩ := parts
    -- A letter stands before the dot, so the dot is not the one that starts a name.
    obtain ⟨first, others, begins⟩ := List.exists_cons_of_ne_nil named
    have whole : String.ofList (first :: (others ++ before)) = letters ++ String.ofList before := by
      rw [← List.cons_append, ← begins, String.ofList_append, String.ofList_toList]
    rw [begins]
    exact whole

/-- The stem of a name that starts with letters other than the dot, seen as a path. -/
theorem fileStem?_append {letters : String} (named : letters.toList ≠ [])
    (dotless : '.' ∉ letters.toList) {text : String} (flat : '/' ∉ (letters ++ text).toList) :
    (Path.mk (letters ++ text)).fileStem? = some (letters ++ beforeLastDot text) := by
  have proper : (letters ++ text).toList ∉ [[], ['.'], ['.', '.']] := by
    obtain ⟨first, others, begins⟩ := List.exists_cons_of_ne_nil named
    have other : first ≠ '.' := fun dot => dotless (by rw [begins, dot]; exact List.mem_cons_self)
    rw [String.toList_append, begins]
    simp [other]
  rw [fileStem?, fileName?_mk flat proper, Option.map_some, stemOf_append named dotless]

end Path

namespace Fixture

/-! ### Keys -/

namespace Role

/-- A name has a role exactly when it starts with the letter for it. -/
theorem of?_eq_some_iff {name : String} {role : Role} :
    of? name = some role ↔ name.toList.head? = some role.letter := by
  unfold of?
  split
  next first => cases role <;> simp [first, letter]
  next first => cases role <;> simp [first, letter]
  next notInput notOutput =>
    refine iff_of_false (Option.some_ne_none role).symm fun first => ?_
    cases role
    · exact notInput first
    · exact notOutput first

/-- A name that starts with the letter for a role is neither nothing nor dots. -/
theorem proper_of_head? {name : String} {role : Role}
    (begins : name.toList.head? = some role.letter) : name.toList ∉ [[], ['.'], ['.', '.']] := by
  intro member
  simp only [List.mem_cons, List.not_mem_nil, or_false] at member
  rcases member with nothing | dot | dots
  · rw [nothing] at begins
    cases begins
  · rw [dot] at begins
    cases role <;> cases begins
  · rw [dots] at begins
    cases role <;> cases begins

/-- The word for a role has at least one letter, and neither a dot nor a slash. -/
theorem word_spec (role : Role) :
    role.word.toList ≠ [] ∧ '.' ∉ role.word.toList ∧ '/' ∉ role.word.toList := by
  cases role <;> decide

/-- The name that the word for a role and what follows it make. -/
def name (role : Role) (suffix : String) : String :=
  role.word ++ suffix

end Role

/-- The word for a role is taken off a stem that starts with it. -/
theorem keyOfStem_append (role : Role) (rest : List Char) :
    keyOfStem role (role.word.toList ++ rest) = rest := by
  unfold keyOfStem
  rw [List.isPrefixOf?_eq_some_iff_append_eq.mpr rfl]

/-- The key of a name is that of its stem. -/
theorem key_of_fileStem? (role : Role) {name stem : String}
    (stemmed : (Path.mk name).fileStem? = some stem) :
    key role name = String.ofList (keyOfStem role stem.toList) := by
  rw [key, stemmed, Option.getD_some]

/-- The key of a name that starts with the word for its role is the rest of the name up to its
last dot. -/
theorem key_name (role : Role) {suffix : String} (flat : '/' ∉ suffix.toList) :
    key role (role.name suffix) = Path.beforeLastDot suffix := by
  obtain ⟨nonempty, dotless, wordFlat⟩ := role.word_spec
  have flatName : '/' ∉ (role.name suffix).toList := by
    rw [Role.name, String.toList_append, List.mem_append, not_or]
    exact ⟨wordFlat, flat⟩
  have stem : (Path.mk (role.name suffix)).fileStem? =
      some (role.word ++ Path.beforeLastDot suffix) :=
    Path.fileStem?_append nonempty dotless flatName
  rw [key_of_fileStem? role stem, String.toList_append, keyOfStem_append, String.ofList_toList]

end Fixture

end Golden
