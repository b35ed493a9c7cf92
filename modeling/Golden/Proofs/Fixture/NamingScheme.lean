/-
This file says that keys undo the naming of fixtures. A name is made of the word or the
letter for a role, a key and an extension. The stem of a name with a role starts with
the letter for the role, so there is always something to take off, and what is taken off
is the word where the stem starts with the whole of it, and the letter elsewhere. The
longer of the two goes first: a key behind the letter alone is mistaken exactly when it
goes on with the rest of the word.
-/

import Golden.Proofs.Fixture.Keys

namespace Golden

namespace Path

/-! ### Extensions -/

/-- What stands in front of a name that is cut at its last dot stays in front of the dot. -/
theorem cutAtLastDot?_append_of_eq_some {name stem extension : List Char}
    (cut : cutAtLastDot? name = some (stem, extension)) (front : List Char) :
    cutAtLastDot? (front ++ name) = some (front ++ stem, extension) := by
  induction front with
  | nil => exact cut
  | cons letter rest inductionHypothesis =>
    rw [List.cons_append, cutAtLastDot?, inductionHypothesis]
    rfl

/-- A dot in front of an extension without dots is the last one. -/
theorem cutAtLastDot?_dot {extension : List Char} (dotless : '.' ∉ extension) :
    cutAtLastDot? ('.' :: extension) = some ([], extension) := by
  have uncut := cutAtLastDot?_append dotless []
  rw [List.append_nil] at uncut
  rw [cutAtLastDot?, uncut]
  rfl

theorem beforeLastDot_append (front : String) {extension : String}
    (dotless : '.' ∉ extension.toList) :
    beforeLastDot (front ++ "." ++ extension) = front := by
  have whole : (front ++ "." ++ extension).toList = front.toList ++ '.' :: extension.toList := by
    simp
  unfold beforeLastDot
  rw [whole, cutAtLastDot?_append_of_eq_some (cutAtLastDot?_dot dotless)]
  simp

end Path

namespace Fixture

/-! ### Names of a role -/

/-- A name with a role is the letter for the role and what follows it. -/
theorem Role.exists_of_of?_eq_some {name : String} {role : Role}
    (classified : Role.of? name = some role) :
    ∃ rest, name = String.singleton role.letter ++ rest := by
  obtain ⟨rest, whole⟩ := List.head?_eq_some_iff.mp (Role.of?_eq_some_iff.mp classified)
  refine ⟨String.ofList rest, String.toList_inj.mp ?_⟩
  rw [whole, String.toList_append, String.toList_singleton, String.toList_ofList]
  rfl

/-- The letter for a role is neither a dot nor a slash. -/
theorem Role.letter_spec (role : Role) : role.letter ≠ '.' ∧ role.letter ≠ '/' := by
  cases role <;> decide

/-- The letter for a role and what stands before the last dot of what follows it make the stem. -/
theorem fileStem?_letter (role : Role) {rest : String}
    (flat : '/' ∉ (String.singleton role.letter ++ rest).toList) :
    (Path.mk (String.singleton role.letter ++ rest)).fileStem? =
      some (String.singleton role.letter ++ Path.beforeLastDot rest) := by
  refine Path.fileStem?_append ?_ ?_ flat
  · rw [String.toList_singleton]
    exact List.cons_ne_nil _ _
  · rw [String.toList_singleton, List.mem_singleton]
    exact role.letter_spec.1.symm

/-! ### Keys of stems -/

/-- The word for a role goes on behind its letter. -/
theorem Role.word_eq (role : Role) : role.word.toList = role.letter :: role.word.toList.tail := by
  obtain ⟨rest, whole⟩ := role.word_toList
  rw [whole, List.tail_cons]

/-- The letter for a role is taken off a stem that starts with it and not with the word. -/
theorem keyOfStem_letter {role : Role} {rest : List Char}
    (short : ¬ role.word.toList <+: role.letter :: rest) :
    keyOfStem role (role.letter :: rest) = rest := by
  unfold keyOfStem
  cases taken : role.word.toList.isPrefixOf? (role.letter :: rest) with
  | some behind => exact absurd ⟨behind, List.isPrefixOf?_eq_some_iff_append_eq.mp taken⟩ short
  | none => exact if_pos rfl

/-- The letter alone is taken off a stem unless the rest of the word stands behind it. -/
theorem keyOfStem_letter_eq_iff (role : Role) (rest : List Char) :
    keyOfStem role (role.letter :: rest) = rest ↔ ¬ role.word.toList.tail <+: rest := by
  have begins : role.word.toList <+: role.letter :: rest ↔ role.word.toList.tail <+: rest := by
    rw [role.word_eq, List.prefix_cons_inj, List.tail_cons]
  constructor
  · rintro same ⟨behind, rfl⟩
    have longer : role.word.toList.tail ≠ [] := by cases role <;> decide
    rw [← List.cons_append, ← role.word_eq, keyOfStem_append] at same
    exact longer (List.self_eq_append_left.mp same)
  · exact fun short => keyOfStem_letter (begins.not.mpr short)

/-- Names whose stems start with the word for a role have their keys behind it. -/
theorem eq_word_append_key {role : Role} {name stem : String}
    (stemmed : (Path.mk name).fileStem? = some stem) (long : role.word.toList <+: stem.toList) :
    stem = role.word ++ key role name := by
  obtain ⟨rest, whole⟩ := long
  rw [key_of_fileStem? role stemmed, ← whole, keyOfStem_append]
  refine String.toList_inj.mp ?_
  rw [String.toList_append, String.toList_ofList, whole]

/-! ### Keys and names -/

/-- The key in a name of the word for its role, the key and an extension is found. -/
theorem key_of_word (role : Role) {inner extension : String} (flat : '/' ∉ inner.toList)
    (dotless : '.' ∉ extension.toList) (flatExtension : '/' ∉ extension.toList) :
    key role (role.word ++ inner ++ "." ++ extension) = inner := by
  have flatSuffix : '/' ∉ (inner ++ "." ++ extension).toList := by simp [flat, flatExtension]
  have named : role.word ++ inner ++ "." ++ extension = role.name (inner ++ "." ++ extension) := by
    simp only [Role.name, String.append_assoc]
  rw [named, key_name role flatSuffix, Path.beforeLastDot_append inner dotless]

/-- The key in a name of the letter for its role, the key and an extension is found unless it starts
with the rest of the word. -/
theorem key_of_letter_iff (role : Role) {inner extension : String} (flat : '/' ∉ inner.toList)
    (dotless : '.' ∉ extension.toList) (flatExtension : '/' ∉ extension.toList) :
    key role (String.singleton role.letter ++ inner ++ "." ++ extension) = inner ↔
      ¬ role.word.toList.tail <+: inner.toList := by
  have named : String.singleton role.letter ++ inner ++ "." ++ extension =
      String.singleton role.letter ++ (inner ++ "." ++ extension) := by
    simp only [String.append_assoc]
  have flatName : '/' ∉ (String.singleton role.letter ++ (inner ++ "." ++ extension)).toList := by
    simp [flat, flatExtension, role.letter_spec.2.symm]
  have stem := fileStem?_letter role flatName
  rw [Path.beforeLastDot_append inner dotless] at stem
  rw [named, key_of_fileStem? role stem, String.toList_append, String.toList_singleton,
    List.singleton_append, ← keyOfStem_letter_eq_iff, ← String.toList_inj, String.toList_ofList]

/-- Keys undo the naming of fixtures. The key is found again in a name of the word for its role, the
key and an extension, and also where the letter for the role takes the place of the word, unless the
key then starts with the rest of the word. A name with a role has a stem, and the stem starts with
the letter for the role; it is the word and the key if it starts with the word, and the letter and
the key otherwise. So names whose stems start with the word have the same key exactly when they have
the same stem. -/
theorem keys_undo_names (role : Role) :
    (∀ inner extension : String, '/' ∉ inner.toList → '.' ∉ extension.toList →
      '/' ∉ extension.toList →
        key role (role.word ++ inner ++ "." ++ extension) = inner ∧
        (key role (String.singleton role.letter ++ inner ++ "." ++ extension) = inner ↔
          ¬ role.word.toList.tail <+: inner.toList)) ∧
    (∀ name : String, '/' ∉ name.toList → Role.of? name = some role →
      ∃ stem, (Path.mk name).fileStem? = some stem ∧ stem.toList.head? = some role.letter ∧
        (role.word.toList <+: stem.toList → stem = role.word ++ key role name) ∧
        (¬ role.word.toList <+: stem.toList →
          stem = String.singleton role.letter ++ key role name)) ∧
    ∀ left right leftStem rightStem, (Path.mk left).fileStem? = some leftStem →
      (Path.mk right).fileStem? = some rightStem → role.word.toList <+: leftStem.toList →
        role.word.toList <+: rightStem.toList →
          (key role left = key role right ↔ leftStem = rightStem) := by
  refine ⟨?_, ?_, ?_⟩
  · intro inner extension flat dotless flatExtension
    exact ⟨key_of_word role flat dotless flatExtension,
      key_of_letter_iff role flat dotless flatExtension⟩
  · intro name flat classified
    obtain ⟨rest, rfl⟩ := Role.exists_of_of?_eq_some classified
    have stemmed := fileStem?_letter role flat
    have whole : (String.singleton role.letter ++ Path.beforeLastDot rest).toList =
        role.letter :: (Path.beforeLastDot rest).toList := by
      rw [String.toList_append, String.toList_singleton, List.singleton_append]
    refine ⟨_, stemmed, ?_, eq_word_append_key stemmed, fun short => ?_⟩
    · rw [whole, List.head?_cons]
    · rw [whole] at short
      rw [key_of_fileStem? role stemmed, whole, keyOfStem_letter short, String.ofList_toList]
  · intro left right leftStem rightStem leftStemmed rightStemmed leftLong rightLong
    constructor
    · intro same
      rw [eq_word_append_key leftStemmed leftLong, same,
        ← eq_word_append_key rightStemmed rightLong]
    · rintro rfl
      rw [key_of_fileStem? role leftStemmed, key_of_fileStem? role rightStemmed]

/-- Names with dots in their keys, with the rest of the word behind the word and behind the letter,
and without an extension. -/
theorem keys_of_dotted_names :
    key .input "input.a.b.txt" = ".a.b" ∧ key .output "outpututput." = "utput" ∧
    key .output "onput.txt" = "nput" ∧ key .input "inputs.txt" ≠ "nputs" ∧
    (∃ stem, (Path.mk "o_a").fileStem? = some stem ∧ stem = "o" ++ key .output "o_a") ∧
    key .input "input1.txt" = key .input "input1.md" ∧
    key .input "input1.txt" ≠ key .input "inputinput1.txt" := by
  obtain ⟨inputs, -, inputKeys⟩ := keys_undo_names .input
  obtain ⟨outputs, outputNames, -⟩ := keys_undo_names .output
  refine ⟨?_, ?_, ?_, ?_, ?_, ?_, ?_⟩
  · exact (inputs ".a.b" "txt" (by decide) (by decide) (by decide)).1
  · exact (outputs "utput" "" (by decide) (by decide) (by decide)).1
  · exact (outputs "nput" "txt" (by decide) (by decide) (by decide)).2.mpr (by decide)
  · intro found
    exact (inputs "nputs" "txt" (by decide) (by decide) (by decide)).2.mp found (by decide)
  · obtain ⟨stem, stemmed, -, -, short⟩ := outputNames "o_a" (by decide) (by decide)
    have stemOfName : (Path.mk "o_a").fileStem? = some "o_a" := by decide
    obtain rfl : "o_a" = stem := Option.some.inj (stemOfName.symm.trans stemmed)
    exact ⟨"o_a", stemmed, short (by decide)⟩
  · exact (inputKeys "input1.txt" "input1.md" "input1" "input1" (by decide) (by decide)
      (by decide) (by decide)).mpr rfl
  · exact (inputKeys "input1.txt" "inputinput1.txt" "input1" "inputinput1" (by decide)
      (by decide) (by decide) (by decide)).not.mpr (by decide)

end Fixture

end Golden
