/-
This file writes options as command lines. Every option that has something to say is
a group of one or two arguments, and a line is made of groups in any order. Reading
a line keeps one thing true: what was read so far, once the value that is still
pending is looked at, is what the groups so far say. So the order of the groups does
not matter, since nothing is said twice, and a group that says no more than what
holds anyway can be left out. The directory is the one thing that must be named.
-/

import Golden.Options.Reading
import Mathlib.Data.List.Perm.Subperm

namespace Golden.Options

open Golden.Fixture

/-! ### Groups of arguments -/

/-- One thing that a command line says. -/
inductive Group
  | value (slot : Slot) (text : String)
  | on (switch : Switch)
deriving DecidableEq

/-- The argument that names a slot. The directory is not named. -/
def nameOf? : Slot → Option String
  | .directory => none
  | .build => some "--build"
  | .program => some "--program"
  | .output => some "--output"
  | .diffTool => some "--diff-tool"
  | .pairing => some "--pairing"
  | .format => some "--format"
  | .filter => some "-k"

/-- The argument that turns a switch on. -/
def flagOf : Switch → String
  | .noBuild => "--no-build"
  | .verbose => "-v"
  | .stopOnFail => "-x"
  | .abortOnBuildFailure => "--abort-on-build-failure"

namespace Group

/-- The arguments of a group. -/
def arguments : Group → List String
  | .value slot text => (nameOf? slot).toList ++ [text]
  | .on switch => [flagOf switch]

/-- What a group is about. -/
def subject : Group → Slot ⊕ Switch
  | .value slot _ => .inl slot
  | .on switch => .inr switch

/-- The value that a group gives, if it gives one. -/
def value? : Group → Option (Slot × String)
  | .value slot text => some (slot, text)
  | .on _ => none

/-- The switch that a group turns on, if it turns one on. -/
def switch? : Group → Option Switch
  | .value _ _ => none
  | .on switch => some switch

end Group

/-! ### The groups of options -/

def pairingName : Pairing → String
  | .positional => "positional"
  | .keyed => "keyed"

def formatName : Format → String
  | .console => "console"
  | .json => "json"

/-- The text that options have for a slot. -/
def textOf? (options : Options) : Slot → Option String
  | .directory => some options.settings.directory.text
  | .build => options.settings.build
  | .program => some options.settings.program
  | .output => some options.settings.output.text
  | .diffTool => options.settings.diffTool
  | .pairing => some (pairingName options.settings.pairing)
  | .format => some (formatName options.format)
  | .filter => options.settings.filter

/-- Whether options have a switch on. -/
def isOn (options : Options) : Switch → Bool
  | .noBuild => options.settings.build.isNone
  | .verbose => options.verbose
  | .stopOnFail => options.settings.stopOnFail
  | .abortOnBuildFailure => options.settings.abortOnBuildFailure

def slots : List Slot :=
  [.directory, .build, .program, .output, .diffTool, .pairing, .format, .filter]

def switches : List Switch :=
  [.noBuild, .verbose, .stopOnFail, .abortOnBuildFailure]

/-- All that options say. -/
def groupsOf (options : Options) : List Group :=
  (slots.filterMap fun slot => (textOf? options slot).map (Group.value slot)) ++
    (switches.filter (isOn options)).map Group.on

/-- The options that hold when nothing is said. -/
def defaults : Options := ⟨Settings.default, .console, false⟩

theorem value_mem_groupsOf_iff (options : Options) (slot : Slot) (text : String) :
    .value slot text ∈ groupsOf options ↔ textOf? options slot = some text := by
  have listed : slot ∈ slots := by cases slot <;> decide
  simp [groupsOf, listed]

theorem on_mem_groupsOf_iff (options : Options) (switch : Switch) :
    .on switch ∈ groupsOf options ↔ isOn options switch = true := by
  have listed : switch ∈ switches := by cases switch <;> decide
  simp [groupsOf, listed]

/-- Nothing is said twice. -/
theorem nodup_subject_groupsOf (options : Options) :
    ((groupsOf options).map Group.subject).Nodup := by
  have listed : (slots.map Sum.inl ++ switches.map Sum.inr : List (Slot ⊕ Switch)).Nodup := by
    decide
  have valued (slots : List Slot) : (slots.filterMap fun slot =>
      (textOf? options slot).map fun _ => (Sum.inl slot : Slot ⊕ Switch)).Sublist
        (slots.map Sum.inl) := by
    induction slots with
    | nil => exact .slnil
    | cons slot rest inductionHypothesis =>
      rw [List.filterMap_cons, List.map_cons]
      cases textOf? options slot with
      | none => exact inductionHypothesis.cons _
      | some text => exact inductionHypothesis.cons_cons _
  have turned : ((switches.filter (isOn options)).map (Sum.inr : Switch → Slot ⊕ Switch)).Sublist
      (switches.map Sum.inr) := List.filter_sublist.map _
  refine listed.sublist (List.Sublist.trans ?_ ((valued slots).append turned))
  rw [groupsOf, List.map_append, List.map_filterMap, List.map_map]
  simp only [Option.map_map]
  exact List.Sublist.refl _

/-! ### What groups come to -/

/-- The values that groups give, in order. -/
def valuesOf (groups : List Group) : List (Slot × String) :=
  groups.filterMap Group.value?

/-- The switches that groups turn on, in order. -/
def switchesOf (groups : List Group) : List Switch :=
  groups.filterMap Group.switch?

/-- The state in which groups have been read and nothing is pending. -/
def stateOf (groups : List Group) : State where
  values := valuesOf groups
  switches := switchesOf groups
  pending := none
  directoryNamed := ((valuesOf groups).lookup .directory).isSome
  plainOnly := false

theorem valuesOf_value (slot : Slot) (text : String) (rest : List Group) :
    valuesOf (.value slot text :: rest) = (slot, text) :: valuesOf rest := rfl

theorem valuesOf_on (switch : Switch) (rest : List Group) :
    valuesOf (.on switch :: rest) = valuesOf rest := rfl

theorem lookup_valuesOf_eq_none_iff (groups : List Group) (slot : Slot) :
    (valuesOf groups).lookup slot = none ↔ .inl slot ∉ groups.map Group.subject := by
  induction groups with
  | nil => simp [valuesOf]
  | cons group rest inductionHypothesis =>
    rw [List.map_cons, List.mem_cons, not_or, ← inductionHypothesis]
    cases group with
    | on switch =>
      rw [valuesOf_on]
      simp [Group.subject]
    | value other text =>
      rw [valuesOf_value, List.lookup_cons]
      cases same : slot == other <;> simp_all [Group.subject]

theorem lookup_valuesOf_eq_some_iff {groups : List Group}
    (nodup : (groups.map Group.subject).Nodup) (slot : Slot) (text : String) :
    (valuesOf groups).lookup slot = some text ↔ .value slot text ∈ groups := by
  induction groups with
  | nil => simp [valuesOf]
  | cons group rest inductionHypothesis =>
    obtain ⟨absent, nodupRest⟩ := List.nodup_cons.mp nodup
    rw [List.mem_cons, ← inductionHypothesis nodupRest]
    cases group with
    | on switch =>
      rw [valuesOf_on]
      simp
    | value other given =>
      rw [valuesOf_value, List.lookup_cons]
      by_cases same : slot = other
      · have none : (valuesOf rest).lookup slot = none :=
          (lookup_valuesOf_eq_none_iff rest slot).mpr (same ▸ absent)
        simp [same ▸ none, same, eq_comm]
      · simp [beq_false_of_ne same, same]

theorem mem_switchesOf_iff (groups : List Group) (switch : Switch) :
    switch ∈ switchesOf groups ↔ .on switch ∈ groups := by
  rw [switchesOf, List.mem_filterMap]
  constructor
  · rintro ⟨group, member, equal⟩
    cases group with
    | value slot text => cases equal
    | on other => exact Option.some.inj equal ▸ member
  · exact fun member => ⟨_, member, rfl⟩

/-! ### Reading one group -/

/-- A text that is not taken for an option: it does not start with a hyphen, or is nothing else. -/
def LooksPlain (text : String) : Prop :=
  text.toList.head? = some '-' → text = "-"

theorem readArgument_of_looksPlain {state : State} (notOnly : state.plainOnly = false)
    {text : String} (plain : LooksPlain text) :
    readArgument state text =
      match state.pending with
      | some (slot, none) => .ok { state with pending := some (slot, some text) }
      | _ => readPlain state text := by
  have hyphened (second : Char) (rest : List Char)
      (characters : text.toList = '-' :: second :: rest) : False := by
    rw [plain (congrArg List.head? characters)] at characters
    cases characters
  unfold readArgument
  rw [if_neg (notOnly ▸ Bool.false_ne_true)]
  split
  next characters => exact (hyphened _ _ characters).elim
  next characters => exact (hyphened _ _ characters).elim
  next characters => exact (hyphened _ _ characters).elim
  next => rfl

theorem readArgument_nameOf? {state : State} (notOnly : state.plainOnly = false) {slot : Slot}
    {name : String} (named : nameOf? slot = some name) :
    readArgument state name =
      state.settle.map fun settled => { settled with pending := some (slot, none) } := by
  unfold readArgument
  rw [if_neg (notOnly ▸ Bool.false_ne_true)]
  cases slot <;> cases named <;> rfl

theorem readArgument_flagOf {state : State} (notOnly : state.plainOnly = false) (switch : Switch) :
    readArgument state (flagOf switch) =
      state.settle.bind fun settled => settled.turnOn switch := by
  -- A letter is followed by the letters that are left, of which there are none.
  have letters : (state.settle.bind fun settled => (settled.turnOn switch).bind fun next =>
      readLetters next []) = state.settle.bind fun settled => settled.turnOn switch := by
    refine congrArg _ (funext fun settled => ?_)
    cases settled.turnOn switch <;> rfl
  unfold readArgument
  rw [if_neg (notOnly ▸ Bool.false_ne_true)]
  cases switch with
  | noBuild => rfl
  | verbose => exact letters
  | stopOnFail => exact letters
  | abortOnBuildFailure => rfl

/-! ### Reading groups -/

/-- A group with which a line can go on: its value is one that its slot takes, and is not taken for
an option. -/
def Acceptable : Group → Prop
  | .value slot text => takes slot text = true ∧ LooksPlain text
  | .on _ => True

theorem stateOf_append_value (read : List Group) (slot : Slot) (text : String) :
    stateOf (read ++ [.value slot text]) =
      { stateOf read with
        values := valuesOf read ++ [(slot, text)]
        directoryNamed := (stateOf read).directoryNamed || .directory == slot } := by
  have values : valuesOf (read ++ [.value slot text]) = valuesOf read ++ [(slot, text)] :=
    List.filterMap_append
  have switches : switchesOf (read ++ [.value slot text]) = switchesOf read :=
    List.filterMap_append.trans (List.append_nil _)
  have named : (((valuesOf read) ++ [(slot, text)]).lookup .directory).isSome =
      (((valuesOf read).lookup .directory).isSome || .directory == slot) := by
    rw [List.lookup_append, Option.isSome_or, List.lookup_cons]
    cases Slot.directory == slot <;> rfl
  rw [stateOf, values, switches, named]
  rfl

theorem stateOf_append_on (read : List Group) (switch : Switch) :
    stateOf (read ++ [.on switch]) =
      { stateOf read with switches := switchesOf read ++ [switch] } := by
  have values : valuesOf (read ++ [.on switch]) = valuesOf read :=
    List.filterMap_append.trans (List.append_nil _)
  have switches : switchesOf (read ++ [.on switch]) = switchesOf read ++ [switch] :=
    List.filterMap_append
  rw [stateOf, values, switches]
  rfl

/-- A state that can be settled does not wait for a value. -/
theorem of_settle_eq_ok {state settled : State} (settles : state.settle = .ok settled) :
    settled.plainOnly = state.plainOnly ∧ settled.directoryNamed = state.directoryNamed ∧
      ∀ slot, state.pending ≠ some (slot, none) := by
  unfold State.settle at settles
  split at settles
  next pending =>
    cases settles
    simp [pending]
  next => cases settles
  next slot text pending =>
    unfold State.assign at settles
    split at settles
    · cases settles
    · split at settles
      · cases settles
        simp [pending]
      · cases settles

/-- A pending value is taken when its slot has none yet and takes it. -/
theorem settle_pending {read : List Group} {slot : Slot} {text : String}
    (fresh : .inl slot ∉ read.map Group.subject) (taken : takes slot text = true) (named : Bool) :
    State.settle { stateOf read with pending := some (slot, some text), directoryNamed := named } =
      .ok { stateOf read with
        values := valuesOf read ++ [(slot, text)], directoryNamed := named } := by
  have none := (lookup_valuesOf_eq_none_iff read slot).mpr fresh
  simp [State.settle, State.assign, stateOf, none, taken]

theorem exists_readArguments_value {state : State} {read : List Group} {slot : Slot} {text : String}
    (settles : state.settle = .ok (stateOf read)) (fresh : .inl slot ∉ read.map Group.subject)
    (taken : takes slot text = true) (plain : LooksPlain text) (rest : List String) :
    ∃ next, readArguments state ((Group.value slot text).arguments ++ rest) =
        readArguments next rest ∧
      next.settle = .ok (stateOf (read ++ [.value slot text])) := by
  obtain ⟨only, directoryNamed, noneWaits⟩ := of_settle_eq_ok settles
  have notOnly : state.plainOnly = false := only.symm
  let next : State :=
    { stateOf read with
      pending := some (slot, some text)
      directoryNamed := (stateOf read).directoryNamed || .directory == slot }
  rw [stateOf_append_value]
  refine ⟨next, ?_, settle_pending fresh taken _⟩
  show readArguments state ((nameOf? slot).toList ++ [text] ++ rest) = _
  cases named : nameOf? slot with
  | some name =>
    -- The name leaves the slot waiting, and the text is what it waits for.
    let waiting : State := { stateOf read with pending := some (slot, none) }
    have waits : readArgument state name = .ok waiting := by
      rw [readArgument_nameOf? notOnly named, settles]
      rfl
    have given : readArgument waiting text = .ok next := by
      rw [readArgument_of_looksPlain rfl plain]
      cases slot <;> cases named <;> simp [next, waiting]
    show (readArgument state name).bind (readArguments · (text :: rest)) = _
    rw [waits]
    show (readArgument waiting text).bind (readArguments · rest) = _
    rw [given]
    rfl
  | none =>
    obtain rfl : slot = .directory := by cases slot <;> cases named; rfl
    have unnamed : (stateOf read).directoryNamed = false := by
      rw [stateOf, (lookup_valuesOf_eq_none_iff read .directory).mpr fresh]
      rfl
    have given : readArgument state text = .ok next := by
      rw [readArgument_of_looksPlain notOnly plain]
      split
      next pending => exact absurd pending (noneWaits _)
      next =>
        rw [readPlain, ← directoryNamed, unnamed, settles]
        simp [next]
    show (readArgument state text).bind (readArguments · rest) = _
    rw [given]
    rfl

/-- What was read so far, once the pending value is looked at, is what the groups so far say; and
one more group keeps it so. -/
theorem exists_readArguments_group {state : State} {read : List Group} {group : Group}
    (settles : state.settle = .ok (stateOf read)) (fresh : group.subject ∉ read.map Group.subject)
    (acceptable : Acceptable group) (rest : List String) :
    ∃ next, readArguments state (group.arguments ++ rest) = readArguments next rest ∧
      next.settle = .ok (stateOf (read ++ [group])) := by
  cases group with
  | value slot text =>
    exact exists_readArguments_value settles fresh acceptable.1 acceptable.2 rest
  | on switch =>
    have notOnly : state.plainOnly = false := (of_settle_eq_ok settles).1.symm
    have off : switch ∉ switchesOf read := fun member =>
      fresh (List.mem_map_of_mem ((mem_switchesOf_iff read switch).mp member))
    have turned : readArgument state (flagOf switch) = .ok (stateOf (read ++ [.on switch])) := by
      rw [readArgument_flagOf notOnly, settles, stateOf_append_on]
      exact if_neg off
    refine ⟨stateOf (read ++ [.on switch]), ?_, rfl⟩
    show readArguments state (flagOf switch :: rest) = _
    rw [readArguments, turned]
    rfl

/-- A line of acceptable groups that say nothing twice is read as what they say. -/
theorem readArguments_groups {state : State} {read : List Group} (groups : List Group)
    (settles : state.settle = .ok (stateOf read))
    (nodup : ((read ++ groups).map Group.subject).Nodup)
    (acceptable : ∀ group ∈ groups, Acceptable group) :
    readArguments state (groups.flatMap Group.arguments) = .ok (stateOf (read ++ groups)) := by
  induction groups generalizing state read with
  | nil =>
    rw [List.append_nil]
    exact settles
  | cons group rest inductionHypothesis =>
    obtain ⟨first, others⟩ := List.forall_mem_cons.mp acceptable
    have fresh : group.subject ∉ read.map Group.subject := by
      rw [List.map_append, List.nodup_append] at nodup
      exact fun member => nodup.2.2 _ member _ List.mem_cons_self rfl
    obtain ⟨next, goesOn, settlesMore⟩ :=
      exists_readArguments_group settles fresh first (rest.flatMap Group.arguments)
    rw [List.append_cons] at nodup ⊢
    rw [List.flatMap_cons, goesOn]
    exact inductionHypothesis settlesMore nodup others

/-! ### Saying options -/

/-- Options that can be said: no path is empty, and no text is taken for an option. -/
structure Sayable (options : Options) : Prop where
  directory_ne : options.settings.directory.text ≠ ""
  output_ne : options.settings.output.text ≠ ""
  directory_plain : LooksPlain options.settings.directory.text
  build_plain : ∀ text ∈ options.settings.build, LooksPlain text
  program_plain : LooksPlain options.settings.program
  output_plain : LooksPlain options.settings.output.text
  diffTool_plain : ∀ text ∈ options.settings.diffTool, LooksPlain text
  filter_plain : ∀ text ∈ options.settings.filter, LooksPlain text

instance (text : String) : Decidable (LooksPlain text) :=
  inferInstanceAs (Decidable (_ → _))

theorem lookup_pairingName (pairing : Pairing) :
    pairings.lookup (pairingName pairing) = some pairing := by
  cases pairing <;> rfl

theorem lookup_formatName (format : Format) : formats.lookup (formatName format) = some format := by
  cases format <;> rfl

/-- A choice is known by its name, and a name that is not given is the default's. -/
theorem choice_getD {α : Type} {choices : List (String × α)} {name : α → String}
    (named : ∀ choice, choices.lookup (name choice) = some choice) {given : Option String}
    {choice : α} (default : α) (found : given.getD (name default) = name choice) :
    (given.bind (List.lookup · choices)).getD default = choice := by
  cases given with
  | none =>
    have same : name default = name choice := found
    exact Option.some.inj ((named default).symm.trans (same ▸ named choice))
  | some text =>
    obtain rfl : text = name choice := found
    simp [named]

theorem acceptable_of_sayable {options : Options} (sayable : Sayable options) {group : Group}
    (member : group ∈ groupsOf options) : Acceptable group := by
  cases group with
  | on switch => trivial
  | value slot text =>
    have given := (value_mem_groupsOf_iff options slot text).mp member
    cases slot with
    | directory =>
      obtain rfl := Option.some.inj given
      exact ⟨by simpa [takes] using sayable.directory_ne, sayable.directory_plain⟩
    | build => exact ⟨rfl, sayable.build_plain text given⟩
    | program => exact ⟨rfl, Option.some.inj given ▸ sayable.program_plain⟩
    | output =>
      obtain rfl := Option.some.inj given
      exact ⟨by simpa [takes] using sayable.output_ne, sayable.output_plain⟩
    | diffTool => exact ⟨rfl, sayable.diffTool_plain text given⟩
    | pairing =>
      obtain rfl := Option.some.inj given
      refine ⟨by rw [takes, lookup_pairingName]; rfl, ?_⟩
      cases options.settings.pairing <;> decide
    | format =>
      obtain rfl := Option.some.inj given
      refine ⟨by rw [takes, lookup_formatName]; rfl, ?_⟩
      cases options.format <;> decide
    | filter => exact ⟨rfl, sayable.filter_plain text given⟩

/-! What is left out of the groups of options are defaults, and not the directory, which has none on
a command line. -/

section LeftOut

variable {options : Options} {given : List Group} (subperm : given.Subperm (groupsOf options))
  (left : ∀ group ∈ groupsOf options, group ∉ given →
    group ∈ groupsOf defaults ∧ group.subject ≠ .inl .directory)

include left in
/-- What is said, and not given, is the default. -/
theorem textOf?_defaults {slot : Slot} {text : String} (said : textOf? options slot = some text)
    (absent : (valuesOf given).lookup slot = none) :
    textOf? defaults slot = some text ∧ slot ≠ .directory := by
  have member := (value_mem_groupsOf_iff options slot text).mpr said
  rw [lookup_valuesOf_eq_none_iff] at absent
  obtain ⟨common, notDirectory⟩ :=
    left _ member fun named => absent (List.mem_map_of_mem named)
  exact ⟨(value_mem_groupsOf_iff defaults slot text).mp common,
    fun same => notDirectory (congrArg Sum.inl same)⟩

include subperm

theorem nodup_subject_given : (given.map Group.subject).Nodup := by
  obtain ⟨sorted, perm, sublist⟩ := subperm
  exact (perm.map Group.subject).nodup_iff.mp
    ((nodup_subject_groupsOf options).sublist (sublist.map Group.subject))

theorem textOf?_of_lookup {slot : Slot} {text : String}
    (found : (valuesOf given).lookup slot = some text) : textOf? options slot = some text := by
  rw [lookup_valuesOf_eq_some_iff (nodup_subject_given subperm)] at found
  exact (value_mem_groupsOf_iff options slot text).mp (subperm.subset found)

include left

/-- A value that is not given is the default. -/
theorem lookup_getD (slot : Slot) {text default : String}
    (said : textOf? options slot = some text) (standard : textOf? defaults slot = some default) :
    ((valuesOf given).lookup slot).getD default = text := by
  cases found : (valuesOf given).lookup slot with
  | some other =>
    exact Option.some.inj ((textOf?_of_lookup subperm found).symm.trans said)
  | none =>
    have common := (textOf?_defaults left said found).1
    exact Option.some.inj (standard.symm.trans common)

/-- What has no default is given as the options have it. -/
theorem lookup_eq_textOf? (slot : Slot)
    (bare : textOf? defaults slot = none ∨ slot = .directory) :
    (valuesOf given).lookup slot = textOf? options slot := by
  cases found : (valuesOf given).lookup slot with
  | some text => exact (textOf?_of_lookup subperm found).symm
  | none =>
    cases said : textOf? options slot with
    | none => rfl
    | some text =>
      obtain ⟨common, notDirectory⟩ := textOf?_defaults left said found
      cases bare with
      | inl none => cases none.symm.trans common
      | inr same => exact absurd same notDirectory

theorem contains_switchesOf (switch : Switch) :
    (switchesOf given).contains switch = isOn options switch := by
  rw [Bool.eq_iff_iff, List.contains_iff_mem, mem_switchesOf_iff, ← on_mem_groupsOf_iff]
  refine ⟨fun member => subperm.subset member, fun member => by_contra fun absent => ?_⟩
  -- No switch is on when nothing is said, so none is left out.
  have common := (on_mem_groupsOf_iff defaults switch).mp (left _ member absent).1
  cases switch <;> cases common

theorem build_stateOf :
    (if (switchesOf given).contains .noBuild then none else
      some (((valuesOf given).lookup .build).getD "javac BNF.java")) = options.settings.build := by
  rw [contains_switchesOf subperm left]
  cases said : options.settings.build with
  | none => exact if_pos (congrArg Option.isNone said)
  | some build =>
    have off : isOn options .noBuild = false := congrArg Option.isNone said
    rw [off, lookup_getD subperm left .build said rfl]
    rfl

/-- Such groups come to the options. -/
theorem options_stateOf :
    (stateOf given).options options.settings.directory.text = options := by
  let on := (switchesOf given).contains
  let value (slot : Slot) := (valuesOf given).lookup slot
  have switched : on = isOn options := funext (contains_switchesOf subperm left)
  have build := build_stateOf subperm left
  have program : (value .program).getD "java BNF" = options.settings.program :=
    lookup_getD subperm left .program rfl rfl
  have output : (value .output).getD "output.txt" = options.settings.output.text :=
    lookup_getD subperm left .output rfl rfl
  have diffTool : value .diffTool = options.settings.diffTool :=
    lookup_eq_textOf? subperm left .diffTool (.inl rfl)
  have filter : value .filter = options.settings.filter :=
    lookup_eq_textOf? subperm left .filter (.inl rfl)
  have pairing := choice_getD lookup_pairingName .positional
    (lookup_getD subperm left .pairing rfl rfl)
  have format := choice_getD lookup_formatName .console
    (lookup_getD subperm left .format rfl rfl)
  calc (stateOf given).options options.settings.directory.text
    _ = ⟨⟨options.settings.directory,
          if on .noBuild then none else some ((value .build).getD "javac BNF.java"),
          (value .program).getD "java BNF", ⟨(value .output).getD "output.txt"⟩, value .diffTool,
          ((value .pairing).bind (List.lookup · pairings)).getD .positional, on .stopOnFail,
          on .abortOnBuildFailure, value .filter⟩,
        ((value .format).bind (List.lookup · formats)).getD .console, on .verbose⟩ := rfl
    _ = options := by
      rw [build, program, output, diffTool, pairing, filter, format, switched]
      rfl

end LeftOut

/-! ### The line of options -/

/-- A line is followed if what was read of it names a directory and does not conflict. -/
theorem parse_eq_ok {arguments : List String} {state : State} {directory : String}
    (read : readArguments State.start arguments = .ok state)
    (together : (state.switches.contains .noBuild && (state.values.lookup .build).isSome) = false)
    (named : state.values.lookup .directory = some directory) :
    parse arguments = .ok (state.options directory) := by
  show (readArguments State.start arguments).bind _ = _
  rw [read]
  simp only [Except.bind, together, named]
  rfl

/-- A command line that says options, in any order, is read as these options. What is the default
can be left out, but not the directory. -/
theorem parse_of_groups {options : Options} (sayable : Sayable options) {given : List Group}
    (subperm : given.Subperm (groupsOf options))
    (left : ∀ group ∈ groupsOf options, group ∉ given →
      group ∈ groupsOf defaults ∧ group.subject ≠ .inl .directory) :
    parse (given.flatMap Group.arguments) = .ok options := by
  have nodup : (([] ++ given).map Group.subject).Nodup := nodup_subject_given subperm
  have read : readArguments State.start (given.flatMap Group.arguments) = .ok (stateOf given) :=
    readArguments_groups given rfl nodup fun group member =>
      acceptable_of_sayable sayable (subperm.subset member)
  have directory : (valuesOf given).lookup .directory = some options.settings.directory.text :=
    lookup_eq_textOf? subperm left .directory (.inr rfl)
  -- A build is named only if there is one, and is then not turned off.
  have together : ((switchesOf given).contains .noBuild &&
      ((valuesOf given).lookup .build).isSome) = false := by
    rw [contains_switchesOf subperm left]
    cases found : (valuesOf given).lookup .build with
    | none => exact Bool.and_false _
    | some build =>
      have said : options.settings.build = some build := textOf?_of_lookup subperm found
      rw [isOn, said]
      rfl
  rw [parse_eq_ok read together directory, options_stateOf subperm left]

/-- Options whose directory is a lone hyphen, and whose filter is the empty text. -/
def intricate : Options where
  settings :=
    { Settings.default with
      directory := ⟨"-"⟩
      build := none
      program := "sh run.sh --quiet"
      diffTool := some "cmp --silent"
      pairing := .keyed
      stopOnFail := true
      filter := some "" }
  format := .json
  verbose := true

theorem parse_intricate :
    parse ["-k", "", "-x", "--pairing", "keyed", "-", "--no-build", "--format", "json",
      "--diff-tool", "cmp --silent", "-v", "--program", "sh run.sh --quiet"] = .ok intricate :=
  @parse_of_groups intricate
    ⟨by decide, by decide, by decide, by decide, by decide, by decide, by decide, by decide⟩
    [.value .filter "", .on .stopOnFail, .value .pairing "keyed", .value .directory "-",
      .on .noBuild, .value .format "json", .value .diffTool "cmp --silent", .on .verbose,
      .value .program "sh run.sh --quiet"]
    (by decide) (by decide)

/-- The directory has to be named even where it is the one that holds otherwise. -/
theorem directory_is_not_left_out :
    Sayable defaults ∧
    .value .directory "." ∈ groupsOf defaults ∧
    parse ((groupsOf defaults).flatMap Group.arguments) = .ok defaults ∧
    parse (((groupsOf defaults).erase (.value .directory ".")).flatMap Group.arguments) =
      .error .missingRequiredArgument :=
  ⟨⟨by decide, by decide, by decide, by decide, by decide, by decide, by decide, by decide⟩,
    by decide, rfl, rfl⟩

end Golden.Options
