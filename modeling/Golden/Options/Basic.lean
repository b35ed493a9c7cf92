/-
This file lists the options of the command line: what each is called, which of them
take a value, and which values they take.
-/

import Golden.Settings

namespace Golden

open Golden.Fixture

/-- The form in which a run is reported. -/
inductive Format
  | console
  | json
deriving DecidableEq, Repr

/-- All that a command line says. -/
structure Options where
  settings : Settings
  format : Format
  verbose : Bool
deriving DecidableEq, Repr

namespace Options

/-- What a value can be given for. -/
inductive Slot
  | directory
  | build
  | program
  | output
  | diffTool
  | pairing
  | format
  | filter
deriving DecidableEq, Repr

/-- What can be switched on. -/
inductive Switch
  | noBuild
  | verbose
  | stopOnFail
  | abortOnBuildFailure
deriving DecidableEq, Repr

/-- What the name of an option stands for. -/
inductive Meaning
  | value (slot : Slot)
  | switch (switch : Switch)
  | help
  | version
deriving DecidableEq, Repr

/-- The options by the names that follow two hyphens. -/
def longNames : List (String × Meaning) :=
  [("build", .value .build), ("no-build", .switch .noBuild), ("program", .value .program),
    ("output", .value .output), ("diff-tool", .value .diffTool), ("pairing", .value .pairing),
    ("format", .value .format), ("verbose", .switch .verbose), ("exitfirst", .switch .stopOnFail),
    ("abort-on-build-failure", .switch .abortOnBuildFailure), ("help", .help),
    ("version", .version)]

/-- The options by the letters that follow one hyphen. -/
def shortNames : List (Char × Meaning) :=
  [('v', .switch .verbose), ('x', .switch .stopOnFail), ('k', .value .filter), ('h', .help),
    ('V', .version)]

/-- The ways of pairing, by name. -/
def pairings : List (String × Pairing) :=
  [("positional", .positional), ("keyed", .keyed)]

/-- The forms of a report, by name. -/
def formats : List (String × Format) :=
  [("console", .console), ("json", .json)]

/-- Whether a slot takes a value. Paths are not empty, and choices have names. -/
def takes (slot : Slot) (value : String) : Bool :=
  match slot with
  | .directory | .output => !value.isEmpty
  | .pairing => (pairings.lookup value).isSome
  | .format => (formats.lookup value).isSome
  | .build | .program | .diffTool | .filter => true

end Options

end Golden
