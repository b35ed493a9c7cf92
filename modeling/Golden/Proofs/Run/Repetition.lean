/-
This file says when a run can be made again with the same outcomes. A run collects
fixtures from a directory and writes to an output, and nothing keeps the one from
standing in the other. Where the output is not taken for a fixture, a run leaves the
listing of fixtures as it found it, and so a second run collects the same pairs. They
come to the same outcomes, because the files of the two runs differ at the output alone.

Where the output is a fixture by its name, as it is in the settings that hold when
nothing is said, the first run may leave a fixture behind that was not there before,
and the second run compares with it.
-/

import Golden.Proofs.Fixture.Listings
import Golden.Proofs.Run.Independence
import Golden.Run.Session

namespace Golden

namespace Fixture

open Run

/-! ### Listings -/

/-- An output is no fixture of a directory when its path, unless what stands there cannot be
cleared, leads to no entry of the directory that has the name of a fixture. -/
def NoFixture (output directory : Path) (files : Files) : Prop :=
  (Plan.removeOutput output files).1 = .ok () → ∀ place name,
    files.locate directory = .ok place → files.locate output = .ok (place ++ [name]) →
      Role.of? name = none

/-- The names with a role are the same without the entries of a location that gives none. -/
theorem named_erase {files : Files} {directory location : Location}
    (plain : ∀ name, location = directory ++ [name] → Role.of? name = none) (role : Role) :
    Collection.named role ((files.erase location).entriesIn directory) =
      Collection.named role (files.entriesIn directory) := by
  unfold Collection.named Files.erase Files.entriesIn
  dsimp only
  congr 2
  induction files.entries with
  | nil => rfl
  | cons entry rest inductionHypothesis =>
    by_cases erased : entry.1 = location
    · rw [List.filter_cons_of_neg (by simpa using erased), inductionHypothesis,
        List.filterMap_cons]
      cases listed : Files.entryIn? directory entry.1 entry.2 with
      | none => rfl
      | some found =>
        have unnamed := plain found.name (erased ▸ Files.eq_append_of_entryIn? listed)
        rw [List.filter_cons_of_neg (by simp [unnamed])]
    · rw [List.filter_cons_of_pos (by simpa using erased), List.filterMap_cons,
        List.filterMap_cons]
      cases Files.entryIn? directory entry.1 entry.2 with
      | none => exact inductionHypothesis
      | some found =>
        dsimp only
        rw [List.filter_cons, List.filter_cons, inductionHypothesis]

/-- Every name in a collection is that of a fixture. -/
theorem role_of_mem_collection {directory : Path} {files : Files} {collection : Collection}
    (discovered : Collection.discover directory files = .ok collection) {name : String}
    (member : name ∈ collection.inputs ++ collection.outputs) : Role.of? name ≠ none := by
  unfold Collection.discover at discovered
  split at discovered
  next entries listed =>
    rw [← Except.ok.inj discovered] at member
    rcases List.mem_append.mp member with input | output
    · simp [Role.of?_eq_some_iff.mpr (Collection.mem_named_iff.mp input).2]
    · simp [Role.of?_eq_some_iff.mpr (Collection.mem_named_iff.mp output).2]
  next => cases discovered

/-- Clearing an output that is no fixture leaves the names of fixtures as they are. -/
theorem named_removeOutput {output directory : Path} {files : Files} {place : Location}
    (apart : NoFixture output directory files) (leads : files.locate directory = .ok place)
    (role : Role) :
    Collection.named role ((Plan.removeOutput output files).2.entriesIn place) =
      Collection.named role (files.entriesIn place) := by
  rcases removeOutput_cases output files with
    ⟨-, cleared⟩ | ⟨location, content, examined, cleared⟩ | ⟨cause, cleared⟩
  · rw [cleared]
  · have leadsToOutput := (Files.examine_eq_ok_iff.mp examined).1
    rw [cleared]
    refine named_erase (fun name same => ?_) role
    exact apart (by rw [cleared]) place name leads (same ▸ leadsToOutput)
  · rw [cleared]

/-- File systems that differ at an output alone have the same fixtures when the output is none. -/
theorem discover_eq {output directory : Path} {files other : Files} {collection : Collection}
    (same : SameBeside output other files) (apart : NoFixture output directory files)
    (discovered : Collection.discover directory files = .ok collection) :
    Collection.discover directory other = .ok collection := by
  unfold Collection.discover at discovered
  split at discovered
  next entries listed =>
    obtain ⟨place, leads, stands, rfl⟩ := Files.list_eq_ok_iff.mp listed
    have leadsToo := (same.locate_eq_ok_iff directory place).mpr leads
    have apartToo : NoFixture output directory other := by
      intro cleared place name leads leadsToOutput
      rw [same] at cleared
      exact apart cleared place name ((same.locate_eq_ok_iff directory place).mp leads)
        ((same.locate_eq_ok_iff output _).mp leadsToOutput)
    have listedToo : other.list directory = .ok (other.entriesIn place) :=
      Files.list_eq_ok_iff.mpr
        ⟨place, leadsToo, (same.find?_eq_directory_iff place).mpr stands, rfl⟩
    have names (role : Role) : Collection.named role (other.entriesIn place) =
        Collection.named role (files.entriesIn place) := by
      rw [← named_removeOutput apartToo leadsToo, same, named_removeOutput apart leads]
    rw [Collection.discover_of_list listedToo, ← Except.ok.inj discovered, Collection.ofListing,
      names, names, Collection.ofListing]
  next => cases discovered

/-- A fixture that was collected is the same in file systems that differ at an output alone when the
output is no fixture. -/
theorem find?_fixture_eq {output directory : Path} {files other : Files} {place : Location}
    {collection : Collection} (same : SameBeside output other files)
    (apart : NoFixture output directory files) (leads : files.locate directory = .ok place)
    (discovered : Collection.discover directory files = .ok collection) {name : String}
    (member : name ∈ collection.inputs ++ collection.outputs) :
    other.find? (place ++ [name]) = files.find? (place ++ [name]) := by
  cases cleared : (Plan.removeOutput output files).1 with
  | error cause => rw [same.eq_of_error cleared]
  | ok done =>
    refine same.find?_eq fun leadsToOutput => ?_
    exact role_of_mem_collection discovered member (apart cleared place name leads leadsToOutput)

end Fixture

namespace Run

open Fixture

variable {σ : Type}

/-! ### Sessions -/

/-- The plan of settings that build nothing and compare by lines. -/
def linePlan (launcher : Launcher σ) (settings : Settings) (command : CommandLine) : Plan σ :=
  ⟨⟨buildNothing, runWith launcher command, compareByLines⟩, settings.output, settings.stopOnFail,
    settings.abortOnBuildFailure⟩

/-- The pairs that settings choose are those of the fixtures that are collected. -/
theorem selectPairs_eq {settings : Settings} {files other : Files}
    (discovered : ∀ collection, Collection.discover settings.directory files = .ok collection →
      Collection.discover settings.directory other = .ok collection) {pairs : List Pair}
    (selected : selectPairs settings files = .ok pairs) :
    selectPairs settings other = .ok pairs := by
  unfold selectPairs at selected ⊢
  cases collected : Collection.discover settings.directory files with
  | error fault =>
    rw [collected] at selected
    cases selected
  | ok collection =>
    rw [collected] at selected
    rw [discovered collection collected]
    exact selected

section

variable {launcher : Launcher σ} {settings : Settings} (noBuild : settings.build = none)
  (noTool : settings.diffTool = none)

include noBuild noTool

theorem session_apply (timing : Timing) {world : World σ} {pairs : List Pair}
    {command : CommandLine} (selected : selectPairs settings world.files = .ok pairs)
    (called : commandOf settings.program = .ok command) :
    session launcher settings timing world =
      let run := (linePlan launcher settings command).run timing pairs world
      ⟨run.result, .report (.collected pairs) :: run.log, run.world⟩ := by
  have planned : Plan.ofSettings launcher settings = .ok (linePlan launcher settings command) := by
    unfold Plan.ofSettings
    rw [noBuild, noTool, called]
    rfl
  exact session_of_planned selected planned timing

omit noTool in
/-- A session that comes to its end has chosen pairs and has called a program. -/
theorem exists_of_session_isOk {timing : Timing} {world : World σ}
    (ended : (session launcher settings timing world).result.isOk = true) :
    ∃ pairs command, selectPairs settings world.files = .ok pairs ∧
      commandOf settings.program = .ok command := by
  cases selected : selectPairs settings world.files with
  | error error =>
    rw [session_of_unselected selected] at ended
    cases ended
  | ok pairs =>
    cases called : commandOf settings.program with
    | error error =>
      have refused : Plan.ofSettings launcher settings = .error error := by
        unfold Plan.ofSettings
        rw [noBuild, called]
        rfl
      rw [session_of_unplanned selected refused] at ended
      cases ended
    | ok command => exact ⟨pairs, command, rfl, rfl⟩

/-- A session whose program keeps to the output reports the pairs that it has chosen, then what they
come to when each has its verdict. -/
theorem session_outcomes (timing : Timing) {world origin : World σ} {pairs : List Pair}
    {command : CommandLine} (selected : selectPairs settings world.files = .ok pairs)
    (called : commandOf settings.program = .ok command)
    (confined : Confined settings.output (runWith launcher command))
    (same : SameBeside settings.output world.files origin.files) :
    let step := session launcher settings timing world
    step.log.head? = some (.report (.collected pairs)) ∧ step.result.isOk = true ∧
      outcomesOf step.log =
        reported settings.stopOnFail (verdictIn (linePlan launcher settings command) origin)
          pairs ∧
      SameBeside settings.output step.world.files origin.files := by
  have isolated : Isolated (linePlan launcher settings command) :=
    isolated_of_confined confined _ _
  obtain ⟨outcomes, left⟩ := outcomesOf_run isolated timing pairs same
  have done : ((linePlan launcher settings command).run timing pairs world).result.isOk = true :=
    rfl
  rw [if_pos done] at outcomes
  rw [session_apply noBuild noTool timing selected called]
  exact ⟨rfl, done, outcomes, left⟩

end

/-! ### Sessions that copy -/

/-- Settings by which each input in the working directory is copied to an output. -/
def copySettings (output : Path) : Settings :=
  { Settings.default with build := none, program := "cp", output := output }

/-- A session that copies inputs and compares what it has copied. -/
def copySession (output : Path) (world : World Unit) : Step Unit (Except Error Summary) :=
  session copier (copySettings output) .none world

/-- The expected outputs of the pairs that were run, and whether the pairs passed. -/
def passesOf (log : List Call) : List (Path × Bool) :=
  (outcomesOf log).map fun (pair, outcome) => (pair.expected, outcome.isPass)

/-- An input, an expected output that is another, and what was left at an output. -/
def recorded (left : List (Location × Node)) : World Unit :=
  ⟨⟨left ++ [(["input1.txt"], .file (Text.encode "new".toList)),
    (["output1.txt"], .file (Text.encode "old".toList))]⟩, ()⟩

theorem commandOf_cp : commandOf "cp" = .ok ⟨"cp", []⟩ := by rfl

theorem confined_cp (output : Path) (command : CommandLine)
    (called : commandOf "cp" = .ok command) : Confined output (runWith copier command) := by
  rw [← Except.ok.inj (commandOf_cp.symm.trans called)]
  exact confined_copier output "cp"

/-! ### Repetition -/

/-- When nothing is built, lines are compared, the program keeps to the output, and the output is no
fixture of the directory, a session that came to its end can be repeated on the files that it has
left: it comes to its end, and the same pairs are collected and come to the same outcomes. The first
session changes no location to which the output does not lead, and none of the fixtures that it
collected. -/
theorem session_repeats (launcher : Launcher σ) (settings : Settings)
    (noBuild : settings.build = none) (noTool : settings.diffTool = none)
    (confined : ∀ command, commandOf settings.program = .ok command →
      Confined settings.output (runWith launcher command))
    (timing again : Timing) (world : World σ)
    (apart : NoFixture settings.output settings.directory world.files)
    (ended : (session launcher settings timing world).result.isOk = true) :
    let first := session launcher settings timing world
    let second := session launcher settings again first.world
    (∃ pairs, selectPairs settings world.files = .ok pairs ∧
      first.log.head? = some (.report (.collected pairs)) ∧
      second.log.head? = some (.report (.collected pairs))) ∧
    second.result.isOk = true ∧
    outcomesOf second.log = outcomesOf first.log ∧
    (∀ location, world.files.locate settings.output ≠ .ok location →
      first.world.files.find? location = world.files.find? location) ∧
    ∀ place collection, world.files.locate settings.directory = .ok place →
      Collection.discover settings.directory world.files = .ok collection →
        ∀ name ∈ collection.inputs ++ collection.outputs,
          first.world.files.find? (place ++ [name]) = world.files.find? (place ++ [name]) := by
  intro first second
  obtain ⟨pairs, command, selected, called⟩ := exists_of_session_isOk noBuild ended
  have keeps := confined command called
  have here : SameBeside settings.output world.files world.files := rfl
  obtain ⟨collected, -, outcomes, same⟩ :=
    session_outcomes noBuild noTool timing selected called keeps here
  have selectedAgain : selectPairs settings first.world.files = .ok pairs :=
    selectPairs_eq (fun _ => discover_eq same apart) selected
  obtain ⟨collectedAgain, endedAgain, outcomesAgain, -⟩ :=
    session_outcomes noBuild noTool again selectedAgain called keeps same
  refine ⟨⟨pairs, selected, collected, collectedAgain⟩, endedAgain,
    outcomesAgain.trans outcomes.symm, fun location => same.find?_eq, ?_⟩
  intro place collection leads discovered name member
  exact find?_fixture_eq same apart leads discovered member

/-- An output beside the fixtures that has the name of none: the pair fails when it is run again. -/
theorem failing_pair_fails_again :
    NoFixture ⟨"result.txt"⟩ ⟨"."⟩ (recorded []).files ∧
    passesOf (copySession ⟨"result.txt"⟩ (recorded [])).log = [(⟨"./output1.txt"⟩, false)] ∧
    passesOf (copySession ⟨"result.txt"⟩ (copySession ⟨"result.txt"⟩ (recorded [])).world).log =
      [(⟨"./output1.txt"⟩, false)] := by
  have apart : NoFixture ⟨"result.txt"⟩ ⟨"."⟩ (recorded []).files := by
    intro cleared place name leads leadsToOutput
    have here : place = [] := (Except.ok.inj leads).symm
    have there : ["result.txt"] = place ++ [name] := Except.ok.inj leadsToOutput
    rw [here] at there
    rw [← List.singleton_inj.mp there]
    rfl
  have ended : (copySession ⟨"result.txt"⟩ (recorded [])).result.isOk = true := by
    decide +kernel
  have fails : passesOf (copySession ⟨"result.txt"⟩ (recorded [])).log =
      [(⟨"./output1.txt"⟩, false)] := by decide +kernel
  have repeated := session_repeats copier (copySettings ⟨"result.txt"⟩) rfl rfl
    (confined_cp ⟨"result.txt"⟩) .none .none (recorded []) apart ended
  refine ⟨apart, fails, ?_⟩
  rw [← fails]
  exact congrArg (List.map _) repeated.2.2.1

/-- What a session leaves that puts its output beside the fixtures under the name of one. -/
def overwritten : World Unit :=
  recorded [(["output.txt"], .file (Text.encode "new".toList))]

theorem copySession_recorded :
    (copySession Settings.default.output (recorded [])).world = overwritten := by
  have entries : (copySession Settings.default.output (recorded [])).world.files.entries =
      overwritten.files.entries := by decide +kernel
  exact congrArg (fun entries => World.mk (Files.mk entries) ()) entries

/-- The output of the first session is the first of the expected outputs of the second one. -/
theorem selectPairs_overwritten :
    selectPairs (copySettings Settings.default.output) overwritten.files =
      .ok [⟨1, "1", ⟨"./input1.txt"⟩, ⟨"./output.txt"⟩⟩] := by
  have inputs : Collection.named .input [⟨"output.txt", false⟩, ⟨"input1.txt", false⟩,
      ⟨"output1.txt", false⟩] = ["input1.txt"] := List.mergeSort_singleton _
  have outputs : Collection.named .output [⟨"output.txt", false⟩, ⟨"input1.txt", false⟩,
      ⟨"output1.txt", false⟩] = ["output.txt", "output1.txt"] :=
    List.mergeSort_of_pairwise (by decide)
  have collected : Collection.discover ⟨"."⟩ overwritten.files =
      .ok ⟨⟨"."⟩, ["input1.txt"], ["output.txt", "output1.txt"]⟩ := by
    rw [← inputs, ← outputs]
    rfl
  unfold selectPairs
  rw [show (copySettings Settings.default.output).directory = ⟨"."⟩ from rfl, collected]
  rfl

/-- With the output of the settings that hold when nothing is said, the first run of a program that
keeps to its output leaves what the second run takes for the expected output. A pair that has failed
passes. -/
theorem output_is_collected_as_fixture :
    (copySettings Settings.default.output).build = none ∧
    (copySettings Settings.default.output).diffTool = none ∧
    (∀ command, commandOf (copySettings Settings.default.output).program = .ok command →
      Confined Settings.default.output (runWith copier command)) ∧
    (copySession Settings.default.output (recorded [])).result.isOk = true ∧
    passesOf (copySession Settings.default.output (recorded [])).log =
      [(⟨"./output1.txt"⟩, false)] ∧
    passesOf (copySession Settings.default.output
      (copySession Settings.default.output (recorded [])).world).log =
        [(⟨"./output.txt"⟩, true)] := by
  refine ⟨rfl, rfl, confined_cp Settings.default.output, by decide +kernel, by decide +kernel, ?_⟩
  rw [copySession_recorded, copySession,
    session_apply rfl rfl .none selectPairs_overwritten commandOf_cp]
  decide +kernel

end Run

end Golden
