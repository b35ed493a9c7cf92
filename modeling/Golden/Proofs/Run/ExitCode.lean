/-
This file shows what the exit code tells. A run is refused when there is a fault that is
looked for before the first pair: the directory, the pairing, the line of the build, that
of the program and that of the tool, and last the build itself when it must not fail.
The first fault of these is the error that the run gives, and a run that gives no error
has found none of them, since nothing that happens to a pair is an error of the run. So
the exit code is two exactly when there is a fault. A refused run has reported no more
than the pairs, and it has started no more than the build. What is left is told apart by
the summary: the code is zero when it is a success, and one otherwise.
-/

import Golden.Program
import Golden.Proofs.Run.Accounting

namespace Golden.Run

open Golden.Fixture

variable {σ : Type}

/-! ### Faults -/

/-- The error of a result, if it is one. -/
def faultOf {α : Type} : Except Error α → Option Error
  | .ok _ => none
  | .error error => some error

theorem faultOf_eq_none_iff {α : Type} {result : Except Error α} :
    faultOf result = none ↔ ∃ value, result = .ok value := by
  cases result <;> simp [faultOf]

theorem faultOf_ne_none_iff {α : Type} {result : Except Error α} :
    faultOf result ≠ none ↔ ∃ error, result = .error error := by
  cases result <;> simp [faultOf]

/-- Why the directory of the fixtures cannot be listed. -/
def listingFault? (settings : Settings) (files : Files) : Option Error :=
  faultOf ((Collection.discover settings.directory files).mapError .fixtures)

/-- Why the fixtures in the directory cannot be paired. -/
def pairingFault? (settings : Settings) (files : Files) : Option Error :=
  match Collection.discover settings.directory files with
  | .ok collection => faultOf ((collection.pairs settings.pairing).mapError .fixtures)
  | .error _ => none

/-- Why a line calls no program. -/
def lineFault? (line : String) : Option Error :=
  faultOf (commandOf line)

/-- Why the build fails, where there is a build and its line calls a program. -/
def buildFault? (launcher : Launcher σ) (settings : Settings) (world : World σ) : Option Error :=
  match settings.build.map commandOf with
  | some (.ok command) => faultOf (buildWith launcher command world).1
  | _ => none

/-- All that keeps a run from taking place, in the order in which it is looked for. -/
def faults (launcher : Launcher σ) (settings : Settings) (world : World σ) : List Error :=
  [listingFault? settings world.files, pairingFault? settings world.files,
    settings.build.bind lineFault?, lineFault? settings.program,
    settings.diffTool.bind lineFault?,
    if settings.abortOnBuildFailure then buildFault? launcher settings world else none].filterMap id

theorem head?_faults (launcher : Launcher σ) (settings : Settings) (world : World σ) :
    (faults launcher settings world).head? =
      (((listingFault? settings world.files).or (pairingFault? settings world.files)).or
        ((settings.build.bind lineFault?).or
          ((lineFault? settings.program).or (settings.diffTool.bind lineFault?)))).or
        (if settings.abortOnBuildFailure then buildFault? launcher settings world else none) := by
  have first (fault : Option Error) (rest : List (Option Error)) :
      ((fault :: rest).filterMap id).head? = fault.or (rest.filterMap id).head? := by
    cases fault <;> rfl
  unfold faults
  rw [first, first, first, first, first, first]
  simp only [List.filterMap_nil, List.head?_nil, Option.or_none, Option.or_assoc]

/-- A build that must not fail does not fail when there is no fault. -/
theorem buildFault?_of_faults_eq_nil {launcher : Launcher σ} {settings : Settings}
    {world : World σ} (noFault : faults launcher settings world = [])
    (aborts : settings.abortOnBuildFailure = true) :
    buildFault? launcher settings world = none := by
  have none := (List.filterMap_eq_nil_iff.mp noFault)
    (if settings.abortOnBuildFailure then buildFault? launcher settings world else none) (by simp)
  rw [if_pos aborts] at none
  exact none

/-! ### The first fault -/

theorem faultOf_selectPairs (settings : Settings) (files : Files) :
    faultOf (selectPairs settings files) =
      (listingFault? settings files).or (pairingFault? settings files) := by
  unfold selectPairs listingFault? pairingFault?
  cases Collection.discover settings.directory files with
  | error fault => rfl
  | ok collection =>
    dsimp only [Except.mapError, bind, Except.bind]
    cases collection.pairs settings.pairing with
    | error fault => rfl
    | ok pairs => cases settings.filter <;> rfl

theorem faultOf_bind {α β : Type} {result : Except Error α} {next : α → Except Error β}
    {later : Option Error} (each : ∀ value, faultOf (next value) = later) :
    faultOf (result >>= next) = (faultOf result).or later := by
  cases result with
  | error error => rfl
  | ok value => exact each value

/-- The one who builds by what settings say. -/
def builderOf (launcher : Launcher σ) (settings : Settings) :
    Except Error (World σ → Except Error String × World σ) :=
  match settings.build with
  | some line => (commandOf line).map (buildWith launcher)
  | none => .ok buildNothing

/-- The one who compares by what settings say. -/
def comparerOf (launcher : Launcher σ) (settings : Settings) :
    Except Error (Path → Path → World σ → Except Error Comparison × World σ) :=
  match settings.diffTool with
  | some line => (commandOf line).map (compareWith launcher)
  | none => .ok compareByLines

theorem ofSettings_eq (launcher : Launcher σ) (settings : Settings) :
    Plan.ofSettings launcher settings = (do
      let build ← builderOf launcher settings
      let program ← commandOf settings.program
      let compare ← comparerOf launcher settings
      return ⟨⟨build, runWith launcher program, compare⟩, settings.output, settings.stopOnFail,
        settings.abortOnBuildFailure⟩) := by
  have mapped {α β γ : Type} (read : Except Error α) (make : α → β) (next : β → Except Error γ) :
      (read.map make >>= next) = (read >>= fun value => next (make value)) := by
    cases read <;> rfl
  unfold Plan.ofSettings builderOf comparerOf
  cases settings.build <;> cases settings.diffTool <;> simp only [mapped] <;> rfl

/-- The lines are read in the order in which their faults are looked for. -/
theorem faultOf_ofSettings (launcher : Launcher σ) (settings : Settings) :
    faultOf (Plan.ofSettings launcher settings) =
      (settings.build.bind lineFault?).or
        ((lineFault? settings.program).or (settings.diffTool.bind lineFault?)) := by
  have mapped {α β : Type} (read : Except Error α) (make : α → β) :
      faultOf (read.map make) = faultOf read := by
    cases read <;> rfl
  have built : faultOf (builderOf launcher settings) = settings.build.bind lineFault? := by
    unfold builderOf
    cases settings.build with
    | none => rfl
    | some line => exact mapped _ _
  have compared : faultOf (comparerOf launcher settings) = settings.diffTool.bind lineFault? := by
    unfold comparerOf
    cases settings.diffTool with
    | none => rfl
    | some line => exact mapped _ _
  rw [ofSettings_eq, ← built, ← compared]
  refine faultOf_bind fun build => faultOf_bind fun program => ?_
  cases comparerOf launcher settings <;> rfl

theorem exists_of_bind_eq_ok {α β : Type} {result : Except Error α} {next : α → Except Error β}
    {value : β} (succeeded : (result >>= next) = .ok value) :
    ∃ first, result = .ok first ∧ next first = .ok value := by
  cases result with
  | error error => cases succeeded
  | ok first => exact ⟨first, rfl, succeeded⟩

/-- The build has the fault that is looked for, and does nothing but what its line calls. -/
theorem of_builderOf {launcher : Launcher σ} {settings : Settings}
    {build : World σ → Except Error String × World σ}
    (built : builderOf launcher settings = .ok build) (world : World σ) :
    faultOf (build world).1 = buildFault? launcher settings world ∧
      ((build world).2 = world ∨
        ∃ line command, settings.build = some line ∧ commandOf line = .ok command ∧
          (build world).2 = (buildWith launcher command world).2) := by
  unfold builderOf at built
  unfold buildFault?
  cases line : settings.build with
  | none =>
    rw [line] at built
    cases built
    exact ⟨rfl, .inl rfl⟩
  | some text =>
    rw [line] at built
    dsimp only at built
    rw [Option.map_some]
    cases read : commandOf text with
    | error error =>
      rw [read] at built
      cases built
    | ok command =>
      rw [read] at built
      cases built
      exact ⟨rfl, .inr ⟨text, command, rfl, read, rfl⟩⟩

/-- A plan that settings describe builds by them, and goes on after a build as they say. -/
theorem of_ofSettings {launcher : Launcher σ} {settings : Settings} {plan : Plan σ}
    (planned : Plan.ofSettings launcher settings = .ok plan) :
    builderOf launcher settings = .ok plan.collaborators.build ∧
      plan.abortOnBuildFailure = settings.abortOnBuildFailure := by
  rw [ofSettings_eq] at planned
  obtain ⟨build, built, rest⟩ := exists_of_bind_eq_ok planned
  obtain ⟨program, -, rest⟩ := exists_of_bind_eq_ok rest
  obtain ⟨compare, -, made⟩ := exists_of_bind_eq_ok rest
  rw [← Except.ok.inj made]
  exact ⟨built, rfl⟩

/-! ### Sessions -/

/-- A run is ended by its build, or it comes to a summary that tells the truth. -/
theorem run_cases (plan : Plan σ) (timing : Timing) (pairs : List Pair) (world : World σ) :
    (∃ error, plan.abortOnBuildFailure = true ∧ (plan.collaborators.build world).1 = .error error ∧
      plan.run timing pairs world = ⟨.error error, [.build], (plan.collaborators.build world).2⟩) ∨
    ((plan.abortOnBuildFailure = true → faultOf (plan.collaborators.build world).1 = none) ∧
      ∃ summary, (plan.run timing pairs world).result = .ok summary ∧
        summary.IsTrue plan (plan.collaborators.build world).1 pairs
          (outcomesOf (plan.run timing pairs world).log)) := by
  rcases aborts_or_goesOn plan world with ⟨error, failed, aborts⟩ | goesOn
  · exact .inl ⟨error, aborts, failed, run_of_aborted failed aborts timing pairs⟩
  · refine .inr ⟨fun aborts => ?_, exists_isTrue_of_run goesOn timing pairs⟩
    have succeeded := goesOn aborts
    cases built : (plan.collaborators.build world).1 with
    | ok output => rfl
    | error error =>
      rw [built] at succeeded
      cases succeeded

/-- What has been done in a session that was refused: the pairs were reported at most, and then the
build was started at most. -/
structure Refused (launcher : Launcher σ) (settings : Settings) (world : World σ)
    (step : Step σ (Except Error Summary)) : Prop where
  log : ∃ pairs, step.log <+: [.report (.collected pairs), .build]
  world : step.world = world ∨
    ∃ line command, settings.build = some line ∧ commandOf line = .ok command ∧
      step.world = (buildWith launcher command world).2

/-- A session is refused with the first of the faults, or there is no fault and the session comes to
a summary that tells the truth about the pairs that were chosen. -/
theorem session_cases (launcher : Launcher σ) (settings : Settings) (timing : Timing)
    (world : World σ) :
    let step := session launcher settings timing world
    (∃ error, (faults launcher settings world).head? = some error ∧
      step.result = .error error ∧ Refused launcher settings world step) ∨
    (faults launcher settings world = [] ∧
      ∃ pairs, ∃ plan : Plan σ, ∃ built summary, selectPairs settings world.files = .ok pairs ∧
        faultOf built = buildFault? launcher settings world ∧ step.result = .ok summary ∧
        Summary.IsTrue summary plan built pairs (outcomesOf step.log)) := by
  dsimp only
  -- Each stage of the session that is passed takes its faults away from the front of this list.
  have first := head?_faults launcher settings world
  rw [← faultOf_selectPairs, ← faultOf_ofSettings launcher] at first
  cases selected : selectPairs settings world.files with
  | error error =>
    rw [selected] at first
    rw [session_of_unselected selected]
    exact .inl ⟨error, first, rfl, ⟨[], List.nil_prefix⟩, .inl rfl⟩
  | ok pairs =>
    cases planned : Plan.ofSettings launcher settings with
    | error error =>
      rw [selected, planned] at first
      rw [session_of_unplanned selected planned]
      exact .inl ⟨error, first, rfl, ⟨pairs, ⟨[.build], rfl⟩⟩, .inl rfl⟩
    | ok plan =>
      obtain ⟨built, aborts⟩ := of_ofSettings planned
      obtain ⟨buildFault, buildWorld⟩ := of_builderOf built world
      rw [selected, planned, ← buildFault, ← aborts] at first
      rw [session_of_planned selected planned]
      rcases run_cases plan timing pairs world with
        ⟨error, aborting, building, run⟩ | ⟨noFault, summary, result, isTrue⟩
      · rw [run]
        refine .inl ⟨error, ?_, rfl, ⟨pairs, List.prefix_rfl⟩, buildWorld⟩
        rw [first, aborting]
        exact congrArg faultOf building
      · refine .inr ⟨?_, pairs, plan, _, summary, rfl, buildFault, result, isTrue⟩
        rw [← List.head?_eq_none_iff, first]
        split
        next aborting => exact noFault aborting
        next => rfl

/-- A session that was refused has reported the pairs at most. -/
theorem Refused.eventsOf_log {launcher : Launcher σ} {settings : Settings} {world : World σ}
    {step : Step σ (Except Error Summary)} (refused : Refused launcher settings world step) :
    eventsOf step.log = [] ∨ ∃ pairs, eventsOf step.log = [.collected pairs] := by
  obtain ⟨pairs, isPrefix⟩ := refused.log
  rcases List.prefix_cons_iff.mp isPrefix with nothing | ⟨later, collected, atMostBuild⟩
  · rw [nothing]
    exact .inl rfl
  · rw [collected]
    refine .inr ⟨pairs, ?_⟩
    rcases List.prefix_cons_iff.mp atMostBuild with nothing | ⟨rest, built, nothing⟩
    · rw [nothing]
      rfl
    · rw [built, List.prefix_nil.mp nothing]
      rfl

end Golden.Run

namespace Golden.Program

open Golden Golden.Fixture Golden.Run Golden.Report

variable {σ : Type}

/-! ### Exit codes -/

/-- What is written of a session to the standard output and the standard error. -/
def reportOf (options : Options) (step : Step σ (Except Run.Error Summary)) : Written :=
  Written.join ((eventsOf step.log).map (writer options))

/-- A report in the form of a console has nothing for the standard output when a session was
refused, and one in lines has the line for the pairs at most. -/
theorem out_reportOf_of_refused {launcher : Launcher σ} {options : Options} {world : World σ}
    {step : Step σ (Except Run.Error Summary)}
    (refused : Refused launcher options.settings world step) :
    match options.format with
    | .console => (reportOf options step).out = ""
    | .json => (reportOf options step).out = "" ∨
        ∃ pairs, (reportOf options step).out = JsonLines.write (.collected pairs) := by
  unfold reportOf writer
  rcases refused.eventsOf_log with nothing | ⟨pairs, collected⟩
  · rw [nothing]
    cases options.format with
    | console => rfl
    | json => exact .inl rfl
  · rw [collected]
    cases options.format with
    | console =>
      unfold Written.join Console.write
      cases pairs <;> cases options.verbose <;> rfl
    | json => exact .inr ⟨pairs, by simp [Written.join]⟩

/-- All pairs were run and passed when what was reported is a pass of each. -/
theorem passed_iff (pairs : List Pair) (reported : List (Pair × Outcome)) :
    reported.map Prod.fst = pairs ∧ (∀ each ∈ reported, each.2 = .passed) ↔
      reported = pairs.map fun pair => (pair, .passed) := by
  constructor
  · rintro ⟨rfl, passed⟩
    rw [List.map_map]
    refine ((List.map_congr_left fun each member => ?_).trans (List.map_id _)).symm
    exact Prod.ext rfl (passed each member).symm
  · rintro rfl
    rw [List.map_map]
    exact ⟨List.map_id _, by simp⟩

theorem code_conclude_ok (summary : Summary) (reported : Written) :
    (conclude (.ok summary) reported).code = if summary.isSuccess then 0 else 1 := rfl

/-- The exit code of a summary that tells the truth tells the build and the outcomes. -/
theorem code_of_isTrue {summary : Summary} {plan : Plan σ} {built : Except Run.Error String}
    {pairs : List Pair} {outcomes : List (Pair × Outcome)}
    (isTrue : summary.IsTrue plan built pairs outcomes) (reported : Written) :
    let code := (conclude (.ok summary) reported).code
    (code = 0 ↔ faultOf built = none ∧ outcomes = pairs.map fun pair => (pair, .passed)) ∧
    (code = 1 ↔ faultOf built ≠ none ∨ ∃ each ∈ outcomes, each.2 ≠ .passed) ∧ code ≤ 1 := by
  have success := isTrue.isSuccess_iff
  have failure := isTrue.isSuccess_eq_false_iff
  rw [← faultOf_eq_none_iff, passed_iff] at success
  rw [← faultOf_ne_none_iff] at failure
  dsimp only
  rw [code_conclude_ok, ← success, ← failure]
  cases summary.isSuccess <;> decide

/-- A run exits with zero when there is no fault, the build did not fail, and every pair that was
chosen was run and passed; with one when there is no fault, but the build failed or a pair that was
run did not pass; and with two when there is a fault. A run without a fault writes its report. One
with faults writes the first of them behind its report, which has nothing of any pair; neither the
output nor the program nor the comparison is touched, and the world is left as it was or as the
build has left it. -/
theorem exit_codes_partition_runs (launcher : Launcher σ) (timing : Timing)
    {arguments : List String} {options : Options} (parsed : Options.parse arguments = .ok options)
    (world : World σ) :
    let exit := (carryOut launcher timing arguments world).1
    let after := (carryOut launcher timing arguments world).2
    let settings := options.settings
    let step := session launcher settings timing world
    let refusals := faults launcher settings world
    let buildFault := buildFault? launcher settings world
    (exit.code = 0 ↔ refusals = [] ∧ buildFault = none ∧
      ∃ pairs, selectPairs settings world.files = .ok pairs ∧
        outcomesOf step.log = pairs.map fun pair => (pair, .passed)) ∧
    (exit.code = 1 ↔ refusals = [] ∧
      (settings.abortOnBuildFailure = false ∧ buildFault ≠ none ∨
        ∃ each ∈ outcomesOf step.log, each.2 ≠ .passed)) ∧
    (exit.code = 2 ↔ refusals ≠ []) ∧
    exit.code ≤ 2 ∧
    (refusals = [] → exit.written = reportOf options step) ∧
    ∀ error, refusals.head? = some error →
      exit.written = (reportOf options step).append ⟨"", "Error: " ++ error.message ++ "\n"⟩ ∧
      (match options.format with
        | .console => exit.written.out = ""
        | .json => exit.written.out = "" ∨
            ∃ pairs, exit.written.out = JsonLines.write (.collected pairs)) ∧
      (∃ pairs, step.log <+: [.report (.collected pairs), .build]) ∧
      (after = world ∨ ∃ line command, settings.build = some line ∧
        commandOf line = .ok command ∧ after = (buildWith launcher command world).2) := by
  intro exit after settings step refusals buildFault
  have carriedOut : carryOut launcher timing arguments world =
      (conclude step.result (reportOf options step), step.world) := by
    unfold carryOut
    rw [parsed]
    rfl
  have exitEq : exit = conclude step.result (reportOf options step) :=
    congrArg Prod.fst carriedOut
  have afterEq : after = step.world := congrArg Prod.snd carriedOut
  rcases session_cases launcher settings timing world with
    ⟨error, first, result, refused⟩ |
      ⟨noFault, pairs, plan, built, summary, selected, faultOfBuilt, result, isTrue⟩
  · have refusedEq : refusals ≠ [] := by
      intro none
      rw [show faults launcher options.settings world = [] from none] at first
      cases first
    rw [exitEq, afterEq, show step.result = .error error from result]
    refine ⟨?_, ?_, ?_, Nat.le_refl 2, fun none => absurd none refusedEq, ?_⟩
    · simp [conclude, refusedEq]
    · simp [conclude, refusedEq]
    · simp [conclude, refusedEq]
    · intro reason isFirst
      rw [← Option.some.inj (first.symm.trans isFirst)]
      have shown := out_reportOf_of_refused refused
      refine ⟨rfl, ?_, refused.log, refused.world⟩
      -- The line for the error is written to the other stream.
      show match options.format with
        | .console => (reportOf options step).out ++ "" = ""
        | .json => (reportOf options step).out ++ "" = "" ∨
            ∃ pairs, (reportOf options step).out ++ "" = JsonLines.write (.collected pairs)
      rw [String.append_empty]
      exact shown
  · have none : refusals = [] := noFault
    have codes := code_of_isTrue isTrue (reportOf options step)
    rw [faultOfBuilt] at codes
    obtain ⟨zero, one, atMostOne⟩ := codes
    rw [exitEq, show step.result = .ok summary from result, zero, one]
    refine ⟨⟨?_, ?_⟩, ⟨?_, ?_⟩, ⟨?_, ?_⟩, by omega, fun _ => rfl, ?_⟩
    · rintro ⟨noBuildFault, passed⟩
      exact ⟨none, noBuildFault, pairs, selected, passed⟩
    · rintro ⟨-, noBuildFault, chosen, selectedToo, passed⟩
      rw [Except.ok.inj (selectedToo.symm.trans selected)] at passed
      exact ⟨noBuildFault, passed⟩
    · rintro (buildFailed | notPassed)
      · refine ⟨none, .inl ⟨?_, buildFailed⟩⟩
        cases aborting : settings.abortOnBuildFailure with
        | true => exact absurd (buildFault?_of_faults_eq_nil none aborting) buildFailed
        | false => rfl
      · exact ⟨none, .inr notPassed⟩
    · rintro ⟨-, ⟨-, buildFailed⟩ | notPassed⟩
      · exact .inl buildFailed
      · exact .inr notPassed
    · omega
    · exact absurd none
    · intro error first
      rw [none] at first
      cases first

/-- A command line whose tool cannot be read and whose build must not fail. -/
def refusedArguments : List String :=
  ["-v", "--build", "make", "--abort-on-build-failure", "--diff-tool", "'", "."]

/-- What `refusedArguments` say. -/
def refusedOptions : Options where
  settings :=
    { Settings.default with
      build := some "make"
      diffTool := some "'"
      abortOnBuildFailure := true }
  format := .console
  verbose := true

/-- A launcher that finds no program. -/
def findsNoProgram : Launcher Unit :=
  fun _ _ world => (.error .notFound, world)

/-- An empty directory. -/
def nothing : World Unit := ⟨⟨[]⟩, ()⟩

theorem discover_nothing :
    Collection.discover ⟨"."⟩ nothing.files = .ok ⟨⟨"."⟩, [], []⟩ := by
  have named (role : Role) : Collection.named role [] = [] := List.mergeSort_nil
  show Except.ok (Collection.ofListing ⟨"."⟩ []) = _
  rw [Collection.ofListing, named, named]

/-- In an empty directory, with two faults: the line of the tool is reported, not the build that
would have failed behind it. -/
theorem refused_by_tool_before_build :
    Options.parse refusedArguments = .ok refusedOptions ∧
    faults findsNoProgram refusedOptions.settings nothing =
      [.invalidCommand "'" "missing closing quote", .cannotStart "make" .notFound] ∧
    (carryOut findsNoProgram .none refusedArguments nothing).1 =
      ⟨2, ⟨"", "No tests collected\nError: invalid command line ''': missing closing quote\n"⟩⟩ := by
  have parsed : Options.parse refusedArguments = .ok refusedOptions := by rfl
  have listed : listingFault? refusedOptions.settings nothing.files = none := by
    unfold listingFault?
    rw [show refusedOptions.settings.directory = ⟨"."⟩ from rfl, discover_nothing]
    rfl
  have paired : pairingFault? refusedOptions.settings nothing.files = none := by
    unfold pairingFault?
    rw [show refusedOptions.settings.directory = ⟨"."⟩ from rfl, discover_nothing]
    rfl
  have found : faults findsNoProgram refusedOptions.settings nothing =
      [.invalidCommand "'" "missing closing quote", .cannotStart "make" .notFound] := by
    unfold faults
    rw [listed, paired]
    rfl
  have selected : selectPairs refusedOptions.settings nothing.files = .ok [] := by
    unfold selectPairs
    rw [show refusedOptions.settings.directory = ⟨"."⟩ from rfl, discover_nothing]
    rfl
  have unplanned : Plan.ofSettings findsNoProgram refusedOptions.settings =
      .error (.invalidCommand "'" "missing closing quote") := by rfl
  have reported : reportOf refusedOptions
      (session findsNoProgram refusedOptions.settings .none nothing) =
        ⟨"", "No tests collected\n"⟩ := by
    rw [session_of_unplanned selected unplanned]
    rfl
  obtain ⟨-, -, two, -, -, refused⟩ :=
    exit_codes_partition_runs findsNoProgram .none parsed nothing
  have code := two.mpr (by rw [found]; exact List.cons_ne_nil _ _)
  have written := (refused _ (by rw [found]; rfl)).1
  refine ⟨parsed, found, ?_⟩
  rw [reported] at written
  exact (congrArg₂ Exit.mk code written).trans (by decide)

end Golden.Program
