/-
This file says when a pair passes, whatever its program does to the files. It passes
exactly when the output could be cleared, the program was run and succeeded, and among
the files that the program has left the output and what is expected of it can both be
read and have the same lines.

The program starts in files in which nothing stands at the output. So what was there
before can neither let a pair pass nor keep it from passing: where the program has not
written the output, it cannot be read, and a program that succeeds in silence is told
from one that has written what was expected. What a failed program has written is
compared as well, but only to be shown; it makes no difference to the verdict.
-/

import Golden.Proofs.Run.Clearing
import Golden.Proofs.Run.LineComparison
import Golden.Proofs.Run.Protocol
import Golden.Run.Process

namespace Golden

namespace Files

/-- Something stands where a file can be read. -/
theorem contains_of_read {files : Files} {path : Path} {content : Bytes}
    (readable : files.read path = .ok content) : files.contains path = true := by
  unfold read at readable
  unfold contains
  cases examined : files.examine path with
  | error cause =>
    rw [examined] at readable
    cases readable
  | ok found => rfl

theorem read_of_vacant {files : Files} {path : Path}
    (vacant : files.examine path = .error .notFound) : files.read path = .error .notFound := by
  unfold read
  rw [vacant]
  rfl

/-- A removal finds nothing only where nothing stands. -/
theorem examine_of_remove_eq_notFound {files : Files} {path : Path}
    (missing : files.remove path = .error .notFound) : files.examine path = .error .notFound := by
  unfold remove at missing
  cases examined : files.examine path with
  | error cause =>
    rw [examined] at missing
    exact congrArg Except.error (Except.error.inj missing)
  | ok found =>
    obtain ⟨location, node⟩ := found
    rw [examined] at missing
    cases node <;> cases missing

end Files

namespace Run

open Golden.Fixture Golden.Text

/-! ### Files without the output -/

/-- Files are cleared to those in which the program of a pair is run. -/
inductive ClearedTo (output : Path) (files : Files) : Files → Prop
  /-- Nothing stands at the output, and the files are left as they are. -/
  | absent (vacant : Vacant output files) : ClearedTo output files files
  /-- What stands at the output can be removed, and is. -/
  | removed {fresh : Files} (removed : files.remove output = .ok fresh) :
    ClearedTo output files fresh

theorem clearedTo_iff (output : Path) (files fresh : Files) :
    ClearedTo output files fresh ↔ Plan.removeOutput output files = (.ok (), fresh) := by
  constructor
  · rintro (vacant | removed)
    · exact removeOutput_of_vacant vacant
    · unfold Plan.removeOutput
      rw [removed]
  · unfold Plan.removeOutput
    intro cleared
    split at cleared
    next left removed =>
      obtain rfl := (Prod.mk.inj cleared).2
      exact .removed removed
    next missing =>
      obtain rfl := (Prod.mk.inj cleared).2
      exact .absent (Files.examine_of_remove_eq_notFound missing)
    next => cases cleared

/-- Nothing stands at the output in files that were cleared. -/
theorem ClearedTo.vacant {output : Path} {files fresh : Files}
    (cleared : ClearedTo output files fresh) : Vacant output fresh := by
  rw [clearedTo_iff] at cleared
  have vacant := vacant_removeOutput output files (by rw [cleared])
  rwa [cleared] at vacant

/-! ### What a comparison by lines finds -/

section

variable (files : Files) (actual expected : Path)

/-- Two files are found to be the same when both can be read and have the same lines. -/
theorem compareFiles_eq_same_iff :
    compareFiles files actual expected = .ok .same ↔
      ∃ before after, files.read actual = .ok before ∧ files.read expected = .ok after ∧
        byteLines before = byteLines after := by
  unfold compareFiles
  cases files.read actual with
  | error cause => simp
  | ok before =>
    cases files.read expected with
    | error cause => simp
    | ok after =>
      by_cases same : byteLines before = byteLines after
      · simp [compareContents_of_byteLines_eq same, same]
      · obtain ⟨difference, differs, -⟩ :=
          exists_difference_of_byteLines_ne same actual.text expected.text
        simp [differs, same]

/-- Two files are found to differ when both can be read and have different lines. -/
theorem compareFiles_eq_differ_iff (difference : String) :
    compareFiles files actual expected = .ok (.differ difference) ↔
      ∃ before after, files.read actual = .ok before ∧ files.read expected = .ok after ∧
        byteLines before ≠ byteLines after ∧
        compareContents before after actual.text expected.text = .differ difference := by
  unfold compareFiles
  cases files.read actual with
  | error cause => simp
  | ok before =>
    cases files.read expected with
    | error cause => simp
    | ok after =>
      by_cases same : byteLines before = byteLines after
      · simp [compareContents_of_byteLines_eq same]
      · simp [same]

/-- There is no difference to show where nothing stands. -/
theorem difference?_compareFiles_eq_none (nothing : files.contains actual = false) :
    difference? (compareFiles files actual expected) = none := by
  unfold compareFiles
  cases readable : files.read actual with
  | error cause => rfl
  | ok content =>
    rw [Files.contains_of_read readable] at nothing
    cases nothing

theorem difference?_eq_some_iff (found : Except Error Comparison) (difference : String) :
    difference? found = some difference ↔ found = .ok (.differ difference) := by
  rcases found with error | _ | other <;> simp [difference?]

end

/-! ### What becomes of a pair -/

/-- What becomes of a pair by the end of its program and the files that it has left. -/
def verdictByLines (output expected : Path) (ended : Except Error Ending) (left : Files) :
    Outcome :=
  match ended with
  | .error error => .errored error.message
  | .ok ending =>
    if ending.success then
      match compareFiles left output expected with
      | .ok .same => .passed
      | .ok (.differ difference) => .mismatch difference
      | .error error => .errored error.message
    else
      .programFailed ending.code ending.stderr (difference? (compareFiles left output expected))

theorem verdictByLines_eq_passed_iff (output expected : Path) (ended : Except Error Ending)
    (left : Files) :
    verdictByLines output expected ended left = .passed ↔
      ∃ ending, ended = .ok ending ∧ ending.success = true ∧
        compareFiles left output expected = .ok .same := by
  unfold verdictByLines
  cases ended with
  | error error => simp
  | ok ending =>
    by_cases success : ending.success = true
    · rcases compareFiles left output expected with error | _ | difference <;> simp [success]
    · simp [success]

variable {σ : Type} {plan : Plan σ}

namespace Visit

theorem clearing_of_clearedTo {visit : Visit σ} {fresh : Files}
    (cleared : ClearedTo plan.output visit.before.files fresh) :
    visit.clearing plan = (.ok (), { visit.before with files := fresh }) := by
  rw [visit.clearing_eq_removeOutput, (clearedTo_iff _ _ fresh).mp cleared]

theorem comparing_result_of_byLines (byLines : plan.collaborators.compare = compareByLines)
    (visit : Visit σ) :
    (visit.comparing plan).1 =
      compareFiles (visit.running plan).2.files plan.output visit.pair.expected := by
  show (plan.collaborators.compare plan.output visit.pair.expected _).1 = _
  rw [byLines]
  rfl

/-- Once the output is cleared, the end of the program and the files that it leaves tell what
becomes of the pair. -/
theorem verdict_eq_verdictByLines (byLines : plan.collaborators.compare = compareByLines)
    {visit : Visit σ} (cleared : (visit.clearing plan).1 = .ok ()) :
    visit.verdict plan =
      verdictByLines plan.output visit.pair.expected (visit.running plan).1
        (visit.running plan).2.files := by
  have run := visit.runs_of_ok plan cleared
  unfold verdict verdictByLines
  rw [cleared, comparing_result_of_byLines byLines]
  cases ended : (visit.running plan).1 with
  | error error => rfl
  | ok ending =>
    rw [visit.compares_of_ok plan run ended]
    by_cases success : ending.success = true
    · rcases compareFiles (visit.running plan).2.files plan.output visit.pair.expected with
        error | _ | difference <;> simp [success]
    · by_cases written : (visit.running plan).2.files.contains plan.output = true
      · simp [success, written]
      · have nothing := difference?_compareFiles_eq_none _ _ visit.pair.expected
          (Bool.eq_false_iff.mpr written)
        simp [success, written, nothing]

end Visit

section

variable (pair : Pair) {world : World σ}

/-- A pair does not pass when its output cannot be cleared. -/
theorem exists_clearedTo_of_passed (passed : (plan.runPair pair world).result = .passed) :
    ∃ fresh, ClearedTo plan.output world.files fresh := by
  let visit : Visit σ := ⟨pair, world, .passed, Duration.zero⟩
  have verdict : visit.verdict plan = .passed :=
    (congrArg Step.result (runPair_apply plan visit)).symm.trans passed
  cases clearing : (visit.clearing plan).1 with
  | error cause =>
    unfold Visit.verdict at verdict
    rw [clearing] at verdict
    cases verdict
  | ok done =>
    rw [visit.clearing_eq_removeOutput] at clearing
    exact ⟨_, (clearedTo_iff _ _ _).mpr (Prod.ext clearing rfl)⟩

/-- What becomes of a pair whose output was cleared. -/
theorem runPair_result_of_clearedTo (byLines : plan.collaborators.compare = compareByLines)
    {fresh : Files} (cleared : ClearedTo plan.output world.files fresh) :
    (plan.runPair pair world).result =
      let ran := plan.collaborators.run pair.input plan.output { world with files := fresh }
      verdictByLines plan.output pair.expected ran.1 ran.2.files := by
  let visit : Visit σ := ⟨pair, world, .passed, Duration.zero⟩
  have clearing : visit.clearing plan = (.ok (), { world with files := fresh }) :=
    Visit.clearing_of_clearedTo cleared
  have verdict := Visit.verdict_eq_verdictByLines byLines (congrArg Prod.fst clearing)
  unfold Visit.running at verdict
  rw [clearing] at verdict
  exact (congrArg Step.result (runPair_apply plan visit)).trans verdict

/-- A pair whose output was cleared passes exactly when its program succeeds and leaves the lines
that are expected. -/
theorem passed_iff_of_clearedTo (byLines : plan.collaborators.compare = compareByLines)
    {fresh left : Files} {memory : σ} {ended : Except Error Ending}
    (cleared : ClearedTo plan.output world.files fresh)
    (ran : plan.collaborators.run pair.input plan.output { world with files := fresh } =
      (ended, ⟨left, memory⟩)) :
    (plan.runPair pair world).result = .passed ↔
      ∃ ending, ended = .ok ending ∧ ending.success = true ∧ ∃ actual expected,
        left.read plan.output = .ok actual ∧ left.read pair.expected = .ok expected ∧
        byteLines actual = byteLines expected := by
  rw [runPair_result_of_clearedTo pair byLines cleared, ran]
  refine (verdictByLines_eq_passed_iff _ _ _ _).trans ?_
  simp only [compareFiles_eq_same_iff]

end

/-! ### The verdict -/

/-- A pair passes exactly when the output could be cleared, its program was run and succeeded, and
among the files that the program has left the output and what is expected can be read and have the
same lines. So a pair does not pass when its program fails or cannot be run, nor when the program
leaves the output as it was cleared. Where a program has failed, a difference is shown exactly when
it has left an output that can be compared with what is expected and differs from it, and this
comparison is what is shown. -/
theorem pair_passes_on_fresh_output_alone
    (byLines : plan.collaborators.compare = compareByLines) (pair : Pair) (world : World σ) :
    ((plan.runPair pair world).result = .passed ↔
      ∃ fresh ending left actual expected, ClearedTo plan.output world.files fresh ∧
        plan.collaborators.run pair.input plan.output { world with files := fresh } =
          (.ok ending, left) ∧
        ending.success = true ∧
        left.files.read plan.output = .ok actual ∧ left.files.read pair.expected = .ok expected ∧
        byteLines actual = byteLines expected) ∧
    ∀ fresh ended left, ClearedTo plan.output world.files fresh →
      plan.collaborators.run pair.input plan.output { world with files := fresh } =
        (ended, left) →
      (left.files.read plan.output = fresh.read plan.output →
        (plan.runPair pair world).result ≠ .passed) ∧
      (∀ error, ended = .error error →
        (plan.runPair pair world).result = .errored error.message) ∧
      (∀ ending, ended = .ok ending → ending.success = false →
        ∃ shown, (plan.runPair pair world).result =
            .programFailed ending.code ending.stderr shown ∧
          ∀ text, shown = some text ↔ ∃ actual expected,
            left.files.read plan.output = .ok actual ∧
            left.files.read pair.expected = .ok expected ∧
            byteLines actual ≠ byteLines expected ∧
            compareContents actual expected plan.output.text pair.expected.text =
              .differ text) := by
  refine ⟨⟨fun passed => ?_, ?_⟩, fun fresh ended left cleared ran => ⟨?_, ?_, ?_⟩⟩
  · obtain ⟨fresh, cleared⟩ := exists_clearedTo_of_passed pair passed
    obtain ⟨ending, ended, success, actual, expected, compared⟩ :=
      (passed_iff_of_clearedTo pair byLines cleared rfl).mp passed
    exact ⟨fresh, ending, _, actual, expected, cleared, Prod.ext ended rfl, success, compared⟩
  · rintro ⟨fresh, ending, left, actual, expected, cleared, ran, success, compared⟩
    exact (passed_iff_of_clearedTo pair byLines cleared ran).mpr
      ⟨ending, rfl, success, actual, expected, compared⟩
  · intro untouched passed
    obtain ⟨ending, -, -, actual, expected, readable, -⟩ :=
      (passed_iff_of_clearedTo pair byLines cleared ran).mp passed
    rw [untouched, Files.read_of_vacant cleared.vacant] at readable
    cases readable
  · rintro error rfl
    rw [runPair_result_of_clearedTo pair byLines cleared, ran]
    rfl
  · rintro ending rfl failed
    refine ⟨difference? (compareFiles left.files plan.output pair.expected), ?_, fun text => ?_⟩
    · rw [runPair_result_of_clearedTo pair byLines cleared, ran]
      simp [verdictByLines, failed]
    · rw [difference?_eq_some_iff, compareFiles_eq_differ_iff]

/-- A program that writes a text, or nothing, and ends with or without success. -/
def writing (text : Option String) (success : Bool) : Plan Unit :=
  ⟨⟨buildNothing, fun _ output world =>
      let ending : Ending := ⟨success, some (if success then 0 else 1), ""⟩
      match text with
      | none => (.ok ending, world)
      | some text =>
        match world.files.write output (encode text.toList) with
        | .ok written => (.ok ending, { world with files := written })
        | .error _ => (.ok ending, world),
    compareByLines⟩, ⟨"out"⟩, false, false⟩

/-- What is expected of a pair, beside a text at the output or nothing there. -/
def beside (text : Option String) : Files :=
  ⟨(text.map fun text => (["out"], .file (encode text.toList))).toList ++
    [(["e"], .file (encode "x\n".toList))]⟩

/-- Beside an output from an earlier run that would match, a pair passes when its program writes
what is expected and succeeds. It does not pass when the program succeeds in silence, nor when it
fails: there is a difference to show then if it has written anything but what is expected. -/
theorem verdicts_beside_matching_output :
    let pair : Pair := ⟨1, "1", ⟨"a"⟩, ⟨"e"⟩⟩
    let world : World Unit := ⟨beside (some "x\n"), ()⟩
    (∀ text success, (writing text success).collaborators.compare = compareByLines) ∧
    ((writing (some "x\r\n") true).runPair pair world).result = .passed ∧
    ((writing none true).runPair pair world).result ≠ .passed ∧
    ((writing (some "x") false).runPair pair world).result = .programFailed (some 1) "" none ∧
    ∃ text, ((writing (some "y") false).runPair pair world).result =
      .programFailed (some 1) "" (some text) := by
  intro pair world
  have byLines (text : Option String) (success : Bool) :
      (writing text success).collaborators.compare = compareByLines := rfl
  have cleared : ClearedTo ⟨"out"⟩ world.files (beside none) := .removed rfl
  have wrote (text : String) (success : Bool) :
      (writing (some text) success).collaborators.run ⟨"a"⟩ ⟨"out"⟩ ⟨beside none, ()⟩ =
        (.ok ⟨success, some (if success then 0 else 1), ""⟩, ⟨beside (some text), ()⟩) := rfl
  have written (text : String) : (beside (some text)).read ⟨"out"⟩ = .ok (encode text.toList) := rfl
  have expected (text : String) : (beside (some text)).read ⟨"e"⟩ = .ok (encode "x\n".toList) := rfl
  have spec (text : Option String) (success : Bool) :=
    pair_passes_on_fresh_output_alone (byLines text success) pair world
  refine ⟨byLines, ?_, ?_, ?_, ?_⟩
  · exact (spec _ _).1.mpr
      ⟨_, _, _, _, _, cleared, wrote _ _, rfl, written _, expected _, by decide⟩
  · exact ((spec _ _).2 _ _ _ cleared rfl).1 rfl
  · obtain ⟨shown, failed, compared⟩ :=
      ((spec _ _).2 _ _ _ cleared (wrote "x" false)).2.2 _ rfl rfl
    have nothing : shown = none := by
      refine Option.eq_none_iff_forall_ne_some.mpr fun text equal => ?_
      obtain ⟨actual, other, readActual, readOther, differ, -⟩ := (compared text).mp equal
      obtain rfl := Except.ok.inj ((written "x").symm.trans readActual)
      obtain rfl := Except.ok.inj ((expected "x").symm.trans readOther)
      exact differ (by decide)
    rw [failed, nothing]
    rfl
  · obtain ⟨shown, failed, compared⟩ :=
      ((spec _ _).2 _ _ _ cleared (wrote "y" false)).2.2 _ rfl rfl
    have different : byteLines (encode "y".toList) ≠ byteLines (encode "x\n".toList) := by decide
    obtain ⟨text, differs, -⟩ := exists_difference_of_byteLines_ne different "out" "e"
    refine ⟨text, ?_⟩
    rw [failed, (compared text).mpr ⟨_, _, written _, expected _, different, differs⟩]
    rfl

end Run

end Golden
