/-
This file reads back what a session writes to a console. The standard output holds one
block for every pair that was run: its difference, if there is one to show, and the
line of its completion. Everything else goes to the standard error, and the pairs are
numbered from one however they were chosen, so the blocks are told by the differences
alone. The reader collects lines until one has the form of a completion. Where
lines are compared without a tool, no line of a difference has that form, whatever
the files hold, since each begins with a sign of its own; so the reader finds the
blocks as they were written.
-/

import Golden.Report.Console
import Golden.Proofs.Diff.Reading
import Golden.Proofs.Fixture.Selection
import Golden.Proofs.Run.ExitCode
import Golden.Proofs.Run.Repetition

namespace Golden.Report

open Golden Golden.Fixture Golden.Run Golden.Text

/-! ### The reader -/

/-- The line that ends the block of a pair, without its line feed. -/
def completionLine (index : Nat) : List Char :=
  "Test ".toList ++ (toString index).toList ++ " completed".toList

/-- The number in a line that has the form of a completion. -/
def readCompletion? (line : List Char) : Option Nat := do
  let text ← "Test ".toList.isPrefixOf? line
  let (index, text) ← readNumber? text
  if text = " completed".toList then return index else none

/-- The difference that lines before a completion show. -/
def shownBy (lines : List (List Char)) : Option String :=
  if lines = [] then none else some (String.ofList (lines.flatMap fun line => line ++ ['\n']))

/-- The blocks that lines write, after some that are no completion yet. -/
def readBlocks? (pending : List (List Char)) :
    List (List Char) → Option (List (Option String × Nat))
  | [] => if pending = [] then some [] else none
  | line :: rest =>
    match readCompletion? line with
    | some index => (readBlocks? [] rest).map ((shownBy pending, index) :: ·)
    | none => readBlocks? (pending ++ [line]) rest

/-- The differences that a transcript shows, each with the number of its pair. -/
def readTranscript? (transcript : String) : Option (List (Option String × Nat)) :=
  (closedLines? transcript.toList).bind (readBlocks? [])

/-! ### The writer -/

/-- The difference that was found for a pair: that of an output which is not the expected one, or
that of what a program has left which failed. -/
def differenceOf : Outcome → Option String
  | .mismatch difference => some difference
  | .programFailed _ _ (some difference) => some difference
  | .programFailed _ _ none => none
  | .passed => none
  | .errored _ => none

/-- A difference as it is shown. A line feed is put behind one that has anything in it and does not
end in a line feed. -/
def asShown (difference : String) : String :=
  match difference.toList.getLast? with
  | none => difference
  | some '\n' => difference
  | some _ => difference ++ "\n"

/-- What is written of a pair: the difference, if one was found, and the completion. -/
def block : Option String → Nat → String
  | none, index => "Test " ++ toString index ++ " completed\n"
  | some difference, index => asShown difference ++ ("Test " ++ toString index ++ " completed\n")

/-- What is written of pairs that are numbered on from an index. -/
def transcriptFrom (index : Nat) : List (Option String) → String
  | [] => ""
  | difference :: rest => block difference index ++ transcriptFrom (index + 1) rest

/-- What is written to the standard output for an event. -/
def outOf : Event → String
  | .finished pair outcome _ => block (differenceOf outcome) pair.index
  | _ => ""

theorem differenceOf_programFailed (code : Option Int) (stderr : String)
    (difference : Option String) :
    differenceOf (.programFailed code stderr difference) = difference := by
  cases difference <;> rfl

theorem closed_eq_asShown (text : String) : Console.closed text = asShown text := by
  unfold Console.closed asShown
  cases last : text.toList.getLast? with
  | none =>
    have nothing : text = "" := String.toList_eq_nil_iff.mp (List.getLast?_eq_none_iff.mp last)
    rw [nothing]
    rfl
  | some character =>
    have something : text.isEmpty = false := by
      rw [← Bool.not_eq_true, String.isEmpty_iff]
      rintro rfl
      cases last
    by_cases feed : character = '\n'
    · simp [feed]
    · simp [something, feed]

theorem finished_eq_block (pair : Pair) (outcome : Outcome) :
    ((Console.difference? outcome).map Console.closed).getD "" ++ Console.completion pair =
      block (differenceOf outcome) pair.index := by
  rcases outcome with _ | difference | ⟨code, stderr, _ | difference⟩ | message
  · exact String.empty_append
  · exact congrArg (· ++ Console.completion pair) (closed_eq_asShown difference)
  · exact String.empty_append
  · exact congrArg (· ++ Console.completion pair) (closed_eq_asShown difference)
  · exact String.empty_append

theorem out_write (verbose : Bool) (event : Event) :
    (Console.write verbose event).out = outOf event := by
  cases event with
  | collected pairs => cases pairs <;> cases verbose <;> rfl
  | built output => cases verbose <;> rfl
  | buildFailed error => rfl
  | started pair => rfl
  | finished pair outcome elapsed => exact finished_eq_block pair outcome
  | completed summary =>
    rw [Console.write]
    split <;> rfl

theorem join_outOf (log : List Call) :
    String.join ((eventsOf log).map outOf) =
      String.join ((outcomesOf log).map fun each =>
        block (differenceOf each.2) each.1.index) := by
  induction log with
  | nil => rfl
  | cons call rest inductionHypothesis =>
    cases call with
    | report event =>
      show String.join (outOf event :: (eventsOf rest).map outOf) = _
      rw [String.join_cons, inductionHypothesis]
      cases event with
      | finished pair outcome elapsed => exact String.join_cons.symm
      | _ => exact String.empty_append
    | _ => exact inductionHypothesis

/-- Only what became of pairs is written to the standard output. -/
theorem out_join_write (verbose : Bool) (log : List Call) :
    (Written.join ((eventsOf log).map (Console.write verbose))).out =
      String.join ((outcomesOf log).map fun each =>
        block (differenceOf each.2) each.1.index) := by
  rw [Written.join, List.map_map, ← join_outOf]
  exact congrArg String.join (List.map_congr_left fun event _ => out_write verbose event)

/-- Pairs that are numbered on from an index are written as a transcript from there. -/
theorem join_block (outcomes : List (Pair × Outcome)) (index : Nat)
    (numbered : outcomes.map (fun each => each.1.index) = List.range' index outcomes.length) :
    String.join (outcomes.map fun each => block (differenceOf each.2) each.1.index) =
      transcriptFrom index (outcomes.map fun each => differenceOf each.2) := by
  induction outcomes generalizing index with
  | nil => rfl
  | cons each rest inductionHypothesis =>
    rw [List.map_cons, List.length_cons, List.range'_succ] at numbered
    obtain ⟨here, later⟩ := List.cons.inj numbered
    rw [List.map_cons, String.join_cons, List.map_cons, transcriptFrom, here,
      inductionHypothesis (index + 1) later]

/-! ### Numbers -/

theorem eq_ok_of_mapError {ε ε' α : Type} {result : Except ε α} {change : ε → ε'} {value : α}
    (succeeded : result.mapError change = .ok value) : result = .ok value := by
  cases result with
  | error error => cases succeeded
  | ok found => exact congrArg Except.ok (Except.ok.inj succeeded)

/-- Pairs are numbered from one, however they are found, and also when they are narrowed. -/
theorem index_of_selectPairs {settings : Settings} {files : Files} {pairs : List Pair}
    (selected : selectPairs settings files = .ok pairs) :
    pairs.map Pair.index = List.range' 1 pairs.length := by
  obtain ⟨collection, -, selected⟩ := exists_of_bind_eq_ok selected
  obtain ⟨all, paired, narrowed⟩ := exists_of_bind_eq_ok selected
  cases filter : settings.filter with
  | some keyword =>
    rw [filter] at narrowed
    rw [← Except.ok.inj narrowed]
    exact Pair.map_index_zipIdx _ (fun _ _ => rfl) _
  | none =>
    rw [filter] at narrowed
    rw [← Except.ok.inj narrowed]
    exact Collection.index_of_pairs (eq_ok_of_mapError paired)

/-! ### Reading what was written -/

/-- A text of whole lines, at least one, none of which has the form of a completion. -/
def IsQuoted (text : String) : Prop :=
  ∃ lines : List (List Char), lines ≠ [] ∧
    (∀ line ∈ lines, '\n' ∉ line ∧ readCompletion? line = none) ∧
    text.toList = lines.flatMap fun line => line ++ ['\n']

theorem completionLine_eq (index : Nat) :
    completionLine index =
      "Test ".toList ++ ((toString index).toList ++ ' ' :: "completed".toList) := by
  delta completionLine
  rw [List.append_assoc]
  rfl

theorem readCompletion?_completionLine (index : Nat) :
    readCompletion? (completionLine index) = some index := by
  rw [completionLine_eq, readCompletion?, isPrefixOf?_append]
  simp only [Option.bind_eq_bind, Option.bind_some]
  rw [readNumber?_append index (by decide)]
  rfl

theorem lineFeed_not_mem_completionLine (index : Nat) : '\n' ∉ completionLine index := by
  rw [completionLine_eq]
  simp only [List.mem_append, List.mem_cons, not_or]
  exact ⟨by decide, lineFeed_not_mem_toString index, by decide, by decide⟩

/-- Lines without the form of a completion belong to the block that the next completion ends. -/
theorem readBlocks?_append {lines : List (List Char)}
    (quoted : ∀ line ∈ lines, readCompletion? line = none) (pending : List (List Char))
    (index : Nat) (rest : List (List Char)) :
    readBlocks? pending (lines ++ completionLine index :: rest) =
      (readBlocks? [] rest).map ((shownBy (pending ++ lines), index) :: ·) := by
  induction lines generalizing pending with
  | nil => rw [List.nil_append, readBlocks?, readCompletion?_completionLine, List.append_nil]
  | cons line others inductionHypothesis =>
    obtain ⟨first, later⟩ := List.forall_mem_cons.mp quoted
    rw [List.cons_append, readBlocks?, first]
    dsimp only
    rw [inductionHypothesis later, List.append_assoc, List.singleton_append]

theorem asShown_eq_self {text : String} (closedText : ClosedText text.toList) :
    asShown text = text := by
  unfold asShown
  rcases closedText with nothing | last
  · rw [nothing]
    rfl
  · rw [last]
    rfl

theorem closedText_flatMap_lineFeed (lines : List (List Char)) :
    ClosedText (lines.flatMap fun line => line ++ ['\n']) := by
  induction lines with
  | nil => exact .inl rfl
  | cons line rest inductionHypothesis =>
    rw [List.flatMap_cons, List.append_assoc, List.singleton_append]
    exact (closedText_append_lineFeed_iff line _).mpr inductionHypothesis

/-- The block of a difference that is quoted, if there is one, has its lines and the completion. -/
theorem exists_lines_block {difference : Option String}
    (quoted : ∀ text ∈ difference, IsQuoted text) (index : Nat) :
    ∃ lines, (∀ line ∈ lines, '\n' ∉ line ∧ readCompletion? line = none) ∧
      shownBy lines = difference ∧
      (block difference index).toList =
        (lines ++ [completionLine index]).flatMap fun line => line ++ ['\n'] := by
  have completed : ("Test " ++ toString index ++ " completed\n").toList =
      completionLine index ++ ['\n'] := by
    rw [completionLine_eq]
    simp
  cases difference with
  | none =>
    refine ⟨[], List.forall_mem_nil _, rfl, ?_⟩
    rw [block, completed, List.nil_append, List.flatMap_singleton]
  | some text =>
    obtain ⟨lines, nonempty, each, written⟩ := quoted text rfl
    refine ⟨lines, each, ?_, ?_⟩
    · rw [shownBy, if_neg nonempty, ← written, String.ofList_toList]
    · rw [block, asShown_eq_self (written ▸ closedText_flatMap_lineFeed lines),
        String.toList_append, completed, written, List.flatMap_append, List.flatMap_singleton]

/-- Whether a line has the form of a completion. -/
def isCompletion (line : List Char) : Bool :=
  (readCompletion? line).isSome

/-- What is written of quoted differences reads back as they are, and no line has the form of a
completion but those that end a block. -/
theorem exists_lines_transcriptFrom (differences : List (Option String))
    (quoted : ∀ difference ∈ differences, ∀ text ∈ difference, IsQuoted text) (index : Nat) :
    ∃ lines : List (List Char), (∀ line ∈ lines, '\n' ∉ line) ∧
      (transcriptFrom index differences).toList = (lines.flatMap fun line => line ++ ['\n']) ∧
      lines.filter isCompletion =
        (List.range' index differences.length).map completionLine ∧
      readBlocks? [] lines = some (differences.zipIdx index) := by
  induction differences generalizing index with
  | nil => exact ⟨[], List.forall_mem_nil _, rfl, rfl, rfl⟩
  | cons difference rest inductionHypothesis =>
    obtain ⟨first, later⟩ := List.forall_mem_cons.mp quoted
    obtain ⟨others, cleanOthers, writtenOthers, completions, read⟩ :=
      inductionHypothesis later (index + 1)
    obtain ⟨lines, each, shown, written⟩ := exists_lines_block first index
    refine ⟨lines ++ completionLine index :: others, ?_, ?_, ?_, ?_⟩
    · refine List.forall_mem_append.mpr ⟨fun line member => (each line member).1, ?_⟩
      exact List.forall_mem_cons.mpr ⟨lineFeed_not_mem_completionLine index, cleanOthers⟩
    · rw [transcriptFrom, String.toList_append, written, writtenOthers, ← List.flatMap_append,
        List.append_assoc, List.singleton_append]
    · have none : lines.filter isCompletion = [] := by
        refine List.filter_eq_nil_iff.mpr fun line member => ?_
        rw [isCompletion, (each line member).2]
        exact Bool.false_ne_true
      have completes : isCompletion (completionLine index) = true := by
        rw [isCompletion, readCompletion?_completionLine]
        rfl
      rw [List.filter_append, none, List.nil_append, List.filter_cons_of_pos completes,
        completions]
      rfl
    · rw [readBlocks?_append (fun line member => (each line member).2), read, List.nil_append,
        shown]
      rfl

/-- What is written of quoted differences, from the first pair on, reads back as they are. -/
theorem readTranscript?_transcriptFrom {differences : List (Option String)}
    (quoted : ∀ difference ∈ differences, ∀ text ∈ difference, IsQuoted text) :
    ∃ lines, closedLines? (transcriptFrom 1 differences).toList = some lines ∧
      lines.filter isCompletion = (List.range' 1 differences.length).map completionLine ∧
      readTranscript? (transcriptFrom 1 differences) = some (differences.zipIdx 1) := by
  obtain ⟨lines, clean, written, completions, read⟩ :=
    exists_lines_transcriptFrom differences quoted 1
  have cut : closedLines? (transcriptFrom 1 differences).toList = some lines := by
    rw [written, closedLines?_flatMap clean]
  refine ⟨lines, cut, completions, ?_⟩
  rw [readTranscript?, cut]
  exact read

/-! ### The differences of lines -/

/-- A line with a sign of its own at the front is no completion. -/
theorem readCompletion?_of_head? {line : List Char} (other : line.head? ≠ some 'T') :
    readCompletion? line = none := by
  cases line with
  | nil => rfl
  | cons first rest =>
    have differs : ('T' == first) = false := beq_false_of_ne fun same => other (same ▸ rfl)
    have noPrefix : "Test ".toList.isPrefixOf? (first :: rest) = none := by
      show (if 'T' == first then _ else none) = none
      rw [differs]
      rfl
    rw [readCompletion?, noPrefix]
    rfl

theorem head?_ne_of_mem_renderLines {line : List Char} {hunks : List (Diff.Hunk (List Char))}
    (member : line ∈ hunks.flatMap Diff.Hunk.renderLines) : line.head? ≠ some 'T' := by
  obtain ⟨hunk, -, inside⟩ := List.mem_flatMap.mp member
  rcases List.mem_cons.mp inside with rfl | shown
  · have sign : hunk.header.head? = some '@' := rfl
    rw [sign]
    decide
  · obtain ⟨edit, -, rfl⟩ := List.mem_map.mp shown
    cases edit <;> simp [Diff.Edit.render]

/-- Whole lines each of which has a sign of its own at the front are quoted. -/
theorem isQuoted_of_head? {lines : List (List Char)} (nonempty : lines ≠ [])
    (signed : ∀ line ∈ lines, '\n' ∉ line ∧ line.head? ≠ some 'T') :
    IsQuoted (String.ofList (lines.flatMap fun line => line ++ ['\n'])) :=
  ⟨lines, nonempty,
    fun line member => ⟨(signed line member).1, readCompletion?_of_head? (signed line member).2⟩,
    String.toList_ofList⟩

section

variable {actualLabel expectedLabel : String} (cleanActual : '\n' ∉ actualLabel.toList)
  (cleanExpected : '\n' ∉ expectedLabel.toList)

include cleanActual cleanExpected

theorem isQuoted_render? {before after difference : String}
    (rendered : Diff.render? before after actualLabel expectedLabel = some difference) :
    IsQuoted difference := by
  rw [Diff.render?_of_lines_ne (Diff.lines_ne_of_render?_eq_some rendered)] at rendered
  rw [← Option.some.inj rendered]
  refine isQuoted_of_head? (List.cons_ne_nil _ _) ?_
  rw [Diff.renderLines, List.forall_mem_cons, List.forall_mem_cons]
  refine ⟨⟨?_, ?_⟩, ⟨?_, ?_⟩, fun line member => ⟨?_, head?_ne_of_mem_renderLines member⟩⟩
  · simpa using cleanActual
  · simp
  · simpa using cleanExpected
  · simp
  · exact Diff.lineFeed_not_mem_renderLines _ _ line member

theorem isQuoted_binaryDifference :
    IsQuoted (binaryDifference actualLabel expectedLabel) := by
  let line : List Char :=
    "Binary files ".toList ++ actualLabel.toList ++ " and ".toList ++ expectedLabel.toList ++
      " differ".toList
  have written : binaryDifference actualLabel expectedLabel =
      String.ofList ([line].flatMap fun line => line ++ ['\n']) := by
    refine String.toList_inj.mp ?_
    delta binaryDifference
    simp [line]
  rw [written]
  refine isQuoted_of_head? (List.cons_ne_nil _ _) (List.forall_mem_singleton.mpr ⟨?_, ?_⟩)
  · simp [line, cleanActual, cleanExpected]
  · simp [line]

/-- What is shown of two contents, under names without a line feed, is quoted. -/
theorem isQuoted_of_compareContents {actual expected : Bytes} {difference : String}
    (differs : compareContents actual expected actualLabel expectedLabel = .differ difference) :
    IsQuoted difference := by
  unfold compareContents at differs
  split at differs
  · cases differs
  · dsimp only at differs
    split at differs
    next shown rendered =>
      rw [← Comparison.differ.inj differs]
      exact isQuoted_render? cleanActual cleanExpected rendered
    next =>
      rw [← Comparison.differ.inj differs]
      exact isQuoted_binaryDifference cleanActual cleanExpected

end

/-! ### Sessions -/

section

variable {σ : Type}

/-- A pair has a difference to show only when one was found. -/
theorem comparing_of_differenceOf {plan : Plan σ} {visit : Visit σ} {text : String}
    (shown : differenceOf (visit.verdict plan) = some text) :
    (visit.comparing plan).1 = .ok (.differ text) := by
  unfold Visit.verdict at shown
  cases clearing : (visit.clearing plan).1 with
  | error cause =>
    rw [clearing] at shown
    cases shown
  | ok cleared =>
    rw [clearing] at shown
    cases running : (visit.running plan).1 with
    | error error =>
      rw [running] at shown
      cases shown
    | ok ending =>
      rw [running] at shown
      dsimp only at shown
      split at shown
      next =>
        rcases found : (visit.comparing plan).1 with error | _ | difference <;>
          rw [found] at shown
        · cases shown
        · cases shown
        · rw [← Option.some.inj shown]
      next =>
        -- Of a failed program only the difference of what it has left is shown.
        rw [differenceOf_programFailed] at shown
        split at shown
        next =>
          rcases found : (visit.comparing plan).1 with error | _ | difference <;>
            rw [found] at shown
          · cases shown
          · cases shown
          · rw [← Option.some.inj shown]
        next => cases shown

/-- Where no tool is called, the output is compared by lines. -/
theorem compareByLines_of_ofSettings {launcher : Launcher σ} {settings : Settings} {plan : Plan σ}
    (noTool : settings.diffTool = none) (planned : Plan.ofSettings launcher settings = .ok plan) :
    plan.collaborators.compare = compareByLines ∧ plan.output = settings.output := by
  rw [ofSettings_eq] at planned
  obtain ⟨build, -, rest⟩ := exists_of_bind_eq_ok planned
  obtain ⟨program, -, rest⟩ := exists_of_bind_eq_ok rest
  obtain ⟨compare, compares, made⟩ := exists_of_bind_eq_ok rest
  rw [comparerOf, noTool] at compares
  rw [← Except.ok.inj made]
  exact ⟨(Except.ok.inj compares).symm, rfl⟩

/-- The difference that a visit shows is quoted where lines are compared. -/
theorem isQuoted_of_visit {plan : Plan σ} (byLines : plan.collaborators.compare = compareByLines)
    {visit : Visit σ} (cleanOutput : '\n' ∉ plan.output.text.toList)
    (cleanExpected : '\n' ∉ visit.pair.expected.text.toList) {text : String}
    (shown : differenceOf (visit.verdict plan) = some text) : IsQuoted text := by
  have found : compareFiles (visit.running plan).2.files plan.output visit.pair.expected =
      .ok (.differ text) := by
    have compared := comparing_of_differenceOf shown
    rw [← compared]
    show _ = (plan.collaborators.compare plan.output visit.pair.expected _).1
    rw [byLines]
    rfl
  unfold compareFiles at found
  split at found
  · cases found
  · split at found
    · cases found
    · exact isQuoted_of_compareContents cleanOutput cleanExpected (Except.ok.inj found)

/-- A run that its build does not end carries its pairs out, and counts those that it has visited.
-/
theorem exists_counted_visits_of_run {plan : Plan σ} {world : World σ}
    (goesOn : plan.abortOnBuildFailure = true → (plan.collaborators.build world).1.isOk = true)
    (timing : Timing) (pairs : List Pair) :
    let step := plan.run timing pairs world
    ∃ visits summary, step.result = .ok summary ∧ summary.total = visits.length ∧
      outcomesOf step.log = visits.map Visit.report ∧
      CarriesOut plan pairs (plan.collaborators.build world).2 visits step.world := by
  obtain ⟨summary, result, isTrue⟩ := exists_isTrue_of_run goesOn timing pairs
  obtain ⟨visits, counted, -, logged, carriedOut⟩ := exists_visits_of_run goesOn timing pairs
  have outcomes : outcomesOf (plan.run timing pairs world).log = visits.map Visit.report := by
    rw [logged, outcomesOf_append, outcomesOf_append, outcomesOf_buildEvent,
      outcomesOf_flatMap_calls]
    exact List.append_nil _
  refine ⟨visits, summary, result, ?_, outcomes, carriedOut⟩
  rw [isTrue.counts.total, outcomes, List.length_map]

/-- A session reports nothing of any pair and gives an error, or it carries out the pairs that were
chosen and counts those that it has visited. -/
theorem session_visits (launcher : Launcher σ) (settings : Settings) (timing : Timing)
    (world : World σ) :
    let step := session launcher settings timing world
    (∃ error, step.result = .error error ∧ outcomesOf step.log = []) ∨
    ∃ pairs plan visits summary first last, selectPairs settings world.files = .ok pairs ∧
      Plan.ofSettings launcher settings = .ok plan ∧ step.result = .ok summary ∧
      summary.total = visits.length ∧ outcomesOf step.log = visits.map Visit.report ∧
      CarriesOut plan pairs first visits last := by
  dsimp only
  cases selected : selectPairs settings world.files with
  | error error =>
    rw [session_of_unselected selected]
    exact .inl ⟨error, rfl, rfl⟩
  | ok pairs =>
    cases planned : Plan.ofSettings launcher settings with
    | error error =>
      rw [session_of_unplanned selected planned]
      exact .inl ⟨error, rfl, rfl⟩
    | ok plan =>
      rw [session_of_planned selected planned]
      rcases aborts_or_goesOn plan world with ⟨error, failed, aborts⟩ | goesOn
      · rw [run_of_aborted failed aborts]
        exact .inl ⟨error, rfl, rfl⟩
      · obtain ⟨visits, summary, result, total, outcomes, carriedOut⟩ :=
          exists_counted_visits_of_run goesOn timing pairs
        exact .inr ⟨pairs, plan, visits, summary, _, _, rfl, rfl, result, total, outcomes,
          carriedOut⟩

section

variable (launcher : Launcher σ) (settings : Settings) (timing : Timing) (world : World σ)

/-- The pairs of which a session reports are the first of those that were chosen; they are as many
as the summary counts, and there are none when the session gives an error. -/
theorem session_reports :
    let step := session launcher settings timing world
    (∀ pairs, selectPairs settings world.files = .ok pairs →
      (outcomesOf step.log).map Prod.fst <+: pairs) ∧
    (∀ summary, step.result = .ok summary → summary.total = (outcomesOf step.log).length) ∧
    (∀ error, step.result = .error error → outcomesOf step.log = []) := by
  rcases session_visits launcher settings timing world with
    ⟨error, failed, none⟩ |
      ⟨pairs, plan, visits, summary, first, last, selected, -, result, total, visited, carriedOut⟩
  · refine ⟨fun pairs _ => ?_, fun summary result => ?_, fun _ _ => none⟩
    · rw [none]
      exact List.nil_prefix
    · cases failed.symm.trans result
  · refine ⟨fun chosen selectedToo => ?_, fun counted resultToo => ?_, fun error failed => ?_⟩
    · rw [Except.ok.inj (selectedToo.symm.trans selected), visited, List.map_map]
      exact carriedOut.inOrder
    · rw [Except.ok.inj (resultToo.symm.trans result), total, visited, List.length_map]
    · cases failed.symm.trans result

/-- The pairs of which a session reports are numbered from one. -/
theorem index_of_session :
    let outcomes := outcomesOf (session launcher settings timing world).log
    outcomes.map (fun each => each.1.index) = List.range' 1 outcomes.length := by
  rcases session_visits launcher settings timing world with
    ⟨error, -, none⟩ | ⟨pairs, plan, visits, summary, first, last, selected, -, -, -, visited,
      carriedOut⟩
  · rw [none]
    rfl
  · have begun := carriedOut.inOrder.map Pair.index
    rw [index_of_selectPairs selected, List.map_map, List.prefix_iff_eq_take, List.length_map,
      List.take_range'_of_length_ge carriedOut.length_le] at begun
    rw [visited]
    dsimp only
    rw [List.map_map, List.length_map]
    exact begun

/-- The differences of which a session reports are quoted where lines are compared. -/
theorem isQuoted_of_session (noTool : settings.diffTool = none)
    (cleanOutput : '\n' ∉ settings.output.text.toList) :
    let outcomes := outcomesOf (session launcher settings timing world).log
    (∀ each ∈ outcomes, '\n' ∉ each.1.expected.text.toList) →
      ∀ each ∈ outcomes, ∀ text ∈ differenceOf each.2, IsQuoted text := by
  rcases session_visits launcher settings timing world with
    ⟨error, -, none⟩ | ⟨pairs, plan, visits, summary, first, last, -, planned, -, -, visited,
      carriedOut⟩
  · rw [none]
    exact fun _ => List.forall_mem_nil _
  · obtain ⟨byLines, output⟩ := compareByLines_of_ofSettings noTool planned
    rw [visited]
    dsimp only
    rw [List.forall_mem_map, List.forall_mem_map]
    intro cleanExpected visit member text shown
    have verdict : differenceOf (visit.verdict plan) = some text :=
      carriedOut.verdicts visit member ▸ shown
    exact isQuoted_of_visit byLines (output ▸ cleanOutput) (cleanExpected visit member) verdict

end

/-! ### The transcript -/

/-- What a session writes to the standard output of a console is told by the differences of the
pairs that were run: a block for each of them in order, numbered from one. These pairs are the first
of those that were chosen, they are as many as the summary counts, and there are none when the
session gives an error. Where lines are compared without a tool, and no path that is named in a
difference has a line feed, the lines that have the form of a completion are those that end the
blocks, and the blocks are read back. -/
theorem transcript_reads_back (launcher : Launcher σ) (settings : Settings) (timing : Timing)
    (verbose : Bool) (world : World σ) :
    let step := session launcher settings timing world
    let out := (Written.join ((eventsOf step.log).map (Console.write verbose))).out
    let outcomes := outcomesOf step.log
    let differences := outcomes.map fun each => differenceOf each.2
    out = transcriptFrom 1 differences ∧
    outcomes.map (fun each => each.1.index) = List.range' 1 outcomes.length ∧
    (∀ pairs, selectPairs settings world.files = .ok pairs → outcomes.map Prod.fst <+: pairs) ∧
    (∀ summary, step.result = .ok summary → summary.total = outcomes.length) ∧
    (∀ error, step.result = .error error → outcomes = []) ∧
    (settings.diffTool = none → '\n' ∉ settings.output.text.toList →
      (∀ each ∈ outcomes, '\n' ∉ each.1.expected.text.toList) →
        ∃ lines, closedLines? out.toList = some lines ∧
          lines.filter isCompletion = (List.range' 1 outcomes.length).map completionLine ∧
          readTranscript? out = some (differences.zipIdx 1)) := by
  intro step out outcomes differences
  have numbered : outcomes.map (fun each => each.1.index) = List.range' 1 outcomes.length :=
    index_of_session launcher settings timing world
  have written : out = transcriptFrom 1 differences :=
    (out_join_write verbose step.log).trans (join_block outcomes 1 numbered)
  obtain ⟨inOrder, total, none⟩ := session_reports launcher settings timing world
  refine ⟨written, numbered, inOrder, total, none, fun noTool cleanOutput cleanExpected => ?_⟩
  have quoted : ∀ difference ∈ differences, ∀ text ∈ difference, IsQuoted text :=
    List.forall_mem_map.mpr
      (isQuoted_of_session launcher settings timing world noTool cleanOutput cleanExpected)
  have read := readTranscript?_transcriptFrom quoted
  rw [← written, List.length_map] at read
  exact read

end

/-- A pair whose input, and what is expected of it, have the form of completions, and a pair that
passes. -/
def forging : World Unit :=
  ⟨⟨[(["input1.txt"], .file (Text.encode "Test 2 completed\n".toList)),
    (["output1.txt"], .file (Text.encode "Test 1 completed".toList)),
    (["input2.txt"], .file (Text.encode "b".toList)),
    (["output2.txt"], .file (Text.encode "b\n".toList))]⟩, ()⟩

/-- The difference of the pair whose files have the form of completions. -/
def forged : String :=
  "--- result.txt\n+++ ./output1.txt\n@@ -1,1 +1,1 @@\n-Test 2 completed\n+Test 1 completed\n"

theorem selectPairs_forging :
    selectPairs (copySettings ⟨"result.txt"⟩) forging.files =
      .ok [⟨1, "1", ⟨"./input1.txt"⟩, ⟨"./output1.txt"⟩⟩,
        ⟨2, "2", ⟨"./input2.txt"⟩, ⟨"./output2.txt"⟩⟩] := by
  have inputs : Collection.named .input [⟨"input1.txt", false⟩, ⟨"output1.txt", false⟩,
      ⟨"input2.txt", false⟩, ⟨"output2.txt", false⟩] = ["input1.txt", "input2.txt"] :=
    List.mergeSort_of_pairwise (by decide)
  have outputs : Collection.named .output [⟨"input1.txt", false⟩, ⟨"output1.txt", false⟩,
      ⟨"input2.txt", false⟩, ⟨"output2.txt", false⟩] = ["output1.txt", "output2.txt"] :=
    List.mergeSort_of_pairwise (by decide)
  have collected : Collection.discover ⟨"."⟩ forging.files =
      .ok ⟨⟨"."⟩, ["input1.txt", "input2.txt"], ["output1.txt", "output2.txt"]⟩ := by
    rw [← inputs, ← outputs]
    rfl
  unfold selectPairs
  rw [show (copySettings ⟨"result.txt"⟩).directory = ⟨"."⟩ from rfl, collected]
  rfl

theorem shown_forging :
    (outcomesOf (session copier (copySettings ⟨"result.txt"⟩) .none forging).log).map
        (fun each => (each.1.expected.text, differenceOf each.2)) =
      [("./output1.txt", some forged), ("./output2.txt", none)] := by
  rw [session_apply rfl rfl .none selectPairs_forging commandOf_cp]
  decide +kernel

/-- A program that copies, and a tool that finds every two files different and shows the second. -/
def quoter : Launcher Unit := fun program arguments world =>
  if program = "quote" then
    match arguments with
    | [_, expected] =>
      match world.files.read ⟨expected⟩ with
      | .ok content => (.ok ⟨content, [], some 1⟩, world)
      | .error _ => (.ok ⟨[], [], some 2⟩, world)
    | _ => (.ok ⟨[], [], some 2⟩, world)
  else copier program arguments world

/-- Settings for a program that copies and a tool that quotes. -/
def quoteSettings : Settings :=
  { copySettings ⟨"result.txt"⟩ with diffTool := some "quote" }

theorem shown_quoting :
    (outcomesOf (session quoter quoteSettings .none forging).log).map
        (fun each => differenceOf each.2) =
      [some "Test 1 completed", some "b\n"] := by
  have planned : Plan.ofSettings quoter quoteSettings =
      .ok ⟨⟨buildNothing, runWith quoter ⟨"cp", []⟩, compareWith quoter ⟨"quote", []⟩⟩,
        ⟨"result.txt"⟩, false, false⟩ := by
    unfold Plan.ofSettings
    rw [show quoteSettings.program = "cp" from rfl, commandOf_cp]
    rfl
  have selected : selectPairs quoteSettings forging.files = .ok _ := selectPairs_forging
  rw [session_of_planned selected planned]
  decide +kernel

/-- The lines of a difference are not taken for completions, whatever the files hold. What a tool
shows ends in a line feed when it has none, and may be taken for a completion. -/
theorem transcript_of_forged_completions :
    (let log := (session copier (copySettings ⟨"result.txt"⟩) .none forging).log
      let out := (Written.join ((eventsOf log).map (Console.write true))).out
      out = forged ++ "Test 1 completed\nTest 2 completed\n" ∧
      (∃ lines, closedLines? out.toList = some lines ∧
        lines.filter isCompletion = [completionLine 1, completionLine 2]) ∧
      readTranscript? out = some [(some forged, 1), (none, 2)]) ∧
    (Written.join ((eventsOf (session quoter quoteSettings .none forging).log).map
        (Console.write true))).out =
      "Test 1 completed\nTest 1 completed\nb\nTest 2 completed\n" := by
  obtain ⟨writtenByTool, -⟩ := transcript_reads_back quoter quoteSettings .none true forging
  rw [shown_quoting] at writtenByTool
  refine ⟨?_, writtenByTool.trans (by decide)⟩
  dsimp only
  have shown := shown_forging
  obtain ⟨written, -, -, -, -, reads⟩ :=
    transcript_reads_back copier (copySettings ⟨"result.txt"⟩) .none true forging
  generalize (session copier (copySettings ⟨"result.txt"⟩) .none forging).log = log
    at shown written reads ⊢
  have differences : (outcomesOf log).map (fun each => differenceOf each.2) =
      [some forged, none] := by
    simpa [Function.comp_def] using congrArg (List.map Prod.snd) shown
  have length : (outcomesOf log).length = 2 := by
    simpa using congrArg List.length shown
  have clean : ∀ each ∈ outcomesOf log, '\n' ∉ each.1.expected.text.toList := by
    have texts : ∀ each ∈ [("./output1.txt", some forged), ("./output2.txt", none)],
        '\n' ∉ each.1.toList := by decide
    rw [← shown, List.forall_mem_map] at texts
    exact texts
  obtain ⟨lines, cut, completions, read⟩ := reads rfl (by decide) clean
  rw [differences] at written read
  rw [length] at completions
  refine ⟨written.trans (by decide), ⟨lines, cut, completions⟩, read⟩

end Golden.Report
