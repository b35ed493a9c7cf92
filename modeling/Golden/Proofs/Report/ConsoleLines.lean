/-
This file says how the lines of a console are kept apart. Every event puts its texts
behind what a stream has shown so far, and many of these texts come from elsewhere: a
difference, the complaint of a program, a message, the output of a build. A text whose
last line is left open would run into the line that is written next.

On the standard output no line is left open, since a difference is closed before the
completion of its pair is written behind it. On the standard error all texts are closed
but one: to a reader who asked for more, the output of a build is forwarded as it is. So
the standard error is closed at every moment except behind a build whose output ends
within a line, until the next text comes and goes on in that line. Apart from this the
lines of either stream are the lines of the texts, each of which starts a line.
-/

import Golden.Proofs.Report.Transcript
import Golden.Proofs.Text.Joining

namespace Golden.Report

open Golden Golden.Run Golden.Text

/-! ### The texts of an event -/

namespace Console

/-- What is written for events, one after another. -/
def writeAll (verbose : Bool) (events : List Event) : Written :=
  Written.join (events.map (write verbose))

/-- The texts that are written to the standard output for an event. -/
def outTexts : Event → List String
  | .finished pair outcome _ => [((difference? outcome).map closed).getD "", completion pair]
  | _ => []

/-- The line that tells how many pairs have passed and how many have failed. -/
def headline (summary : Summary) : String :=
  let passed := if summary.passed = 0 then [] else [toString summary.passed ++ " passed"]
  let failed := if summary.failed = 0 then [] else [toString summary.failed ++ " failed"]
  let colour := if summary.isSuccess then "\x1b[1;32m" else "\x1b[1;31m"
  colour ++ "====== " ++ ", ".intercalate (passed ++ failed) ++ " in " ++
    summary.duration.secondsText ++ "s ======\x1b[0m\n"

/-- The lines that a summary adds to its headline. -/
def remarks (summary : Summary) : List String :=
  [if summary.stoppedEarly then "stopped after first failure\n" else "",
    if summary.buildFailed then "build failed; results may come from a stale program\n" else ""]

/-- The texts that are written to the standard error for an event. -/
def errTexts (verbose : Bool) : Event → List String
  | .collected pairs => [(write verbose (.collected pairs)).err]
  | .built output => if verbose then [output] else []
  | .buildFailed error => ["Build failed: " ++ trimmed error.message ++ "\n"]
  | .started _ => []
  | .finished pair outcome elapsed =>
    [complaint pair outcome,
      if verbose then pair.inputName ++ " " ++ status outcome elapsed ++ "\n" else ""]
  | .completed summary => if summary.total = 0 then [] else headline summary :: remarks summary

theorem join_outTexts (verbose : Bool) (event : Event) :
    String.join (outTexts event) = (write verbose event).out := by
  cases event with
  | finished pair outcome elapsed =>
    show "" ++ _ ++ _ = _
    rw [String.empty_append]
    rfl
  | _ =>
    rw [out_write]
    rfl

theorem join_errTexts (verbose : Bool) (event : Event) :
    String.join (errTexts verbose event) = (write verbose event).err := by
  cases event with
  | collected pairs => exact String.empty_append
  | built output =>
    cases verbose
    · rfl
    · exact String.empty_append
  | buildFailed error => exact String.empty_append
  | started pair => rfl
  | finished pair outcome elapsed =>
    show "" ++ _ ++ _ = _
    rw [String.empty_append]
    rfl
  | completed summary =>
    rw [errTexts, write]
    split
    · rfl
    · show "" ++ headline summary ++ _ ++ _ = _
      rw [String.empty_append]
      rfl

/-- A stream that is written in texts for every event holds these texts in order. -/
theorem toList_join_map {stream : Event → String} {texts : Event → List String}
    (joined : ∀ event, String.join (texts event) = stream event) (events : List Event) :
    (String.join (events.map stream)).toList =
      events.flatMap fun event => (texts event).flatMap String.toList := by
  rw [String.toList_join, List.flatMap_map]
  refine List.flatMap_congr fun event _ => ?_
  rw [← joined, String.toList_join]

theorem toList_out_writeAll (verbose : Bool) (events : List Event) :
    (writeAll verbose events).out.toList =
      events.flatMap fun event => (outTexts event).flatMap String.toList := by
  rw [← toList_join_map (join_outTexts verbose)]
  exact congrArg (fun texts => (String.join texts).toList) List.map_map

theorem toList_err_writeAll (verbose : Bool) (events : List Event) :
    (writeAll verbose events).err.toList =
      events.flatMap fun event => (errTexts verbose event).flatMap String.toList := by
  rw [← toList_join_map (join_errTexts verbose)]
  exact congrArg (fun texts => (String.join texts).toList) List.map_map

/-! ### Closed texts -/

/-- A text that ends in a given line feed is closed. -/
theorem closedText_append_of_getLast? (front : String) {back : String}
    (ends : back.toList.getLast? = some '\n') : ClosedText (front ++ back).toList := by
  rw [String.toList_append, closedText_append_iff]
  refine ⟨.inr ends, fun nothing => ?_⟩
  rw [nothing] at ends
  cases ends

theorem closedText_closed (text : String) : ClosedText (closed text).toList := by
  unfold closed
  split
  next already =>
    rw [Bool.or_eq_true, String.isEmpty_iff, decide_eq_true_iff] at already
    exact already.imp String.toList_eq_nil_iff.mpr id
  next => exact closedText_append_of_getLast? text (by decide)

theorem closedText_complaint (pair : Fixture.Pair) (outcome : Outcome) :
    ClosedText (complaint pair outcome).toList := by
  cases outcome with
  | passed | mismatch difference => exact .inl rfl
  | programFailed code stderr difference =>
    rw [complaint, String.toList_append]
    refine (closedText_append_of_getLast? _ (by decide)).append ?_
    split
    · exact .inl rfl
    · exact closedText_append_of_getLast? _ (by decide)
  | errored message => exact closedText_append_of_getLast? _ (by decide)

/-- Whatever is written to the standard output is closed. -/
theorem closedText_of_mem_outTexts {event : Event} :
    ∀ text ∈ outTexts event, ClosedText text.toList := by
  cases event with
  | finished pair outcome elapsed =>
    rw [outTexts, List.forall_mem_cons, List.forall_mem_singleton]
    refine ⟨?_, closedText_append_of_getLast? _ (by decide)⟩
    cases difference? outcome with
    | none => exact .inl rfl
    | some difference => exact closedText_closed difference
  | _ => exact List.forall_mem_nil _

/-- An event leaves a line open when it forwards the output of a build that ends within a line. -/
def LeavesLineOpen (verbose : Bool) (event : Event) : Prop :=
  verbose = true ∧ ∃ output, event = .built output ∧ ¬ ClosedText output.toList

/-- Whatever is written to the standard error is closed, but for the output of a build. -/
theorem closedText_of_mem_errTexts {verbose : Bool} {event : Event}
    (closes : ¬ LeavesLineOpen verbose event) :
    ∀ text ∈ errTexts verbose event, ClosedText text.toList := by
  cases event with
  | collected pairs =>
    rw [errTexts, List.forall_mem_singleton, write]
    split_ifs
    · exact .inr (by decide)
    · exact closedText_append_of_getLast? _ (by decide)
    · exact .inl rfl
  | built output =>
    rw [errTexts]
    split
    next told =>
      rw [List.forall_mem_singleton]
      by_contra isOpen
      exact closes ⟨told, output, rfl, isOpen⟩
    next => exact List.forall_mem_nil _
  | buildFailed error =>
    exact List.forall_mem_singleton.mpr (closedText_append_of_getLast? _ (by decide))
  | started pair => exact List.forall_mem_nil _
  | finished pair outcome elapsed =>
    rw [errTexts, List.forall_mem_cons, List.forall_mem_singleton]
    refine ⟨closedText_complaint pair outcome, ?_⟩
    split
    · exact closedText_append_of_getLast? _ (by decide)
    · exact .inl rfl
  | completed summary =>
    rw [errTexts]
    split
    · exact List.forall_mem_nil _
    · rw [remarks, List.forall_mem_cons, List.forall_mem_cons, List.forall_mem_singleton]
      refine ⟨closedText_append_of_getLast? _ (by decide), ?_, ?_⟩
      · cases summary.stoppedEarly <;> decide
      · cases summary.buildFailed <;> decide

/-- What an event writes to the standard error is closed unless it leaves a line open. -/
theorem closedText_errTexts_iff (verbose : Bool) (event : Event) :
    ClosedText ((errTexts verbose event).flatMap String.toList) ↔
      ¬ LeavesLineOpen verbose event := by
  constructor
  · rintro closed ⟨rfl, output, rfl, isOpen⟩
    exact isOpen (by rwa [errTexts, if_pos rfl, List.flatMap_singleton] at closed)
  · exact fun closes => .flatMap (closedText_of_mem_errTexts closes)

/-! ### The lines of a stream -/

/-- The lines of texts, each text by itself. -/
def linesOf (texts : List String) : List (List Char) :=
  texts.flatMap fun text => chunks text.toList

/-- An event has only one text on the standard error if that text leaves a line open, so its texts
have their lines to themselves in any case. -/
theorem chunks_errTexts (verbose : Bool) (event : Event) :
    chunks ((errTexts verbose event).flatMap String.toList) =
      linesOf (errTexts verbose event) := by
  by_cases leavesOpen : LeavesLineOpen verbose event
  · obtain ⟨rfl, output, rfl, -⟩ := leavesOpen
    rw [errTexts, if_pos rfl, linesOf, List.flatMap_singleton, List.flatMap_singleton]
  · exact chunks_flatMap_of_closedText (closedText_of_mem_errTexts leavesOpen)

end Console

/-- The standard output is closed after any events, and its lines are those of the texts that are
written to it. The standard error is closed unless the last text on it is the output of a build that
is forwarded and ends within a line; and its lines are those of the texts that are written to it
unless something is written behind such an output. -/
theorem lines_kept_apart_but_behind_open_build (verbose : Bool) (events : List Event) :
    let written := Console.writeAll verbose events
    ClosedText written.out.toList ∧
    chunks written.out.toList = (events.flatMap fun event =>
      Console.linesOf (Console.outTexts event)) ∧
    (ClosedText written.err.toList ↔
      ∀ before event after, events = before ++ event :: after →
        Console.LeavesLineOpen verbose event → (Console.writeAll verbose after).err ≠ "") ∧
    ((chunks written.err.toList = events.flatMap fun event =>
        Console.linesOf (Console.errTexts verbose event)) ↔
      ∀ before event after, events = before ++ event :: after →
        Console.LeavesLineOpen verbose event → (Console.writeAll verbose after).err = "") := by
  intro written
  have outClosed : ∀ text ∈ events.flatMap Console.outTexts, ClosedText text.toList := by
    intro text member
    obtain ⟨event, -, inside⟩ := List.mem_flatMap.mp member
    exact Console.closedText_of_mem_outTexts text inside
  have emptyErr (after : List Event) : (Console.writeAll verbose after).err = "" ↔
      (after.flatMap fun event => (Console.errTexts verbose event).flatMap String.toList) = [] := by
    rw [← Console.toList_err_writeAll, String.toList_eq_nil_iff]
  refine ⟨?_, ?_, ?_, ?_⟩
  · rw [Console.toList_out_writeAll, ← List.flatMap_assoc]
    exact .flatMap outClosed
  · rw [Console.toList_out_writeAll, ← List.flatMap_assoc, chunks_flatMap_of_closedText outClosed]
    exact List.flatMap_assoc
  · rw [Console.toList_err_writeAll, closedText_flatMap_iff]
    simp only [Console.closedText_errTexts_iff, not_not, ne_eq, emptyErr]
  · simp only [← Console.chunks_errTexts]
    rw [Console.toList_err_writeAll, chunks_flatMap_eq_iff]
    simp only [Console.closedText_errTexts_iff, not_not, emptyErr]

/-- A build, a program and a difference all of which end within a line. -/
def openEndings : List Event :=
  [.built "compiled",
    .finished ⟨1, "1", ⟨"input1.txt"⟩, ⟨"output1.txt"⟩⟩ (.programFailed none "boom" (some "-a"))
      Duration.zero]

/-- Of texts that end within a line only the output of a build leaves the line open, and only when
it is forwarded. -/
theorem lines_of_open_endings :
    (chunks (Console.writeAll false openEndings).err.toList = openEndings.flatMap fun event =>
      Console.linesOf (Console.errTexts false event)) ∧
    chunks (Console.writeAll true openEndings).out.toList =
      ["-a\n".toList, "Test 1 completed\n".toList] ∧
    ¬ ClosedText (Console.writeAll true (openEndings.take 1)).err.toList ∧
    chunks (Console.writeAll true openEndings).err.toList ≠ openEndings.flatMap fun event =>
      Console.linesOf (Console.errTexts true event) := by
  have leavesOpen : Console.LeavesLineOpen true (.built "compiled") := ⟨rfl, _, rfl, by decide⟩
  obtain ⟨-, -, -, quiet⟩ := lines_kept_apart_but_behind_open_build false openEndings
  obtain ⟨-, out, -, told⟩ := lines_kept_apart_but_behind_open_build true openEndings
  obtain ⟨-, -, build, -⟩ := lines_kept_apart_but_behind_open_build true (openEndings.take 1)
  refine ⟨?_, ?_, ?_, ?_⟩
  · exact quiet.mpr fun _ _ _ _ opened => absurd opened.1 Bool.false_ne_true
  · exact out.trans (by decide)
  · exact fun closed => build.mp closed [] _ [] rfl leavesOpen rfl
  · intro apart
    have nothing := told.mp apart [] _ _ rfl leavesOpen
    revert nothing
    decide

/-- The line on a pair goes on in the last line of a build's output. -/
theorem status_goes_on_in_line_of_build :
    ¬ ClosedText (Console.writeAll true [.built "ok"]).err.toList ∧
    (Console.writeAll true [.built "ok",
      .finished ⟨1, "1", ⟨"input1.txt"⟩, ⟨"output1.txt"⟩⟩ .passed Duration.zero]).err =
        "okinput1.txt \x1b[32mPASSED\x1b[0m (0ms)\n" := by
  refine ⟨by decide, by decide⟩

end Golden.Report
