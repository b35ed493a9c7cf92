/-
This file writes the events of a run as JSON, one object to a line, with the kind of
the event first. The success of a build and the start of a pair leave no line.
-/

import Golden.Report.Json
import Golden.Run.Outcome

namespace Golden.Report.JsonLines

open Golden Golden.Run Golden.Text Golden.Report.Json

/-- The version that is told to the reader of a report. -/
def version : String := "0.1.0"

/-- The word for an outcome, and the fields that it adds to those of its pair. -/
def outcomeFields : Outcome → String × List NamedValue
  | .passed => ("passed", [])
  | .mismatch difference => ("mismatch", [⟨"detail", .text difference⟩])
  | .programFailed code stderr difference =>
    ("program_failed",
      ⟨"detail", .text stderr⟩ ::
        (code.map fun code => NamedValue.mk "exit_code" (.number code)).toList ++
        (difference.map fun difference => NamedValue.mk "diff" (.text difference)).toList)
  | .errored message => ("error", [⟨"detail", .text message⟩])

/-- The fields of the object for an event, if the event has one. -/
def fields? : Event → Option (List NamedValue)
  | .collected pairs =>
    some [⟨"event", .text "collected"⟩, ⟨"version", .text version⟩,
      ⟨"count", .number pairs.length⟩]
  | .buildFailed error => some [⟨"event", .text "build_failed"⟩, ⟨"error", .text error.message⟩]
  | .finished pair outcome elapsed =>
    let (word, details) := outcomeFields outcome
    some ([⟨"event", .text "test"⟩, ⟨"index", .number pair.index⟩, ⟨"key", .text pair.key⟩,
      ⟨"input", .text pair.input.text⟩, ⟨"expected", .text pair.expected.text⟩,
      ⟨"outcome", .text word⟩] ++ details ++ [⟨"duration_ms", .number elapsed.milliseconds⟩])
  | .completed summary =>
    some [⟨"event", .text "summary"⟩, ⟨"total", .number summary.total⟩,
      ⟨"passed", .number summary.passed⟩, ⟨"failed", .number summary.failed⟩,
      ⟨"stopped_early", .flag summary.stoppedEarly⟩, ⟨"build_failed", .flag summary.buildFailed⟩,
      ⟨"duration_ms", .number summary.duration.milliseconds⟩]
  | .built _ | .started _ => none

/-- What is written for an event: one line, or nothing. -/
def write (event : Event) : String :=
  match fields? event with
  | some fields => String.ofList (renderObject fields ++ ['\n'])
  | none => ""

end Golden.Report.JsonLines
