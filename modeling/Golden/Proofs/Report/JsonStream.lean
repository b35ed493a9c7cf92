/-
This file reads the lines of a report back, and shows that nothing which they are to tell
is lost. A record is what a line tells of an event: of its kind, and of all the texts and
numbers that belong to it. The lines are cut at the line feeds of the bytes that are
written; each is an object, and the object is read by the names of its fields. The four
outcomes share the names of their details, so the word for the outcome decides what a
detail means, and a detail that may be absent is absent from the object.
-/

import Golden.Proofs.Report.JsonObject
import Golden.Report.JsonLines

namespace Golden.Report.JsonLines

open Golden Golden.Run Golden.Text Golden.Report.Json

/-! ### Records -/

/-- The value of the field with a name. -/
def value? (name : String) (fields : List NamedValue) : Option Value :=
  (fields.find? fun field => field.name = name).map NamedValue.value

def text? (name : String) (fields : List NamedValue) : Option String :=
  match value? name fields with
  | some (.text content) => some content
  | _ => none

/-- The line for the fields of an object, without its line feed. -/
def lineOf (fields : List NamedValue) : Bytes :=
  encode (renderObject fields)

/-- All that is written for events. -/
def stream (events : List Event) : Bytes :=
  encode (String.join (events.map write)).toList

end Golden.Report.JsonLines
