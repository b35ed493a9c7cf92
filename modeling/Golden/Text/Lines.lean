/-
This file cuts texts and bytes into lines. A text is first cut into chunks, each
of which keeps its line feed, so nothing is lost; a line is a chunk without its
terminator, a line feed that one carriage return may precede. Bytes are cut at
line feeds directly, and a carriage return at the end of any piece is dropped.
The two readings differ on one point: a last line that ends in a carriage return
and has no line feed keeps it as text and loses it as bytes.
-/

import Golden.Text.Trim

namespace Golden.Text

/-! ### Chunks -/

/-- The pieces of a text, each up to and including a line feed; the last one may have none. -/
def chunks : List Char → List (List Char)
  | [] => []
  | character :: rest =>
    if character = '\n' then [character] :: chunks rest
    else
      match chunks rest with
      | [] => [[character]]
      | first :: others => (character :: first) :: others

/-- Nothing is lost between the chunks. -/
theorem chunks_flatten (text : List Char) : (chunks text).flatten = text := by
  induction text with
  | nil => rfl
  | cons character rest inductionHypothesis =>
    unfold chunks
    split
    · simp [inductionHypothesis]
    · cases equation : chunks rest with
      | nil => simp_all
      | cons first others => simp_all

/-! ### Lines of a text -/

/-- A chunk without its terminator: one line feed, with at most one carriage return before. -/
def withoutTerminator (chunk : List Char) : List Char :=
  if chunk.getLast? = some '\n' then dropFinal '\r' chunk.dropLast else chunk

/-- The lines of a text, without their terminators. -/
def lines (text : List Char) : List (List Char) :=
  (chunks text).map withoutTerminator

/-! ### Lines of bytes -/

/-- The lines of a sequence of bytes: one final line feed closes the last line, every other one
separates two lines, and one carriage return is dropped from the end of each. -/
def byteLines (bytes : List UInt8) : List (List UInt8) :=
  if bytes.isEmpty then []
  else ((dropFinal 10 bytes).splitOn 10).map (dropFinal 13)

end Golden.Text
