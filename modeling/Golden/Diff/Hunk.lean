/-
This file gathers the changes of a script into hunks. A hunk shows a group of
changes with up to three kept lines before and after it, and says at which line of
either text it starts. Two groups are apart when more than six kept lines stand
between them; the kept lines at the very start count as if a group ended there, so
that the first hunk may show six of them.
-/

import Golden.Diff.Script

namespace Golden.Diff

variable {α : Type}

/-- A group of changes with the kept lines around it, and the number of lines of either text that
stand before it. -/
structure Hunk (α : Type) where
  old : Nat
  new : Nat
  edits : Script α
deriving DecidableEq, Repr

namespace Hunk

/-- The number of kept lines that are shown on one side of a group of changes. -/
def contextLength : Nat := 3

/-- A hunk that is closed: it gets the first of the kept lines that follow its last change. A hunk
without changes is none at all. -/
def close (opened : Hunk α) (kept : List α) : List (Hunk α) :=
  if opened.edits.isEmpty then []
  else [{ opened with edits := opened.edits ++ Script.keepAll (kept.take contextLength) }]

/-- The hunks of the rest of a script. One hunk is open; after its last change some lines were
kept, and the given numbers of lines of either text came before the rest. -/
def gather (opened : Hunk α) (kept : List α) (old new : Nat) : Script α → List (Hunk α)
  | [] => opened.close kept
  | .keep line :: rest => gather opened (kept ++ [line]) (old + 1) (new + 1) rest
  | change :: rest =>
    let old' := old + change.source?.toList.length
    let new' := new + change.target?.toList.length
    if 2 * contextLength < kept.length then
      let context := Script.keepAll (kept.drop (kept.length - contextLength))
      opened.close kept ++
        gather ⟨old - contextLength, new - contextLength, context ++ [change]⟩ [] old' new' rest
    else
      gather { opened with edits := opened.edits ++ Script.keepAll kept ++ [change] } [] old' new'
        rest

/-- The hunks of a script. -/
def ofScript (script : Script α) : List (Hunk α) :=
  gather ⟨0, 0, []⟩ [] 0 0 script

end Hunk

end Golden.Diff
