/-
This file finds a difference of two texts around their rarest common lines. Among
all stretches of lines that both texts have, one is chosen whose rarest line
occurs least often in the first text, and a longer one before a shorter one; it is
kept, and the parts on either side of it are treated in the same way. Two texts
whose common lines all occur too often to tell one place from another are left to
the method that halves them.
-/

import Golden.Diff.Bisection

namespace Golden.Diff.Histogram

variable {α : Type} [DecidableEq α]

/-- The number of positions at which a line is looked for, and the number of occurrences from
which lines no longer tell one place from another. -/
def occurrenceLimit : Nat := 64

/-- The first positions of a line in a text. -/
def positions (lines : List α) (line : α) : List Nat :=
  ((lines.zipIdx.filter fun (other, _) => other = line).map Prod.snd).take occurrenceLimit

/-- The state of the search for a stretch. -/
structure Search where
  /-- The stretch chosen so far; it has no line when there is none. -/
  best : Stretch
  /-- The least number of occurrences of a line in the stretch chosen so far. -/
  rarity : Nat
  /-- Whether the texts were seen to have a line in common. -/
  common : Bool
deriving Repr

/-- The state of the search before anything is seen. -/
def Search.start : Search := ⟨⟨0, 0, 0⟩, occurrenceLimit, false⟩

/-- The state after a stretch is seen whose rarest line has the given number of occurrences. -/
def Search.offer (search : Search) (stretch : Stretch) (rarity : Nat) : Search :=
  if search.best.length < stretch.length || rarity < search.rarity then
    { search with best := stretch, rarity := rarity }
  else search

/-- Two texts with the number of occurrences of each line of the first. -/
structure Table (α : Type) where
  before : Array α
  after : Array α
  occurrences : Array Nat

/-- The table of two texts. -/
def Table.of (before after : List α) : Table α :=
  ⟨before.toArray, after.toArray,
    (before.map fun line => (positions before line).length).toArray⟩

/-- The longest stretch around a pair of positions with the same line. -/
def Table.stretchAt (table : Table α) (old new : Nat) : Stretch :=
  let back := linesBack table.before table.after old new
  let ahead := linesAhead table.before table.after old new
  ⟨old - back, new - back, back + ahead⟩

/-- The least number of occurrences of a line in a stretch. -/
def Table.rarityOf (table : Table α) (stretch : Stretch) : Nat :=
  (table.occurrences.extract stretch.old (stretch.old + stretch.length)).foldl min occurrenceLimit

/-- What is known after some positions of a line of the second text were tried: the search, and
the end in the second text of the last stretch and of the one that ends last. -/
structure Trial where
  search : Search
  lastEnd : Option Nat
  furthest : Nat

/-- Tries one position of the first text for a line of the second. Positions that the last stretch
reaches to are passed over. -/
def Table.tryPosition (table : Table α) (new : Nat) (trial : Trial) (old : Nat) : Trial :=
  if trial.lastEnd.all (· < old) then
    let stretch := table.stretchAt old new
    let finish := stretch.new + stretch.length
    ⟨trial.search.offer stretch (table.rarityOf stretch), some finish, max trial.furthest finish⟩
  else trial

/-- Tries the positions of the second text from the given one on. -/
def Table.scan (table : Table α) (before : List α) (search : Search) (new : Nat) : Search :=
  if inside : new < table.after.size then
    match positions before table.after[new] with
    | [] => table.scan before search (new + 1)
    | places =>
      let seen := { search with common := true }
      if places.length ≤ seen.rarity then
        let trial := places.foldl (table.tryPosition new) ⟨seen, none, 0⟩
        table.scan before trial.search (max (new + 1) trial.furthest)
      else table.scan before seen (new + 1)
  else search
termination_by table.after.size - new

/-- What the search for a stretch comes to. -/
inductive Finding
  /-- The texts have no line in common. -/
  | nothing
  /-- Every common line occurs too often. -/
  | repetitive
  | stretch (stretch : Stretch)
deriving DecidableEq, Repr

/-- The stretch around which the difference of two texts is found. -/
def find (before after : List α) : Finding :=
  let search := (Table.of before after).scan before Search.start 0
  if search.common && occurrenceLimit ≤ search.rarity then .repetitive
  else if search.best.length = 0 then .nothing
  else .stretch search.best

/-- The difference of two texts around their rarest common stretches. -/
def scriptBetween (before after : List α) : Script α :=
  if before = [] ∨ after = [] then Script.replace before after
  else
    match find before after with
    | .nothing => Script.replace before after
    | .repetitive => Bisection.script before after
    | .stretch stretch =>
      let old := Cut.of before stretch.old stretch.length
      let new := Cut.of after stretch.new stretch.length
      if _ : old.middle ≠ [] ∧ old.middle = new.middle then
        scriptBetween old.left new.left ++
          (Script.keepAll old.middle ++ scriptBetween old.right new.right)
      else Script.replace before after
termination_by before.length + after.length
decreasing_by
  all_goals
    have same : old.middle = new.middle := And.right ‹_›
    have some : old.middle ≠ [] := And.left ‹_›
    have shorter := Cut.length_lt some
    have shorterToo := Cut.length_lt (same ▸ some)
    omega

theorem joins_scriptBetween (before after : List α) :
    (scriptBetween before after).Joins before after := by
  fun_induction scriptBetween before after with
  | case1 before after empty => exact Script.joins_replace _ _
  | case2 before after nonempty finding => exact Script.joins_replace _ _
  | case3 before after nonempty finding => exact Bisection.joins_script _ _
  | case4 before after nonempty stretch finding old new matching leftHypothesis rightHypothesis =>
    have joins := leftHypothesis.append
      ((Script.joins_keepAll old.middle).append rightHypothesis)
    have left := Cut.append before stretch.old stretch.length
    have right := Cut.append after stretch.new stretch.length
    have after_eq : new.left ++ (old.middle ++ new.right) = after := by rw [matching.2]; exact right
    rwa [left, after_eq] at joins
  | case5 before after nonempty stretch finding old new mismatch =>
    exact Script.joins_replace _ _

/-- The difference of two texts: their common edges are kept, and the middles differ around their
rarest common stretches. -/
def script (before after : List α) : Script α :=
  let middle := Middle.of before after
  middle.around (scriptBetween middle.before middle.after)

/-- A difference of two texts reads back as both of them. -/
theorem joins_script (before after : List α) : (script before after).Joins before after :=
  Middle.joins_around (joins_scriptBetween _ _)

end Golden.Diff.Histogram
