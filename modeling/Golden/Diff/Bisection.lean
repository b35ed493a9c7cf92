/-
This file finds a difference of two texts by halving. Lines that the other text
does not have are changed, and so are lines that the other text has very often
when they stand among such lines; what remains is divided at a point where a
search from the front and a search from the back meet, and each part is divided in
turn. A search keeps, for every diagonal of the plane of line pairs, how far it has
come on it. Only marks come out of it, so a difference is what the marks make of
the two texts.
-/

import Golden.Diff.Edges
import Golden.Diff.Stretch

namespace Golden.Diff.Bisection

variable {α : Type} [DecidableEq α]

/-! ### Lines that cannot or need not be matched -/

/-- How often a line of one text occurs in the other. -/
inductive Presence
  | absent
  | rare
  | frequent
deriving DecidableEq, Repr

/-- The number of bits in the binary form of a number. -/
def bitLength (number : Nat) : Nat :=
  if number = 0 then 0 else number.log2 + 1

/-- The number of occurrences from which a line is frequent, for a text of the given length: a
power of two near the square root of the length. -/
def frequencyLimit (length : Nat) : Nat :=
  min 1024 (1 <<< (bitLength length / 2))

/-- How often each line of a text occurs in the other text. -/
def presences (lines other : List α) : List Presence :=
  let limit := frequencyLimit lines.length
  lines.map fun line =>
    let occurrences := other.count line
    if occurrences = 0 then .absent else if limit ≤ occurrences then .frequent else .rare

/-- The number of neighbours that are looked at on either side of a frequent line. -/
def window : Nat := 100

/-- Whether a frequent line stands among absent lines: there are some on both sides before the
next rare line, and they outnumber the frequent lines there by more than three to one. -/
def standsAmongAbsent (lines : List Presence) (position : Nat) : Bool :=
  let first := if window < position then window else 0
  let preceding := ((lines.take position).drop first).reverse.takeWhile (· ≠ .rare)
  let following := ((lines.drop position).take window).takeWhile (· ≠ .rare)
  let absent (neighbours : List Presence) := neighbours.count .absent
  let frequent (neighbours : List Presence) := neighbours.count .frequent
  absent preceding > 0 && absent following > 0 &&
    absent preceding + absent following > 3 * (frequent preceding + frequent following)

/-- Which lines of a text are changed before any search. -/
def hopeless (lines other : List α) : List Bool :=
  let all := presences lines other
  all.zipIdx.map fun (presence, position) =>
    match presence with
    | .absent => true
    | .rare => false
    | .frequent => standsAmongAbsent all position

/-- The members of a list whose flags are down. -/
def unflagged : List Bool → List α → List α
  | flag :: flags, line :: lines =>
    if flag then unflagged flags lines else line :: unflagged flags lines
  | _, _ => []

/-- Puts flags for the unflagged members among the flags that are up already. -/
def refine : List Bool → List Bool → List Bool
  | true :: flags, finer => true :: refine flags finer
  | false :: flags, flag :: finer => flag :: refine flags finer
  | false :: flags, [] => false :: refine flags []
  | [], _ => []

/-! ### How far a search has come -/

/-- The state of one search: the diagonals that it has come to, and for each how many lines of the
first text lie behind it there. -/
structure Frontier where
  low : Int
  high : Int
  reach : Array Int

/-- The two texts between which a point is looked for. -/
structure Plane (α : Type) where
  before : Array α
  after : Array α

namespace Plane

variable (plane : Plane α)

/-- The lowest diagonal: all of the second text is passed before any of the first. -/
def lowest : Int := -(plane.after.size : Int)

/-- The highest diagonal: all of the first text is passed before any of the second. -/
def highest : Int := plane.before.size

/-- Where a diagonal is kept. There is room for one more on either side. -/
def slot (diagonal : Int) : Nat := (diagonal - plane.lowest + 1).toNat

/-- How far a search has come on a diagonal. -/
def reached (frontier : Frontier) (diagonal : Int) : Int :=
  frontier.reach.getD (plane.slot diagonal) 0

/-- The state after a search has come further on a diagonal. -/
def record (frontier : Frontier) (diagonal value : Int) : Frontier :=
  { frontier with reach := frontier.reach.setIfInBounds (plane.slot diagonal) value }

/-- A search that has come to one point only. -/
def startAt (diagonal value : Int) : Frontier :=
  plane.record ⟨diagonal, diagonal,
    Array.replicate (plane.before.size + plane.after.size + 3) 0⟩ diagonal value

/-- The state with one more diagonal on either side; the ones next to those are made useless by the
given value. At the border of the plane the range shrinks, so that every other diagonal is used. -/
def widen (useless : Int) (frontier : Frontier) : Frontier :=
  let frontier :=
    if plane.lowest < frontier.low then
      plane.record { frontier with low := frontier.low - 1 } (frontier.low - 2) useless
    else { frontier with low := frontier.low + 1 }
  if frontier.high < plane.highest then
    plane.record { frontier with high := frontier.high + 1 } (frontier.high + 2) useless
  else { frontier with high := frontier.high - 1 }

/-- Every other diagonal of a range, from the highest down. -/
def diagonals (frontier : Frontier) : List Int :=
  if frontier.low ≤ frontier.high then
    (List.range ((frontier.high - frontier.low).toNat / 2 + 1)).map fun (step : Nat) =>
      frontier.high - 2 * (step : Int)
  else []

/-- A value that is less than every position. -/
def belowAll : Int := -4294967296

/-- A value that is greater than every position. -/
def aboveAll : Int := 4294967296

/-- One round of the search from the front: on every diagonal one line is passed, and then all the
equal lines that follow. -/
def advance (frontier : Frontier) : Frontier :=
  let widened := plane.widen belowAll frontier
  (diagonals widened).foldl
    (fun state diagonal =>
      let below := plane.reached state (diagonal - 1)
      let above := plane.reached state (diagonal + 1)
      let old := if above ≤ below then below + 1 else above
      let new := old - diagonal
      let slid := if 0 ≤ old ∧ 0 ≤ new then
        linesAhead plane.before plane.after old.toNat new.toNat else 0
      plane.record state diagonal (old + slid))
    widened

/-- The rest of one round of the search from the back, over the given diagonals. It ends at once
where it meets the search from the front. -/
def retreatOver (front : Frontier) (state : Frontier) : List Int → Frontier × Option (Int × Int)
  | [] => (state, none)
  | diagonal :: rest =>
    let below := plane.reached state (diagonal - 1)
    let above := plane.reached state (diagonal + 1)
    let old := if below < above then below else above - 1
    let new := old - diagonal
    let slid := if 0 ≤ old ∧ 0 ≤ new then
      linesBack plane.before plane.after old.toNat new.toNat else 0
    let reachedNow := old - slid
    let state := plane.record state diagonal reachedNow
    if front.low ≤ diagonal ∧ diagonal ≤ front.high ∧
        reachedNow ≤ plane.reached front diagonal then
      (state, some (reachedNow, reachedNow - diagonal))
    else retreatOver front state rest

/-- Rounds of both searches until they meet, at most as many as there are lines. -/
def meet (front back : Frontier) : Nat → Option (Int × Int)
  | 0 => none
  | rounds + 1 =>
    let front := plane.advance front
    let widened := plane.widen aboveAll back
    match plane.retreatOver front widened (diagonals widened) with
    | (_, some point) => some point
    | (back, none) => meet front back rounds

/-- The point at which two texts without common edges are divided. -/
def division? : Option (Int × Int) :=
  let middle := plane.lowest + plane.highest
  plane.meet (plane.startAt 0 0) (plane.startAt middle plane.before.size)
    (plane.before.size + plane.after.size + 1)

end Plane

/-! ### Dividing -/

/-- For each line of two texts, whether it is changed. -/
structure Marks where
  before : List Bool
  after : List Bool

/-- The marks of the two parts of two texts, one after the other. -/
def Marks.append (left right : Marks) : Marks :=
  ⟨left.before ++ right.before, left.after ++ right.after⟩

/-- As many marks of one kind as two texts have lines. -/
def Marks.all (changed : Bool) (before after : List α) : Marks :=
  ⟨before.map fun _ => changed, after.map fun _ => changed⟩

/-- The marks that dividing two texts leads to. Everything is changed that no division separates. -/
def divide (before after : List α) : Marks :=
  let middle := Middle.of before after
  let inner :=
    if middle.before = [] ∨ middle.after = [] then Marks.all true middle.before middle.after
    else
      match (Plane.mk middle.before.toArray middle.after.toArray).division? with
      | none => Marks.all true middle.before middle.after
      | some (old, new) =>
        let first := (middle.before.take old.toNat, middle.after.take new.toNat)
        let second := (middle.before.drop old.toNat, middle.after.drop new.toNat)
        if _ : first.1.length + first.2.length < before.length + after.length ∧
            second.1.length + second.2.length < before.length + after.length then
          (divide first.1 first.2).append (divide second.1 second.2)
        else Marks.all true middle.before middle.after
  ((Marks.all false middle.start middle.start).append inner).append
    (Marks.all false middle.finish middle.finish)
termination_by before.length + after.length
decreasing_by
  · exact And.left ‹_›
  · exact And.right ‹_›

/-- Puts marks on lines; lines beyond the marks are changed. -/
def mark (lines : List α) (marks : List Bool) : List (Script.Marked α) :=
  match lines, marks with
  | [], _ => []
  | line :: rest, [] => ⟨line, true⟩ :: mark rest []
  | line :: rest, flag :: flags => ⟨line, flag⟩ :: mark rest flags

omit [DecidableEq α] in
theorem plain_mark (lines : List α) (marks : List Bool) :
    Script.plain (mark lines marks) = lines := by
  fun_induction mark lines marks with
  | case1 marks => rfl
  | case2 line rest inductionHypothesis => simpa [Script.plain] using inductionHypothesis
  | case3 line rest flag flags inductionHypothesis =>
    simpa [Script.plain] using inductionHypothesis

/-- Whatever marks are put on two texts, what they make is a difference of the texts. -/
theorem joins_marked (before after : List α) (marks : Marks) :
    (Script.ofMarks (mark before marks.before) (mark after marks.after)).Joins before after := by
  have joins := Script.joins_ofMarks (mark before marks.before) (mark after marks.after)
  rwa [plain_mark, plain_mark] at joins

/-- The marks of two texts without common edges. -/
def marksOf (before after : List α) : Marks :=
  let changedOld := hopeless before after
  let changedNew := hopeless after before
  let marks := divide (unflagged changedOld before) (unflagged changedNew after)
  ⟨refine changedOld marks.before, refine changedNew marks.after⟩

/-- The difference of two texts that dividing leads to. -/
def script (before after : List α) : Script α :=
  let middle := Middle.of before after
  let marks := marksOf middle.before middle.after
  middle.around
    (Script.ofMarks (mark middle.before marks.before) (mark middle.after marks.after))

theorem joins_script (before after : List α) : (script before after).Joins before after :=
  Middle.joins_around (joins_marked _ _ _)

end Golden.Diff.Bisection
