import Stencil.Regex.Basic

/-!
A set of characters as intervals of code points, sorted and apart from each other.
-/

namespace Stencil.CharSet

/-- Sorted intervals, with one interval for those that overlap or touch. -/
def joinTouching (sorted : List (Nat × Nat)) : List (Nat × Nat) :=
  (sorted.foldl (fun (done : List (Nat × Nat)) (low, high) =>
    match done with
    | (start, stop) :: before =>
      if low ≤ stop + 1 then (start, max stop high) :: before else (low, high) :: done
    | [] => [(low, high)]) []).reverse

/-- The union of intervals, sorted and apart from each other. -/
def joined (intervals : List (Nat × Nat)) : List (Nat × Nat) :=
  joinTouching (intervals.mergeSort fun a b => a.1 ≤ b.1)

/-- The code points from `first` on that are in none of the intervals, which are sorted. -/
def gaps (first : Nat) : List (Nat × Nat) → List (Nat × Nat)
  | [] => if first ≤ 0x10FFFF then [(first, 0x10FFFF)] else []
  | (low, high) :: rest =>
    if first < low then (first, low - 1) :: gaps (high + 1) rest else gaps (high + 1) rest

/-- The intervals of a table. -/
def ofRuns (runs : List Text.Run) : List (Nat × Nat) :=
  runs.flatMap fun (first, last, step) =>
    if step = 1 then [(first, last)]
    else (List.range ((last - first) / step + 1)).map fun i => (first + step * i, first + step * i)

/-- The code points that are cases of members of the intervals. -/
def casesOf (intervals : List (Nat × Nat)) : List (Nat × Nat) :=
  let isMember (n : Nat) : Bool := Text.inRanges intervals n
  Text.caseOrbits.flatMap fun orbit =>
    if orbit.any isMember then orbit.map fun n => (n, n) else []

/-- The intervals of a set: sorted, and apart from each other. -/
def intervals : CharSet → List (Nat × Nat)
  | .nothing => []
  | .range low high => if low ≤ high then [(low, high)] else []
  | .runs table => joined (ofRuns table)
  | .digit => joined ((0x30, 0x39) :: Text.digitRanges)
  | .blank => Text.blankRanges
  | .word =>
    joined ((0x30, 0x39) :: (0x41, 0x5A) :: (0x5F, 0x5F) :: (0x61, 0x7A) :: Text.wordRanges)
  | .union a b => joined (a.intervals ++ b.intervals)
  | .inter a b => gaps 0 (joined (gaps 0 a.intervals ++ gaps 0 b.intervals))
  | .diff a b => gaps 0 (joined (gaps 0 a.intervals ++ b.intervals))
  | .complement a => gaps 0 a.intervals
  | .anyCase a => joined (a.intervals ++ casesOf a.intervals)

/-- The set has exactly one member. -/
def isSingle (s : CharSet) : Bool :=
  match s.intervals with
  | [(low, high)] => low = high
  | _ => false

end Stencil.CharSet
