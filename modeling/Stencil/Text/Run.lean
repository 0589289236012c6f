import Stencil.Text.Blank
import Stencil.Text.Hex

/-!
Tables of characters.  A table is a list of runs; a long one is written as a text of runs in base
sixteen, each as its only member `A`, as `A-B`, or as `A-B/S` with the step between the members.
-/

namespace Stencil.Text

/-- A run of code points: first, last and step. -/
abbrev Run := Nat × Nat × Nat

/-- The code point lies in one of the runs. -/
def inRuns (runs : List Run) (n : Nat) : Bool :=
  runs.any fun (first, last, step) => first ≤ n && n ≤ last && (n - first) % step == 0

/-- The number whose digits in base sixteen start with those of `n` and go on with those at the
start of the text, and what follows them. -/
def hexNumber (n : Nat) : List Char → Nat × List Char
  | [] => (n, [])
  | c :: cs =>
    match hexValue? c with
    | some digit => hexNumber (16 * n + digit) cs
    | none => (n, c :: cs)

/-- The run that a word of a table writes. -/
def runOf (word : List Char) : Run :=
  match hexNumber 0 word with
  | (first, '-' :: rest) =>
    match hexNumber 0 rest with
    | (last, '/' :: step) => (first, last, (hexNumber 0 step).1)
    | (last, _) => (first, last, 1)
  | (first, _) => (first, first, 1)

/-- The runs that a text writes. -/
def runsOf (table : String) : List Run := (blankSeparated table.toList).map runOf

end Stencil.Text
