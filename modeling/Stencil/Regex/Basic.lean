import Stencil.Text.Letter
import Stencil.Text.Run
import Stencil.Text.Word

/-!
Regular expressions: sets of characters, conditions on a place in a text, and their combinations.
-/

namespace Stencil

/-- A set of characters. -/
inductive CharSet where
  | nothing
  /-- The code points from one to another. -/
  | range (low high : Nat)
  /-- The code points of a table. -/
  | runs (table : List Text.Run)
  | digit
  | blank
  | word
  | union (a b : CharSet)
  | inter (a b : CharSet)
  | diff (a b : CharSet)
  | complement (a : CharSet)
  /-- The characters that equal a member when case is ignored. -/
  | anyCase (a : CharSet)
  deriving Inhabited

namespace CharSet

/-- The character is in the set. -/
def has : CharSet → Char → Bool
  | .nothing, _ => false
  | .range low high, c => low ≤ c.toNat && c.toNat ≤ high
  | .runs table, c => Text.inRuns table c.toNat
  | .digit, c => Text.isDigit c
  | .blank, c => Text.isBlank c
  | .word, c => Text.isWord c
  | .union a b, c => a.has c || b.has c
  | .inter a b, c => a.has c && b.has c
  | .diff a b, c => a.has c && !b.has c
  | .complement a, c => !a.has c
  | .anyCase a, c => (Text.caseVariants c).any a.has

/-- The set of one character. -/
def single (c : Char) : CharSet := .range c.toNat c.toNat

/-- All characters. -/
def any : CharSet := .complement .nothing

/-- The union of ranges given by their first and last characters. -/
def ofRanges (ranges : List (Char × Char)) : CharSet :=
  ranges.foldr (fun (low, high) rest => .union (.range low.toNat high.toNat) rest) .nothing

/-- The union of sets. -/
def unionAll (sets : List CharSet) : CharSet := sets.foldr .union .nothing

/-- The characters that are in exactly one of two sets. -/
def symmDiff (a b : CharSet) : CharSet := .union (.diff a b) (.diff b a)

/-- The set with the cases of its members ignored, if that is asked for. -/
def caseless (ignoreCase : Bool) (a : CharSet) : CharSet := if ignoreCase then .anyCase a else a

/-- The set or its complement. -/
def negated (negate : Bool) (a : CharSet) : CharSet := if negate then .complement a else a

/-- The set of a table. -/
def table (text : String) : CharSet := .runs (Text.runsOf text)

end CharSet

/-- How a place in a text stands to the words around it. -/
inductive WordEdge where
  /-- A word starts or ends. -/
  | boundary
  /-- No word starts or ends. -/
  | notBoundary
  | start
  | stop
  /-- No word goes on to the left. -/
  | startHalf
  /-- No word goes on to the right. -/
  | stopHalf
  deriving DecidableEq, Repr

/-- A condition on a place in a text. -/
inductive Assertion where
  | textStart
  | textEnd
  /-- A line starts. `crlf` says that a line may also end with a carriage return. -/
  | lineStart (crlf : Bool)
  | lineEnd (crlf : Bool)
  | wordEdge (edge : WordEdge) (letters : CharSet)
  deriving Inhabited

/-- A regular expression. -/
inductive Regex where
  | empty
  | char (set : CharSet)
  | assertion (condition : Assertion)
  | concat (a b : Regex)
  | either (a b : Regex)
  /-- At least `low` and at most `high` copies, or any number from `low` on. -/
  | repeated (r : Regex) (low : Nat) (high : Option Nat)
  /-- A part whose place in the text is recorded. -/
  | group (r : Regex)
  deriving Inhabited

namespace Regex

/-- The expression may match the empty text. -/
def mayBeEmpty : Regex → Bool
  | .empty | .assertion _ => true
  | .char _ => false
  | .concat a b => a.mayBeEmpty && b.mayBeEmpty
  | .either a b => a.mayBeEmpty || b.mayBeEmpty
  | .repeated r low _ => low = 0 || r.mayBeEmpty
  | .group r => r.mayBeEmpty

/-- The expression matches no other text than the empty one. -/
def isEmpty : Regex → Bool
  | .empty | .assertion _ => true
  | .char _ => false
  | .concat a b | .either a b => a.isEmpty && b.isEmpty
  | .repeated r _ high => high = some 0 || r.isEmpty
  | .group r => r.isEmpty

/-- Copies of an expression. One copy of an expression without characters does for many. -/
def copies (r : Regex) (low : Nat) (high : Option Nat) : Regex :=
  let (low, high) := if r.isEmpty then (min low 1, some (min (high.getD 1) 1)) else (low, high)
  if high = some 0 then .empty
  else if low = 1 && high = some 1 then r
  else .repeated r low high

end Regex
end Stencil
