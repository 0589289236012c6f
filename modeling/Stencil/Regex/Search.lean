import Stencil.Number.Power
import Stencil.Regex.Basic

/-!
Whether a regular expression matches somewhere in a text.  A set of places in the text is a number
whose bits are the places; an expression turns the places where a match may start into those where
it may end.
-/

namespace Stencil

/-- Whether a place between two characters, if there are any, meets the condition. -/
def Assertion.holds (before after : Option Char) : Assertion → Bool
  | .textStart => before.isNone
  | .textEnd => after.isNone
  | .lineStart crlf =>
    before.isNone || before == some '\n' || (crlf && before == some '\r' && after != some '\n')
  | .lineEnd crlf =>
    after.isNone || (crlf && after == some '\r')
      || (after == some '\n' && !(crlf && before == some '\r'))
  | .wordEdge edge letters =>
    let left := before.any letters.has
    let right := after.any letters.has
    match edge with
    | .boundary => left != right
    | .notBoundary => left == right
    | .start => !left && right
    | .stop => left && !right
    | .startHalf => !left
    | .stopHalf => !right

namespace Regex

/-- The places before a character that satisfies `p`. -/
def placesBefore (p : Char → Bool) : List Char → Nat
  | [] => 0
  | c :: cs => 2 * placesBefore p cs + (if p c then 1 else 0)

/-- The places whose neighbours satisfy `p`. -/
def placesBetween (p : Option Char → Option Char → Bool) : Option Char → List Char → Nat
  | before, [] => if p before none then 1 else 0
  | before, c :: cs =>
    2 * placesBetween p (some c) cs + (if p before (some c) then 1 else 0)

/-- An expression read against one text: its sets and conditions are the places that meet them. -/
inductive Plan where
  | stay
  /-- Go over one character, from one of these places. -/
  | over (places : Nat)
  /-- Stay, at one of these places. -/
  | check (places : Nat)
  | concat (a b : Plan)
  | either (a b : Plan)
  | repeated (p : Plan) (low more : Nat)

/-- The expression read against a text. A repetition without an upper bound reaches nothing new
after as many steps as there are places. -/
def plan (text : List Char) : Regex → Plan
  | .empty => .stay
  | .char set => .over (placesBefore set.has text)
  | .assertion a => .check (placesBetween (fun l r => a.holds l r) none text)
  | .concat a b => .concat (plan text a) (plan text b)
  | .either a b => .either (plan text a) (plan text b)
  | .repeated r low none => .repeated (plan text r) low (text.length + 1)
  | .repeated r low (some high) => .repeated (plan text r) low (high - low)
  | .group r => plan text r

/-- Take a step a number of times. -/
def times (step : Nat → Nat) : Nat → Nat → Nat
  | 0, places => places
  | n + 1, places => if places = 0 then 0 else times step n (step places)

/-- Take a step at most a number of times. -/
def upTo (step : Nat → Nat) : Nat → Nat → Nat
  | 0, places => places
  | n + 1, places =>
    let more := places ||| step places
    if more = places then places else upTo step n more

/-- The places where a match may end that starts at one of `places`. -/
def Plan.ends : Plan → Nat → Nat
  | .stay, places => places
  | .over allowed, places => 2 * (places &&& allowed)
  | .check allowed, places => places &&& allowed
  | .concat a b, places => b.ends (a.ends places)
  | .either a b, places => a.ends places ||| b.ends places
  | .repeated p low more, places =>
    upTo (fun q => p.ends q) more (times (fun q => p.ends q) low places)

/-- The expression matches somewhere in the text. -/
def occursIn (r : Regex) (text : List Char) : Bool :=
  (plan text r).ends (Number.twoTo (text.length + 1) - 1) != 0

end Regex
end Stencil
