import Stencil.Text.Blank

/-!
Finding where a piece of an expression ends without reading it: brackets are counted, and what
stands in quotes is passed over.  A backslash inside quotes takes the next character with it.
-/

namespace Stencil.Text

/-- The character opens and closes strings. -/
def isQuote (c : Char) : Bool := c = '"' || c = '\''

/-- Where a scan stands with regard to quotes. -/
inductive Quoting where
  | outside
  | inside (quote : Char)
  /-- Right after a backslash inside quotes. -/
  | escaped (quote : Char)
  deriving DecidableEq, Repr

/-- Read one character. -/
def Quoting.step : Quoting → Char → Quoting
  | .outside, c => if isQuote c then .inside c else .outside
  | .inside q, c => if c = '\\' then .escaped q else if c = q then .outside else .inside q
  | .escaped q, _ => .inside q

/-- The character opens a bracket. -/
def isOpening (c : Char) : Bool := c = '(' || c = '[' || c = '\x7b'

/-- The character closes a bracket. -/
def isClosing (c : Char) : Bool := c = ')' || c = ']' || c = '\x7d'

/-- The text up to the first closing bracket that none of it opens, or up to the first comma outside
brackets if commas count; and what follows. -/
def toBoundary (atComma : Bool) : Quoting → Nat → List Char → List Char × List Char
  | _, _, [] => ([], [])
  | .outside, depth, c :: cs =>
    let go (q : Quoting) (depth : Nat) : List Char × List Char :=
      let (before, after) := toBoundary atComma q depth cs
      (c :: before, after)
    if isOpening c then go .outside (depth + 1)
    else if isClosing c then
      match depth with
      | 0 => ([], c :: cs)
      | depth + 1 => go .outside depth
    else if c = ',' && atComma && depth = 0 then ([], c :: cs)
    else go (Quoting.step .outside c) depth
  | q, depth, c :: cs =>
    let (before, after) := toBoundary atComma (q.step c) depth cs
    (c :: before, after)

/-- The text between the commas that stand outside brackets and quotes; a closing bracket that
nothing opens is passed over. -/
def atCommas : Quoting → Nat → List Char → List (List Char)
  | _, _, [] => [[]]
  | q, depth, c :: cs =>
    let within (q : Quoting) (depth : Nat) : List (List Char) :=
      match atCommas q depth cs with
      | [] => [[c]]
      | part :: parts => (c :: part) :: parts
    match q with
    | .outside =>
      if isOpening c then within .outside (depth + 1)
      else if isClosing c then within .outside (depth - 1)
      else if c = ',' && depth = 0 then [] :: atCommas .outside 0 cs
      else within (Quoting.step .outside c) depth
    | q => within (q.step c) depth

/-- The items of a list of arguments, without the blanks around them. A blank text has no items. -/
def arguments (cs : List Char) : List (List Char) :=
  let parts := (atCommas .outside 0 cs).map trim
  if parts = [[]] then [] else parts

end Stencil.Text
