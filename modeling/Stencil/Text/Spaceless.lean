import Stencil.Text.Blank

/-!
Taking the blanks out from between the tags of a page: blanks that stand between a closing and an
opening angle bracket.
-/

namespace Stencil.Text

/-- The text without the blanks between `>` and `<`. `held` holds the blanks since the last `>`, the
last first, if nothing else came since. -/
def closeGaps : Option (List Char) → List Char → List Char
  | held, [] => (held.getD []).reverse
  | none, c :: cs => c :: closeGaps (if c = '>' then some [] else none) cs
  | some held, c :: cs =>
    if isBlank c then closeGaps (some (c :: held)) cs
    else if c = '<' then c :: closeGaps none cs
    else held.reverse ++ c :: closeGaps (if c = '>' then some [] else none) cs

/-- The text without the blanks between tags and at either end. -/
def spaceless (cs : List Char) : List Char := trim (closeGaps none cs)

end Stencil.Text
