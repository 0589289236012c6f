/-!
Looking for one text inside another.
-/

namespace Stencil.Text

/-- Where `needle` first starts in the text. -/
def indexOf? (needle : List Char) : List Char → Option Nat
  | [] => if needle.isEmpty then some 0 else none
  | c :: cs =>
    if needle.isPrefixOf (c :: cs) then some 0 else (indexOf? needle cs).map (· + 1)

/-- The text before the last `separator` and the text after it. -/
def splitLast? (separator : Char) : List Char → Option (List Char × List Char)
  | [] => none
  | c :: cs =>
    match splitLast? separator cs with
    | some (before, after) => some (c :: before, after)
    | none => if c = separator then some ([], cs) else none

/-- `needle` occurs in the string. -/
def occursIn (needle s : String) : Bool := (indexOf? needle.toList s.toList).isSome

end Stencil.Text
