import Stencil.Dict

/-!
JSON documents.  A document keeps the members of an object as they are written, repeated names
included; readers of a document decide what a repetition means.  Integers of 64 bits are kept apart
from other numbers, because some fields admit only integers.
-/

namespace Stencil

/-- A JSON document. -/
inductive Json where
  | null
  | bool (b : Bool)
  | int (n : Int)
  | float (x : Float)
  | str (s : String)
  | arr (items : List Json)
  | obj (members : List (String × Json))
  deriving Inhabited

namespace Json

mutual

/-- How deep arrays and objects are nested in the document. -/
def depth : Json → Nat
  | .arr items => depthList items + 1
  | .obj members => depthMembers members + 1
  | .null | .bool _ | .int _ | .float _ | .str _ => 0
termination_by structural j => j

/-- The greatest depth of a list of documents. -/
def depthList : List Json → Nat
  | [] => 0
  | j :: rest => max (depth j) (depthList rest)
termination_by structural l => l

/-- The greatest depth among the members of an object. -/
def depthMembers : List (String × Json) → Nat
  | [] => 0
  | m :: rest => max (depthMember m) (depthMembers rest)
termination_by structural l => l

/-- The depth of the value of one member. -/
def depthMember : String × Json → Nat
  | (_, j) => depth j
termination_by structural m => m

end

/-- Documents nested deeper than this are not read. -/
def maxDepth : Nat := 127

/-- The float that a number stands for. -/
def float? : Json → Option Float
  | .int n => some (Float.ofInt n)
  | .float x => some x
  | _ => none

/-- A string. -/
def str? : Json → Option String
  | .str s => some s
  | _ => none

/-- A truth value. -/
def bool? : Json → Option Bool
  | .bool b => some b
  | _ => none

/-- The items of an array. -/
def arr? : Json → Option (List Json)
  | .arr items => some items
  | _ => none

/-- The value of the first member of that name. -/
def get? (j : Json) (name : String) : Option Json :=
  match j with
  | .obj members => Dict.find? members name
  | _ => none

end Json
end Stencil
