/-!
Dictionaries that remember the order in which their names first came.  A name that is bound again
keeps its place and takes the new value, so that listings follow the order of first appearance.
-/

namespace Stencil

/-- Values bound to names, in the order in which the names were first bound. -/
abbrev Dict (α : Type) := List (String × α)

namespace Dict
variable {α β : Type}

/-- No names. -/
def empty : Dict α := []

/-- The value bound to a name. -/
def find? : Dict α → String → Option α
  | [], _ => none
  | (k, v) :: rest, name => if k = name then some v else find? rest name

/-- The name is bound. -/
def contains (d : Dict α) (name : String) : Bool := (d.find? name).isSome

/-- Bind a name: a new one goes to the end, a known one keeps its place. -/
def insert : Dict α → String → α → Dict α
  | [], name, value => [(name, value)]
  | (k, v) :: rest, name, value =>
    if k = name then (k, value) :: rest else (k, v) :: insert rest name value

/-- Bind a name unless it is bound already. -/
def insertNew (d : Dict α) (name : String) (value : α) : Dict α :=
  if d.contains name then d else d.insert name value

/-- Forget a name; the others keep their order. -/
def erase (d : Dict α) (name : String) : Dict α := d.filter fun entry => entry.1 != name

/-- Bind every name of `e` in turn. -/
def merge (d e : Dict α) : Dict α := e.foldl (fun d entry => d.insert entry.1 entry.2) d

/-- The pairs bound one after the other. -/
def ofPairs (pairs : List (String × α)) : Dict α := merge empty pairs

/-- The bound names in order. -/
def keys (d : Dict α) : List String := d.map Prod.fst

/-- The values in the order of their names. -/
def values (d : Dict α) : List α := d.map Prod.snd

end Dict
end Stencil
