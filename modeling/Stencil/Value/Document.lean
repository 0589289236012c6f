import Stencil.Failure
import Stencil.Json.Basic
import Stencil.Value.Basic

/-!
Values out of JSON documents.  Each array and each object gets an identity of its own, counted
upwards from a first one.
-/

namespace Stencil.Value

mutual

/-- The value of a document, and the first identity that it leaves free. -/
def ofJson (next : Nat) : Json → Value × Nat
  | .null => (.null, next)
  | .bool b => (.bool b, next)
  | .int n => (.number (Float.ofInt n), next)
  | .float x => (.number x, next)
  | .str s => (.string s, next)
  | .arr items =>
    let (values, free) := ofItems (next + 1) items
    (.array next values, free)
  | .obj members =>
    let (entries, free) := ofMembers (next + 1) members
    (.object next (Dict.ofPairs entries), free)
termination_by structural j => j

/-- The values of the items of an array. -/
def ofItems (next : Nat) : List Json → List Value × Nat
  | [] => ([], next)
  | j :: rest =>
    let (v, next) := ofJson next j
    let (values, free) := ofItems next rest
    (v :: values, free)
termination_by structural l => l

/-- The values of the members of an object. -/
def ofMembers (next : Nat) : List (String × Json) → List (String × Value) × Nat
  | [] => ([], next)
  | m :: rest =>
    let (entry, next) := ofMember next m
    let (entries, free) := ofMembers next rest
    (entry :: entries, free)
termination_by structural l => l

/-- The value of one member. -/
def ofMember (next : Nat) : String × Json → (String × Value) × Nat
  | (k, j) =>
    let (v, free) := ofJson next j
    ((k, v), free)
termination_by structural m => m

end

/-- The variables that a value stands for: the entries of an object, or none for null. -/
def toContext : Value → Except Failure Context
  | .object _ entries => .ok entries
  | .null => .ok []
  | v => .error (.runtime ("A render context must be a map, got " ++ v.typeName))

end Stencil.Value
