import Stencil.Json.Basic

/-!
Reading records out of documents.  A record is written as an object, whose members are found by
name, or as an array, whose items are found by position; a variant of a choice is a record with one
more member, or one more item in front, that names it.
-/

namespace Stencil.Json

/-- The fields of a record. -/
inductive Fields where
  | named (members : List (String × Json))
  | listed (items : List Json)

/-- The fields of a record whose fields are called `names`. A name that occurs twice and an item
beyond the last field are refused; other members are ignored. -/
def fields? (names : List String) : Json → Option Fields
  | .obj members =>
    if names.all fun name => (members.filter fun m => m.1 = name).length ≤ 1 then
      some (.named members)
    else none
  | .arr items => if items.length ≤ names.length then some (.listed items) else none
  | _ => none

/-- The name of a variant, and the document without that name. -/
def variant? (tag : String) : Json → Option (String × Json)
  | .obj members =>
    match members.filter fun m => m.1 = tag with
    | [(_, .str name)] => some (name, .obj (members.filter fun m => m.1 != tag))
    | _ => none
  | .arr (.str name :: items) => some (name, .arr items)
  | _ => none

/-- The name of a variant without fields: a string, or an object with one member of value null. -/
def bareVariant? : Json → Option String
  | .str name => some name
  | .obj [(name, .null)] => some name
  | _ => none

/-- A string that stands alone, or nothing for null. -/
def orNull? {α : Type} (decode : Json → Option α) : Json → Option (Option α)
  | .null => some none
  | j => (decode j).map some

namespace Fields

/-- What is written for the field, if anything is. -/
def find? (fields : Fields) (name : String) (position : Nat) : Option Json :=
  match fields with
  | .named members => Dict.find? members name
  | .listed items => items[position]?

/-- A field that has to be there. -/
def required? {α : Type} (fields : Fields) (name : String) (position : Nat)
    (decode : Json → Option α) : Option α :=
  (fields.find? name position).bind decode

/-- A field that may be null, and that an object may leave out. -/
def optional? {α : Type} (fields : Fields) (name : String) (position : Nat)
    (decode : Json → Option α) : Option (Option α) :=
  match fields, fields.find? name position with
  | .named _, none => some none
  | .listed _, none => none
  | _, some j => orNull? decode j

/-- A field that has a default. -/
def withDefault? {α : Type} (fields : Fields) (name : String) (position : Nat) (default : α)
    (decode : Json → Option α) : Option α :=
  match fields.find? name position with
  | none => some default
  | some j => decode j

end Fields

/-- An array of documents of one form. -/
def list? {α : Type} (decode : Json → Option α) : Json → Option (List α)
  | .arr items => items.mapM decode
  | _ => none

/-- An array of two strings. -/
def stringPair? : Json → Option (String × String)
  | .arr [.str a, .str b] => some (a, b)
  | _ => none

/-- An object whose values have one form; a repeated name takes its last value. -/
def dict? {α : Type} (decode : Json → Option α) : Json → Option (Dict α)
  | .obj members =>
    let entry (m : String × Json) : Option (String × α) := (decode m.2).map fun v => (m.1, v)
    (members.mapM entry).map Dict.ofPairs
  | _ => none

end Stencil.Json
