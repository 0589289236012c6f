import Stencil.Failure
import Stencil.Json.Reading
import Stencil.Json.Record
import Stencil.Options

/-!
Settings as documents.  Every field may be left out; fields that are not known are ignored; the
escaping of output is written as a truth value or as the name of a strategy.
-/

namespace Stencil

/-- How output is escaped: `true` means the text of a page. -/
def Autoescape.ofJson? : Json → Option Autoescape
  | .bool on => some (if on then some .html else none)
  | j => do
    let name ← Json.bareVariant? j
    let strategy ← Strategy.ofName? name
    some (some strategy)

/-- The document of an escaping. -/
def Autoescape.toJson : Autoescape → Json
  | none => .bool false
  | some strategy => .str strategy.name

namespace Options

/-- The fields in their order. -/
def fieldNames : List String :=
  ["strictVariables", "autoescape", "allowInlineIncludes", "rethrow", "namespaces"]

/-- The settings that a document writes. -/
def ofJson? (j : Json) : Option Options := do
  let fields ← Json.fields? fieldNames j
  let strictVariables ← fields.withDefault? "strictVariables" 0 false Json.bool?
  let autoescape ← fields.withDefault? "autoescape" 1 none Autoescape.ofJson?
  let allowInlineIncludes ← fields.withDefault? "allowInlineIncludes" 2 false Json.bool?
  let rethrow ← fields.withDefault? "rethrow" 3 false Json.bool?
  let namespaces ← fields.withDefault? "namespaces" 4 [] (Json.dict? Json.str?)
  some ⟨strictVariables, autoescape, allowInlineIncludes, rethrow, namespaces⟩

/-- The document of settings, with every field. -/
def toJson (o : Options) : Json :=
  .obj [("strictVariables", .bool o.strictVariables), ("autoescape", o.autoescape.toJson),
    ("allowInlineIncludes", .bool o.allowInlineIncludes), ("rethrow", .bool o.rethrow),
    ("namespaces", .obj (o.namespaces.map fun (k, v) => (k, .str v)))]

/-- The settings that a text writes. -/
def read (text : String) : Except Failure Options :=
  match (Json.read? text.toList).bind ofJson? with
  | some options => .ok options
  | none => .error ⟨.data, none⟩

end Options
end Stencil
