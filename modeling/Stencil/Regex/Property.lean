import Stencil.Regex.Boundary
import Stencil.Text.Edition

/-!
The properties of characters that an expression can name.  Case, spaces, hyphens, low lines and
characters outside ASCII do not count in a name, and neither does `is` in front of it.
-/

namespace Stencil.Regex
open Text CharSet

/-- The entry of a table under one of its names. -/
def lookUp? {α : Type} (entries : List (List String × α)) (name : String) : Option α :=
  (entries.find? (·.1.contains name)).map (·.2)

/-- The set of a general category or of a group of them. No character is a surrogate. -/
def categoryNamed? : String → Option CharSet
  | "any" => some .any
  | "ascii" => some (.range 0 0x7F)
  | "assigned" => some (.complement (ofCategories [.unassigned]))
  | name => (lookUp? Category.named name).map ofCategories

/-- The script of a name. -/
def script? (name : String) : Option Script :=
  (Script.common :: Script.inherited :: Script.others).find? (·.names.contains name)

/-- The set of the characters that belong to a script. -/
def scriptNamed? (name : String) : Option CharSet := (script? name).map (table ·.own)

/-- The set of the characters that are used with a script. Those that some scripts share are not
common to all. -/
def scriptUseNamed? (name : String) : Option CharSet :=
  (script? name).map fun script =>
    if script = Script.common || script = Script.inherited then
      .diff (table script.own) (unionAll (Script.others.map (table ·.shared)))
    else .union (table script.own) (table script.shared)

/-- The plain names of an edition. -/
def editionNames (edition : Edition) : List String :=
  let major := toString edition.major
  let minor := toString edition.minor
  [major ++ "." ++ minor, "v" ++ major ++ minor]

/-- The set of the characters that were assigned up to an edition. -/
def ageNamed? (name : String) : Option CharSet :=
  match editions.span (fun edition => !(editionNames edition).contains name) with
  | (_, []) => none
  | (before, edition :: _) => some (unionAll ((before ++ [edition]).map (table ·.added)))

/-- The set of a property that stands alone. -/
def propertyNamed? (name : String) : Option CharSet :=
  lookUp? Property.named name <|> categoryNamed? name <|> scriptNamed? name

/-- The set of the characters that have a value of a property. -/
def valueNamed? (property value : String) : Option CharSet :=
  match property with
  | "generalcategory" | "gc" => categoryNamed? value
  | "script" | "sc" => scriptNamed? value
  | "scriptextensions" | "scx" => scriptUseNamed? value
  | "age" => ageNamed? value
  | "graphemeclusterbreak" | "gcb" => lookUp? Boundary.grapheme value
  | "wordbreak" | "wb" => lookUp? Boundary.word value
  | "sentencebreak" | "sb" => lookUp? Boundary.sentence value
  | _ => none

/-- What counts of a name. Without the exception, the short name of a category could not be told
from that of a comment. -/
def plainName (name : List Char) : String :=
  let plain (cs : List Char) : List Char :=
    (cs.filter fun c => c.toNat < 0x80 && c != ' ' && c != '-' && c != '_').map Char.toLower
  match name with
  | i :: s :: rest =>
    if (i = 'i' || i = 'I') && (s = 's' || s = 'S') then
      String.ofList (if plain rest = ['c'] then ['i', 's', 'c'] else plain rest)
    else String.ofList (plain name)
  | _ => String.ofList (plain name)

/-- The parts of a text before and after the first place where `sign` stands. -/
def splitAt? (sign : List Char) : List Char → Option (List Char × List Char)
  | [] => none
  | c :: cs =>
    match after? sign (c :: cs) with
    | some rest => some ([], rest)
    | none => (splitAt? sign cs).map fun (before, rest) => (c :: before, rest)

/-- The set of a property and whether all other characters are meant. A property stands alone, or
with a value after `!=` (for all others), `:` or `=`. -/
def property? (name : List Char) : Option (Bool × CharSet) :=
  let valued (negate : Bool) (parts : List Char × List Char) : Option (Bool × CharSet) :=
    (valueNamed? (plainName parts.1) (plainName parts.2)).map fun s => (negate, s)
  match splitAt? ['!', '='] name with
  | some parts => valued true parts
  | none =>
    match splitAt? [':'] name <|> splitAt? ['='] name with
    | some parts => valued false parts
    | none => (propertyNamed? (plainName name)).map fun s => (false, s)

end Stencil.Regex
