import Stencil.Dict

/-!
From a reference in a template to the locator of what it names.  A reference may start with a
namespace, written `@name/rest` or `name::rest`; it may be relative to the template that it stands
in, if it starts with `./` or `../`; all others are locators already.
-/

namespace Stencil.Locator

/-- The parts of a text between the separators. -/
def splitOn (separator : Char) : List Char → List (List Char)
  | [] => [[]]
  | c :: cs =>
    if c = separator then [] :: splitOn separator cs
    else match splitOn separator cs with
      | [] => [[c]]
      | part :: parts => (c :: part) :: parts

/-- The parts with a slash between each and the next. -/
def join (parts : List (List Char)) : List Char := ['/'].intercalate parts

/-- The texts before and after the first occurrence of `separator`. -/
def splitOnce? (separator : List Char) : List Char → Option (List Char × List Char)
  | [] => none
  | c :: cs =>
    if separator.isPrefixOf (c :: cs) then some ([], (c :: cs).drop separator.length)
    else (splitOnce? separator cs).map fun (before, after) => (c :: before, after)

/-- The text without the slashes at its end. -/
def dropTrailingSlashes (cs : List Char) : List Char :=
  (cs.reverse.dropWhile (· = '/')).reverse

/-- The path of a reference whose namespace is known. -/
def expandNamespace? (namespaces : Dict String) (reference : List Char) : Option (List Char) := do
  let (name, rest) ← match reference with
    | '@' :: tail => splitOnce? ['/'] tail
    | _ => splitOnce? [':', ':'] reference
  let path ← namespaces.find? (String.ofList name)
  some (dropTrailingSlashes path.toList ++ '/' :: rest)

/-- Follow one segment from a directory: empty segments and `.` stay, `..` goes up, and never above
the root. -/
def follow (directory : List (List Char)) (segment : List Char) : List (List Char) :=
  if segment = [] || segment = ['.'] then directory
  else if segment = ['.', '.'] then directory.dropLast
  else directory ++ [segment]

/-- The directory of a template: its locator without the last segment. -/
def directory (base : Option (List Char)) : List (List Char) :=
  match base with
  | some base => (splitOn '/' base).dropLast
  | none => []

/-- The reference is relative to the template it stands in. -/
def isRelative (reference : List Char) : Bool :=
  "./".toList.isPrefixOf reference || "../".toList.isPrefixOf reference

/-- The locator that a reference from the template `base` names. -/
def resolve (namespaces : Dict String) (base : Option (List Char)) (reference : List Char) :
    List Char :=
  match expandNamespace? namespaces reference with
  | some path => path
  | none =>
    if isRelative reference then join ((splitOn '/' reference).foldl follow (directory base))
    else reference

/-- `resolve` on strings. -/
def resolveString (namespaces : Dict String) (base : Option String) (reference : String) : String :=
  String.ofList (resolve namespaces (base.map String.toList) reference.toList)

end Stencil.Locator
