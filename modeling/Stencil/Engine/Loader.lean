import Stencil.Locator
import Stencil.Render.Program

/-!
Where sources come from: a table in memory, or the files of a directory.
-/

namespace Stencil.Loader

/-- The sources of a table, by locator. -/
def memory (sources : Dict String) (locator : String) : Attempt String :=
  match sources.find? locator with
  | some source => return source
  | none => throw ⟨.templateNotFound locator, none⟩

/-- The files of a directory by their paths, each path a list of names. -/
abbrev Files := List (List (List Char) × String)

/-- What is at a path. -/
inductive Place where
  | file (source : String)
  | directory
  /-- The path goes on below a file. -/
  | belowFile
  | nothing

namespace Files

/-- The names along a path; a name that is empty or a dot goes nowhere. -/
def names (path : List Char) : List (List Char) :=
  (Locator.splitOn '/' path).filter fun name => !(name.isEmpty || name = ['.'])

/-- The files of a table of sources. -/
def ofSources (sources : Dict String) : Files :=
  sources.map fun (path, source) => (names path.toList, source)

/-- What is at a path of names below the directory. The directory itself is there even if it is
empty, and so is every directory on the way to a file. -/
def place (files : Files) (path : List (List Char)) : Place :=
  match files.find? fun file => file.1 = path with
  | some file => .file file.2
  | none =>
    if path.isEmpty || files.any fun file => path.isPrefixOf file.1 then .directory else .nothing

/-- Go on from a path, whose names are given last first, by the names of a locator. Nothing lies
outside the directory, and what would lie below a file cannot be read. -/
def follow (files : Files) : List (List Char) → List (List Char) → Place
  | here, [] => files.place here.reverse
  | here, name :: rest =>
    match files.place here.reverse with
    | .directory =>
      if name.isEmpty || name = ['.'] then follow files here rest
      else if name = ['.', '.'] then
        match here with
        | [] => .nothing
        | _ :: above => follow files above rest
      else
        match files.place (name :: here).reverse with
        | .nothing => .nothing
        | _ => follow files (name :: here) rest
    | _ => .belowFile

end Files

/-- The files of a directory, by paths from there. A path that leads to a directory, or through a
file, cannot be read. -/
def directory (files : Files) (locator : String) : Attempt String :=
  let place : Place := match locator.toList with
    | '/' :: _ => .nothing
    | path => files.follow [] (Locator.splitOn '/' path)
  match place with
  | .file source => return source
  | .directory => throw ⟨.load locator "Is a directory (os error 21)", none⟩
  | .belowFile => throw ⟨.load locator "Not a directory (os error 20)", none⟩
  | .nothing => throw ⟨.templateNotFound locator, none⟩

end Stencil.Loader
