import Stencil.Engine.Environment
import Stencil.Tree.Format

/-!
The cache in memory.  It holds trees as documents, so what is read is a fresh copy: a tree that its
document does not describe in full, because of a number that no document can hold, cannot be read
back.
-/

namespace Stencil.Cache

/-- The tree of a cached document. -/
def readDocument (locator : String) (document : Json) : Except Failure CompiledTree :=
  match CompiledTree.ofJson? document with
  | some tree => .ok tree
  | none => .error ⟨.cache locator "the entry is not a compiled template", none⟩

/-- A cache in memory. -/
def memory : Cache where
  has entries locator := entries.contains locator
  read entries locator :=
    match entries.find? locator with
    | some document => some <$> readDocument locator document
    | none => .ok none
  write entries locator tree := .ok (entries.insert locator tree.toJson)

end Stencil.Cache
