import Stencil.Engine.World
import Stencil.Options

/-!
What a host provides: settings, filters, functions and tests, the functions that it hands out as
values, a loader of sources and a cache of trees.  An extension is itself a program, so it may ask
for what templates ask for, call what it was given, and take its time.
-/

namespace Stencil

/-- A filter: its input and its arguments. -/
abbrev Filter := Value → List Value → Attempt Value

/-- A test: the value that is tested and the arguments. -/
abbrev Test := Value → List Value → Attempt Bool

/-- A place where compiled trees outlive a process. Each operation sees all cached documents. -/
structure Cache where
  /-- There may be an entry for the locator. -/
  has : Dict Json → String → Bool
  read : Dict Json → String → Except Failure (Option CompiledTree)
  write : Dict Json → String → CompiledTree → Except Failure (Dict Json)

/-- A host with its settings and extensions. -/
structure Environment where
  options : Options := {}
  filters : Dict Filter := []
  functions : Dict (List Value → Attempt Value) := []
  tests : Dict Test := []
  /-- What the host's own function values do, by identity: they get the value that they were found
  in, if any, and the arguments. -/
  callables : Nat → Option Value → List Value → Attempt Value := fun _ _ _ => return .undefined
  /-- The source of a locator. -/
  loader : Option (String → Attempt String) := none
  cache : Option Cache := none

namespace Environment

/-- The tree that the cache holds for a locator. -/
def cachedTree (env : Environment) (entries : Dict Json) (locator : String) :
    Except Failure (Option CompiledTree) :=
  match env.cache with
  | some cache => if cache.has entries locator then cache.read entries locator else .ok none
  | none => .ok none

/-- The cached documents after a tree was put among them. -/
def cacheTree (env : Environment) (entries : Dict Json) (locator : String) (tree : CompiledTree) :
    Except Failure (Dict Json) :=
  match env.cache with
  | some cache => cache.write entries locator tree
  | none => .ok entries

end Environment
end Stencil
