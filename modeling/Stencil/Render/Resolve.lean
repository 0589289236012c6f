import Stencil.Locator
import Stencil.Render.Program
import Stencil.Tree.Builder

/-!
Finding a template by reference: among the stored ones, in the cache, or by loading and compiling
its source.  What is found is stored, so that the next reference to its locator finds it at once.
-/

namespace Stencil

namespace Template

/-- Make a template and store it under its name, if it has one. -/
def make (options : Options) (tree : CompiledTree) : Program Template := do
  let number ← Program.request .fresh
  let t := Template.ofTree number options tree
  Program.request (.store t)
  return t

/-- Compile a template and store it. Unless failures are to be passed on, one that cannot be
compiled is reported and empty. -/
def compile (id : Option String) (source : String) (options : Options) : Attempt Template := do
  match Node.ofSource source with
  | .ok nodes => make options ⟨id, nodes⟩
  | .error failure =>
    if options.rethrow then throw (failure.inTemplate id)
    else
      Program.request (.report (.compileFailed id failure))
      make options ⟨id, []⟩

/-- Load and compile the template of a locator, and put its tree into the cache. -/
def loadAndCompile (locator : String) (options : Options) : Attempt Template := do
  let source ← ExceptT.mk (Program.request (.load locator))
  let t ← compile (some locator) source options
  ExceptT.mk (Program.request (.writeCache locator t.toTree))
  return t

/-- The template of a locator. -/
def locate (locator : String) (options : Options) : Attempt Template := do
  match ← Program.request (.stored locator) with
  | some t => return t
  | none =>
    match ← ExceptT.mk (Program.request (.cached locator)) with
    | some tree => make options tree
    | none => loadAndCompile locator options

/-- The template that is referred to by `name` from the template at `base`. -/
def resolve (name : String) (base : Option String) (options : Options) : Attempt Template := do
  let locator := Locator.resolveString options.namespaces base name
  if options.allowInlineIncludes then
    match ← Program.request (.stored name) with
    | some t => return t
    | none => locate locator options
  else locate locator options

/-- The block of a name that the template imports or inherits. -/
def inheritedBlock (t : Template) (name : String) : Program (Option Block) := do
  let links ← Program.request (.links t)
  match links.imported.find? name, links.parent with
  | some b, _ => return some b
  | none, some parent => Program.request (.findBlock parent [] name)
  | none, none => return none

/-- The block of a name: the overriding one, or else the one that the template defines, imports or
inherits. -/
def findBlock (t : Template) (overrides : Dict Block) (name : String) : Program (Option Block) :=
  match overrides.find? name, t.block? name with
  | some b, _ | none, some b => return some b
  | none, none => t.inheritedBlock name

end Template

namespace Rendering

mutual

/-- The template that a value names. The items of an array are candidates, and the first that
exists is taken. -/
def findTemplate : Value → Rendering Template
  | .array identity candidates => firstTemplate (.array identity candidates) candidates
  | v => do
    let t ← template
    ofAttempt (Template.resolve v.text t.base t.options)
termination_by structural v => v

/-- The first of some candidates that exists. -/
def firstTemplate (named : Value) : List Value → Rendering Template
  | [] => throw ⟨.templateNotFound named.text, none⟩
  | v :: rest => do
    match ← attempt (findTemplate v) with
    | .ok t => return t
    | .error failure => if failure.isNotFound then firstTemplate named rest else throw failure
termination_by structural l => l

end

end Rendering
end Stencil
