import Stencil.Render.Tree

/-!
Rendering whole templates, and what is called by name inside them: blocks, macros and functions
written in a template.  Each of these starts in a scope of its own.  A template that extends
another runs for its effect on the variables and for its blocks; the text is that of the template
it extends.
-/

namespace Stencil
open Rendering

namespace Rendering

/-- The result of an action that starts in a scope. -/
def resultIn {α : Type} (scope : Scope) (a : Rendering α) : Attempt α :=
  ExceptT.mk do return (← a scope).1

end Rendering

namespace Block

/-- Render the body of a block. -/
def renderBody (b : Block) : Rendering Value := do
  match b.body with
  | .nodes nodes => return .safe (← Node.renderAll false "" nodes)
  | .expression e => return .safe (← outputText (← Expr.evaluate e))

/-- Render a block against the variables around it, as a part of the template that defines it. -/
def render (b : Block) (scope : Scope) : Program BlockResult := do
  let inner := { scope with template := b.template, nesting := b.name :: scope.nesting }
  let (r, after) ← b.renderBody inner
  return ⟨r, after.context, after.parent⟩

end Block

namespace Template

/-- Bind the parameters of a macro: to the arguments in order, or to what stands in for a missing
one. Gives the arguments that are left. -/
def bindParams : List MacroParam → List Value → Rendering (List Value)
  | [], args => return args
  | p :: rest, [] => do
    let v ← match p.default with
      | some e => Expr.evaluate e
      | none => pure .undefined
    setVariable p.name v
    bindParams rest []
  | p :: rest, v :: args => do
    setVariable p.name v
    bindParams rest args

/-- Call a macro. It sees its parameters and `varargs`, the arguments beyond them, and nothing
else. -/
def callMacro (t : Template) (name : String) (args : List Value) : Attempt Value :=
  resultIn (Scope.start t []) do
    match t.macros.find? name with
    | none => throw (.runtime (importMacros.undefinedMacro t name))
    | some definition =>
      let left ← bindParams definition.params args
      setVariable "varargs" (.array (← fresh) left)
      return .safe (← Node.renderAll false "" definition.body)

/-- Call a function that is written in a template. It sees the variables from where it was made, and
its parameters; arguments that are missing do not exist. -/
def callLambda (t : Template) (params : List String) (body : Expr) (outer : Context)
    (args : List Value) : Attempt Value :=
  let bind (c : Context) (p : String × Nat) : Context := c.insert p.1 (args[p.2]?.getD .undefined)
  resultIn (Scope.start t (params.zipIdx.foldl bind outer)) (Expr.evaluate body)

/-- Import the blocks of a `use` tag under their new names. -/
def importBlocks (t : Template) (i : BlockImport) : List (String × Block) → Program Unit
  | [] => return ()
  | (name, b) :: rest => do
    Program.request (.importBlock t (i.rename name) b)
    importBlocks t i rest

/-- Resolve `use` tags one after the other. The blocks of the named template come together with
those that its own `use` tags bring in. -/
def mergeEach (t : Template) : List BlockImport → Rendering Unit
  | [] => return ()
  | i :: rest => do
    let source ← findTemplate (← Expr.evaluate i.expression)
    settle (← ask (.mergeImports source (← context)))
    let links ← ask (.links source)
    lift (importBlocks t i (links.imported.merge source.definedBlocks))
    mergeEach t rest

/-- Resolve the `use` tags of a template, unless that is done or under way. After a failure they are
still to be resolved. -/
def mergeImports (t : Template) (c : Context) : Attempt Unit := do
  let unresolved : Bool ← Program.request (.claimImports t)
  if unresolved then
    try resultIn (Scope.start t c) (mergeEach t t.blockImports)
    catch failure =>
      Program.request (.releaseImports t)
      throw failure

/-- `mergeImports`, where a failure is passed on or reported as the template says. -/
def prepare (t : Template) (c : Context) : Attempt Unit := do
  try mergeImports t c
  catch failure =>
    if t.options.rethrow || failure.isPending then throw (failure.inTemplate t.id)
    else Program.request (.report (.useFailed t.id failure))

/-- The blocks that a template gives to the one that it extends. -/
def offeredBlocks (t : Template) (links : Links) (overrides : Dict Block) : Dict Block :=
  (links.imported.merge t.definedBlocks).merge overrides

/-- The text of a template. -/
def render (t : Template) (parent : Option Template) (c : Context) (overrides : Dict Block) :
    Attempt String := do
  prepare t c
  let start := { Scope.start t c with overrides, parent }
  let (text, scope) ← resultIn start do return (← Node.renderAll false "" t.nodes, ← get)
  match scope.parent with
  | none => return text
  | some parent =>
    Program.request (.setParent t parent)
    let links ← Program.request (.links t)
    ExceptT.mk (Program.request
      (.render parent none scope.context (t.offeredBlocks links scope.overrides)))

end Template

namespace Value

/-- Call a value that a template has made. Any other value is its own result. -/
def call (callee : Value) (args : List Value) : Attempt Value :=
  match callee with
  | .lambda _ params body t outer => t.callLambda params body outer args
  | .templateMacro t name => t.callMacro name args
  | v => return v

end Value
end Stencil
