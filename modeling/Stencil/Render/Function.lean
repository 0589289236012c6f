import Stencil.Render.Lookup
import Stencil.Render.Resolve

/-!
The functions of templates.  Three belong to rendering itself: `parent` and `block` render blocks,
and `include` renders another template.  Any other name is that of a function of the host, or of a
variable that can be called.
-/

namespace Stencil.Rendering

/-- Render a block in place. -/
def renderBlock (b : Block) : Rendering Value := do
  let scope ← get
  let r ← ask (.renderBlock b scope)
  set { scope with context := r.context, parent := r.parent }
  settle r.result

/-- The block of a name, where the templates that extend this one have the first word. -/
def findBlock (name : String) : Rendering (Option Block) := do
  let scope ← get
  ask (.findBlock scope.template scope.overrides name)

/-- The next outer definition of the block that is rendered. -/
def renderParent : Rendering Value := do
  let scope ← get
  match scope.nesting with
  | [] => throw (.runtime "parent() can only be called inside a block")
  | name :: _ =>
    match ← ask (.inheritedBlock scope.template name) with
    | some b => renderBlock b
    | none => throw (.runtime ("Block \"" ++ name ++ "\" has no parent definition"))

/-- A block by its name; nothing if there is none. -/
def renderNamedBlock (name : String) : Rendering Value := do
  match ← findBlock name with
  | some b => renderBlock b
  | none => return .undefined

/-- The variables with the entries of an object added. -/
def mergeObject (c : Context) : Value → Except Failure Context
  | .object _ entries => .ok (c.merge entries)
  | v =>
    .error (.runtime
      ("Variables passed to a template must be an object, got " ++ v.typeName))

/-- Render another template. -/
def renderTemplate (t : Template) (parent : Option Template) (c : Context) : Rendering String := do
  settle (← ask (.render t parent c []))

/-- The function `include`: its arguments are the template, an object of variables, whether the
current variables are seen, and whether a missing template counts as empty. -/
def includeFunction (args : List Value) : Rendering Value := do
  let bindings := args[1]?.getD .undefined
  let withContext := args[2]?.all Value.isTruthy
  let ignoreMissing := args[3]?.any Value.isTruthy
  match ← attempt (findTemplate (args[0]?.getD .undefined)) with
  | .error failure =>
    if ignoreMissing && failure.isNotFound then return .safe "" else throw failure
  | .ok t =>
    let start ← if withContext then context else pure []
    let c ← if bindings.isNone then pure start else settle (mergeObject start bindings)
    return .safe (← renderTemplate t none c)

/-- Call a function by its name. -/
def callFunction (name : String) (args : List Value) : Rendering Value := do
  match name with
  | "parent" => renderParent
  | "block" => renderNamedBlock (args.head?.elim "" Value.text)
  | "include" => includeFunction args
  | _ =>
    match ← ask (.function name args) with
    | some r => settle r
    | none =>
      match (← context).find? name with
      | some v => if v.isCallable then invoke v none args else throw ⟨.unknownFunction name, none⟩
      | none => throw ⟨.unknownFunction name, none⟩

end Stencil.Rendering
