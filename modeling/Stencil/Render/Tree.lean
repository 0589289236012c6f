import Stencil.Render.Loop
import Stencil.Text.Spaceless

/-!
Rendering the nodes of a template.  A list of nodes is rendered from left to right; a node that
fails ends its list, and either the failure is passed on or it is reported and the output so far is
kept.  Along a list goes the mark of an open chain: a branch whose condition did not hold, or a
loop that ran for no entry, leaves the chain open for the `elseif` or `else` right after it.
-/

namespace Stencil

namespace Rendering

/-- Run an action and put the part of the scope back that `restore` puts back, also if it failed. -/
def restoring {α : Type} (restore : Scope → Scope) (a : Rendering α) : Rendering α := do
  let r ← attempt a
  modify restore
  settle r

/-- The text of a value in the output. -/
def outputText (v : Value) : Rendering String := do return v.output (← get).autoescape

/-- The variables that an included template sees. -/
def inclusionContext (i : Inclusion) : Rendering Context := do
  let start ← if i.only then pure [] else context
  match i.bindings with
  | some e => settle (mergeObject start (← Expr.evaluate e))
  | none => return start

/-- The template of an inclusion; nothing if it is nowhere and that does not matter. -/
def inclusionTemplate (i : Inclusion) : Rendering (Option Template) := do
  let target ← Expr.evaluate i.expression
  match ← attempt (findTemplate target) with
  | .ok t => return some t
  | .error failure =>
    if i.ignoreMissing && failure.isNotFound then return none else throw failure

/-- The text of an included template. -/
def includeTemplate (i : Inclusion) : Rendering String := do
  match ← inclusionTemplate i with
  | some t => renderTemplate t none (← inclusionContext i)
  | none => return ""

/-- The text of an embedded template: a nameless one with the nodes of the tag, which extends the
one that the tag refers to. -/
def embedTemplate (i : Inclusion) (nodes : List Node) : Rendering String := do
  match ← inclusionTemplate i with
  | some parent =>
    let outer ← template
    let inner : Template := ⟨← fresh, none, outer.base, nodes, outer.options⟩
    renderTemplate inner (some parent) (← inclusionContext i)
  | none => return ""

/-- The template that macros are taken from: `_self` is the current one. -/
def macroSource (e : Expr) : Rendering Template := do
  match e with
  | [.variable "_self"] => template
  | e => findTemplate (← Expr.evaluate e)

/-- Bind macros of a template, one after the other. -/
def importMacros (source : Template) : List (String × String) → Rendering Unit
  | [] => return ()
  | (name, bound) :: rest => do
    if source.macros.contains name then
      setVariable bound (.templateMacro source name)
      importMacros source rest
    else throw (.runtime (undefinedMacro source name))
where
  /-- The wording of the failure. -/
  undefinedMacro (t : Template) (name : String) : String :=
    "Macro \"" ++ name ++ "\" is not defined in template \"" ++ t.title ++ "\""

/-- The block of a tag, unless blocks are only noted. -/
def blockInPlace (name : String) : Rendering String := do
  if (← get).parent.isSome then return ""
  else match ← findBlock name with
    | some b => return (← renderBlock b).text
    | none => return ""

/-- Run a body with variables of its own. -/
def withVariables (e : Option Expr) (only : Bool) (body : Rendering String) : Rendering String := do
  let bindings ← match e with
    | some e => some <$> Expr.evaluate e
    | none => pure none
  let saved ← context
  if only then modifyContext fun _ => []
  match bindings with
  | some v => do
    let c ← settle (mergeObject (← context) v)
    modifyContext fun _ => c
  | none => pure ()
  restoring (fun scope => { scope with context := saved }) body

/-- Run a body under another escaping. -/
def withAutoescape (strategy : Autoescape) (body : Rendering String) : Rendering String := do
  let saved := (← get).autoescape
  modify fun scope => { scope with autoescape := strategy }
  restoring (fun scope => { scope with autoescape := saved }) body

/-- What becomes of a list of nodes one of which failed. -/
def endList (done : String) (failure : Failure) : Rendering String := do
  let t ← template
  if t.options.rethrow || failure.isPending then throw (failure.inTemplate t.id)
  else
    let _ ← ask (.report (.renderFailed t.id failure))
    return done

end Rendering

namespace Tag
open Rendering

/-- Render a tag around a body. `active` tells that a chain is open; the result tells whether one is
open behind the tag. -/
def render (active : Bool) (nodes : List Node) (body : Rendering String) :
    Tag → Rendering (String × Bool)
  | .branch condition => branchOn condition
  | .elseBranch condition => if active then branchOn condition else return ("", false)
  | .otherwise => if active then closed body else return ("", false)
  | .loop key value expression guard? => do
    let (text, runs) ← Loop.render ⟨key, value⟩ expression guard? body
    return (text, runs == 0)
  | .assign name expression => closed do
    setVariable name (← Expr.evaluate expression)
    return ""
  | .capture name => closed do
    setVariable name (.safe (← body))
    return ""
  | .block name _ => closed (blockInPlace name)
  | .inherits expression => closed do
    let parent ← findTemplate (← Expr.evaluate expression)
    modify fun scope => { scope with parent := some parent }
    return ""
  | .uses .. | .macroDef .. => return ("", false)
  | .includes inclusion => closed (includeTemplate inclusion)
  | .embeds inclusion => closed (embedTemplate inclusion nodes)
  | .imports expression name => closed do
    let source ← macroSource expression
    setVariable name (Value.macrosOf source (← fresh))
    return ""
  | .importsNames expression names => closed do
    let source ← macroSource expression
    importMacros source names
    return ""
  | .scoped expression only => closed (withVariables expression only body)
  | .spaceless => closed do return String.ofList (Text.spaceless (← body).toList)
  | .apply filters => closed do
    let text ← body
    return (← Expr.evaluateWith [.safe text] filters).text
  | .autoescape strategy => closed (withAutoescape strategy body)
  | .evaluate expression => closed do
    let _ ← Expr.evaluate expression
    return ""
  | .deprecated message => closed do
    let text := (← Expr.evaluate message).text
    let _ ← ask (.report (.deprecated (← template).id text))
    return ""
where
  /-- A tag that leaves no chain open. -/
  closed (a : Rendering String) : Rendering (String × Bool) := do return (← a, false)
  /-- The body if the condition holds; otherwise the chain stays open. -/
  branchOn (condition : Expr) : Rendering (String × Bool) := do
    if (← Expr.evaluate condition).isTruthy then return (← body, false) else return ("", true)

end Tag

namespace Node
open Rendering

mutual

/-- Render a node. `active` tells that a chain is open; the result tells whether one is open behind
the node. -/
def render (active : Bool) : Node → Rendering (String × Bool)
  | .raw value => return (value, false)
  | .output expression => do
    let v ← Expr.evaluate expression
    return (← outputText v, false)
  | .logic tag nodes => tag.render active nodes (renderAll false "" nodes)
termination_by structural n => n

/-- Render the nodes of a list behind `done`. -/
def renderAll (active : Bool) (done : String) : List Node → Rendering String
  | [] => return done
  | n :: rest => do
    match ← attempt (render active n) with
    | .ok (text, active) => renderAll active (done ++ text) rest
    | .error failure => endList done failure
termination_by structural l => l

end

end Node
end Stencil
