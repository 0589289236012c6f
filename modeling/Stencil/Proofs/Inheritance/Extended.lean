import Stencil.Engine.Run
import Stencil.Proofs.Render.Laws

/-!
# What is extended on the way

A tag that names a template to extend says so in the scope, where it is not seen which tag did it or
when.  A listing tells of a render, from the scope and the state in which it starts, the templates
that `extends` tags named on its way (`Node.extendedAll`, `Block.extended`), also those in blocks
that were rendered in between.  It follows the run: a branch that is not taken names nothing, and
what would have come behind a failure neither.
-/
namespace Stencil

/-- The templates that are extended in a render, depending on where it starts. -/
abbrev Listing := Scope → World → List Template

section
variable (answer : (r : Request) → World → Outcome r.Answer) (inBlock : Block → Listing)
variable {α β : Type}

/-- Those that are extended in a block which is asked for. -/
def Request.extended : Request → World → List Template
  | .renderBlock b s, w => inBlock b s w
  | _, _ => []

/-- Those that are extended in the blocks which a run of the program renders. -/
def Program.extended : Program α → World → List Template
  | .done _, _ => []
  | .ask r next, w =>
    r.extended inBlock w ++
    match answer r w with
    | .done a after => Program.extended (next a) after
    | .pending _ | .tooDeep => []

namespace Rendering

/-- Those that are extended in the blocks which the action renders. -/
def extended (a : Rendering α) : Listing := fun s w => (a s).extended answer inBlock w

/-- Those of an action, and behind it, if it ends normally, those of what is next. -/
def followed (a : Rendering α) (inside : Listing) (next : α → Listing) : Listing := fun s w =>
  inside s w ++
  match (a s).runWith answer w with
  | .done (.ok x, s') after => next x s' after
  | _ => []

/-- Those of an action without `extends` tags, and those of what is next. -/
def before (a : Rendering α) (next : α → Listing) : Listing :=
  a.followed answer (a.extended answer inBlock) next

/-- Bind the variables of a `with` tag. Gives those that were there before. -/
def bindVariables (e : Option Expr) (only : Bool) : Rendering Context := do
  let bindings ← match e with
    | some e => some <$> Expr.evaluate e
    | none => pure none
  let saved ← context
  if only then modifyContext fun _ => []
  match bindings with
  | some v => do
    let c ← settle (mergeObject (← context) v)
    modifyContext fun _ => c
  | none => pure ()
  return saved

end Rendering

/-- Nothing is extended. -/
def Listing.none : Listing := fun _ _ => []

open Rendering

namespace Loop
variable (body : Rendering String) (inBody : Listing)

/-- Those that are extended while a loop runs over the entries. -/
def extendedRuns (l : Loop) : List (Value × Value) → Nat → String → Listing
  | [], _, _ => .none
  | entry :: rest, index, done =>
    before answer inBlock (do modifyContext (l.names.bindEntry entry); l.passes) fun passed =>
      if passed then
        before answer inBlock (do
          let identity ← fresh
          setVariable "loop" (.object identity
            (loopEntries index l.length l.guard?.isSome l.parent))) fun _ =>
          body.followed answer inBody fun text => l.extendedRuns rest (index + 1) (done ++ text)
      else l.extendedRuns rest index done

/-- What a loop runs over, with an identity for the variables around it, and these variables. -/
def start (expression : Expr) : Rendering (List (Value × Value) × Nat × Context) := do
  let v ← Expr.evaluate expression
  let outer ← context
  return (v.entries?.getD [], ← fresh, outer)

/-- Those that are extended in a loop. -/
def extended (names : LoopNames) (expression : Expr) (guard? : Option Expr) : Listing :=
  before answer inBlock (start expression) fun (entries, identity, outer) =>
    extendedRuns answer inBlock body inBody
      ⟨names, guard?, entries.length, .object identity outer⟩ entries 0 ""

end Loop

/-- Those that are extended in a tag around a body. -/
def Tag.extended (active : Bool) (nodes : List Node) (body : Rendering String)
    (inBody : Listing) : Tag → Listing
  | .inherits e => before answer inBlock (do findTemplate (← Expr.evaluate e)) fun t _ _ => [t]
  | .branch e => branch e
  | .elseBranch e => if active then branch e else .none
  | .otherwise => if active then inBody else .none
  | .loop key value e guard? => Loop.extended answer inBlock body inBody ⟨key, value⟩ e guard?
  | .capture _ | .spaceless => inBody
  | .apply filters => body.followed answer inBody fun text =>
      Rendering.extended answer inBlock (Expr.evaluateWith [.safe text] filters)
  | .scoped e only => before answer inBlock (bindVariables e only) fun _ => inBody
  | .autoescape strategy => fun s w => inBody { s with autoescape := strategy } w
  | tag => Rendering.extended answer inBlock (tag.render active nodes body)
where
  /-- Those of the body, if the condition holds. -/
  branch (e : Expr) : Listing :=
    before answer inBlock (Expr.evaluate e) fun v => if v.isTruthy then inBody else .none

namespace Node

mutual

/-- Those that are extended in a node. -/
def extended (active : Bool) : Node → Listing
  | .raw _ => .none
  | .output e => Rendering.extended answer inBlock (Expr.evaluate e)
  | .logic tag nodes =>
    tag.extended answer inBlock active nodes (renderAll false "" nodes)
      (extendedAll false "" nodes)
termination_by structural n => n

/-- Those that are extended in the nodes of a list. -/
def extendedAll (active : Bool) (done : String) : List Node → Listing
  | [] => .none
  | n :: rest =>
    (render active n).followed answer (extended active n) fun (text, active) =>
      extendedAll active (done ++ text) rest
termination_by structural l => l

end

end Node

/-- Those that are extended in the body of a block. -/
def Block.extended (b : Block) : Listing :=
  match b.body with
  | .nodes nodes => Node.extendedAll answer inBlock false "" nodes
  | .expression e => Rendering.extended answer inBlock (Expr.evaluate e)

end

/-- The scope inside of a block: its template is put in place, and its name comes in front. -/
def Scope.enter (s : Scope) (b : Block) : Scope :=
  { s with template := b.template, nesting := b.name :: s.nesting }

/-- The scope behind a block: its name is taken off, and the template is put back. -/
def Scope.leave (s : Scope) (template : Template) : Scope :=
  { s with template, nesting := s.nesting.tail }

/-- Those that are extended in a block, in runs of so many levels. -/
def Environment.extendedIn (env : Environment) (patience : Patience) : Nat → Block → Listing
  | 0, _ => .none
  | depth + 1, b => fun s w =>
    b.extended (env.answer patience depth) (env.extendedIn patience depth) (s.enter b) w

end Stencil
