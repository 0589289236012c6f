import Stencil.Failure
import Stencil.Value.Basic

/-!
Rendering as a program: a tree whose branches are the answers to what the program asks.  A program
asks for whatever is not its own to decide: fresh identities, the links and the store that all
renders share, what the host provides, and the rendering of another template or block.  Who answers
decides how deep programs may call one another, and whether a value may be waited for; a program
does not see the difference.
-/

namespace Stencil

/-- What is passed to a reporter while templates are compiled and rendered. -/
inductive Report where
  /-- A template could not be compiled and is empty instead. -/
  | compileFailed (template : Option String) (failure : Failure)
  /-- A node failed, and its list ends before it. -/
  | renderFailed (template : Option String) (failure : Failure)
  /-- The blocks of a `use` tag could not be taken over. -/
  | useFailed (template : Option String) (failure : Failure)
  | deprecated (template : Option String) (text : String)
  deriving DecidableEq, Repr

namespace Report

/-- The wording of a report. -/
def message : Report → String
  | .compileFailed .. => "compile failed"
  | .renderFailed .. => "render failed"
  | .useFailed .. => "use failed"
  | .deprecated _ text => "deprecated: " ++ text

/-- The template that the report is about. -/
def template : Report → Option String
  | .compileFailed template _ | .renderFailed template _ | .useFailed template _
  | .deprecated template _ => template

/-- The failure that the report is about. -/
def failure? : Report → Option Failure
  | .compileFailed _ failure | .renderFailed _ failure | .useFailed _ failure => some failure
  | .deprecated .. => none

end Report

/-- What rendering adds to a template, for all renders to see. -/
structure Links where
  /-- Its `use` tags are resolved, or some render is at it. -/
  claimed : Bool := false
  /-- The blocks that its `use` tags brought in. -/
  imported : Dict Block := []
  /-- The template that it extended last. -/
  parent : Option Template := none
  deriving Inhabited

/-- What a tag or an expression sees while it is rendered. -/
structure Scope where
  /-- The template whose text is rendered: in a block, the one that defines the block. -/
  template : Template
  context : Context
  /-- The names of the blocks around it, the innermost first. -/
  nesting : List String := []
  /-- The blocks of the templates that extend this one. -/
  overrides : Dict Block := []
  /-- The template that this one extends, once it has said so. From then on blocks are only noted.
  -/
  parent : Option Template := none
  autoescape : Autoescape
  deriving Inhabited

/-- The scope in which a template starts. -/
def Scope.start (template : Template) (context : Context) : Scope :=
  { template, context, autoescape := template.options.autoescape }

/-- What a block changes outside: its result, the variables, and the template that is extended. -/
structure BlockResult where
  result : Except Failure Value
  context : Context
  parent : Option Template

/-- What a program can ask for. -/
inductive Request where
  /-- A number that was not given before. -/
  | fresh
  /-- That a value arrives which is not there yet. -/
  | wait
  /-- That a line is written to the host's journal. -/
  | note (line : String)
  | report (report : Report)
  | links (template : Template)
  | setParent (template parent : Template)
  /-- Whether the `use` tags of the template are still to be resolved. If so, the asker is at it. -/
  | claimImports (template : Template)
  | releaseImports (template : Template)
  | importBlock (template : Template) (name : String) (block : Block)
  /-- The template that is stored under a name. -/
  | stored (name : String)
  | store (template : Template)
  /-- The tree that is cached for a locator. -/
  | cached (locator : String)
  | writeCache (locator : String) (tree : CompiledTree)
  | load (locator : String)
  | filter (name : String) (input : Value) (args : List Value)
  | test (name : String) (input : Value) (args : List Value)
  /-- A call of a registered function; no answer if there is none of that name. -/
  | function (name : String) (args : List Value)
  | invoke (callee : Value) (receiver : Option Value) (args : List Value)
  /-- The block of a name: the overriding one, or else the one that the template defines, imports or
  inherits. -/
  | findBlock (template : Template) (overrides : Dict Block) (name : String)
  /-- The block of a name that a template imports or inherits. -/
  | inheritedBlock (template : Template) (name : String)
  | renderBlock (block : Block) (scope : Scope)
  /-- The text of a template. It extends `parent` from the start, if one is given. -/
  | render (template : Template) (parent : Option Template) (context : Context)
    (overrides : Dict Block)
  /-- That the `use` tags of a template are resolved. -/
  | mergeImports (template : Template) (context : Context)

/-- What a request is answered with. -/
def Request.Answer : Request → Type
  | .fresh => Nat
  | .wait | .note _ | .report _ => Unit
  | .links _ => Links
  | .setParent .. | .releaseImports _ | .importBlock .. => Unit
  | .claimImports _ => Bool
  | .stored _ => Option Template
  | .store _ => Unit
  | .cached _ => Except Failure (Option CompiledTree)
  | .writeCache .. => Except Failure Unit
  | .load _ => Except Failure String
  | .filter .. | .invoke .. => Except Failure Value
  | .test .. => Except Failure Bool
  | .function .. => Option (Except Failure Value)
  | .findBlock .. | .inheritedBlock .. => Option Block
  | .renderBlock .. => BlockResult
  | .render .. => Except Failure String
  | .mergeImports .. => Except Failure Unit

/-- A program that ends in an `α`. -/
inductive Program (α : Type) where
  | done (a : α)
  | ask (request : Request) (next : request.Answer → Program α)

namespace Program
variable {α β : Type}

/-- One program after another. -/
def bind : Program α → (α → Program β) → Program β
  | .done a, f => f a
  | .ask request next, f => .ask request fun answer => bind (next answer) f

instance : Monad Program where
  pure := .done
  bind := bind

/-- Ask for one thing. -/
def request (r : Request) : Program r.Answer := .ask r .done

end Program

/-- A program that may fail. -/
abbrev Attempt (α : Type) := ExceptT Failure Program α

/-- A step of a render: it sees and changes the scope, asks, and may fail. -/
abbrev Rendering (α : Type) := ExceptT Failure (StateT Scope Program) α

namespace Rendering
variable {α : Type}

/-- Ask for one thing. -/
def ask (r : Request) : Rendering r.Answer := fun scope => do
  let answer ← Program.request r
  return (.ok answer, scope)

/-- Run a program that does not see the scope. -/
def lift (p : Program α) : Rendering α := fun scope => do
  let a ← p
  return (.ok a, scope)

/-- Go on with a result or fail as it does. -/
def settle (r : Except Failure α) : Rendering α := fun scope => .done (r, scope)

/-- Run a program that may fail and does not see the scope. -/
def ofAttempt (p : Attempt α) : Rendering α := fun scope => do
  let r ← p.run
  return (r, scope)

/-- The result of an action, be it a failure or not. -/
def attempt (a : Rendering α) : Rendering (Except Failure α) := fun scope => do
  let (r, scope) ← a scope
  return (.ok r, scope)

/-- A number that was not given before. -/
def fresh : Rendering Nat := ask .fresh

/-- Change the variables. -/
def modifyContext (f : Context → Context) : Rendering Unit :=
  modify fun scope => { scope with context := f scope.context }

/-- Bind a variable. -/
def setVariable (name : String) (v : Value) : Rendering Unit :=
  modifyContext fun c => c.insert name v

/-- The variables. -/
def context : Rendering Context := do return (← get).context

/-- The template whose text is rendered. -/
def template : Rendering Template := do return (← get).template

end Rendering
end Stencil
