import Stencil.Engine.Run

/-!
What a host asks of an environment: the template of a source or of a name, and the text of a
template.  Each is a program, which the host runs either at once or with patience.  A run at once
that meets a value that is not there yet fails, and nothing that would have come after is done.
-/

namespace Stencil

/-- What is known of a result when a patient run is handed out, before anything is waited for. -/
inductive Readiness where
  | resolved
  | rejected
  /-- Some value has to be waited for. -/
  | unknown
  deriving DecidableEq, Repr

namespace Outcome
variable {α : Type}

/-- What a run comes to and the state it leaves: a value that may not be waited for is a failure.
Nothing is known of a run that went too deep. -/
def result? : Outcome (Except Failure α) → Option (Except Failure α × World)
  | .done r w => some (r, w)
  | .pending w => some (.error ⟨.pendingValue, none⟩, w)
  | .tooDeep => none

/-- What was known of the result of a patient run that began with an empty journal. -/
def readiness? : Outcome (Except Failure α) → Option Readiness
  | .done r w =>
    if w.waited then some .unknown
    else match r with
      | .ok _ => some .resolved
      | .error _ => some .rejected
  | .pending _ => some .unknown
  | .tooDeep => none

end Outcome

namespace Template

/-- The text of a template that nothing extends. -/
def text (t : Template) (c : Context) : Attempt String := t.render none c []

end Template

namespace Environment

/-- The template of a source, without a name. -/
def compile (env : Environment) (source : String) : Attempt Template :=
  Template.compile none source env.options

/-- The template of a source, stored under a name. -/
def compileNamed (env : Environment) (name source : String) : Attempt Template :=
  Template.compile (some name) source env.options

/-- The template of a name. -/
def template (env : Environment) (name : String) : Attempt Template :=
  Template.resolve name none env.options

/-- The text of a source. -/
def renderSource (env : Environment) (source : String) (c : Context) : Attempt String := do
  (← env.compile source).text c

/-- The text of the template of a name. -/
def renderNamed (env : Environment) (name : String) (c : Context) : Attempt String := do
  (← env.template name).text c

end Environment
end Stencil
