import Stencil.Proofs.Engine.Histories
import Stencil.Proofs.Inheritance.Frame

/-!
# The variables of a `with` tag

A `with` tag saves the variables that there are behind its expression, binds those of its body, and
puts the saved ones back however the body ends.  Between saving and binding it empties them, if it
says `only`, and it may still fail: when what it is to bind is no object.  Then nothing is put back,
and the rest of the page has no variables at all (`Environment.context_behind_with`,
`Environment.text_misbinding`).
-/
namespace Stencil
open Rendering

section
variable {answer : (r : Request) → World → Outcome r.Answer}

/-- The value is an object. -/
def Value.isObject : Value → Bool
  | .object .. => true
  | _ => false

namespace Rendering

/-- The value of the expression of a `with` tag, if there is one. -/
def bindings : Option Expr → Rendering (Option Value)
  | some e => some <$> Expr.evaluate e
  | none => pure none

/-- The variables with which the body of a `with` tag begins to get its own. -/
def keptContext (only : Bool) (c : Context) : Context := if only then [] else c

/-- The variables that the body of a `with` tag sees. -/
def bodyContext (only : Bool) (c : Context) : Option Value → Except Failure Context
  | some v => mergeObject (keptContext only c) v
  | none => .ok (keptContext only c)

theorem bodyContext_error {only : Bool} {c : Context} {v : Option Value} {failure : Failure}
    (h : bodyContext only c v = .error failure) :
    ∃ x, v = some x ∧ x.isObject = false ∧ failure = .runtime
      ("Variables passed to a template must be an object, got " ++ x.typeName) := by
  cases v with
  | none => cases h
  | some x =>
    refine ⟨x, rfl, ?_⟩
    cases x with
    | object identity entries => cases h
    | _ => exact ⟨rfl, (Except.error.inj h).symm⟩

theorem isObject_of_bodyContext {only : Bool} {c c' : Context} {v : Option Value}
    (h : bodyContext only c v = .ok c') : v.all Value.isObject = true := by
  cases v with
  | none => rfl
  | some x =>
    cases x with
    | object identity entries => rfl
    | _ => cases h

/-- What binding the variables leaves: if they are no object, those that the body was to begin
with. -/
theorem bindVariables_eq (e : Option Expr) (only : Bool) :
    bindVariables e only = bindings e >>= fun v s =>
      .done (match bodyContext only s.context v with
        | .ok c => (.ok s.context, { s with context := c })
        | .error failure =>
          (.error failure, { s with context := keptContext only s.context })) := by
  have hsplit : bindVariables e only = bindings e >>= fun v => do
      let saved ← context
      if only then modifyContext fun _ => []
      match v with
      | some v => do
        let c ← settle (mergeObject (← context) v)
        modifyContext fun _ => c
      | none => pure ()
      return saved := by
    cases e <;> rfl
  rw [hsplit]
  refine congrArg _ (funext fun v => funext fun s => ?_)
  cases v with
  | none => cases only <;> rfl
  | some v => cases only <;> cases v <;> rfl

/-- How a `with` tag may end: its expression fails, or what it evaluates to is no object, or its
body ends. -/
theorem run_withVariables_done {e : Option Expr} {only : Bool} {body : Rendering String}
    {s s' : Scope} {w after : World} {r : Except Failure String}
    (h : (withVariables e only body s).runWith answer w = .done (r, s') after) :
    (∃ failure, (bindings e s).runWith answer w = .done (.error failure, s') after ∧
      r = .error failure) ∨
    ∃ v before between, (bindings e s).runWith answer w = .done (.ok v, before) between ∧
      ((∃ failure, bodyContext only before.context v = .error failure ∧ r = .error failure ∧
          s' = { before with context := keptContext only before.context } ∧ after = between) ∨
        ∃ c mid, bodyContext only before.context v = .ok c ∧
          (body { before with context := c }).runWith answer between = .done (r, mid) after ∧
          s' = { mid with context := before.context }) := by
  rw [withVariables_eq_bindVariables, bindVariables_eq, bind_assoc] at h
  rcases run_bind_iff.mp h with ⟨failure, hfailed, rfl⟩ | ⟨v, before, between, hvalue, hrest⟩
  · exact .inl ⟨failure, hfailed, rfl⟩
  refine .inr ⟨v, before, between, hvalue, ?_⟩
  rcases run_bind_iff.mp hrest with ⟨failure, hbound, rfl⟩ | ⟨saved, mid, world, hbound, hbody⟩
  · cases hcontext : bodyContext only before.context v with
    | error =>
      rw [hcontext] at hbound
      cases hbound
      exact .inl ⟨_, rfl, rfl, rfl, rfl⟩
    | ok c =>
      rw [hcontext] at hbound
      cases hbound
  · cases hcontext : bodyContext only before.context v with
    | error =>
      rw [hcontext] at hbound
      cases hbound
    | ok c =>
      rw [hcontext] at hbound
      cases hbound
      obtain ⟨mid, hmid, rfl⟩ := run_restoring_done hbody
      exact .inr ⟨c, mid, rfl, hmid, rfl⟩

end Rendering

/-- A tag that leaves no chain open ends as what it does. -/
theorem Tag.run_closed_done {a : Rendering String} {s s' : Scope} {w after : World}
    {r : Except Failure (String × Bool)}
    (h : (render.closed a s).runWith answer w = .done (r, s') after) :
    ∃ inner, (a s).runWith answer w = .done (inner, s') after ∧ r = inner.map (·, false) := by
  rcases run_bind_iff.mp h with ⟨failure, hfailed, rfl⟩ | ⟨text, mid, between, htext, hend⟩
  · exact ⟨_, hfailed, rfl⟩
  · cases hend
    exact ⟨_, htext, rfl⟩

end

namespace Environment
variable (env : Environment) (patience : Patience) (depth : Nat)

/-- Unless failures are to be passed on, a list ends in front of a node that fails, and what comes
behind the list sees what the node has left. -/
theorem run_renderAll_failed {active : Bool} {n : Node} {s s' : Scope} {w after : World}
    {failure : Failure}
    (h : env.run patience depth (Node.render active n s) w = .done (.error failure, s') after)
    (hlenient : s.template.options.rethrow = false) (hpending : failure.isPending = false)
    (done : String) (rest : List Node) :
    env.run patience depth (Node.renderAll active done (n :: rest) s) w
      = .done (.ok done, s')
          { after with reports := .renderFailed s.template.id failure :: after.reports } := by
  have hframes := Node.frames_render (env.listed_extendedIn patience depth) n active s w _ _ _ h
  have hreported : (s'.template.options.rethrow || failure.isPending) = false := by
    rw [hframes.template, hlenient, hpending]
    rfl
  have hend : endList done failure s' = .ask (.report (.renderFailed s'.template.id failure))
      fun _ => .done (.ok done, s') := by
    change (if (s'.template.options.rethrow || failure.isPending) = true then _ else _ :
      Rendering String) s' = _
    rw [hreported]
    rfl
  rw [Node.renderAll, run, run_bind_attempt h]
  change (endList done failure s').runWith (env.answer patience depth) after = _
  rw [hend, hframes.template]
  cases depth <;> rfl

/-- **What a `with` tag leaves of the variables.**  If its expression fails, what that left.  If the
expression evaluates to an object, or there is none, the variables that were there behind the
expression, however the body ends.  If it evaluates to anything else, the same, but nothing at all
under `only`.  Unless failures are to be passed on, that is what the rest of the page sees when the
tag fails. -/
theorem context_behind_with (active : Bool) (e : Option Expr) (only : Bool) (nodes : List Node)
    {s s' : Scope} {w after : World} {r : Except Failure (String × Bool)}
    (h : env.run patience depth (Node.render active (.logic (.scoped e only) nodes) s) w
      = .done (r, s') after) :
    ((∃ failure, env.run patience depth (bindings e s) w = .done (.error failure, s') after ∧
        r = .error failure) ∨
      ∃ v before between, env.run patience depth (bindings e s) w = .done (.ok v, before) between ∧
        ((v.all Value.isObject = true ∧ ∃ c mid inner,
            bodyContext only before.context v = .ok c ∧
            env.run patience depth (Node.renderAll false "" nodes { before with context := c })
              between = .done (inner, mid) after ∧
            r = inner.map (·, false) ∧ s' = { mid with context := before.context }) ∨
          ∃ x, v = some x ∧ x.isObject = false ∧
            r = .error (.runtime
              ("Variables passed to a template must be an object, got " ++ x.typeName)) ∧
            s' = { before with context := if only then [] else before.context } ∧
            after = between)) ∧
    ∀ failure, r = .error failure → s.template.options.rethrow = false →
      failure.isPending = false → ∀ done rest,
        env.run patience depth
            (Node.renderAll active done (.logic (.scoped e only) nodes :: rest) s) w
          = .done (.ok done, s')
              { after with reports := .renderFailed s.template.id failure :: after.reports } := by
  constructor
  · obtain ⟨inner, hinner, rfl⟩ := Tag.run_closed_done h
    rcases run_withVariables_done hinner with
      ⟨failure, hfailed, rfl⟩ | ⟨v, before, between, hvalue, hrest⟩
    · exact .inl ⟨failure, hfailed, rfl⟩
    refine .inr ⟨v, before, between, hvalue, ?_⟩
    rcases hrest with ⟨failure, herror, rfl, rfl, rfl⟩ | ⟨c, mid, hcontext, hbody, rfl⟩
    · obtain ⟨x, rfl, hobject, rfl⟩ := bodyContext_error herror
      exact .inr ⟨x, rfl, hobject, rfl, rfl, rfl⟩
    · exact .inl ⟨isObject_of_bodyContext hcontext, c, mid, inner, hcontext, hbody, rfl, rfl⟩
  · rintro failure rfl hlenient hpending done rest
    exact env.run_renderAll_failed patience depth h hlenient hpending done rest

/-! A page that shows a variable behind a `with` tag for something that is no object. -/

/-- The tag, with or without `only`. -/
def misbound (only : Bool) : Node := .logic (.scoped (some [.number 5]) only) []

/-- The page. The tag stands in a list of its own. -/
def misbinding (only : Bool) : Template where
  number := 0
  id := none
  base := none
  nodes := [.logic (.branch [.bool true]) [misbound only], .raw "[", .output [.variable "x"],
    .raw "]"]
  options := {}

theorem context_behind_with_number :
    let env : Environment := {}
    let s := Scope.start (misbinding true) [("x", .string "1")]
    let failure := Failure.runtime "Variables passed to a template must be an object, got number"
    env.run .patient 3 (Node.render false (misbound true) s) {}
        = .done (.error failure, { s with context := [] }) {} ∧
      env.run .patient 3 (Node.renderAll false "" [misbound true] s) {}
        = .done (.ok "", { s with context := [] })
            { reports := [.renderFailed none failure] } := by
  intro env s failure
  have h : env.run .patient 3 (Node.render false (misbound true) s) {}
      = .done (.error failure, { s with context := [] }) {} := rfl
  have hbehind := env.context_behind_with .patient 3 false (some [.number 5]) true [] h
  exact ⟨h, hbehind.2 failure rfl rfl rfl "" []⟩

/-- With `only` the rest of the page has lost its variables; without, it has not. -/
theorem text_misbinding :
    let text (only : Bool) := ((({} : Environment).run .patient 3
      ((misbinding only).text [("x", .string "1")]).run { next := 1 })).text?
    text false = some "[1]" ∧ text true = some "[]" := by
  decide +kernel

end Environment
end Stencil
