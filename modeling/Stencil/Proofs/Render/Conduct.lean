import Stencil.Proofs.Render.Contract
import Stencil.Proofs.Render.Rules

/-!
# What expressions ask for

The evaluation of an expression meets every contract that permits what renderings do: to ask for
anything but blocks and waiting, to change variables and escaping, and, if the expression calls for
it, to look up blocks.  No evaluation asks to wait.
-/
namespace Stencil

/-! ## Requests -/

/-- The request has to do neither with blocks nor with waiting. -/
def Request.Plain : Request → Prop
  | .wait | .findBlock .. | .inheritedBlock .. | .renderBlock .. => False
  | _ => True

/-- The request is plain, and it has to do neither with `use` tags nor with what is put into the
cache. -/
def Request.Ordinary : Request → Prop
  | .wait | .findBlock .. | .inheritedBlock .. | .renderBlock .. | .claimImports _
  | .releaseImports _ | .importBlock .. | .writeCache .. => False
  | _ => True

/-- The request is ordinary, and it has to do neither with the store nor with where its templates
come from. -/
def Request.Storeless : Request → Prop
  | .stored _ | .store _ | .cached _ | .load _ => False
  | r => r.Ordinary

/-- The request is one of those by which a template is found, or made of its source. -/
def Request.Seeks : Request → Prop
  | .fresh | .report _ | .stored _ | .store _ | .cached _ | .load _ => True
  | _ => False

theorem Request.Seeks.ordinary {r : Request} (h : r.Seeks) : r.Ordinary := by
  cases r with
  | fresh | report | stored | store | cached | load => trivial
  | _ => exact h.elim

theorem Request.Ordinary.plain {r : Request} (h : r.Ordinary) : r.Plain := by
  cases r with
  | wait | findBlock | inheritedBlock | renderBlock => exact h
  | _ => trivial

theorem Request.Storeless.ordinary {r : Request} (h : r.Storeless) : r.Ordinary := by
  cases r with
  | stored | store | cached | load => exact h.elim
  | _ => exact h

/-! ## Resolving names -/

namespace Template
variable {C : Contract}

section
variable (h : ∀ r : Request, r.Seeks → C.asks r)
include h

theorem meets_make (options : Options) (tree : CompiledTree) :
    (make options tree).Meets C fun t => t.options = options ∧ t.toTree = tree :=
  ⟨h _ trivial, fun _ _ => ⟨h _ trivial, fun _ _ => ⟨rfl, rfl⟩⟩⟩

/-- What a source is compiled to: its nodes, or none if it is reported that it cannot be
compiled. -/
theorem meets_compile (id : Option String) (source : String) (options : Options) :
    Attempt.Meets C (fun t => t.options = options ∧ t.id = id ∧
      (Node.ofSource source = .ok t.nodes ∨ ∃ failure, Node.ofSource source = .error failure ∧
        t.nodes = [] ∧ C.answers (.report (.compileFailed id failure)) ()))
      (compile id source options) := by
  unfold compile
  split
  · next nodes hnodes =>
    refine Attempt.meets_lift ((meets_make h options ⟨id, nodes⟩).mono fun t ht => ?_)
    obtain ⟨hid, rfl⟩ := CompiledTree.mk.inj ht.2
    exact ⟨ht.1, hid, .inl hnodes⟩
  · next failure hfailure =>
    split
    · exact Attempt.meets_throw _
    · refine ⟨h _ trivial, fun _ hreported => ?_⟩
      refine Attempt.meets_lift ((meets_make h options ⟨id, []⟩).mono fun t ht => ?_)
      obtain ⟨hid, hnodes⟩ := CompiledTree.mk.inj ht.2
      exact ⟨ht.1, hid, .inr ⟨failure, hfailure, hnodes, hreported⟩⟩

/-- To resolve a name takes nothing but to look for a template, and to load and compile sources. -/
theorem meets_resolve_of {options : Options}
    (hload : ∀ locator, (loadAndCompile locator options).run.Meets C fun _ => True) (name : String)
    (base : Option String) : (resolve name base options).run.Meets C fun _ => True := by
  have hlocate (locator : String) : (locate locator options).run.Meets C fun _ => True := by
    refine ⟨h _ trivial, fun stored _ => ?_⟩
    cases stored with
    | some t => trivial
    | none =>
      refine Program.Meets.bind_attempt ⟨h _ trivial, fun _ _ => trivial⟩ fun tree => ?_
      cases tree with
      | some tree => exact (meets_make h _ _).bind fun _ _ => trivial
      | none => exact hload locator
  unfold resolve
  split
  · refine ⟨h _ trivial, fun stored _ => ?_⟩
    cases stored with
    | some t => trivial
    | none => exact hlocate _
  · exact hlocate _

end

theorem meets_resolve (h : ∀ r : Request, r.Seeks → C.asks r)
    (hcache : ∀ locator tree, C.asks (.writeCache locator tree)) (name : String)
    (base : Option String) (options : Options) :
    (resolve name base options).run.Meets C fun _ => True := by
  refine meets_resolve_of h (fun locator => ?_) name base
  refine Program.Meets.bind_attempt ⟨h _ trivial, fun _ _ => trivial⟩ fun source => ?_
  refine Program.Meets.bind_attempt ((meets_compile h _ _ _).mono fun _ _ => trivial) fun t => ?_
  exact Program.Meets.bind_attempt ⟨hcache _ _, fun _ _ => trivial⟩ fun _ => trivial

end Template

/-! ## What renderings do -/

/-- The contract permits what expressions do. Where neither `calls` holds nor the template is known
to extend nothing, it need not permit to look up blocks. -/
structure Contract.Evaluates (C : Contract) (calls : Prop) : Prop where
  storeless : ∀ r : Request, r.Storeless → C.asks r
  resolve : ∀ name base options,
    (Template.resolve name base options).run.Meets C fun _ => True
  context : ∀ s c, C.scopes s → C.scopes { s with context := c }
  find : ∀ s name, C.scopes s → calls ∨ s.parent = none →
    C.asks (.findBlock s.template s.overrides name)
  found : ∀ s name b, C.scopes s → calls ∨ s.parent = none →
    C.answers (.findBlock s.template s.overrides name) (some b) → C.asks (.renderBlock b s)
  above : ∀ s name outer, C.scopes s → calls → s.nesting = name :: outer →
    C.asks (.inheritedBlock s.template name)
  foundAbove : ∀ s name outer b, C.scopes s → calls → s.nesting = name :: outer →
    C.answers (.inheritedBlock s.template name) (some b) → C.asks (.renderBlock b s)
  after : ∀ s b r, C.scopes s → C.asks (.renderBlock b s) → C.answers (.renderBlock b s) r →
    C.scopes { s with context := r.context, parent := r.parent }

/-- The contract permits what renderings do. Where neither `calls` holds nor the template is known
to extend nothing, it need not permit to look up blocks. Who is told to resolve the `use` tags of a
template may import blocks into it and give them back. -/
structure Contract.Permits (C : Contract) (calls inherits : Prop) : Prop where
  storeless : ∀ r : Request, r.Storeless → C.asks r
  resolve : ∀ name base options,
    (Template.resolve name base options).run.Meets C fun _ => True
  claim : ∀ t, C.asks (.claimImports t)
  merge : ∀ t, C.answers (.claimImports t) true →
    C.asks (.releaseImports t) ∧ ∀ name b, C.asks (.importBlock t name b)
  context : ∀ s c, C.scopes s → C.scopes { s with context := c }
  autoescape : ∀ s a, C.scopes s → C.scopes { s with autoescape := a }
  find : ∀ s name, C.scopes s → calls ∨ s.parent = none →
    C.asks (.findBlock s.template s.overrides name)
  found : ∀ s name b, C.scopes s → calls ∨ s.parent = none →
    C.answers (.findBlock s.template s.overrides name) (some b) → C.asks (.renderBlock b s)
  above : ∀ s name outer, C.scopes s → calls → s.nesting = name :: outer →
    C.asks (.inheritedBlock s.template name)
  foundAbove : ∀ s name outer b, C.scopes s → calls → s.nesting = name :: outer →
    C.answers (.inheritedBlock s.template name) (some b) → C.asks (.renderBlock b s)
  after : ∀ s b r, C.scopes s → C.asks (.renderBlock b s) → C.answers (.renderBlock b s) r →
    C.scopes { s with context := r.context, parent := r.parent }
  inherit : ∀ s t, inherits → C.scopes s → C.scopes { s with parent := some t }

theorem Contract.Permits.evaluates {C : Contract} {calls inherits : Prop}
    (P : C.Permits calls inherits) : C.Evaluates calls :=
  ⟨P.storeless, P.resolve, P.context, P.find, P.found, P.above, P.foundAbove, P.after⟩

namespace Rendering
variable {C : Contract} {calls : Prop}

/-! ## Looking things up -/

theorem meets_context : Meets C context := meets_get.bind fun _ => meets_pure _

theorem meets_template : Meets C template := meets_get.bind fun _ => meets_pure _

section
variable (P : C.Evaluates calls)
include P

theorem meets_storeless {r : Request} (h : r.Storeless) : Meets C (ask r) :=
  meets_ask (P.storeless r h)

theorem meets_fresh : Meets C fresh := meets_storeless P trivial

theorem meets_modifyContext (f : Context → Context) : Meets C (modifyContext f) :=
  meets_modify fun s h => P.context s (f s.context) h

theorem meets_setVariable (name : String) (v : Value) : Meets C (setVariable name v) :=
  meets_modifyContext P _

end

/-! ## Finding templates -/

/-- What is not a list of candidates refers to one template, by its text and under the settings of
the template that it stands in. -/
theorem findTemplate_eq {v : Value} (hv : ∀ identity items, v ≠ .array identity items)
    (scope : Scope) :
    findTemplate v scope
      = (Template.resolve v.text scope.template.base scope.template.options).run >>= fun found =>
        .done (found, scope) := by
  cases v with
  | array identity items => exact absurd rfl (hv identity items)
  | _ => rfl

mutual

theorem meets_findTemplate (P : C.Evaluates calls) (v : Value) :
    Meets C (findTemplate v) := by
  cases v with
  | array identity candidates =>
    rw [findTemplate]
    exact meets_firstTemplate P _ candidates
  | _ => exact meets_template.bind fun t => meets_ofAttempt (P.resolve _ _ _)
termination_by structural v

theorem meets_firstTemplate (P : C.Evaluates calls) (named : Value)
    (candidates : List Value) : Meets C (firstTemplate named candidates) := by
  cases candidates with
  | nil => exact meets_throw _
  | cons v rest =>
    rw [firstTemplate]
    refine (meets_findTemplate P v).attempt.bind fun found => ?_
    split
    · exact meets_pure _
    · split
      · exact meets_firstTemplate P named rest
      · exact meets_throw _
termination_by structural candidates

end

/-! ## Blocks and functions -/

section
variable (P : C.Evaluates calls)
include P

/-- A block that was looked up is rendered. -/
theorem meets_renderBlock {scope : Scope} {b : Block} (hscope : C.scopes scope)
    (h : C.asks (.renderBlock b scope)) :
    Program.Meets C (fun r => C.scopes r.2) (renderBlock b scope) :=
  ⟨h, fun r hr => P.after scope b r hscope h hr⟩

theorem meets_renderParent (hcalls : calls) : Meets C renderParent := by
  refine meets_get_bind fun scope hscope => ?_
  cases hnesting : scope.nesting with
  | nil => exact hscope
  | cons name outer =>
    refine ⟨P.above scope name outer hscope hcalls hnesting, fun found hfound => ?_⟩
    cases found with
    | some b =>
      exact meets_renderBlock P hscope
        (P.foundAbove scope name outer b hscope hcalls hnesting hfound)
    | none => exact hscope

theorem meets_renderNamedBlock (hcalls : calls) (name : String) :
    Meets C (renderNamedBlock name) := by
  intro scope hscope
  refine ⟨P.find scope name hscope (.inl hcalls), fun found hfound => ?_⟩
  cases found with
  | some b => exact meets_renderBlock P hscope (P.found scope name b hscope (.inl hcalls) hfound)
  | none => exact hscope

theorem meets_renderTemplate (t : Template) (parent : Option Template) (c : Context) :
    Meets C (renderTemplate t parent c) :=
  (meets_storeless P (r := .render t parent c []) trivial).bind fun r => meets_settle r

theorem meets_includeFunction (args : List Value) : Meets C (includeFunction args) := by
  refine (meets_findTemplate P _).attempt.bind fun found => ?_
  split
  · split
    · exact meets_pure _
    · exact meets_throw _
  · next t =>
    have hrender (c : Context) : Meets C (do return Value.safe (← renderTemplate t none c)) :=
      (meets_renderTemplate P t none c).bind fun _ => meets_pure _
    have hbindings (bindings : Value) (start : Context) : Meets C (do
        let c ← if bindings.isNone then pure start else settle (mergeObject start bindings)
        return Value.safe (← renderTemplate t none c)) := by
      dsimp only
      split
      · exact (meets_pure _).bind hrender
      · exact (meets_settle _).bind hrender
    dsimp only
    split
    · exact meets_context.bind (hbindings _)
    · exact (meets_pure _).bind (hbindings _)

end
end Rendering

/-! ## Expressions -/

/-- What meets the contract obeys the rules. -/
def Contract.Evaluates.rules {C : Contract} {calls : Prop} (P : C.Evaluates calls) :
    Rendering.VariableRules calls where
  Holds a := Rendering.Meets C a
  settle := Rendering.meets_settle
  bind := Rendering.Meets.bind
  attempt := Rendering.Meets.attempt
  get := Rendering.meets_get
  modifyContext := Rendering.meets_modifyContext P
  ask r h := Rendering.meets_ask (P.storeless r (by cases r <;> first | exact h.elim | trivial))
  renderParent := Rendering.meets_renderParent P
  renderNamedBlock := Rendering.meets_renderNamedBlock P
  includeFunction := Rendering.meets_includeFunction P

namespace Expr
open Rendering
variable {C : Contract} {calls : Prop} (P : C.Evaluates calls) {e : Expr}
  (h : tokensWithin calls e)
include P h

theorem meets_run (stack : Stack) : Meets C (run e stack) :=
  holds_run (R := P.rules.toRules) e h stack

theorem meets_evaluateWith (seed : List Value) : Meets C (evaluateWith seed e) :=
  holds_evaluateWith (R := P.rules.toRules) h seed

theorem meets_evaluate : Meets C (evaluate e) := holds_evaluate (R := P.rules.toRules) h

end Expr
end Stencil
