import Stencil.Proofs.Render.Laws
import Stencil.Render.Expression
import Stencil.Render.Template

/-!
# Rules for renderings

A property of renderings that the steps of a rendering have, and that is kept where they are put
together, is a property of all that is rendered.  The steps are few: a result, a look at the scope,
a change of the variables, a question to the host, and the tags and functions by which one template
comes to blocks and to other templates.  The rules say that all these have the property: the steps
of expressions (`Rendering.Rules`), those that change variables too (`Rendering.VariableRules`), and
those of tags (`Rendering.TagRules`).  From them it follows for expressions, loops, tags and nodes,
each by recursion on what is rendered.
-/
namespace Stencil

/-! ## What stands in an expression -/

namespace Expr

mutual

/-- The token asks for blocks only if `calls` holds. What a function does is not the token's. -/
def Token.Within (calls : Prop) : Token → Prop
  | .function name params => (name = "block" ∨ name = "parent" → calls) ∧ paramsWithin calls params
  | .filter _ params | .test _ _ params => paramsWithin calls params
  | .computedKey tokens | .group tokens _ => tokensWithin calls tokens
  | .keyBrackets tokens params => tokensWithin calls tokens ∧ paramsWithin calls params
  | _ => True
termination_by structural t => t

/-- All tokens of a list ask for blocks only if `calls` holds. -/
def tokensWithin (calls : Prop) : List Token → Prop
  | [] => True
  | t :: rest => t.Within calls ∧ tokensWithin calls rest
termination_by structural l => l

/-- So do optional arguments. -/
def paramsWithin (calls : Prop) : Option (List Token) → Prop
  | none => True
  | some tokens => tokensWithin calls tokens
termination_by structural p => p

end

mutual

theorem Token.within_of {calls : Prop} (h : calls) (t : Token) : t.Within calls := by
  cases t with
  | function name params => exact ⟨fun _ => h, paramsWithin_of h params⟩
  | filter name params => exact paramsWithin_of h params
  | test name negated params => exact paramsWithin_of h params
  | computedKey tokens => exact tokensWithin_of h tokens
  | group tokens call => exact tokensWithin_of h tokens
  | keyBrackets tokens params => exact ⟨tokensWithin_of h tokens, paramsWithin_of h params⟩
  | _ => trivial
termination_by structural t

theorem tokensWithin_of {calls : Prop} (h : calls) (ts : List Token) : tokensWithin calls ts := by
  cases ts with
  | nil => trivial
  | cons t rest => exact ⟨t.within_of h, tokensWithin_of h rest⟩
termination_by structural ts

theorem paramsWithin_of {calls : Prop} (h : calls) (params : Option (List Token)) :
    paramsWithin calls params := by
  cases params with
  | none => trivial
  | some tokens => exact tokensWithin_of h tokens
termination_by structural params

end

end Expr

/-- An optional expression asks for blocks only if `calls` holds. -/
def optionWithin (calls : Prop) : Option Expr → Prop
  | none => True
  | some e => Expr.tokensWithin calls e

/-- The expressions of an inclusion do. -/
def Inclusion.Within (calls : Prop) (i : Inclusion) : Prop :=
  Expr.tokensWithin calls i.expression ∧ optionWithin calls i.bindings

/-- The tag asks for blocks only if `calls` holds, and extends a template only if `inherits` does.
Block tags are apart: they are the blocks. -/
def Tag.Within (calls inherits : Prop) : Tag → Prop
  | .branch e | .elseBranch e | .assign _ e | .imports e _ | .importsNames e _ | .apply e
  | .evaluate e | .deprecated e => Expr.tokensWithin calls e
  | .loop _ _ e guard => Expr.tokensWithin calls e ∧ optionWithin calls guard
  | .inherits e => inherits ∧ Expr.tokensWithin calls e
  | .includes i | .embeds i => i.Within calls
  | .scoped e _ => optionWithin calls e
  | .otherwise | .capture _ | .block .. | .uses .. | .macroDef .. | .spaceless | .autoescape _ =>
    True

/-- What stands between the tag and its end is rendered in place. -/
def Tag.rendersBody : Tag → Bool
  | .block .. | .macroDef .. | .embeds _ => false
  | _ => true

namespace Node

mutual

/-- What is rendered in place of the node asks for blocks only if `calls` holds, and extends a
template only if `inherits` does. -/
def Within (calls inherits : Prop) : Node → Prop
  | .raw _ => True
  | .output e => Expr.tokensWithin calls e
  | .logic tag nodes =>
    tag.Within calls inherits ∧ (tag.rendersBody = true → allWithin calls inherits nodes)
termination_by structural n => n

/-- All nodes of a list do. -/
def allWithin (calls inherits : Prop) : List Node → Prop
  | [] => True
  | n :: rest => n.Within calls inherits ∧ allWithin calls inherits rest
termination_by structural l => l

end

end Node

theorem optionWithin_of {calls : Prop} (h : calls) (e : Option Expr) : optionWithin calls e := by
  cases e with
  | none => trivial
  | some e => exact Expr.tokensWithin_of h e

theorem Tag.within_of {calls inherits : Prop} (hcalls : calls) (hinherits : inherits) (tag : Tag) :
    tag.Within calls inherits := by
  have hexpr := Expr.tokensWithin_of hcalls
  have hoption := optionWithin_of hcalls
  cases tag with
  | loop key value e guard => exact ⟨hexpr e, hoption guard⟩
  | inherits e => exact ⟨hinherits, hexpr e⟩
  | includes i | embeds i => exact ⟨hexpr i.expression, hoption i.bindings⟩
  | «scoped» e only => exact hoption e
  | branch e | elseBranch e | assign _ e | imports e _ | importsNames e _ | apply e | evaluate e
  | deprecated e => exact hexpr e
  | _ => trivial

mutual

theorem Node.within_of {calls inherits : Prop} (hcalls : calls) (hinherits : inherits) (n : Node) :
    n.Within calls inherits := by
  cases n with
  | raw value => trivial
  | output e => exact Expr.tokensWithin_of hcalls e
  | logic tag nodes =>
    exact ⟨tag.within_of hcalls hinherits, fun _ => Node.allWithin_of hcalls hinherits nodes⟩
termination_by structural n

theorem Node.allWithin_of {calls inherits : Prop} (hcalls : calls) (hinherits : inherits)
    (nodes : List Node) : Node.allWithin calls inherits nodes := by
  cases nodes with
  | nil => trivial
  | cons n rest => exact ⟨n.within_of hcalls hinherits, Node.allWithin_of hcalls hinherits rest⟩
termination_by structural nodes

end

/-! ## The rules -/

/-- The request is for a number, a line in the journal, or a call of what the host provides. -/
def Request.Outward : Request → Prop
  | .fresh | .report _ | .filter .. | .test .. | .function .. | .invoke .. => True
  | _ => False

open Rendering

namespace Rendering

/-- A property that what expressions do has. The functions that render blocks need to have it only
if `calls` holds. -/
structure Rules (calls : Prop) where
  Holds : {α : Type} → Rendering α → Prop
  settle : ∀ {α : Type} (r : Except Failure α), Holds (settle r)
  bind : ∀ {α β : Type} {a : Rendering α} {f : α → Rendering β}, Holds a → (∀ v, Holds (f v)) →
    Holds (a >>= f)
  attempt : ∀ {α : Type} {a : Rendering α}, Holds a → Holds (attempt a)
  get : Holds (get : Rendering Scope)
  ask : ∀ r : Request, r.Outward → Holds (ask r)
  renderParent : calls → Holds renderParent
  renderNamedBlock : calls → ∀ name, Holds (renderNamedBlock name)
  includeFunction : ∀ args, Holds (includeFunction args)

/-- A property that also every change of the variables has. -/
structure VariableRules (calls : Prop) extends Rules calls where
  modifyContext : ∀ f, Holds (modifyContext f)

/-- A property that what tags do has. To extend a template needs to have it only if `inherits`
holds. -/
structure TagRules (calls inherits : Prop) extends VariableRules calls where
  autoescape : ∀ strategy, Holds (modify fun scope => { scope with autoescape := strategy })
  blockInPlace : ∀ name, Holds (blockInPlace name)
  includeTemplate : ∀ i : Inclusion, i.Within calls → Holds (includeTemplate i)
  embedTemplate : ∀ (i : Inclusion) (nodes : List Node), i.Within calls →
    Holds (embedTemplate i nodes)
  macroSource : ∀ e, Expr.tokensWithin calls e → Holds (macroSource e)
  inherit : inherits → ∀ e, Expr.tokensWithin calls e → Holds do
    let parent ← findTemplate (← Expr.evaluate e)
    modify fun scope => { scope with parent := some parent }
    return ""

variable {calls inherits : Prop} {R : Rules calls} {α β : Type}

theorem Rules.Holds.bind {a : Rendering α} {f : α → Rendering β} (h : R.Holds a)
    (hf : ∀ v, R.Holds (f v)) : R.Holds (a >>= f) := R.bind h hf

theorem Rules.Holds.attempt {a : Rendering α} (h : R.Holds a) : R.Holds (Rendering.attempt a) :=
  R.attempt h

theorem holds_settle (r : Except Failure α) : R.Holds (settle r) := R.settle r

theorem holds_pure (a : α) : R.Holds (pure a) := R.settle (.ok a)

theorem holds_throw (failure : Failure) : R.Holds (throw failure : Rendering α) :=
  R.settle (.error failure)

theorem Rules.Holds.map {a : Rendering α} (h : R.Holds a) (f : α → β) : R.Holds (f <$> a) :=
  h.bind fun v => holds_pure (f v)

theorem holds_get : R.Holds get := R.get

theorem holds_ask {r : Request} (h : r.Outward) : R.Holds (ask r) := R.ask r h

theorem holds_modifyContext {R : VariableRules calls} (f : Context → Context) :
    R.Holds (modifyContext f) := R.modifyContext f

/-! ## Looking things up -/

theorem holds_context : R.Holds context := holds_get.bind fun _ => holds_pure _

theorem holds_template : R.Holds template := holds_get.bind fun _ => holds_pure _

theorem holds_isStrict : R.Holds isStrict := holds_template.bind fun _ => holds_pure _

theorem holds_lookUpKey (v : Value) (name : String) (container : Container) (tested : Bool) :
    R.Holds (lookUpKey v name container tested) := by
  unfold lookUpKey
  split
  · exact holds_pure _
  · refine holds_isStrict.bind fun strict => ?_
    split
    · exact holds_throw _
    · exact holds_pure _

theorem holds_fresh : R.Holds fresh := holds_ask trivial

theorem holds_setVariable {R : VariableRules calls} (name : String) (v : Value) :
    R.Holds (setVariable name v) := holds_modifyContext _

theorem holds_invoke (callee : Value) (receiver : Option Value) (args : List Value) :
    R.Holds (invoke callee receiver args) :=
  (holds_ask (r := .invoke callee receiver args) trivial).bind fun r => holds_settle r

theorem holds_lookUpVariable (name : String) (rest : List Expr.Token) :
    R.Holds (lookUpVariable name rest) := by
  refine holds_context.bind fun c => ?_
  split
  · exact holds_pure _
  · split
    · exact holds_template.bind fun t => holds_fresh.bind fun _ => holds_pure _
    · refine holds_isStrict.bind fun strict => ?_
      split
      · exact holds_throw _
      · exact holds_pure _

theorem holds_callFunction {name : String} (h : name = "block" ∨ name = "parent" → calls)
    (args : List Value) : R.Holds (callFunction name args) := by
  unfold callFunction
  split
  · exact R.renderParent (h (.inr rfl))
  · exact R.renderNamedBlock (h (.inl rfl)) _
  · exact R.includeFunction args
  · refine (holds_ask (r := .function _ args) trivial).bind fun r => ?_
    split
    · exact holds_settle _
    · refine holds_context.bind fun c => ?_
      split
      · split
        · exact holds_invoke _ _ _
        · exact holds_throw _
      · exact holds_throw _

end Rendering

section
variable {calls : Prop} {R : Rules calls}

/-! ## Expressions -/

namespace Expr

theorem holds_applyToStack {f : Value → Rendering Value} (hf : ∀ v, R.Holds (f v)) (stack : Stack) :
    R.Holds (applyToStack stack f) :=
  (holds_settle _).bind fun r => (hf r.1).bind fun _ => holds_pure _

theorem holds_applyBinary (op : BinaryOp) (stack : Stack) : R.Holds (applyBinary op stack) :=
  (holds_settle _).bind fun _ => (holds_settle _).bind fun _ => holds_fresh.bind fun _ =>
    (holds_settle _).bind fun _ => holds_pure _

theorem holds_endArray (stack : Stack) : R.Holds (endArray stack) :=
  (holds_settle _).bind fun _ => holds_fresh.bind fun _ => holds_pure _

theorem holds_endObject (stack : Stack) : R.Holds (endObject stack) :=
  (holds_settle _).bind fun _ => (holds_settle _).bind fun _ => holds_fresh.bind fun _ =>
    holds_pure _

theorem holds_keyPeriod (name : String) (rest : List Token) (object : Value) :
    R.Holds (do
      let v ← lookUpKey object name .object (testedForDefinition rest)
      if v.isCallable then invoke v (some object) [] else return v) := by
  refine (holds_lookUpKey _ _ _ _).bind fun v => ?_
  split
  · exact holds_invoke _ _ _
  · exact holds_pure _

mutual

theorem holds_run (ts : List Token) (h : tokensWithin calls ts)
    (stack : Stack) : R.Holds (run ts stack) := by
  cases ts with
  | nil => exact holds_pure _
  | cons t rest =>
    rw [tokensWithin] at h
    have hrest := holds_run rest h.2
    have hstep := (holds_step t rest h.1 stack).bind hrest
    cases t with
    | «variable» name =>
      cases rest with
      | nil => exact hstep
      | cons next rest =>
        cases next with
        | group args call =>
          cases call with
          | false => exact hstep
          | true =>
            rw [tokensWithin] at h
            rw [run]
            refine (holds_lookUpVariable name _).bind fun v => ?_
            split
            · exact (holds_run args h.2.1 []).bind fun _ =>
                (holds_invoke v none _).bind fun _ => holds_run rest h.2.2 _
            · exact hrest _
        | _ => exact hstep
    | keyPeriod name =>
      cases rest with
      | nil => exact hstep
      | cons next rest =>
        cases next with
        | group args call =>
          cases call with
          | false => exact hstep
          | true =>
            rw [tokensWithin] at h
            rw [run]
            refine (holds_settle _).bind fun r => (holds_lookUpKey _ _ _ _).bind fun v => ?_
            split
            · exact (holds_run args h.2.1 []).bind fun _ => (holds_invoke v _ _).bind fun _ =>
                holds_run rest h.2.2 _
            · exact holds_run rest h.2.2 _
        | _ => exact hstep
    | _ => exact hstep
termination_by structural ts

theorem holds_step (t : Token) (rest : List Token)
    (h : t.Within calls) (stack : Stack) : R.Holds (step t rest stack) := by
  cases t with
  | number | string | bool | null | objectKey | arrayStart | objectStart | comma =>
    exact holds_pure _
  | context => exact holds_fresh.bind fun _ => holds_context.bind fun _ => holds_pure _
  | «variable» name =>
    refine (holds_lookUpVariable name rest).bind fun v => ?_
    split
    · exact (holds_invoke v none []).bind fun _ => holds_pure _
    · exact holds_pure _
  | lambda params body =>
    exact holds_fresh.bind fun _ => holds_template.bind fun _ => holds_context.bind fun _ =>
      holds_pure _
  | function name params =>
    rw [Token.Within] at h
    exact (holds_arguments params h.2).bind fun args =>
      (holds_callFunction h.1 args).bind fun _ => holds_pure _
  | filter name params =>
    exact (holds_settle _).bind fun r => (holds_arguments params h).bind fun args =>
      (holds_ask (r := .filter name r.1 args) trivial).bind fun _ =>
        (holds_settle _).bind fun _ => holds_pure _
  | test name negated params =>
    exact (holds_settle _).bind fun r => (holds_arguments params h).bind fun args =>
      (holds_ask (r := .test name r.1 args) trivial).bind fun _ =>
        (holds_settle _).bind fun _ => holds_pure _
  | unary op => exact holds_applyToStack (fun v => holds_pure _) stack
  | binary op =>
    cases op with
    | conditional => exact holds_settle _
    | _ => exact holds_applyBinary _ stack
  | computedKey tokens =>
    exact (holds_run tokens h []).bind fun _ => holds_pure _
  | arrayEnd => exact holds_endArray stack
  | objectEnd => exact holds_endObject stack
  | group tokens call =>
    cases call with
    | false => exact (holds_run tokens h []).bind fun _ => holds_pure _
    | true =>
      exact (holds_settle _).bind fun r => (holds_run tokens h []).bind fun _ =>
        (holds_invoke r.1 none _).bind fun _ => holds_pure _
  | keyPeriod name => exact holds_applyToStack (holds_keyPeriod name rest) stack
  | keyBrackets tokens params =>
    rw [Token.Within] at h
    refine (holds_settle _).bind fun r => (holds_run tokens h.1 []).bind fun key =>
      (holds_lookUpKey _ _ _ _).bind fun v => ?_
    split
    · exact (holds_arguments params h.2).bind fun args =>
        (holds_invoke v _ args).bind fun _ => holds_pure _
    · exact holds_pure _
  | slice start stop =>
    rw [step]
    exact holds_applyToStack (fun v => holds_fresh.bind fun _ => holds_pure _) stack
termination_by structural t

theorem holds_arguments (params : Option (List Token))
    (h : paramsWithin calls params) : R.Holds (arguments params) := by
  cases params with
  | none => exact holds_pure _
  | some tokens =>
    rw [paramsWithin] at h
    rw [arguments]
    exact (holds_run tokens h []).bind fun _ => holds_pure _
termination_by structural params

end

theorem holds_evaluateWith {e : Expr} (h : tokensWithin calls e)
    (seed : List Value) : R.Holds (evaluateWith seed e) :=
  (holds_run e h _).bind fun _ => holds_pure _

theorem holds_evaluate {e : Expr} (h : tokensWithin calls e) :
    R.Holds (evaluate e) := holds_evaluateWith h []

end Expr

/-! ## Loops -/

namespace Loop

theorem holds_passes {l : Loop} (h : optionWithin calls l.guard?) : R.Holds l.passes := by
  unfold passes
  split
  · next condition heq =>
    rw [heq] at h
    exact (Expr.holds_evaluate h).bind fun _ => holds_pure _
  · exact holds_pure _

theorem holds_runs {R : VariableRules calls} {l : Loop} (h : optionWithin calls l.guard?)
    {body : Rendering String} (hbody : R.Holds body) (entries : List (Value × Value))
    (index : Nat) (done : String) : R.Holds (l.runs body entries index done) := by
  induction entries generalizing index done with
  | nil => exact holds_pure _
  | cons entry rest ih =>
    rw [runs]
    refine (holds_modifyContext _).bind fun _ => (holds_passes h).bind fun passed => ?_
    split
    · exact holds_fresh.bind fun _ => (holds_setVariable _ _).bind fun _ =>
        hbody.bind fun _ => ih _ _
    · exact ih _ _

theorem holds_render {R : VariableRules calls} (names : LoopNames) {e : Expr}
    {guard? : Option Expr} (he : Expr.tokensWithin calls e) (hguard : optionWithin calls guard?)
    {body : Rendering String} (hbody : R.Holds body) : R.Holds (render names e guard? body) :=
  (Expr.holds_evaluate he).bind fun _ => holds_context.bind fun outer =>
    holds_fresh.bind fun identity =>
      (holds_runs (l := ⟨names, guard?, _, .object identity outer⟩) hguard hbody _ _ _).bind
        fun _ => (holds_modifyContext _).bind fun _ => holds_pure _

end Loop

/-! ## Tags -/

namespace Rendering
variable {α : Type}

theorem holds_restoring {restore : Scope → Scope} (hrestore : R.Holds (modify restore))
    {a : Rendering α} (h : R.Holds a) : R.Holds (restoring restore a) :=
  h.attempt.bind fun _ => hrestore.bind fun _ => holds_settle _

theorem holds_outputText (v : Value) : R.Holds (outputText v) :=
  holds_get.bind fun _ => holds_pure _

theorem holds_inclusionContext {i : Inclusion} (h : i.Within calls) :
    R.Holds (inclusionContext i) := by
  unfold inclusionContext
  cases heq : i.bindings with
  | none =>
    dsimp only
    split
    · exact (holds_pure _).bind fun _ => holds_pure _
    · exact holds_context.bind fun _ => holds_pure _
  | some e =>
    have he := h.2
    rw [heq] at he
    have hmerged (start : Context) : R.Holds (do settle (mergeObject start (← Expr.evaluate e))) :=
      (Expr.holds_evaluate he).bind fun _ => holds_settle _
    dsimp only
    split
    · exact (holds_pure _).bind hmerged
    · exact holds_context.bind hmerged

theorem holds_importMacros {R : VariableRules calls} (source : Template)
    (names : List (String × String)) : R.Holds (importMacros source names) := by
  induction names with
  | nil => exact holds_pure _
  | cons entry rest ih =>
    rw [importMacros]
    split
    · exact (holds_setVariable _ _).bind fun _ => ih
    · exact holds_throw _

/-- The variables of the body are bound, once they have been evaluated. -/
theorem holds_bound {R : VariableRules calls} (bindings : Option Value) (only : Bool)
    {body : Rendering String} (hbody : R.Holds body) : R.Holds (do
      let saved ← context
      if only then modifyContext fun _ => []
      match bindings with
      | some v => do
        let c ← settle (mergeObject (← context) v)
        modifyContext fun _ => c
      | none => pure ()
      restoring (fun scope => { scope with context := saved }) body) := by
  have hrest (saved : Context) :
      R.Holds (restoring (fun scope => { scope with context := saved }) body) :=
    holds_restoring (holds_modifyContext fun _ => saved) hbody
  have hbindings (v : Value) (saved : Context) : R.Holds (do
      let c ← settle (mergeObject (← context) v)
      modifyContext fun _ => c
      restoring (fun scope => { scope with context := saved }) body) :=
    holds_context.bind fun _ => (holds_settle _).bind fun _ =>
      (holds_modifyContext _).bind fun _ => hrest saved
  refine holds_context.bind fun saved => ?_
  cases bindings with
  | none =>
    dsimp only
    split
    · exact (holds_modifyContext _).bind fun _ => hrest saved
    · exact hrest saved
  | some v =>
    dsimp only
    split
    · exact (holds_modifyContext _).bind fun _ => hbindings v saved
    · exact hbindings v saved

theorem holds_withVariables {R : VariableRules calls} {e : Option Expr}
    (h : optionWithin calls e) (only : Bool) {body : Rendering String} (hbody : R.Holds body) :
    R.Holds (withVariables e only body) := by
  unfold withVariables
  cases e with
  | none => exact (holds_pure _).bind fun bindings => holds_bound bindings only hbody
  | some e =>
    exact ((Expr.holds_evaluate h).map some).bind fun bindings =>
      holds_bound bindings only hbody

theorem holds_endList (done : String) (failure : Failure) : R.Holds (endList done failure) := by
  refine holds_template.bind fun t => ?_
  split
  · exact holds_throw _
  · exact (holds_ask (r := .report (.renderFailed t.id failure)) trivial).bind fun _ =>
      holds_pure _

end Rendering
end

section
variable {calls inherits : Prop} {R : TagRules calls inherits}

theorem Rendering.holds_withAutoescape (strategy : Autoescape) {body : Rendering String}
    (hbody : R.Holds body) : R.Holds (withAutoescape strategy body) :=
  holds_get.bind fun scope => Rules.Holds.bind (R.autoescape strategy) fun _ =>
    holds_restoring (R.autoescape scope.autoescape) hbody

namespace Tag

theorem holds_closed {a : Rendering String} (h : R.Holds a) : R.Holds (render.closed a) :=
  h.bind fun _ => holds_pure _

theorem holds_branchOn {e : Expr} (h : Expr.tokensWithin calls e) {body : Rendering String}
    (hbody : R.Holds body) : R.Holds (render.branchOn body e) := by
  refine (Expr.holds_evaluate h).bind fun v => ?_
  split
  · exact hbody.bind fun _ => holds_pure _
  · exact holds_pure _

theorem holds_render {tag : Tag} (h : tag.Within calls inherits) (active : Bool)
    (nodes : List Node) {body : Rendering String} (hbody : tag.rendersBody = true → R.Holds body) :
    R.Holds (tag.render active nodes body) := by
  cases tag with
  | branch condition => exact holds_branchOn h (hbody rfl)
  | elseBranch condition =>
    rw [render]
    split
    · exact holds_branchOn h (hbody rfl)
    · exact holds_pure _
  | otherwise =>
    rw [render]
    split
    · exact holds_closed (hbody rfl)
    · exact holds_pure _
  | loop key value expression guard? =>
    exact (Loop.holds_render ⟨key, value⟩ h.1 h.2 (hbody rfl)).bind fun _ => holds_pure _
  | assign name expression =>
    exact holds_closed ((Expr.holds_evaluate h).bind fun v =>
      (holds_setVariable name v).bind fun _ => holds_pure _)
  | capture name =>
    exact holds_closed ((hbody rfl).bind fun text =>
      (holds_setVariable name (.safe text)).bind fun _ => holds_pure _)
  | block name expression => exact holds_closed (R.blockInPlace name)
  | inherits expression =>
    exact holds_closed (R.inherit h.1 expression h.2)
  | uses expression renames => exact holds_pure _
  | macroDef name params => exact holds_pure _
  | includes inclusion => exact holds_closed (R.includeTemplate inclusion h)
  | embeds inclusion => exact holds_closed (R.embedTemplate inclusion nodes h)
  | imports expression name =>
    exact holds_closed (Rules.Holds.bind (R.macroSource expression h) fun source =>
      holds_fresh.bind fun _ => (holds_setVariable name _).bind fun _ => holds_pure _)
  | importsNames expression names =>
    exact holds_closed (Rules.Holds.bind (R.macroSource expression h) fun source =>
      (holds_importMacros source names).bind fun _ => holds_pure _)
  | «scoped» expression only => exact holds_closed (holds_withVariables h only (hbody rfl))
  | spaceless => exact holds_closed ((hbody rfl).bind fun _ => holds_pure _)
  | apply filters =>
    exact holds_closed ((hbody rfl).bind fun _ => (Expr.holds_evaluateWith h _).bind fun _ =>
      holds_pure _)
  | autoescape strategy => exact holds_closed (holds_withAutoescape strategy (hbody rfl))
  | evaluate expression =>
    exact holds_closed ((Expr.holds_evaluate h).bind fun _ => holds_pure _)
  | deprecated message =>
    exact holds_closed ((Expr.holds_evaluate h).bind fun v => holds_template.bind fun t =>
      (holds_ask (r := .report (.deprecated t.id v.text)) trivial).bind fun _ =>
        holds_pure _)

end Tag

/-! ## Nodes -/

namespace Node

mutual

theorem holds_render (n : Node) (h : n.Within calls inherits)
    (active : Bool) : R.Holds (render active n) := by
  cases n with
  | raw value => exact holds_pure _
  | output e =>
    exact (Expr.holds_evaluate h).bind fun v => (holds_outputText v).bind fun _ =>
      holds_pure _
  | logic tag nodes =>
    rw [Within] at h
    rw [render]
    exact Tag.holds_render h.1 active nodes fun hbody =>
      holds_renderAll nodes (h.2 hbody) false ""
termination_by structural n

theorem holds_renderAll (nodes : List Node)
    (h : allWithin calls inherits nodes) (active : Bool) (done : String) :
    R.Holds (renderAll active done nodes) := by
  cases nodes with
  | nil => exact holds_pure _
  | cons n rest =>
    rw [allWithin] at h
    rw [renderAll]
    -- a node that fails leaves a scope of the contract as well
    refine (holds_render n h.1 active).attempt.bind fun r => ?_
    split
    · exact holds_renderAll rest h.2 _ _
    · exact holds_endList _ _
termination_by structural nodes

end

end Node

/-! ## What is called by name -/

theorem Block.holds_renderBody {b : Block}
    (h : match b.body with
      | .nodes nodes => Node.allWithin calls inherits nodes
      | .expression e => Expr.tokensWithin calls e) : R.Holds b.renderBody := by
  unfold renderBody
  split
  · next nodes heq =>
    rw [heq] at h
    exact (Node.holds_renderAll nodes h _ _).bind fun _ => holds_pure _
  · next e heq =>
    rw [heq] at h
    exact (Expr.holds_evaluate h).bind fun v => (holds_outputText v).bind fun _ =>
      holds_pure _

namespace Template

theorem holds_bindParams {R : VariableRules True} (params : List MacroParam) (args : List Value) :
    R.Holds (bindParams params args) := by
  induction params generalizing args with
  | nil => exact holds_pure _
  | cons p rest ih =>
    cases args with
    | nil =>
      have hbind (v : Value) : R.Holds (do setVariable p.name v; bindParams rest []) :=
        (holds_setVariable p.name v).bind fun _ => ih []
      rw [bindParams]
      cases p.default with
      | none => exact (holds_pure _).bind hbind
      | some e =>
        exact (Expr.holds_evaluate (Expr.tokensWithin_of trivial e)).bind hbind
    | cons v args =>
      exact (holds_setVariable p.name v).bind fun _ => ih args

theorem holds_callMacro {R : TagRules True True} (t : Template) (name : String)
    (args : List Value) : R.Holds (match t.macros.find? name with
      | none => throw (.runtime (importMacros.undefinedMacro t name))
      | some definition => do
        let left ← bindParams definition.params args
        setVariable "varargs" (.array (← fresh) left)
        return Value.safe (← Node.renderAll false "" definition.body)) := by
  split
  · exact holds_throw _
  · next definition _ =>
    exact (holds_bindParams _ args).bind fun left => holds_fresh.bind fun _ =>
      (holds_setVariable _ _).bind fun _ =>
        (Node.holds_renderAll _ (Node.allWithin_of trivial trivial _) _ _).bind fun _ =>
          holds_pure _

/-- The text of a template, and the scope that is left. -/
theorem holds_text {R : TagRules True True} (t : Template) :
    R.Holds (do return (← Node.renderAll false "" t.nodes, ← get)) :=
  (Node.holds_renderAll _ (Node.allWithin_of trivial trivial _) _ _).bind fun text =>
    holds_get.bind fun scope => holds_pure (text, scope)

end Template

end
end Stencil
