import Stencil.Proofs.Render.Conduct
import Stencil.Render.Template

/-!
# What nodes and templates ask for

What holds of expressions holds of loops, tags and nodes, and of all that is called by name inside a
template.  A list of nodes goes on after a failure or ends with it, so the contract has to hold on
both ways.
-/
namespace Stencil

/-! ## Tags -/

open Rendering

theorem Loop.meets_passes {C : Contract} {calls : Prop} (P : C.Evaluates calls) {l : Loop}
    (h : optionWithin calls l.guard?) : Meets C l.passes :=
  holds_passes (R := P.rules.toRules) h

theorem Tag.meets_closed {C : Contract} {a : Rendering String} (h : Meets C a) :
    Meets C (render.closed a) :=
  h.bind fun _ => meets_pure _

namespace Rendering
variable {C : Contract} {calls : Prop} (P : C.Evaluates calls)
include P

theorem meets_blockInPlace (name : String) : Meets C (blockInPlace name) := by
  refine meets_get_bind fun scope hscope => ?_
  cases hparent : scope.parent with
  | some parent => exact hscope
  | none =>
    refine ⟨P.find scope name hscope (.inr hparent), fun found hfound => ?_⟩
    cases found with
    | some b =>
      exact meets_bind_at (meets_renderBlock P hscope (P.found scope name b hscope (.inr hparent)
        hfound)) fun v => meets_pure v.text
    | none => exact hscope

theorem meets_inclusionContext {i : Inclusion} (h : i.Within calls) :
    Meets C (inclusionContext i) :=
  holds_inclusionContext (R := P.rules.toRules) h

theorem meets_inclusionTemplate {i : Inclusion} (h : i.Within calls) :
    Meets C (inclusionTemplate i) := by
  refine (Expr.meets_evaluate P h.1).bind fun target =>
    (meets_findTemplate P target).attempt.bind fun found => ?_
  split
  · exact meets_pure _
  · split
    · exact meets_pure _
    · exact meets_throw _

theorem meets_includeTemplate {i : Inclusion} (h : i.Within calls) :
    Meets C (includeTemplate i) := by
  refine (meets_inclusionTemplate P h).bind fun found => ?_
  split
  · exact (meets_inclusionContext P h).bind fun c => meets_renderTemplate P _ _ c
  · exact meets_pure _

theorem meets_embedTemplate {i : Inclusion} (h : i.Within calls) (nodes : List Node) :
    Meets C (embedTemplate i nodes) := by
  refine (meets_inclusionTemplate P h).bind fun found => ?_
  split
  · exact meets_template.bind fun outer => (meets_fresh P).bind fun _ =>
      (meets_inclusionContext P h).bind fun c => meets_renderTemplate P _ _ c
  · exact meets_pure _

theorem meets_macroSource {e : Expr} (h : Expr.tokensWithin calls e) : Meets C (macroSource e) := by
  unfold macroSource
  split
  · exact meets_template
  · exact (Expr.meets_evaluate P h).bind fun v => meets_findTemplate P v

theorem meets_importMacros (source : Template) (names : List (String × String)) :
    Meets C (importMacros source names) :=
  holds_importMacros (R := P.rules) source names

end Rendering

/-- What meets the contract obeys the rules for tags. -/
def Contract.Permits.rules {C : Contract} {calls inherits : Prop} (P : C.Permits calls inherits) :
    TagRules calls inherits where
  toVariableRules := P.evaluates.rules
  autoescape strategy := meets_modify fun s h => P.autoescape s strategy h
  blockInPlace := meets_blockInPlace P.evaluates
  includeTemplate _ h := meets_includeTemplate P.evaluates h
  embedTemplate _ nodes h := meets_embedTemplate P.evaluates h nodes
  macroSource _ h := meets_macroSource P.evaluates h
  inherit hinherits _ h := (Expr.meets_evaluate P.evaluates h).bind fun v =>
    (meets_findTemplate P.evaluates v).bind fun t =>
      (meets_modify fun s hs => P.inherit s t hinherits hs).bind fun _ => meets_pure _

/-! ## What is called by name -/

section
variable {C : Contract}

theorem Rendering.meets_resultIn {α : Type} {scope : Scope} (hscope : C.scopes scope)
    {a : Rendering α} (h : Meets C a) : (resultIn scope a).run.Meets C fun _ => True :=
  Program.Meets.bind (h scope hscope) fun _ _ => trivial

theorem Node.meets_renderAll {calls inherits : Prop} (P : C.Permits calls inherits)
    (nodes : List Node) (h : allWithin calls inherits nodes) (active : Bool) (done : String) :
    Meets C (renderAll active done nodes) :=
  holds_renderAll (R := P.rules) nodes h active done

theorem Block.meets_renderBody {calls inherits : Prop} (P : C.Permits calls inherits) {b : Block}
    (h : match b.body with
      | .nodes nodes => Node.allWithin calls inherits nodes
      | .expression e => Expr.tokensWithin calls e) : Meets C b.renderBody :=
  holds_renderBody (R := P.rules) h

variable (P : C.Permits True True) (hscopes : ∀ scope, C.scopes scope)
include P

namespace Template

omit P in
theorem meets_importBlocks {t : Template} (h : ∀ name b, C.asks (.importBlock t name b))
    (i : BlockImport) (blocks : List (String × Block)) :
    (t.importBlocks i blocks).Meets C fun _ => True := by
  induction blocks with
  | nil => trivial
  | cons entry rest ih => exact ⟨h _ _, fun _ _ => ih⟩

theorem meets_mergeEach {t : Template} (h : ∀ name b, C.asks (.importBlock t name b))
    (imports : List BlockImport) : Meets C (t.mergeEach imports) := by
  induction imports with
  | nil => exact meets_pure _
  | cons i rest ih =>
    exact (Expr.meets_evaluate P.evaluates (Expr.tokensWithin_of trivial _)).bind fun v =>
      (meets_findTemplate P.evaluates v).bind fun source => meets_context.bind fun c =>
        (meets_storeless P.evaluates (r := .mergeImports source c) trivial).bind fun _ =>
          (meets_settle _).bind fun _ =>
            (meets_storeless P.evaluates (r := .links source) trivial).bind fun _ =>
              (meets_lift (meets_importBlocks h i _)).bind fun _ => ih

theorem meets_inheritedBlock (t : Template) (name : String)
    (hfind : ∀ t overrides name, C.asks (.findBlock t overrides name)) :
    (t.inheritedBlock name).Meets C fun _ => True := by
  refine ⟨P.storeless _ trivial, fun links _ => ?_⟩
  dsimp only [Program.bind]
  split
  · trivial
  · exact ⟨hfind _ _ _, fun _ _ => trivial⟩
  · trivial

theorem meets_findBlock (t : Template) (overrides : Dict Block) (name : String)
    (hfind : ∀ t overrides name, C.asks (.findBlock t overrides name)) :
    (t.findBlock overrides name).Meets C fun _ => True := by
  unfold findBlock
  split
  · trivial
  · trivial
  · exact meets_inheritedBlock P t name hfind

include hscopes

theorem meets_callMacro (t : Template) (name : String) (args : List Value) :
    (t.callMacro name args).run.Meets C fun _ => True :=
  Rendering.meets_resultIn (hscopes _) (holds_callMacro (R := P.rules) t name args)

theorem meets_callLambda (t : Template) (params : List String) (body : Expr) (outer : Context)
    (args : List Value) : (t.callLambda params body outer args).run.Meets C fun _ => True :=
  Rendering.meets_resultIn (hscopes _)
    (Expr.meets_evaluate P.evaluates (Expr.tokensWithin_of trivial body))

theorem meets_mergeImports (t : Template) (c : Context) :
    (t.mergeImports c).run.Meets C fun _ => True := by
  refine ⟨P.claim t, fun unresolved hunresolved => ?_⟩
  cases unresolved with
  | false => trivial
  | true =>
    obtain ⟨hrelease, himport⟩ := P.merge t hunresolved
    exact Program.Meets.tryCatch
      (Rendering.meets_resultIn (hscopes _) (meets_mergeEach P himport _))
      fun failure => ⟨hrelease, fun _ _ => trivial⟩

theorem meets_prepare (t : Template) (c : Context) :
    (t.prepare c).run.Meets C fun _ => True := by
  refine Program.Meets.tryCatch (meets_mergeImports P hscopes t c) fun failure => ?_
  have hcase (pass : Bool) : Program.Meets C (fun _ => True) (ExceptT.run
      (if pass then throw (failure.inTemplate t.id)
        else liftM (Program.request (.report (.useFailed t.id failure))) : Attempt Unit)) := by
    cases pass with
    | true => trivial
    | false => exact ⟨P.storeless _ trivial, fun _ _ => trivial⟩
  exact hcase _

theorem meets_render (t : Template) (parent : Option Template) (c : Context)
    (overrides : Dict Block) : (t.render parent c overrides).run.Meets C fun _ => True := by
  refine Program.Meets.bind_attempt (meets_prepare P hscopes t c) fun _ => ?_
  refine Program.Meets.bind_attempt
    (Rendering.meets_resultIn (hscopes _) (holds_text (R := P.rules) t)) fun r => ?_
  dsimp only
  split
  · trivial
  · exact ⟨P.storeless _ trivial, fun _ _ => ⟨P.storeless _ trivial, fun _ _ =>
      ⟨P.storeless _ trivial, fun _ _ => trivial⟩⟩⟩

end Template

include hscopes

theorem Block.meets_render (b : Block) (scope : Scope) :
    (b.render scope).Meets C fun _ => True := by
  refine Program.Meets.bind (Block.meets_renderBody P ?_ _ (hscopes _)) fun _ _ => trivial
  split
  · exact Node.allWithin_of trivial trivial _
  · exact Expr.tokensWithin_of trivial _

theorem Value.meets_call (v : Value) (args : List Value) :
    (v.call args).run.Meets C fun _ => True := by
  unfold call
  split
  · exact Template.meets_callLambda P hscopes _ _ _ _ _
  · exact Template.meets_callMacro P hscopes _ _ _
  · trivial

end
end Stencil
