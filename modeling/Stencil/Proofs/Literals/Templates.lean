import Stencil.Proofs.Inheritance.Streams
import Stencil.Proofs.Literals.Nodes

/-!
# Templates fail for no literal

Whole templates, and what is called by name inside them: blocks, macros, functions, and the blocks
that `use` tags bring in.
-/
namespace Stencil
open Stencil.Expr (Sound)
open Rendering

/-! ## Blocks -/

namespace Block

theorem conserves_renderBody {b : Block} (h : b.body.Holds Sound) :
    Conserves Sound (Value.Holds Sound) b.renderBody := by
  obtain ⟨t, name, body⟩ := b
  cases body with
  | nodes nodes =>
    exact (Node.conserves_renderAll nodes h false "").bind fun _ _ => gives_pure trivial
  | expression e =>
    exact (Expr.conserves_evaluate h).bind fun v _ => (conserves_outputText v).bind fun _ _ =>
      gives_pure trivial

theorem conserves_render {b : Block} (hb : b.Holds Sound) {s : Scope} (hs : s.Holds Sound) :
    (b.render s).Meets (.holding Sound) (BlockResult.Holds Sound) := by
  have hinner :
      Scope.Holds Sound { s with template := b.template, nesting := b.name :: s.nesting } :=
    { hs with template := hb.1 }
  exact Program.Meets.bind (conserves_renderBody hb.2 _ hinner) fun _ ⟨hafter, hr⟩ =>
    ⟨hr, hafter.context, hafter.parent⟩

end Block

/-! ## Macros and functions -/

namespace Template

theorem conserves_bindParams {params : List MacroParam}
    (hparams : ∀ p ∈ params, ∀ e ∈ p.default, Sound e) {args : List Value}
    (hargs : ∀ v ∈ args, v.Holds Sound) :
    Conserves Sound (fun left => ∀ v ∈ left, v.Holds Sound) (bindParams params args) := by
  induction params generalizing args with
  | nil => exact gives_pure hargs
  | cons p rest ih =>
    obtain ⟨hp, hrest⟩ := List.forall_mem_cons.mp hparams
    cases args with
    | nil =>
      have hbind (v : Value) (hv : v.Holds Sound) :
          Conserves Sound (fun left => ∀ v ∈ left, v.Holds Sound)
            (do setVariable p.name v; bindParams rest []) :=
        (conserves_setVariable p.name hv).bind fun _ _ => ih hrest hargs
      rw [bindParams]
      cases heq : p.default with
      | none =>
        have hundefined : Conserves Sound (Value.Holds Sound) (pure .undefined) :=
          gives_pure trivial
        exact hundefined.bind hbind
      | some e => exact (Expr.conserves_evaluate (hp e heq)).bind hbind
    | cons v args =>
      obtain ⟨hv, hargs⟩ := List.forall_mem_cons.mp hargs
      exact (conserves_setVariable p.name hv).bind fun _ _ => ih hrest hargs

theorem conserves_callMacro {t : Template} (ht : t.Holds Sound) (name : String) {args : List Value}
    (hargs : ∀ v ∈ args, v.Holds Sound) :
    Attempt.Conserves Sound (Value.Holds Sound) (t.callMacro name args) := by
  unfold callMacro
  refine gives_resultIn ?_ (ht.start Dict.all_nil)
  cases hfound : t.macros.find? name with
  | none => exact gives_throw (Cause.balanced_of_ne (by rintro _ ⟨⟩))
  | some definition =>
    obtain ⟨hparams, hbody⟩ := ht.macros.find? hfound
    exact (conserves_bindParams hparams hargs).bind fun left hleft => conserves_fresh.bind
      fun identity _ => (conserves_setVariable "varargs"
        (Value.holds_array identity hleft)).bind fun _ _ =>
          (Node.conserves_renderAll definition.body hbody false "").bind fun _ _ =>
          gives_pure trivial

/-- The parameters of a function are bound to its arguments, or to nothing. -/
theorem holds_params (params : List (String × Nat)) {outer : Context}
    (houter : outer.All (Value.Holds Sound)) {args : List Value}
    (hargs : ∀ v ∈ args, v.Holds Sound) :
    Dict.All (Value.Holds Sound)
      (params.foldl (fun c p => c.insert p.1 (args[p.2]?.getD .undefined)) outer) := by
  induction params generalizing outer with
  | nil => exact houter
  | cons p rest ih =>
    rw [List.foldl_cons]
    refine ih (houter.insert p.1 ?_)
    cases hv : args[p.2]? with
    | none => trivial
    | some v => exact hargs v (List.mem_of_getElem? hv)

theorem conserves_callLambda {t : Template} (ht : t.Holds Sound) (params : List String)
    {body : Expr} (hbody : Sound body) {outer : Context} (houter : outer.All (Value.Holds Sound))
    {args : List Value} (hargs : ∀ v ∈ args, v.Holds Sound) :
    Attempt.Conserves Sound (Value.Holds Sound) (t.callLambda params body outer args) :=
  gives_resultIn (Expr.conserves_evaluate hbody)
    (ht.start (holds_params params.zipIdx houter hargs))

/-! ## Imports -/

theorem meets_importBlocks_holding {t : Template} (ht : t.Holds Sound) (i : BlockImport)
    {blocks : List (String × Block)} (hblocks : Dict.All (Block.Holds Sound) blocks) :
    (t.importBlocks i blocks).Meets (.holding Sound) fun _ => True := by
  induction blocks with
  | nil => trivial
  | cons entry rest ih =>
    obtain ⟨hb, hrest⟩ := Dict.all_cons.mp hblocks
    exact ⟨⟨ht, hb⟩, fun _ _ => ih hrest⟩

theorem conserves_mergeEach {t : Template} (ht : t.Holds Sound) {imports : List BlockImport}
    (himports : ∀ i ∈ imports, Sound i.expression) :
    Conserves Sound (fun _ => True) (t.mergeEach imports) := by
  induction imports with
  | nil => exact gives_pure trivial
  | cons i rest ih =>
    obtain ⟨hi, hrest⟩ := List.forall_mem_cons.mp himports
    refine (Expr.conserves_evaluate hi).bind fun _ _ => conserves_find.bind fun source hsource =>
      conserves_context.bind fun c hc => ?_
    have hmerge : Conserves Sound (Request.Returns Sound (.mergeImports source c))
        (ask (.mergeImports source c)) := gives_ask ⟨hsource, hc⟩
    refine hmerge.bind fun _ ha => (gives_settle ha).bind fun _ _ =>
      (gives_ask (r := .links source) hsource).bind fun links hlinks =>
        (gives_lift (meets_importBlocks_holding ht i ?_)).bind fun _ _ => ih hrest
    exact hlinks.imported.merge hsource.definedBlocks

theorem conserves_mergeImports {t : Template} (ht : t.Holds Sound) {c : Context}
    (hc : c.All (Value.Holds Sound)) :
    Attempt.Conserves Sound (fun _ => True) (t.mergeImports c) := by
  have hclaim : Attempt.Conserves Sound (fun _ => True)
      (liftM (Program.request (.claimImports t))) :=
    Attempt.gives_lift ⟨ht, fun _ _ => trivial⟩
  refine hclaim.bind fun unresolved _ => ?_
  split
  · have hmerge :=
      gives_resultIn (conserves_mergeEach ht fun i hi => ht.blockImports hi) (ht.start hc)
    -- the claim is given up, and the failure is the one that was caught
    refine hmerge.tryCatch fun failure hcause => ?_
    have hrelease : Attempt.Conserves Sound (fun _ => True)
        (liftM (Program.request (.releaseImports t))) :=
      Attempt.gives_lift ⟨ht, fun _ _ => trivial⟩
    exact hrelease.bind fun _ _ => Attempt.gives_throw hcause
  · exact Attempt.gives_pure trivial

theorem conserves_prepare {t : Template} (ht : t.Holds Sound) {c : Context}
    (hc : c.All (Value.Holds Sound)) : Attempt.Conserves Sound (fun _ => True) (t.prepare c) := by
  refine (conserves_mergeImports ht hc).tryCatch fun failure hcause => ?_
  have hcase (pass : Bool) : Attempt.Conserves Sound (fun _ => True)
      (if pass then throw (failure.inTemplate t.id)
        else liftM (Program.request (.report (.useFailed t.id failure))) : Attempt Unit) := by
    cases pass with
    | true =>
      refine Attempt.gives_throw ?_
      rw [Failure.cause_inTemplate]
      exact hcause
    | false =>
      refine Attempt.gives_lift ⟨?_, fun _ _ => trivial⟩
      rintro _ ⟨⟩
      exact hcause
  exact hcase _

/-! ## Texts -/

theorem conserves_finish {t : Template} (ht : t.Holds Sound) (text : String) {s : Scope}
    (hs : s.Holds Sound) : Attempt.Conserves Sound (fun _ => True) (t.finish text s) := by
  unfold finish
  split
  · exact Attempt.gives_pure trivial
  · next parent heq =>
    have hparent : parent.Holds Sound := hs.parent parent heq
    have hset : Attempt.Conserves Sound (fun _ => True)
        (liftM (Program.request (.setParent t parent))) :=
      Attempt.gives_lift ⟨⟨ht, hparent⟩, fun _ _ => trivial⟩
    have hlinks : Attempt.Conserves Sound (Links.Holds Sound)
        (liftM (Program.request (.links t))) :=
      Attempt.gives_lift ⟨ht, fun _ hl => hl⟩
    -- the parent is rendered with all blocks that are offered to it
    refine hset.bind fun _ _ => hlinks.bind fun links hl => ?_
    exact ⟨⟨hparent, holds_noParent, hs.context, ht.offeredBlocks hl hs.overrides⟩, fun _ hr => hr⟩

/-- **Templates with sound expressions fail for no literal.** -/
theorem conserves_render {t : Template} (ht : t.Holds Sound) {parent : Option Template}
    (hparent : ∀ p ∈ parent, p.Holds Sound) {c : Context} (hc : c.All (Value.Holds Sound))
    {overrides : Dict Block} (hoverrides : overrides.All (Block.Holds Sound)) :
    Attempt.Conserves Sound (fun _ => True) (t.render parent c overrides) := by
  have hstart : Scope.Holds Sound { Scope.start t c with overrides, parent } :=
    { ht.start hc with overrides := hoverrides, parent := hparent }
  have hnodes : Conserves Sound (fun r : String × Scope => r.2.Holds Sound)
      (do return (← Node.renderAll false "" t.nodes, ← get)) :=
    (Node.conserves_renderAll t.nodes ht false "").bind fun _ _ => gives_get.bind fun _ hs =>
      gives_pure hs
  exact (conserves_prepare ht hc).bind fun _ _ => (gives_resultIn hnodes hstart).bind fun r hs =>
    conserves_finish ht r.1 hs

/-! ## Looking for blocks -/

theorem conserves_inheritedBlock {t : Template} (ht : t.Holds Sound) (name : String) :
    (t.inheritedBlock name).Meets (.holding Sound)
      fun b => ∀ found ∈ b, found.Holds Sound := by
  refine ⟨ht, fun links hlinks => ?_⟩
  show Program.Meets _ _ (Program.bind (.done links) _)
  dsimp only [Program.bind]
  split
  · next hb =>
    rintro _ ⟨⟩
    exact hlinks.imported.find? hb
  · next parent _ hparent =>
    exact ⟨⟨hlinks.parent parent hparent, Dict.all_nil⟩, fun _ hb => hb⟩
  · rintro _ ⟨⟩

theorem conserves_findBlock {t : Template} (ht : t.Holds Sound) {overrides : Dict Block}
    (hoverrides : overrides.All (Block.Holds Sound)) (name : String) :
    (t.findBlock overrides name).Meets (.holding Sound)
      fun b => ∀ found ∈ b, found.Holds Sound := by
  unfold findBlock
  split
  · next hb =>
    rintro _ ⟨⟩
    exact hoverrides.find? hb
  · next b _ hb =>
    rintro _ ⟨⟩
    exact ht.block? hb
  · exact conserves_inheritedBlock ht name

end Template

/-- A value that is called. -/
theorem Value.conserves_call {v : Value} (hv : v.Holds Sound) {args : List Value}
    (hargs : ∀ a ∈ args, a.Holds Sound) :
    Attempt.Conserves Sound (Value.Holds Sound) (v.call args) := by
  unfold call
  split
  · next identity params body t outer =>
    obtain ⟨⟨hbody, ht⟩, houter⟩ := within_lambda.mp hv
    exact Template.conserves_callLambda ht params hbody houter hargs
  · exact Template.conserves_callMacro hv _ hargs
  · exact Attempt.gives_pure hv

end Stencil
