import Stencil.Proofs.Inheritance.Streams
import Stencil.Proofs.Settings.Nodes

/-!
# Templates in tandem

Whole templates, and what is called by name inside them: blocks, macros, functions, and the blocks
that `use` tags bring in.
-/
namespace Stencil
open Rendering

variable {K : Pairing}

/-! ## Blocks -/

namespace Block

/-- The value of a body is the text that it puts out. -/
theorem tandem_renderBody {b : Block} (h : b.body.Guarded K.text K.escapes) :
    Tandem K K.failing (fun v v' => v.IsOutput K ∧ v' = v.adjust K.adjust) b.renderBody
      (b.adjust K.adjust).renderBody := by
  obtain ⟨t, name, body⟩ := b
  cases body with
  | nodes nodes =>
    refine (Node.tandem_text h).bind ?_
    rintro _ text ⟨htext, rfl⟩
    exact tandem_pure ⟨⟨_, htext, rfl⟩, rfl⟩
  | expression e =>
    refine (Expr.tandem_evaluate h).bind fun _ _ hv => (tandem_outputText hv).bind ?_
    rintro _ text ⟨htext, rfl⟩
    exact tandem_pure ⟨⟨_, htext, rfl⟩, rfl⟩

theorem tandem_render {b : Block} (hb : b.Fits K) {s : Scope} (hs : s.Fits K) :
    Program.Tandem K (fun r r' => r.Fits K ∧ r' = r.adjust K.adjust)
      (fun c r => ∃ failure, r.result = .error failure ∧ failure.cause = c) (b.render s)
      ((b.adjust K.adjust).render (s.adjust K.adjust)) := by
  have hinner : Scope.Fits K { s with template := b.template, nesting := b.name :: s.nesting } :=
    { hs with template := hb.1 }
  refine (tandem_renderBody hb.2 _ hinner).bind ?_ ?_
  · rintro ⟨r, after⟩ ⟨r', _⟩ ⟨hafter, rfl, hr⟩
    refine .done ⟨⟨?_, hafter.context, hafter.parent⟩, ?_⟩
    · cases hr with
      | ok hv => exact hv.1
      | error hcause => exact hcause
    · cases hr with
      | ok hv =>
        obtain ⟨-, rfl⟩ := hv
        rfl
      | error hcause => rfl
  · rintro - c ⟨r, after⟩ ⟨⟨failure, hr, hcause, -⟩, -⟩
    exact .done ⟨failure, hr, hcause⟩

end Block

/-! ## What a template defines -/

namespace Template

theorem tandem_bindParams {params : List MacroParam}
    (hparams : ∀ p ∈ params, Expr.paramsGuarded (∀ s, K.text s) p.default)
    {args args' : List Value} (hargs : K.args args args') :
    Tandem K K.failing K.args (bindParams params args) (bindParams params args') := by
  induction params generalizing args args' with
  | nil => exact tandem_pure hargs
  | cons p rest ih =>
    obtain ⟨hp, hrest⟩ := List.forall_mem_cons.mp hparams
    obtain ⟨hargs, rfl⟩ := hargs
    cases args with
    | nil =>
      have hbind (v v' : Value) (hv : K.values v v') :
          Tandem K K.failing K.args (do setVariable p.name v; bindParams rest [])
            (do setVariable p.name v'; bindParams rest []) :=
        (tandem_setVariable p.name hv).bind fun _ _ _ => ih hrest Pairing.args_nil
      rw [List.map_nil, bindParams]
      cases heq : p.default with
      | none =>
        refine Tandem.bind (tandem_pure ?_) hbind
        exact ⟨trivial, rfl⟩
      | some e =>
        rw [heq] at hp
        exact (Expr.tandem_evaluate hp).bind hbind
    | cons v args =>
      obtain ⟨hv, hargs⟩ := List.forall_mem_cons.mp hargs
      exact (tandem_setVariable p.name ⟨hv, rfl⟩).bind fun _ _ _ => ih hrest ⟨hargs, rfl⟩

theorem tandem_callMacro {t : Template} (ht : t.Fits K) (name : String) {args args' : List Value}
    (hargs : K.args args args') :
    Attempt.Tandem K K.failing K.values (t.callMacro name args)
      ((t.adjust K.adjust).callMacro name args') := by
  unfold callMacro
  rw [← Dict.mapValues_nil (Value.adjust K.adjust), Scope.start_adjust]
  refine tandem_resultIn ?_ (Scope.fits_start ht Dict.all_nil)
  rw [macros_adjust]
  cases hfound : t.macros.find? name with
  | none => exact tandem_throw (K.cause_of_ne _ (by nofun))
  | some definition =>
    obtain ⟨hparams, hbody⟩ := (macros_guarded ht.2).find? hfound
    refine (tandem_bindParams hparams hargs).bind ?_
    rintro left _ ⟨hleft, rfl⟩
    refine tandem_fresh.bind ?_
    rintro identity _ rfl
    refine (tandem_setVariable "varargs" (v := .array identity left)
      ⟨Value.Fits.array hleft identity, (Value.adjust_array _ _ _).symm⟩).bind fun _ _ _ => ?_
    refine (Node.tandem_text hbody).bind ?_
    rintro _ text ⟨htext, rfl⟩
    refine tandem_pure ?_
    exact ⟨htext, rfl⟩

/-- The parameters of a function are bound to its arguments, or to nothing. -/
theorem variables_params (params : List (String × Nat)) {outer outer' : Context}
    (houter : K.contexts outer outer') {args args' : List Value} (hargs : K.args args args') :
    K.contexts
      (params.foldl (fun c p => c.insert p.1 (args[p.2]?.getD .undefined)) outer)
      (params.foldl (fun c p => c.insert p.1 (args'[p.2]?.getD .undefined)) outer') := by
  obtain ⟨hargs, rfl⟩ := hargs
  induction params generalizing outer outer' with
  | nil => exact houter
  | cons p rest ih =>
    obtain ⟨houter, rfl⟩ := houter
    rw [List.foldl_cons, List.foldl_cons]
    refine ih ?_
    rw [List.getElem?_map]
    cases hv : args[p.2]? with
    | none =>
      exact ⟨houter.insert p.1 (show Value.undefined.Fits K from trivial),
        (Dict.mapValues_insert (Value.adjust K.adjust) outer p.1 .undefined).symm⟩
    | some v =>
      exact ⟨houter.insert p.1 (hargs v (List.mem_of_getElem? hv)),
        (Dict.mapValues_insert _ _ _ _).symm⟩

theorem tandem_callLambda {t : Template} (ht : t.Fits K) (params : List String) {body : Expr}
    (hbody : K.Tokens body) {outer : Context} (houter : K.Variables outer)
    {args args' : List Value} (hargs : K.args args args') :
    Attempt.Tandem K K.failing K.values (t.callLambda params body outer args)
      ((t.adjust K.adjust).callLambda params body (Dict.mapValues (Value.adjust K.adjust) outer)
        args') := by
  obtain ⟨hvariables, heq⟩ := variables_params params.zipIdx ⟨houter, rfl⟩ hargs
  unfold callLambda
  dsimp only
  rw [heq, Scope.start_adjust]
  exact tandem_resultIn (Expr.tandem_evaluate hbody) (Scope.fits_start ht hvariables)

/-! ## Imports -/

theorem tandem_importBlocks {t : Template} (ht : t.Fits K) (i : BlockImport)
    {blocks : List (String × Block)} (hblocks : K.Blocks blocks) :
    Program.Tandem K Eq (fun _ _ => False) (t.importBlocks i blocks)
      ((t.adjust K.adjust).importBlocks i (Dict.mapValues (Block.adjust K.adjust) blocks)) := by
  induction blocks with
  | nil => exact .done rfl
  | cons entry rest ih =>
    obtain ⟨name, b⟩ := entry
    obtain ⟨hb, hrest⟩ := Dict.all_cons.mp hblocks
    exact .ask (r := .importBlock t (i.rename name) b) ⟨ht, hb⟩ (fun _ _ => ih hrest)
      fun _ _ _ => False.elim

theorem tandem_mergeEach {t : Template} (ht : t.Fits K) {imports : List BlockImport}
    (himports : ∀ i ∈ imports, K.Tokens i.expression) :
    Tandem K K.failing Eq (t.mergeEach imports) ((t.adjust K.adjust).mergeEach imports) := by
  induction imports with
  | nil => exact tandem_pure rfl
  | cons i rest ih =>
    obtain ⟨hi, hrest⟩ := List.forall_mem_cons.mp himports
    refine (Expr.tandem_evaluate hi).bind fun _ _ hv => (tandem_find hv).bind ?_
    rintro source _ ⟨hsource, rfl⟩
    refine tandem_context.bind ?_
    rintro c _ ⟨hc, rfl⟩
    have hlinks : Tandem K K.failing Eq
        (do
          let links ← ask (.links source)
          lift (importBlocks t i (links.imported.merge source.definedBlocks))
          mergeEach t rest)
        (do
          let links ← ask (.links (source.adjust K.adjust))
          lift (importBlocks (t.adjust K.adjust) i
            (links.imported.merge (source.adjust K.adjust).definedBlocks))
          mergeEach (t.adjust K.adjust) rest) := by
      refine (tandem_ask (r := .links source) hsource fun _ _ => False.elim).bind ?_
      rintro links _ ⟨hlinks, rfl⟩
      have hmerge : ((Request.links source).adjustAnswer K.adjust links).imported.merge
          (source.adjust K.adjust).definedBlocks
            = Dict.mapValues (Block.adjust K.adjust)
              (links.imported.merge source.definedBlocks) := by
        rw [Dict.mapValues_merge, definedBlocks_adjust]
        rfl
      rw [hmerge]
      exact (tandem_lift (tandem_importBlocks ht i (hlinks.imported.merge hsource.definedBlocks))
        fun _ _ => False.elim).bind fun _ _ _ => ih hrest
    refine tandem_ask_bind (r := .mergeImports source c) ⟨hsource, hc⟩ ?_ ?_
    · rintro (failure | u) hr
      · exact tandem_throw hr
      · exact hlinks
    · rintro cause _ s ⟨failure, rfl, hcause⟩ hs
      exact gone_settle ⟨failure, rfl, hcause⟩ hs

theorem tandem_mergeImports {t : Template} (ht : t.Fits K) {c : Context} (hc : K.Variables c) :
    Attempt.Tandem K K.failing Eq (t.mergeImports c)
      ((t.adjust K.adjust).mergeImports (Dict.mapValues (Value.adjust K.adjust) c)) := by
  refine Attempt.tandem_ask_bind (r := .claimImports t) ht (fun unresolved _ => ?_)
    fun _ _ => False.elim
  cases unresolved with
  | false => exact Attempt.tandem_pure rfl
  | true =>
    have hmerge := tandem_resultIn
      (tandem_mergeEach ht fun i hi => blockImports_guarded ht.2 hi) (Scope.fits_start ht hc)
    rw [← Scope.start_adjust] at hmerge
    -- A template whose imports fail gives up its claim to them, and passes the failure on.
    refine hmerge.tryCatch (fun _ _ h => h) (fun failure hcause => ?_) fun _ failure _ => ?_
    · exact Attempt.tandem_ask_bind (r := .releaseImports t) ht
        (fun _ _ => Attempt.tandem_throw hcause) fun _ _ => False.elim
    · exact .release fun _ => .done (.error trivial)

theorem tandem_prepare {t : Template} (ht : t.Fits K) {c : Context} (hc : K.Variables c) :
    Attempt.Tandem K K.rendering Eq (t.prepare c)
      ((t.adjust K.adjust).prepare (Dict.mapValues (Value.adjust K.adjust) c)) := by
  refine (tandem_mergeImports ht hc).tryCatch (fun _ _ h => h) (fun failure hcause => ?_)
    fun hparts failure _ => ?_
  · let outcome (pass : Bool) : Attempt Unit :=
      if pass then throw (failure.inTemplate t.id)
      else liftM (Program.request (.report (.useFailed t.id failure)))
    refine Pairing.passes_or_reports ht.1 hcause (.useFailed t.id failure) rfl
      (P := fun pass pass' => Attempt.Tandem K K.rendering Eq (outcome pass) (outcome pass'))
      (fun htotal => ?_) (fun hreport => ?_) fun hparts _ hlost => ?_
    · refine Attempt.tandem_throw ?_
      rw [Failure.cause_inTemplate]
      exact ⟨hcause, htotal⟩
    · exact .ask (r := .report (.useFailed t.id failure)) hreport (fun _ _ => .done (.ok rfl))
        fun _ _ _ => False.elim
    · refine .part hparts (c := failure.cause) ?_ (.inr ⟨_, _, rfl, hlost⟩)
      rw [← failure.cause_inTemplate t.id]
      exact Attempt.gone_throw trivial
  · show Program.Gone _ (ExceptT.run
      (if t.options.rethrow || failure.isPending then throw (failure.inTemplate t.id)
        else liftM (Program.request (.report (.useFailed t.id failure))) : Attempt Unit))
    rw [K.rethrow_of_parts hparts _ ht.1, Bool.true_or, ← failure.cause_inTemplate t.id]
    exact Attempt.gone_throw trivial

/-! ## Texts -/

theorem tandem_finish {t : Template} (ht : t.Fits K) {text : String} (htext : K.text text)
    {s : Scope} (hs : s.Fits K) :
    Attempt.Tandem K K.rendering K.texts (t.finish text s)
      ((t.adjust K.adjust).finish text (s.adjust K.adjust)) := by
  obtain ⟨template, context, nesting, overrides, parent, autoescape⟩ := s
  cases parent with
  | none => exact Attempt.tandem_pure ⟨htext, rfl⟩
  | some parent =>
    have hparent : parent.Fits K := hs.parent parent rfl
    have hrender (links : Links) (hlinks : links.Fits K) : Attempt.Tandem K K.rendering K.texts
        (ExceptT.mk (Program.request
          (.render parent none context (t.offeredBlocks links overrides))))
        (ExceptT.mk (Program.request (.render (parent.adjust K.adjust) none
          (Dict.mapValues (Value.adjust K.adjust) context)
          ((t.adjust K.adjust).offeredBlocks (links.adjust K.adjust)
            (Dict.mapValues (Block.adjust K.adjust) overrides))))) := by
      rw [offeredBlocks_adjust]
      refine .ask (r := .render parent none context (t.offeredBlocks links overrides))
        ⟨hparent, nofun, hs.context, ht.offeredBlocks hlinks hs.overrides⟩ ?_ ?_
      · rintro (failure | text) ⟨hr, htotal⟩
        -- Where no render fails, that of the parent does not fail either.
        · refine .done (.error ⟨hr, fun h => ?_⟩)
          obtain ⟨text, heq⟩ := htotal h
          cases heq
        · exact .done (.ok ⟨hr, rfl⟩)
      · rintro - c _ ⟨failure, rfl, hcause⟩
        exact .done ⟨failure, rfl, hcause, trivial⟩
    refine Attempt.tandem_ask_bind (r := .setParent t parent) ⟨ht, hparent⟩ (fun _ _ => ?_)
      fun _ _ => False.elim
    exact Attempt.tandem_ask_bind (r := .links t) ht hrender fun _ _ => False.elim

theorem tandem_render {t : Template} (ht : t.Fits K) {parent : Option Template}
    (hparent : ∀ p ∈ parent, p.Fits K) {c : Context} (hc : K.Variables c)
    {overrides : Dict Block} (hoverrides : K.Blocks overrides) :
    Attempt.Tandem K K.rendering K.texts (t.render parent c overrides)
      ((t.adjust K.adjust).render (parent.map (Template.adjust K.adjust))
        (Dict.mapValues (Value.adjust K.adjust) c)
        (Dict.mapValues (Block.adjust K.adjust) overrides)) := by
  have hstart : Scope.Fits K { Scope.start t c with overrides, parent } :=
    { Scope.fits_start ht hc with overrides := hoverrides, parent := hparent }
  have hadjust : { Scope.start (t.adjust K.adjust) (Dict.mapValues (Value.adjust K.adjust) c) with
      overrides := Dict.mapValues (Block.adjust K.adjust) overrides
      parent := parent.map (Template.adjust K.adjust) }
        = Scope.adjust K.adjust { Scope.start t c with overrides, parent } := by
    rw [Scope.start_adjust]
    rfl
  have hnodes : Tandem K K.rendering
      (fun r r' => K.text r.1 ∧ r.2.Fits K ∧ r' = (r.1, r.2.adjust K.adjust))
      (do return (← Node.renderAll false "" t.nodes, ← get))
      (do return (← Node.renderAll false "" t.nodes, ← get)) := by
    refine (Node.tandem_renderAll t.nodes ht.2 false K.text_empty).bind ?_
    rintro _ text ⟨htext, rfl⟩
    refine tandem_get.bind ?_
    rintro s _ ⟨hs, rfl⟩
    exact tandem_pure ⟨htext, hs, rfl⟩
  refine (tandem_prepare ht hc).bind fun _ _ _ => ?_
  dsimp only
  rw [hadjust]
  refine (tandem_resultIn hnodes hstart).bind ?_
  rintro ⟨text, s⟩ _ ⟨htext, hs, rfl⟩
  exact tandem_finish ht htext hs

/-! ## Looking for blocks -/

theorem tandem_inheritedBlock {t : Template} (ht : t.Fits K) (name : String) :
    Program.Tandem K K.foundBlocks (fun _ _ => False) (t.inheritedBlock name)
      ((t.adjust K.adjust).inheritedBlock name) := by
  refine .ask (r := .links t) ht (fun links hlinks => ?_) fun _ _ _ => False.elim
  have himported : (links.adjust K.adjust).imported.find? name
      = (links.imported.find? name).map (Block.adjust K.adjust) :=
    Dict.find?_mapValues _ links.imported name
  have hparent : (links.adjust K.adjust).parent = links.parent.map (Template.adjust K.adjust) := rfl
  show Program.Tandem K K.foundBlocks _ (Program.bind (.done links) _)
    (Program.bind (.done (links.adjust K.adjust)) _)
  dsimp only [Program.bind]
  rw [himported, hparent]
  cases hb : links.imported.find? name with
  | some b =>
    refine .done ⟨?_, rfl⟩
    rintro _ ⟨⟩
    exact hlinks.imported.find? hb
  | none =>
    cases hparent : links.parent with
    | none =>
      refine .done ⟨?_, rfl⟩
      rintro _ ⟨⟩
    | some parent =>
      exact Program.tandem_request (r := .findBlock parent [] name)
        ⟨hlinks.parent parent hparent, Dict.all_nil⟩ fun _ _ => False.elim

theorem tandem_findBlock {t : Template} (ht : t.Fits K) {overrides : Dict Block}
    (hoverrides : K.Blocks overrides) (name : String) :
    Program.Tandem K K.foundBlocks (fun _ _ => False) (t.findBlock overrides name)
      ((t.adjust K.adjust).findBlock (Dict.mapValues (Block.adjust K.adjust) overrides) name) := by
  unfold findBlock
  rw [Dict.find?_mapValues, block?_adjust]
  cases hoverride : overrides.find? name with
  | some b =>
    refine .done ⟨?_, rfl⟩
    rintro _ ⟨⟩
    exact hoverrides.find? hoverride
  | none =>
    cases hb : t.block? name with
    | some b =>
      refine .done ⟨?_, rfl⟩
      rintro _ ⟨⟩
      exact ht.block? hb
    | none => exact tandem_inheritedBlock ht name

end Template

/-- A value that is called. -/
theorem Value.tandem_call {v : Value} (hv : v.Fits K) {args args' : List Value}
    (hargs : K.args args args') :
    Attempt.Tandem K K.failing K.values (v.call args) ((v.adjust K.adjust).call args') := by
  cases v with
  | lambda identity params body t outer =>
    obtain ⟨⟨hbody, ht⟩, houter⟩ := within_lambda.mp hv
    rw [adjust_lambda]
    exact Template.tandem_callLambda ht params hbody houter hargs
  | templateMacro t name => exact Template.tandem_callMacro hv name hargs
  | array identity items =>
    rw [adjust_array]
    exact Attempt.tandem_pure ⟨hv, (adjust_array _ _ _).symm⟩
  | object identity entries =>
    rw [adjust_object]
    exact Attempt.tandem_pure ⟨hv, (adjust_object _ _ _).symm⟩
  | _ => exact Attempt.tandem_pure ⟨hv, rfl⟩

end Stencil
