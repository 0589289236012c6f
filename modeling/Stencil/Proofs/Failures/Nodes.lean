import Stencil.Proofs.Failures.Expressions
import Stencil.Proofs.Render.NodeConduct

/-!
# Failures in nodes and templates

A list of nodes puts the name of its template to the failures that end it, and so does a template
whose `use` tags cannot be resolved.  What is not in a list of nodes does not: the short form of a
block, the value that stands in for the missing argument of a macro, the body of a function, and a
`use` tag of a template that is used in its turn.
-/
namespace Stencil
open Rendering

variable {t : Template} {M : Manner} (P : M.Plain) (ht : t.options.rethrow = true)
include P

/-! ## Loops -/

namespace Loop

include ht in
theorem relays_passes (l : Loop) : Relays t M l.passes := by
  unfold passes
  split
  · exact (Expr.relays_evaluate P ht _).bind fun _ => relays_pure _
  · exact relays_pure _

include ht in
theorem relays_runs (l : Loop) {body : Rendering String} (hbody : Relays t M body)
    (entries : List (Value × Value)) (index : Nat) (done : String) :
    Relays t M (l.runs body entries index done) := by
  induction entries generalizing index done with
  | nil => exact relays_pure _
  | cons entry rest ih =>
    rw [runs]
    refine (relays_modifyContext _).bind fun _ => (relays_passes P ht l).bind fun passed => ?_
    split
    · exact relays_fresh.bind fun _ => (relays_setVariable _ _).bind fun _ =>
        hbody.bind fun _ => ih _ _
    · exact ih _ _

include ht in
theorem relays_render (names : LoopNames) (e : Expr) (guard? : Option Expr)
    {body : Rendering String} (hbody : Relays t M body) :
    Relays t M (render names e guard? body) :=
  (Expr.relays_evaluate P ht e).bind fun _ => relays_context.bind fun outer =>
    relays_fresh.bind fun identity =>
      (relays_runs P ht ⟨names, guard?, _, .object identity outer⟩ hbody _ _ _).bind fun _ =>
        (relays_modifyContext _).bind fun _ => relays_pure _

end Loop

/-! ## Tags -/

namespace Rendering

theorem relays_blockInPlace (name : String) : Relays t M (blockInPlace name) := by
  refine relays_get_bind fun scope hscope => ?_
  cases hparent : scope.parent with
  | some parent => exact relays_pure "" scope hscope
  | none =>
    refine relays_bind_at (relays_findBlock name scope hscope) fun found => ?_
    cases found with
    | some b => exact (relays_renderBlock P b).bind fun v => relays_pure v.text
    | none => exact relays_pure ""

omit P in
/-- What is put back behind an action is put back behind a failure too. -/
theorem relays_restoring {f : Scope → Scope}
    (hf : ∀ scope, (f scope).template = scope.template) {α : Type} {a : Rendering α}
    (h : Relays t M a) : Relays t M (restoring f a) := by
  have hmodify := @relays_modify t M f hf
  refine h.attempt_bind (fun v => hmodify.bind fun _ => relays_pure v)
    (fun failure hown => hmodify.bind fun _ => relays_throw hown) ?_
  intro failure thrown scope hpassed hscope
  exact .done ⟨(hf scope).trans hscope, .passed hpassed⟩

omit P in
theorem relays_outputText (v : Value) : Relays t M (outputText v) :=
  relays_get.bind fun _ => relays_pure _

omit P in
theorem relays_withAutoescape (strategy : Autoescape) {body : Rendering String}
    (hbody : Relays t M body) : Relays t M (withAutoescape strategy body) :=
  relays_get.bind fun scope =>
    (relays_modify (f := fun s => { s with autoescape := strategy }) fun _ => rfl).bind fun _ =>
      relays_restoring (f := fun s => { s with autoescape := scope.autoescape }) (fun _ => rfl)
        hbody

theorem relays_importMacros (source : Template) (names : List (String × String)) :
    Relays t M (importMacros source names) := by
  induction names with
  | nil => exact relays_pure _
  | cons entry rest ih =>
    rw [importMacros]
    split
    · exact (relays_setVariable _ _).bind fun _ => ih
    · exact relays_throw (P.own _ rfl)

include ht

theorem relays_inclusionContext (i : Inclusion) : Relays t M (inclusionContext i) := by
  unfold inclusionContext
  cases i.bindings with
  | none =>
    dsimp only
    split
    · exact (relays_pure _).bind fun _ => relays_pure _
    · exact relays_context.bind fun _ => relays_pure _
  | some e =>
    have hmerged (start : Context) :
        Relays t M (do settle (mergeObject start (← Expr.evaluate e))) :=
      (Expr.relays_evaluate P ht e).bind fun _ => relays_settle P (unnamed_mergeObject _ _)
    dsimp only
    split
    · exact (relays_pure _).bind hmerged
    · exact relays_context.bind hmerged

theorem relays_inclusionTemplate (i : Inclusion) : Relays t M (inclusionTemplate i) := by
  refine (Expr.relays_evaluate P ht _).bind fun target => ?_
  refine (relays_findTemplate ht target).recover P (fun found => relays_pure (some found))
    (fun failure hown => ?_) fun failure hfound => ?_
  · dsimp only
    split
    · exact relays_pure _
    · exact relays_throw (P.own failure hown)
  · simp only [hfound, Bool.and_false, Bool.false_eq_true, if_false]

theorem relays_includeTemplate (i : Inclusion) : Relays t M (includeTemplate i) := by
  refine (relays_inclusionTemplate P ht i).bind fun found => ?_
  split
  · exact (relays_inclusionContext P ht i).bind fun c => relays_renderTemplate P _ _ c
  · exact relays_pure _

theorem relays_embedTemplate (i : Inclusion) (nodes : List Node) :
    Relays t M (embedTemplate i nodes) := by
  refine (relays_inclusionTemplate P ht i).bind fun found => ?_
  split
  · exact relays_template.bind fun outer => relays_fresh.bind fun _ =>
      (relays_inclusionContext P ht i).bind fun c => relays_renderTemplate P _ _ c
  · exact relays_pure _

theorem relays_macroSource (e : Expr) : Relays t M (macroSource e) := by
  unfold macroSource
  split
  · exact relays_template
  · exact (Expr.relays_evaluate P ht e).bind fun v => relays_find ht P v

omit ht in
/-- The variables of the body are bound, once they have been evaluated. -/
theorem relays_bound (bindings : Option Value) (only : Bool) {body : Rendering String}
    (hbody : Relays t M body) : Relays t M (do
      let saved ← context
      if only then modifyContext fun _ => []
      match bindings with
      | some v => do
        let c ← settle (mergeObject (← context) v)
        modifyContext fun _ => c
      | none => pure ()
      restoring (fun scope => { scope with context := saved }) body) := by
  have hrest (saved : Context) :
      Relays t M (restoring (fun scope => { scope with context := saved }) body) :=
    relays_restoring (f := fun scope => { scope with context := saved }) (fun _ => rfl) hbody
  have hbindings (v : Value) (saved : Context) : Relays t M (do
      let c ← settle (mergeObject (← context) v)
      modifyContext fun _ => c
      restoring (fun scope => { scope with context := saved }) body) :=
    relays_context.bind fun _ => (relays_settle P (unnamed_mergeObject _ _)).bind fun _ =>
      (relays_modifyContext _).bind fun _ => hrest saved
  refine relays_context.bind fun saved => ?_
  cases bindings with
  | none =>
    dsimp only
    split
    · exact (relays_modifyContext _).bind fun _ => hrest saved
    · exact hrest saved
  | some v =>
    dsimp only
    split
    · exact (relays_modifyContext _).bind fun _ => hbindings v saved
    · exact hbindings v saved

theorem relays_withVariables (e : Option Expr) (only : Bool) {body : Rendering String}
    (hbody : Relays t M body) : Relays t M (withVariables e only body) := by
  unfold withVariables
  cases e with
  | none => exact (relays_pure _).bind fun bindings => relays_bound P bindings only hbody
  | some e =>
    exact ((Expr.relays_evaluate P ht e).map some).bind fun bindings =>
      relays_bound P bindings only hbody

end Rendering

namespace Tag

omit P in
theorem relays_closed {a : Rendering String} (h : Relays t M a) : Relays t M (render.closed a) :=
  h.bind fun _ => relays_pure _

include ht

theorem relays_branchOn (e : Expr) {body : Rendering String} (hbody : Relays t M body) :
    Relays t M (render.branchOn body e) := by
  refine (Expr.relays_evaluate P ht e).bind fun v => ?_
  split
  · exact hbody.bind fun _ => relays_pure _
  · exact relays_pure _

theorem relays_render (tag : Tag) (active : Bool) (nodes : List Node) {body : Rendering String}
    (hbody : Relays t M body) : Relays t M (tag.render active nodes body) := by
  cases tag with
  | branch condition => exact relays_branchOn P ht condition hbody
  | elseBranch condition =>
    rw [render]
    split
    · exact relays_branchOn P ht condition hbody
    · exact relays_pure _
  | otherwise =>
    rw [render]
    split
    · exact relays_closed hbody
    · exact relays_pure _
  | loop key value expression guard? =>
    exact (Loop.relays_render P ht ⟨key, value⟩ expression guard? hbody).bind fun _ =>
      relays_pure _
  | assign name expression =>
    exact relays_closed ((Expr.relays_evaluate P ht expression).bind fun v =>
      (relays_setVariable name v).bind fun _ => relays_pure _)
  | capture name =>
    exact relays_closed (hbody.bind fun text =>
      (relays_setVariable name (.safe text)).bind fun _ => relays_pure _)
  | block name expression => exact relays_closed (relays_blockInPlace P name)
  | inherits expression =>
    exact relays_closed ((Expr.relays_evaluate P ht expression).bind fun v =>
      (relays_find ht P v).bind fun parent =>
        (relays_modify (f := fun s => { s with parent := some parent }) fun _ => rfl).bind
          fun _ => relays_pure _)
  | uses expression renames => exact relays_pure _
  | macroDef name params => exact relays_pure _
  | includes inclusion => exact relays_closed (relays_includeTemplate P ht inclusion)
  | embeds inclusion => exact relays_closed (relays_embedTemplate P ht inclusion nodes)
  | imports expression name =>
    exact relays_closed ((relays_macroSource P ht expression).bind fun source =>
      relays_fresh.bind fun _ => (relays_setVariable name _).bind fun _ => relays_pure _)
  | importsNames expression names =>
    exact relays_closed ((relays_macroSource P ht expression).bind fun source =>
      (relays_importMacros P source names).bind fun _ => relays_pure _)
  | «scoped» expression only =>
    exact relays_closed (relays_withVariables P ht expression only hbody)
  | spaceless => exact relays_closed (hbody.bind fun _ => relays_pure _)
  | apply filters =>
    exact relays_closed (hbody.bind fun _ => (Expr.relays_evaluateWith P ht _ filters).bind
      fun _ => relays_pure _)
  | autoescape strategy => exact relays_closed (relays_withAutoescape strategy hbody)
  | evaluate expression =>
    exact relays_closed ((Expr.relays_evaluate P ht expression).bind fun _ => relays_pure _)
  | deprecated message =>
    exact relays_closed ((Expr.relays_evaluate P ht message).bind fun v =>
      relays_template.bind fun t =>
        (relays_ask (r := .report (.deprecated t.id v.text)) fun _ => rfl).bind fun _ =>
          relays_pure _)

end Tag

omit P

/-! ## Lists of nodes -/

/-- Where failures are passed on, the end of a list puts the template's name to them. -/
theorem Rendering.endList_of_rethrow {scope : Scope}
    (h : scope.template.options.rethrow = true) (done : String) (failure : Failure) :
    endList done failure scope
      = .done (.error (failure.inTemplate scope.template.id), scope) := by
  show (if scope.template.options.rethrow || failure.isPending
    then throw (failure.inTemplate scope.template.id) else _ : Rendering String) scope = _
  rw [h, Bool.true_or, if_pos rfl]
  rfl

namespace Node

mutual

theorem relays_render (ht : t.options.rethrow = true) (n : Node) (active : Bool) :
    Relays t (.within t.id) (render active n) := by
  have P := Manner.plain_within t.id
  cases n with
  | raw value => exact relays_pure _
  | output e =>
    exact (Expr.relays_evaluate P ht e).bind fun v => (relays_outputText v).bind fun _ =>
      relays_pure _
  | logic tag nodes =>
    rw [render]
    have hbody : Relays t (.within t.id) (renderAll false "" nodes) :=
      (relays_renderAll ht nodes false "").mono (fun _ => .inr) fun _ _ => .inr
    exact Tag.relays_render P ht tag active nodes hbody
termination_by structural n

/-- **A list of nodes puts the name of its template to the failures that end it.** -/
theorem relays_renderAll (ht : t.options.rethrow = true) (nodes : List Node) (active : Bool)
    (done : String) : Relays t (.naming t.id) (renderAll active done nodes) := by
  cases nodes with
  | nil => exact relays_pure _
  | cons n rest =>
    rw [renderAll]
    have hend (failure : Failure) (scope : Scope) (hscope : scope.template = t) :
        endList done failure scope = .done (.error (failure.inTemplate t.id), scope) := by
      rw [← hscope] at ht ⊢
      exact endList_of_rethrow ht done failure
    -- a node may have put the name to some of its failures already; the end of the list puts it to
    -- the others
    refine (relays_render ht n active).attempt_bind
      (fun r => relays_renderAll ht rest r.2 (done ++ r.1)) ?_ ?_
    · intro failure hown scope hscope
      have hends : (Manner.within t.id).Ends none (.error failure : Except Failure String) :=
        .own hown
      show Program.Relays _ (endList done failure scope)
      rw [hend failure scope hscope]
      exact ⟨hscope, hends.name⟩
    · intro failure thrown scope hpassed hscope
      have hends : (Manner.within t.id).Ends (some failure)
          (.error thrown : Except Failure String) := .passed hpassed
      show Program.Gone _ (endList done thrown scope)
      rw [hend thrown scope hscope]
      exact .done ⟨hscope, hends.name⟩
termination_by structural nodes

end

end Node

/-! ## What is called by name -/

theorem Rendering.relays_resultIn {scope : Scope} (hscope : scope.template = t) {α : Type}
    {a : Rendering α} (h : Relays t M a) : Attempt.Relays M (resultIn scope a) :=
  Program.Relays.bind (h scope hscope) (fun _ hr => hr.2) fun _ _ hr => .done hr.2

namespace Block

/-- The name that the text of a block puts to failures: none if it is the short form. -/
def name? (b : Block) : Option String :=
  match b.body with
  | .nodes _ => b.template.id
  | .expression _ => none

theorem relays_renderBody {b : Block} (hb : b.template.options.rethrow = true) :
    Relays b.template (.naming b.name?) b.renderBody := by
  obtain ⟨t, name, body⟩ := b
  cases body with
  | nodes nodes => exact (Node.relays_renderAll hb nodes false "").bind fun _ => relays_pure _
  | expression e =>
    exact (Expr.relays_evaluate Manner.plain_loose hb e).bind fun v =>
      (relays_outputText v).bind fun _ => relays_pure _

theorem relays_render {b : Block} (hb : b.template.options.rethrow = true) (scope : Scope) :
    (b.render scope).Relays fun f? r => (Manner.naming b.name?).Ends f? r.result :=
  Program.Relays.bind (relays_renderBody hb _ rfl) (fun _ hr => hr.2) fun _ _ hr => .done hr.2

end Block

namespace Template

include ht

theorem relays_bindParams (params : List MacroParam) (args : List Value) :
    Relays t (.naming none) (bindParams params args) := by
  induction params generalizing args with
  | nil => exact relays_pure _
  | cons p rest ih =>
    cases args with
    | nil =>
      have hbind (v : Value) : Relays t (.naming none) (do
          setVariable p.name v
          bindParams rest []) := (relays_setVariable p.name v).bind fun _ => ih []
      rw [bindParams]
      cases p.default with
      | none => exact (relays_pure _).bind hbind
      | some e => exact (Expr.relays_evaluate Manner.plain_loose ht e).bind hbind
    | cons v args => exact (relays_setVariable p.name v).bind fun _ => ih args

end Template

/-! ## Macros -/

namespace MacroDefinition

/-- The binding of the parameters. -/
def bound (definition : MacroDefinition) (t : Template) (args : List Value) :
    Program (Except Failure (List Value) × Scope) :=
  Template.bindParams definition.params args (Scope.start t [])

/-- The text, once the parameters are bound, with the arguments that are left over. -/
def text (definition : MacroDefinition) (left : List Value) : Rendering Value := do
  setVariable "varargs" (.array (← fresh) left)
  return .safe (← Node.renderAll false "" definition.body)

/-- What comes after the binding. -/
def afterBinding (definition : MacroDefinition) :
    Except Failure (List Value) × Scope → Program (Except Failure Value)
  | (.ok left, scope) => (resultIn scope (definition.text left)).run
  | (.error failure, _) => .done (.error failure)

include ht

/-- The parameters are bound outside of the list of nodes. -/
theorem relays_bound (definition : MacroDefinition) (args : List Value) :
    (definition.bound t args).Relays fun f? r => r.2.template = t ∧
      (Manner.naming none).Ends f? r.1 :=
  Template.relays_bindParams ht definition.params args _ rfl

theorem relays_text (definition : MacroDefinition) (left : List Value) :
    Relays t (.naming t.id) (definition.text left) :=
  relays_fresh.bind fun _ => (relays_setVariable _ _).bind fun _ =>
    (Node.relays_renderAll ht _ _ _).bind fun _ => relays_pure _

end MacroDefinition

namespace Template

theorem callMacro_run_none {name : String} (h : t.macros.find? name = none) (args : List Value) :
    (t.callMacro name args).run
      = .done (.error (.runtime (importMacros.undefinedMacro t name))) := by
  rw [callMacro, h]
  rfl

/-- A macro first binds its parameters. -/
theorem callMacro_run {name : String} {definition : MacroDefinition}
    (h : t.macros.find? name = some definition) (args : List Value) :
    (t.callMacro name args).run = definition.bound t args >>= definition.afterBinding := by
  rw [callMacro, h]
  show definition.bound t args >>= _ >>= _ = _
  rw [Program.bind_assoc]
  congr 1
  funext r
  obtain ⟨failure | left, scope⟩ := r <;> rfl

include ht

theorem relays_callLambda (params : List String) (body : Expr) (outer : Context)
    (args : List Value) : Attempt.Relays (.naming none) (t.callLambda params body outer args) :=
  relays_resultIn rfl (Expr.relays_evaluate Manner.plain_loose ht body)

omit ht in
theorem relays_importBlocks (i : BlockImport) (blocks : List (String × Block)) :
    (t.importBlocks i blocks).Relays fun f? _ => f? = none := by
  induction blocks with
  | nil => rfl
  | cons entry rest ih =>
    exact Program.relays_ask (r := .importBlock t (i.rename entry.1) entry.2) (fun _ => rfl)
      fun _ _ => ih

theorem relays_mergeEach (imports : List BlockImport) :
    Relays t (.naming none) (t.mergeEach imports) := by
  have P := Manner.plain_loose
  induction imports with
  | nil => exact relays_pure _
  | cons i rest ih =>
    exact (Expr.relays_evaluate P ht _).bind fun v => (relays_find ht P v).bind fun source =>
      relays_context.bind fun c =>
        (relays_call P (r := .mergeImports source c) (f := fun r => r) fun _ => rfl).bind fun _ =>
          (relays_ask (r := .links source) fun _ => rfl).bind fun links =>
            (relays_lift (relays_importBlocks i _)).bind fun _ => ih

/-- Resolving `use` tags puts no name to a failure. -/
theorem relays_mergeImports (c : Context) :
    Attempt.Relays (.naming none) (t.mergeImports c) := by
  refine Program.relays_ask (r := .claimImports t) (fun _ => rfl) ?_
  rintro (_ | _) -
  · exact Attempt.relays_pure ()
  · refine (relays_resultIn rfl (relays_mergeEach ht t.blockImports)).tryCatch ?_
    exact fun _ failure hends => .release fun _ => .done hends

/-- The template whose `use` tags are resolved does. -/
theorem relays_prepare (c : Context) : Attempt.Relays (.naming t.id) (t.prepare c) := by
  refine (relays_mergeImports ht c).tryCatch fun _ failure hends => ?_
  simp only [ht, Bool.true_or]
  exact .done hends.name_loose

/-- **A template puts its name to the failures of its text.** What the template that it extends
fails with has a name already. -/
theorem relays_render (parent : Option Template) (c : Context) (overrides : Dict Block) :
    Attempt.Relays (.naming t.id) (t.render parent c overrides) := by
  refine (relays_prepare ht c).bind fun _ => ?_
  refine (relays_resultIn rfl ((Node.relays_renderAll ht _ _ _).bind fun text =>
    relays_get.bind fun scope => relays_pure (text, scope))).bind fun r => ?_
  obtain ⟨text, scope⟩ := r
  dsimp only
  split
  · exact Attempt.relays_pure text
  · next parent _ =>
    refine Program.relays_ask (r := .setParent t parent) (fun _ => rfl) fun _ _ => ?_
    refine Program.relays_ask (r := .links t) (fun _ => rfl) fun links _ => ?_
    rintro (failure | text) hfair
    · refine ⟨nofun, ?_⟩
      rintro _ ⟨⟩
      exact .done (.passed (Failure.inTemplate_of_isSome (hfair failure rfl) t.id).symm)
    · exact ⟨fun _ => .ok text, nofun⟩

end Template
end Stencil
