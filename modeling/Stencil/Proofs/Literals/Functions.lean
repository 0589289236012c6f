import Stencil.Proofs.Literals.Reading
import Stencil.Proofs.Settings.Functions

/-!
# Lookups and functions keep to the literals

What expressions call on looks for values and templates and renders other templates and blocks.  It
gives on what the scope and the answers hold, and it fails for no literal itself.  A template that
is compiled on the way holds what was compiled, which is why that may be held.
-/
namespace Stencil

variable {P : Expr → Prop}

namespace Rendering

/-! ## Scopes -/

theorem conserves_context : Conserves P (Dict.All (Value.Holds P)) context :=
  gives_get.bind fun _ hs => gives_pure hs.context

theorem conserves_template : Conserves P (Template.Holds P) template :=
  gives_get.bind fun _ hs => gives_pure hs.template

theorem conserves_fresh : Conserves P (fun _ => True) fresh := gives_ask (r := .fresh) trivial

theorem conserves_modifyContext {f : Context → Context}
    (h : ∀ c : Context, c.All (Value.Holds P) → (f c).All (Value.Holds P)) :
    Conserves P (fun _ => True) (modifyContext f) :=
  gives_modify fun _ hs => { hs with context := h _ hs.context }

theorem conserves_setVariable (name : String) {v : Value} (h : v.Holds P) :
    Conserves P (fun _ => True) (setVariable name v) :=
  conserves_modifyContext fun _ hc => hc.insert name h

/-! ## Looking things up -/

/-- A lookup that finds nothing. -/
theorem conserves_missing (failure : Failure) (h : failure.cause.Balanced) (tested : Bool) :
    Conserves P (Value.Holds P) (do
      if (← isStrict) && !tested then throw failure else return Value.undefined) := by
  have hstrict : Conserves P (fun _ => True) isStrict :=
    conserves_template.bind fun _ _ => gives_pure trivial
  refine hstrict.bind fun strict _ => ?_
  split
  · exact gives_throw h
  · exact gives_pure trivial

theorem conserves_lookUpKey {v : Value} (hv : v.Holds P) (name : String) (container : Container)
    (tested : Bool) : Conserves P (Value.Holds P) (lookUpKey v name container tested) := by
  unfold lookUpKey
  split
  · next found hfound => exact gives_pure (hv.lookup? hfound)
  · refine conserves_missing _ ?_ tested
    unfold Value.missingKey
    split <;> exact Cause.balanced_of_ne (by rintro _ ⟨⟩)

theorem conserves_lookUpVariable (name : String) (rest : List Expr.Token) :
    Conserves P (Value.Holds P) (lookUpVariable name rest) := by
  refine conserves_context.bind fun c hc => ?_
  split
  · next v hfound => exact gives_pure (hc.find? hfound)
  · split
    · exact conserves_template.bind fun t ht => conserves_fresh.bind fun identity _ =>
        gives_pure (Value.within_macrosOf ht identity)
    · exact conserves_missing ⟨.undefinedVariable name, none⟩
        (Cause.balanced_of_ne (by rintro _ ⟨⟩)) _

theorem conserves_invoke {callee : Value} {receiver : Option Value} {args : List Value}
    (hcallee : callee.Holds P) (hreceiver : ∀ v ∈ receiver, v.Holds P)
    (hargs : ∀ v ∈ args, v.Holds P) :
    Conserves P (Value.Holds P) (invoke callee receiver args) :=
  gives_call (r := .invoke callee receiver args) (f := id) ⟨hcallee, hreceiver, hargs⟩
    fun _ ha => ha

/-- A callee that was not found in a value. -/
theorem holds_noReceiver : ∀ v ∈ (none : Option Value), v.Holds P := by rintro _ ⟨⟩

/-- The value that a callee was found in. -/
theorem holds_receiver {object : Value} (h : object.Holds P) : ∀ v ∈ some object, v.Holds P := by
  rintro _ ⟨⟩
  exact h

theorem conserves_filter (name : String) {input : Value} {args : List Value}
    (hinput : input.Holds P) (hargs : ∀ v ∈ args, v.Holds P) :
    Conserves P (Value.Holds P) (do settle (← ask (.filter name input args))) :=
  gives_call (r := .filter name input args) (f := id) ⟨hinput, hargs⟩ fun _ ha => ha

theorem conserves_test (name : String) {input : Value} {args : List Value} (hinput : input.Holds P)
    (hargs : ∀ v ∈ args, v.Holds P) :
    Conserves P (fun _ => True) (do settle (← ask (.test name input args))) :=
  gives_call (r := .test name input args) (f := id) ⟨hinput, hargs⟩ fun _ ha => ha

end Rendering

/-! ## Finding templates -/

namespace Template

/-- A template that extends no other one yet. -/
theorem holds_noParent : ∀ p ∈ (none : Option Template), p.Holds P := by rintro _ ⟨⟩

theorem meets_make_holding (o : Options) {tree : CompiledTree} (htree : Node.AllHold P tree.nodes) :
    (make o tree).Meets (.holding P) (Template.Holds P) :=
  ⟨trivial, fun _ _ => ⟨htree, fun _ _ => htree⟩⟩

section
variable (hP : ∀ e, Expr.Sound e → P e)
include hP

theorem conserves_compile (id : Option String) (source : String) (o : Options) :
    Attempt.Conserves P (Template.Holds P) (compile id source o) := by
  have hread : Yields Cause.Balanced (Node.AllHold P) (Node.ofSource source) :=
    (Node.holds_ofSource source).mono (fun _ hc => hc) fun _ hnodes e he => hP e (hnodes e he)
  unfold compile
  split
  · next nodes heq =>
    rw [heq] at hread
    exact Attempt.gives_lift (meets_make_holding o hread)
  · next failure heq =>
    rw [heq] at hread
    -- the failure is passed on, or it is reported and the template is empty
    split
    · refine Attempt.gives_throw ?_
      rw [Failure.cause_inTemplate]
      exact hread
    · have hreport : Attempt.Conserves P (fun _ => True)
          (liftM (Program.request (.report (.compileFailed id failure)))) := by
        refine Attempt.gives_lift ⟨?_, fun _ _ => trivial⟩
        rintro _ ⟨⟩
        exact hread
      exact hreport.bind fun _ _ => Attempt.gives_lift (meets_make_holding o Node.allHold_nil)

theorem conserves_loadAndCompile (locator : String) (o : Options) :
    Attempt.Conserves P (Template.Holds P) (loadAndCompile locator o) := by
  have hload : Attempt.Conserves P (fun _ => True) (ExceptT.mk (Program.request (.load locator))) :=
    ⟨trivial, fun _ ha => ha⟩
  refine hload.bind fun source _ => (conserves_compile hP _ _ o).bind fun t ht => ?_
  have hwrite : Attempt.Conserves P (fun _ => True)
      (ExceptT.mk (Program.request (.writeCache locator t.toTree))) := ⟨ht, fun _ ha => ha⟩
  exact hwrite.bind fun _ _ => Attempt.gives_pure ht

theorem conserves_locate (locator : String) (o : Options) :
    Attempt.Conserves P (Template.Holds P) (locate locator o) := by
  have hcached : Attempt.Conserves P (fun tree => ∀ found ∈ tree, Node.AllHold P found.nodes)
      (ExceptT.mk (Program.request (.cached locator))) := ⟨trivial, fun _ ha => ha⟩
  have hstored : Attempt.Conserves P (fun t : Option Template => ∀ found ∈ t, found.Holds P)
      (liftM (Program.request (.stored locator))) :=
    Attempt.gives_lift ⟨trivial, fun _ ha => ha⟩
  refine hstored.bind fun stored ht => ?_
  cases stored with
  | some t => exact Attempt.gives_pure (ht t rfl)
  | none =>
    refine hcached.bind fun tree htree => ?_
    cases tree with
    | some tree => exact Attempt.gives_lift (meets_make_holding o (htree tree rfl))
    | none => exact conserves_loadAndCompile hP locator o

theorem conserves_resolve (name : String) (base : Option String) (o : Options) :
    Attempt.Conserves P (Template.Holds P) (resolve name base o) := by
  unfold resolve
  split
  · have hstored : Attempt.Conserves P (fun t : Option Template => ∀ found ∈ t, found.Holds P)
        (liftM (Program.request (.stored name))) :=
      Attempt.gives_lift ⟨trivial, fun _ ha => ha⟩
    refine hstored.bind fun stored ht => ?_
    cases stored with
    | some t => exact Attempt.gives_pure (ht t rfl)
    | none => exact conserves_locate hP _ o
  · exact conserves_locate hP _ o

end
end Template

namespace Rendering
variable (hP : ∀ e, Expr.Sound e → P e)

mutual

theorem conserves_findTemplate (hP : ∀ e, Expr.Sound e → P e) (v : Value) :
    Conserves P (Template.Holds P) (findTemplate v) := by
  cases v with
  | array identity candidates =>
    rw [findTemplate]
    exact conserves_firstTemplate hP _ candidates
  | _ =>
    exact conserves_template.bind fun t _ => gives_ofAttempt (Template.conserves_resolve hP _ _ _)
termination_by structural v

theorem conserves_firstTemplate (hP : ∀ e, Expr.Sound e → P e) (named : Value)
    (candidates : List Value) :
    Conserves P (Template.Holds P) (firstTemplate named candidates) := by
  cases candidates with
  | nil => exact gives_throw (Cause.balanced_of_ne (by rintro _ ⟨⟩))
  | cons v rest =>
    rw [firstTemplate]
    refine (conserves_findTemplate hP v).attempt.bind fun r hr => ?_
    cases r with
    | ok t => exact gives_pure hr
    | error failure =>
      dsimp only
      split
      · exact conserves_firstTemplate hP named rest
      · exact gives_throw hr
termination_by structural candidates

end

/-! ## Blocks and functions -/

theorem conserves_renderBlock {b : Block} (hb : b.Holds P) :
    Conserves P (Value.Holds P) (renderBlock b) := fun _ hs =>
  ⟨⟨hb, hs⟩, fun _ hr => ⟨{ hs with context := hr.context, parent := hr.parent }, hr.result⟩⟩

theorem conserves_findBlock (name : String) :
    Conserves P (fun b => ∀ found ∈ b, found.Holds P) (findBlock name) :=
  gives_get.bind fun scope hs =>
    gives_ask (r := .findBlock scope.template scope.overrides name) ⟨hs.template, hs.overrides⟩

theorem conserves_renderParent : Conserves P (Value.Holds P) renderParent := by
  refine gives_get.bind fun scope hs => ?_
  split
  · exact gives_throw (Cause.balanced_of_ne (by rintro _ ⟨⟩))
  · next name outer _ =>
    refine (gives_ask (r := .inheritedBlock scope.template name) hs.template).bind fun b hb => ?_
    split
    · exact conserves_renderBlock (hb _ rfl)
    · exact gives_throw (Cause.balanced_of_ne (by rintro _ ⟨⟩))

theorem conserves_renderNamedBlock (name : String) :
    Conserves P (Value.Holds P) (renderNamedBlock name) := by
  refine (conserves_findBlock name).bind fun b hb => ?_
  split
  · exact conserves_renderBlock (hb _ rfl)
  · exact gives_pure trivial

theorem conserves_renderTemplate {t : Template} (ht : t.Holds P) {parent : Option Template}
    (hparent : ∀ p ∈ parent, p.Holds P) {c : Context} (hc : c.All (Value.Holds P)) :
    Conserves P (fun _ => True) (renderTemplate t parent c) :=
  gives_call (r := .render t parent c []) (f := id) ⟨ht, hparent, hc, Dict.all_nil⟩ fun _ ha => ha

theorem yields_mergeObject {c : Context} (hc : c.All (Value.Holds P)) {v : Value}
    (hv : v.Holds P) : Yields Cause.Balanced (Dict.All (Value.Holds P)) (mergeObject c v) := by
  unfold mergeObject
  split
  · exact hc.merge (Value.within_object.mp hv)
  · exact Cause.balanced_of_ne (by rintro _ ⟨⟩)

theorem conserves_includeFound (withContext : Bool) {bindings : Value}
    (hbindings : bindings.Holds P) {t : Template} (ht : t.Holds P) :
    Conserves P (Value.Holds P) (includeFound withContext bindings t) := by
  have hrender (c : Context) (hc : c.All (Value.Holds P)) :
      Conserves P (Value.Holds P) (do return Value.safe (← renderTemplate t none c)) :=
    (conserves_renderTemplate ht Template.holds_noParent hc).bind fun _ _ => gives_pure trivial
  have hstart (start : Context) (h : start.All (Value.Holds P)) : Conserves P (Value.Holds P) (do
      let c ← if bindings.isNone then pure start else settle (mergeObject start bindings)
      return Value.safe (← renderTemplate t none c)) := by
    dsimp only
    split
    · exact (gives_pure h).bind hrender
    · exact (gives_settle (yields_mergeObject h hbindings)).bind hrender
  cases withContext with
  | true => exact conserves_context.bind hstart
  | false => exact (gives_pure Dict.all_nil).bind hstart

include hP

theorem conserves_includeFunction {args : List Value} (h : ∀ v ∈ args, v.Holds P) :
    Conserves P (Value.Holds P) (includeFunction args) := by
  have hbindings : (args[1]?.getD Value.undefined).Holds P := by
    cases hv : args[1]? with
    | none => trivial
    | some v => exact h v (List.mem_of_getElem? hv)
  refine (conserves_findTemplate hP _).attempt.bind fun r hr => ?_
  cases r with
  | ok t => exact conserves_includeFound _ hbindings hr
  | error failure =>
    dsimp only
    split
    · exact gives_pure trivial
    · exact gives_throw hr

theorem conserves_callFunction (name : String) {args : List Value} (h : ∀ v ∈ args, v.Holds P) :
    Conserves P (Value.Holds P) (callFunction name args) := by
  unfold callFunction
  split
  · exact conserves_renderParent
  · exact conserves_renderNamedBlock _
  · exact conserves_includeFunction hP h
  · refine (gives_ask (r := .function name args) h).bind fun r hr => ?_
    split
    · exact gives_settle (hr _ rfl)
    · refine conserves_context.bind fun c hc => ?_
      split
      · next v hfound =>
        split
        · exact conserves_invoke (hc.find? hfound) holds_noReceiver h
        · exact gives_throw (Cause.balanced_of_ne (by rintro _ ⟨⟩))
      · exact gives_throw (Cause.balanced_of_ne (by rintro _ ⟨⟩))

end Rendering
end Stencil
