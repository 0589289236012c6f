import Stencil.Proofs.Failures.Relay
import Stencil.Proofs.Render.Conduct

/-!
# Failures in expressions

An expression fails with what it raises itself, which names no template, or with the failure of a
call, as it came.  Nothing in an expression puts a name to a failure: that is left to the text in
which it stands.
-/
namespace Stencil

/-! ## What is raised on the way -/

namespace Value

theorem unnamed_rangeItems (a b : Value) : Unnamed (rangeItems a b) := by
  unfold rangeItems
  dsimp only
  split
  · split
    · exact .error rfl
    · exact .ok _
  · split
    · exact .error rfl
    · split
      · exact .error rfl
      · exact .ok _

theorem unnamed_matchesPattern (subject pattern : Value) :
    Unnamed (matchesPattern subject pattern) := by
  unfold matchesPattern
  dsimp only
  split
  · exact .ok _
  · exact .error rfl

end Value

namespace Expr

theorem BinaryOp.unnamed_apply (op : BinaryOp) (identity : Nat) (a b : Value) :
    Unnamed (op.apply identity a b) := by
  cases op with
  | range => exact (Value.unnamed_rangeItems a b).bind fun _ => .ok _
  | «matches» => exact (Value.unnamed_matchesPattern a b).bind fun _ => .ok _
  | conditional => exact .error rfl
  | _ => exact .ok _

namespace Stack

theorem unnamed_pop (stack : Stack) : Unnamed stack.pop := by
  unfold pop
  split
  · exact .ok _
  · exact .error rfl

theorem unnamed_collectArray (items : List Value) (stack : Stack) :
    Unnamed (collectArray items stack) := by
  induction stack generalizing items with
  | nil => exact .error rfl
  | cons item rest ih =>
    cases item with
    | value v => exact ih (v :: items)
    | arrayStart => exact .ok _
    | objectStart | key name => exact .error rfl

theorem unnamed_collectObject (items stack : Stack) : Unnamed (collectObject items stack) := by
  induction stack generalizing items with
  | nil => exact .error rfl
  | cons item rest ih =>
    cases item with
    | value v => exact ih (.value v :: items)
    | key name => exact ih (.key name :: items)
    | objectStart => exact .ok _
    | arrayStart => exact .error rfl

theorem unnamed_entries (stack : Stack) : Unnamed stack.entries := by
  cases stack with
  | nil => exact .ok _
  | cons first rest =>
    cases first with
    | key name =>
      cases rest with
      | nil => exact .error rfl
      | cons second rest =>
        cases second with
        | value v => exact (unnamed_entries rest).bind fun _ => .ok _
        | _ => exact .error rfl
    | _ => exact .error rfl
termination_by structural stack

end Stack

theorem unnamed_choose (stack : Stack) : Unnamed (choose stack) :=
  (Stack.unnamed_pop _).bind fun _ => (Stack.unnamed_pop _).bind fun _ =>
    (Stack.unnamed_pop _).bind fun _ => .ok _

end Expr

theorem Rendering.unnamed_mergeObject (c : Context) (v : Value) : Unnamed (mergeObject c v) := by
  unfold mergeObject
  split
  · exact .ok _
  · exact .error rfl

/-! ## Looking for templates -/

namespace Template
variable {o : Options} (ho : o.rethrow = true)

theorem relays_make (options : Options) (tree : CompiledTree) :
    (make options tree).Relays fun f? _ => f? = none :=
  Program.relays_ask (r := .fresh) (fun _ => rfl) fun _ _ =>
    Program.relays_ask (r := .store _) (fun _ => rfl) fun _ _ => rfl

include ho

/-- A source that is loaded and cannot be compiled is failed with, in the name of its locator. -/
theorem relays_loadAndCompile (locator : String) :
    Attempt.Relays .seeking (loadAndCompile locator o) := by
  rintro (failure | source) hfair
  · exact ⟨fun _ => .own (hfair failure rfl), nofun⟩
  cases hread : Node.ofSource source with
  | ok nodes =>
    have hanswer : Request.failure? (.load locator) (.ok source) = none := by
      simp only [Request.failure?, hread, Failure.of?, Option.map_none]
    refine ⟨fun _ => ?_, fun failure hsome => absurd (hanswer.symm.trans hsome) nofun⟩
    have hcompile : Attempt.Relays .seeking (compile (some locator) source o) := by
      simp only [compile, hread]
      exact Attempt.relays_lift (relays_make o _)
    have hwrite (t : Template) :
        Attempt.Relays .seeking (ExceptT.mk (Program.request (.writeCache locator t.toTree))) := by
      refine Program.relays_ask (r := .writeCache locator t.toTree) (fun _ => rfl) ?_
      rintro (failure | done) hfair
      · exact .own (hfair failure rfl)
      · exact .ok ()
    exact hcompile.bind fun t => (hwrite t).bind fun _ => Attempt.relays_pure t
  | error failure =>
    have hanswer : Request.failure? (.load locator) (.ok source)
        = some (failure.inTemplate (some locator)) := by
      simp only [Request.failure?, hread, Failure.of?, Option.map_some]
    refine ⟨fun hnone => absurd (hnone.symm.trans hanswer) nofun, fun thrown hsome => ?_⟩
    obtain rfl := Option.some.inj (hanswer.symm.trans hsome)
    have hfound : (failure.inTemplate (some locator)).isNotFound = false :=
      (failure.isNotFound_inTemplate _).trans (Node.isNotFound_of_ofSource hread)
    have hthrow : compile (some locator) source o
        = throw (failure.inTemplate (some locator)) := by
      simp only [compile, hread, ho, if_true]
    show Program.Gone _ (compile (some locator) source o >>= _ : Attempt Template).run
    rw [hthrow]
    exact .done (.passed ⟨rfl, hfound⟩)

theorem relays_locate (locator : String) : Attempt.Relays .seeking (locate locator o) := by
  refine Program.relays_ask (r := .stored locator) (fun _ => rfl) ?_
  rintro (_ | t) -
  · refine Program.relays_ask (r := .cached locator) (fun _ => rfl) ?_
    rintro (failure | _ | tree) hfair
    · exact .own (hfair failure rfl)
    · exact relays_loadAndCompile ho locator
    · exact Attempt.relays_lift (relays_make o tree)
  · exact Attempt.relays_pure t

theorem relays_resolve (name : String) (base : Option String) :
    Attempt.Relays .seeking (resolve name base o) := by
  unfold resolve
  split
  · refine Program.relays_ask (r := .stored name) (fun _ => rfl) ?_
    rintro (_ | t) -
    · exact relays_locate ho _
    · exact Attempt.relays_pure t
  · exact relays_locate ho _

end Template

namespace Rendering
variable {t : Template} {M : Manner}

/-! ## Looking things up -/

theorem relays_context : Relays t M context := relays_get.bind fun _ => relays_pure _

theorem relays_template : Relays t M template := relays_get.bind fun _ => relays_pure _

theorem relays_fresh : Relays t M fresh := relays_ask (r := .fresh) fun _ => rfl

theorem relays_modifyContext (f : Context → Context) : Relays t M (modifyContext f) :=
  relays_modify fun _ => rfl

theorem relays_setVariable (name : String) (v : Value) : Relays t M (setVariable name v) :=
  relays_modifyContext _

theorem relays_isStrict : Relays t M isStrict := relays_template.bind fun _ => relays_pure _

section
variable (P : M.Plain)
include P

/-- A lookup that finds nothing. -/
theorem relays_missing {failure : Failure} (h : failure.template = none) (tested : Bool) :
    Relays t M (do
      if (← isStrict) && !tested then throw failure else return Value.undefined) := by
  refine relays_isStrict.bind fun strict => ?_
  split
  · exact relays_throw (P.own failure h)
  · exact relays_pure _

theorem relays_lookUpKey (v : Value) (name : String) (container : Container) (tested : Bool) :
    Relays t M (lookUpKey v name container tested) := by
  have hmissing : (v.missingKey name container).template = none := by
    unfold Value.missingKey
    split <;> rfl
  unfold lookUpKey
  split
  · exact relays_pure _
  · exact relays_missing P hmissing tested

theorem relays_lookUpVariable (name : String) (rest : List Expr.Token) :
    Relays t M (lookUpVariable name rest) := by
  refine relays_context.bind fun c => ?_
  split
  · exact relays_pure _
  · split
    · exact relays_template.bind fun _ => relays_fresh.bind fun _ => relays_pure _
    · exact relays_missing P rfl _

theorem relays_invoke (callee : Value) (receiver : Option Value) (args : List Value) :
    Relays t M (invoke callee receiver args) :=
  relays_call P (r := .invoke callee receiver args) (f := id) fun _ => rfl

end

/-! ## Finding templates -/

section
variable (ht : t.options.rethrow = true)

theorem relays_findReference (ht : t.options.rethrow = true) {v : Value}
    (hv : ∀ identity items, v ≠ .array identity items) : Relays t .seeking (findTemplate v) := by
  intro scope hscope
  rw [findTemplate_eq hv]
  rw [← hscope] at ht
  exact Program.Relays.bind (Template.relays_resolve ht _ _) (fun _ hr => ⟨hscope, hr⟩)
    fun _ _ hr => .done ⟨hscope, hr⟩

mutual

theorem relays_findTemplate (ht : t.options.rethrow = true) (v : Value) :
    Relays t .seeking (findTemplate v) := by
  cases v with
  | array identity candidates =>
    rw [findTemplate]
    exact relays_firstTemplate ht _ candidates
  | _ => exact relays_findReference ht (by nofun)
termination_by structural v

theorem relays_firstTemplate (ht : t.options.rethrow = true) (named : Value)
    (candidates : List Value) : Relays t .seeking (firstTemplate named candidates) := by
  cases candidates with
  | nil => exact relays_throw rfl
  | cons v rest =>
    rw [firstTemplate]
    have hrest := relays_firstTemplate ht named rest
    -- Only after a template that is nowhere is there another candidate.
    refine (relays_findTemplate ht v).attempt_bind (fun found => relays_pure found)
      (fun failure hown => ?_) ?_
    · dsimp only
      split
      · exact hrest
      · exact relays_throw hown
    · rintro failure thrown scope ⟨rfl, hfound⟩ hscope
      simp only [hfound, Bool.false_eq_true, if_false]
      exact .done ⟨hscope, .passed ⟨rfl, hfound⟩⟩
termination_by structural candidates

end

variable (P : M.Plain)
include ht P

theorem relays_find (v : Value) : Relays t M (findTemplate v) :=
  (relays_findTemplate ht v).mono P.own fun failure thrown h => by
    obtain ⟨rfl, -⟩ := h
    exact P.passed thrown

end

/-! ## Blocks and functions -/

section
variable (P : M.Plain)
include P

/-- What a block fails with is failed with behind it. -/
theorem relays_renderBlock (b : Block) : Relays t M (renderBlock b) := by
  rintro scope hscope ⟨failure | v, c, parent⟩ -
  · refine ⟨nofun, ?_⟩
    rintro _ ⟨⟩
    exact .done ⟨hscope, .passed (P.passed failure)⟩
  · exact ⟨fun _ => ⟨hscope, .ok v⟩, nofun⟩

omit P in
theorem relays_findBlock (name : String) : Relays t M (findBlock name) :=
  relays_get_bind fun scope hscope =>
    relays_ask (r := .findBlock scope.template scope.overrides name) (fun _ => rfl) scope hscope

theorem relays_renderParent : Relays t M renderParent := by
  refine relays_get_bind fun scope hscope => ?_
  cases hnesting : scope.nesting with
  | nil => exact relays_throw (P.own _ rfl) scope hscope
  | cons name outer =>
    refine Program.relays_ask (r := .inheritedBlock scope.template name) (fun _ => rfl) ?_
    rintro (_ | b) -
    · exact relays_throw (P.own _ rfl) scope hscope
    · exact relays_renderBlock P b scope hscope

theorem relays_renderNamedBlock (name : String) : Relays t M (renderNamedBlock name) := by
  refine (relays_findBlock name).bind fun found => ?_
  split
  · exact relays_renderBlock P _
  · exact relays_pure _

theorem relays_renderTemplate (inner : Template) (parent : Option Template) (c : Context) :
    Relays t M (renderTemplate inner parent c) :=
  relays_call P (r := .render inner parent c []) (f := id) fun _ => rfl

theorem relays_callNamed (name : String) (args : List Value) {k : Rendering Value}
    (hk : Relays t M k) :
    Relays t M (do
      match ← ask (.function name args) with
      | some r => settle r
      | none => k) := by
  rintro scope hscope (_ | failure | v) -
  · exact ⟨fun _ => hk scope hscope, nofun⟩
  · refine ⟨nofun, ?_⟩
    rintro _ ⟨⟩
    exact .done ⟨hscope, .passed (P.passed failure)⟩
  · exact ⟨fun _ => ⟨hscope, .ok v⟩, nofun⟩

variable (ht : t.options.rethrow = true)
include ht

theorem relays_includeFunction (args : List Value) : Relays t M (includeFunction args) := by
  have hrender (inner : Template) (c : Context) :
      Relays t M (do return Value.safe (← renderTemplate inner none c)) :=
    (relays_renderTemplate P inner none c).bind fun _ => relays_pure _
  have hbindings (inner : Template) (bindings : Value) (start : Context) : Relays t M (do
      let c ← if bindings.isNone then pure start else settle (mergeObject start bindings)
      return Value.safe (← renderTemplate inner none c)) := by
    dsimp only
    split
    · exact (relays_pure _).bind (hrender inner)
    · exact (relays_settle P (unnamed_mergeObject _ _)).bind (hrender inner)
  have hfound (inner : Template) : Relays t M (do
      let bindings := args[1]?.getD .undefined
      let start ← if args[2]?.all Value.isTruthy then context else pure []
      let c ← if bindings.isNone then pure start else settle (mergeObject start bindings)
      return Value.safe (← renderTemplate inner none c)) := by
    dsimp only
    split
    · exact relays_context.bind (hbindings inner _)
    · exact (relays_pure _).bind (hbindings inner _)
  refine (relays_findTemplate ht _).recover P hfound (fun failure hown => ?_)
    fun failure hfound => ?_
  · dsimp only
    split
    · exact relays_pure _
    · exact relays_throw (P.own failure hown)
  · simp only [hfound, Bool.and_false, Bool.false_eq_true, if_false]

theorem relays_callFunction (name : String) (args : List Value) :
    Relays t M (callFunction name args) := by
  unfold callFunction
  split
  · exact relays_renderParent P
  · exact relays_renderNamedBlock P _
  · exact relays_includeFunction P ht args
  · refine relays_callNamed P _ args (relays_context.bind fun c => ?_)
    split
    · split
      · exact relays_invoke P _ none args
      · exact relays_throw (P.own _ rfl)
    · exact relays_throw (P.own _ rfl)

end
end Rendering

/-! ## Expressions -/

namespace Expr
open Rendering
variable {t : Template} {M : Manner}

section
variable (P : M.Plain)
include P

theorem relays_pop (stack : Stack) : Relays t M (settle stack.pop) :=
  relays_settle P stack.unnamed_pop

theorem relays_applyToStack {f : Value → Rendering Value} (hf : ∀ v, Relays t M (f v))
    (stack : Stack) : Relays t M (applyToStack stack f) :=
  (relays_pop P stack).bind fun r => (hf r.1).bind fun _ => relays_pure _

theorem relays_applyBinary (op : BinaryOp) (stack : Stack) : Relays t M (applyBinary op stack) :=
  (relays_pop P stack).bind fun _ => (relays_pop P _).bind fun _ => relays_fresh.bind fun _ =>
    (relays_settle P (op.unnamed_apply _ _ _)).bind fun _ => relays_pure _

theorem relays_endArray (stack : Stack) : Relays t M (endArray stack) :=
  (relays_settle P (Stack.unnamed_collectArray _ _)).bind fun _ => relays_fresh.bind fun _ =>
    relays_pure _

theorem relays_endObject (stack : Stack) : Relays t M (endObject stack) :=
  (relays_settle P (Stack.unnamed_collectObject _ _)).bind fun _ =>
    (relays_settle P (Stack.unnamed_entries _)).bind fun _ => relays_fresh.bind fun _ =>
      relays_pure _

theorem relays_keyPeriod (name : String) (rest : List Token) (object : Value) :
    Relays t M (do
      let v ← lookUpKey object name .object (testedForDefinition rest)
      if v.isCallable then invoke v (some object) [] else return v) := by
  refine (relays_lookUpKey P _ _ _ _).bind fun v => ?_
  split
  · exact relays_invoke P _ _ _
  · exact relays_pure _

end

mutual

theorem relays_run (P : M.Plain) (ht : t.options.rethrow = true) (ts : List Token)
    (stack : Stack) : Relays t M (run ts stack) := by
  cases ts with
  | nil => exact relays_pure _
  | cons token rest =>
    have hrest := relays_run P ht rest
    have hstep := (relays_step P ht token rest stack).bind hrest
    -- a step looks at one token, but a name or a key may be followed by the group that calls it
    cases token with
    | «variable» name =>
      cases rest with
      | nil => exact hstep
      | cons next rest =>
        cases next with
        | group args call =>
          cases call with
          | false => exact hstep
          | true =>
            rw [run]
            refine (relays_lookUpVariable P name _).bind fun v => ?_
            split
            · exact (relays_run P ht args []).bind fun _ =>
                (relays_invoke P v none _).bind fun _ => relays_run P ht rest _
            · exact hrest _
        | _ => exact hstep
    | keyPeriod name =>
      cases rest with
      | nil => exact hstep
      | cons next rest =>
        cases next with
        | group args call =>
          cases call with
          | false => exact hstep
          | true =>
            rw [run]
            refine (relays_pop P stack).bind fun r => (relays_lookUpKey P _ _ _ _).bind fun v => ?_
            split
            · exact (relays_run P ht args []).bind fun _ => (relays_invoke P v _ _).bind fun _ =>
                relays_run P ht rest _
            · exact relays_run P ht rest _
        | _ => exact hstep
    | _ => exact hstep
termination_by structural ts

theorem relays_step (P : M.Plain) (ht : t.options.rethrow = true) (token : Token)
    (rest : List Token) (stack : Stack) : Relays t M (step token rest stack) := by
  cases token with
  | number | string | bool | null | objectKey | arrayStart | objectStart | comma =>
    exact relays_pure _
  | context => exact relays_fresh.bind fun _ => relays_context.bind fun _ => relays_pure _
  | «variable» name =>
    refine (relays_lookUpVariable P name rest).bind fun v => ?_
    split
    · exact (relays_invoke P v none []).bind fun _ => relays_pure _
    · exact relays_pure _
  | lambda params body =>
    exact relays_fresh.bind fun _ => relays_template.bind fun _ => relays_context.bind fun _ =>
      relays_pure _
  | function name params =>
    exact (relays_arguments P ht params).bind fun args =>
      (relays_callFunction P ht name args).bind fun _ => relays_pure _
  | filter name params =>
    exact (relays_pop P stack).bind fun r => (relays_arguments P ht params).bind fun args =>
      (relays_call P (r := .filter name r.1 args) (f := id) fun _ => rfl).bind fun _ =>
        relays_pure _
  | test name negated params =>
    exact (relays_pop P stack).bind fun r => (relays_arguments P ht params).bind fun args =>
      (relays_call P (r := .test name r.1 args) (f := id) fun _ => rfl).bind fun _ =>
        relays_pure _
  | unary op => exact relays_applyToStack P (fun v => relays_pure _) stack
  | binary op =>
    cases op with
    | conditional => exact relays_settle P (unnamed_choose stack)
    | _ => exact relays_applyBinary P _ stack
  | computedKey tokens => exact (relays_run P ht tokens []).bind fun _ => relays_pure _
  | arrayEnd => exact relays_endArray P stack
  | objectEnd => exact relays_endObject P stack
  | group tokens call =>
    cases call with
    | false => exact (relays_run P ht tokens []).bind fun _ => relays_pure _
    | true =>
      exact (relays_pop P stack).bind fun r => (relays_run P ht tokens []).bind fun _ =>
        (relays_invoke P r.1 none _).bind fun _ => relays_pure _
  | keyPeriod name => exact relays_applyToStack P (relays_keyPeriod P name rest) stack
  | keyBrackets tokens params =>
    refine (relays_pop P stack).bind fun r => (relays_run P ht tokens []).bind fun key =>
      (relays_lookUpKey P _ _ _ _).bind fun v => ?_
    split
    · exact (relays_arguments P ht params).bind fun args =>
        (relays_invoke P v _ args).bind fun _ => relays_pure _
    · exact relays_pure _
  | slice start stop =>
    rw [step]
    exact relays_applyToStack P (fun v => relays_fresh.bind fun _ => relays_pure _) stack
termination_by structural token

theorem relays_arguments (P : M.Plain) (ht : t.options.rethrow = true)
    (params : Option (List Token)) : Relays t M (arguments params) := by
  cases params with
  | none => exact relays_pure _
  | some tokens =>
    rw [arguments]
    exact (relays_run P ht tokens []).bind fun _ => relays_pure _
termination_by structural params

end

variable (P : M.Plain) (ht : t.options.rethrow = true)
include P ht

theorem relays_evaluateWith (seed : List Value) (e : Expr) :
    Relays t M (evaluateWith seed e) :=
  (relays_run P ht e _).bind fun _ => relays_pure _

theorem relays_evaluate (e : Expr) : Relays t M (evaluate e) := relays_evaluateWith P ht [] e

end Expr
end Stencil
