import Stencil.Proofs.Settings.Tandem
import Stencil.Proofs.Tree.Syntax

/-!
# Lookups and functions in tandem

What expressions call on looks at settings in two places only: where a lookup finds nothing, and
where a template is looked for.  All else goes in tandem whatever the settings are.
-/
namespace Stencil

/-! ## What is related -/

namespace Pairing
variable (K : Pairing)

/-- A value that fits, and the same with the other settings. -/
def values (v v' : Value) : Prop := v.Fits K ∧ v' = v.adjust K.adjust

/-- Arguments that fit, and the same with the other settings. -/
def args (a a' : List Value) : Prop := K.Args a ∧ a' = a.map (Value.adjust K.adjust)

/-- Variables that fit, and the same with the other settings. -/
def contexts (c c' : Context) : Prop :=
  K.Variables c ∧ c' = Dict.mapValues (Value.adjust K.adjust) c

/-- A template that fits, and the same with the other settings. -/
def templates (t t' : Template) : Prop := t.Fits K ∧ t' = t.adjust K.adjust

/-- The block that was found, if there is one, and the same with the other settings. -/
def foundBlocks (b b' : Option Block) : Prop :=
  (∀ found ∈ b, found.Fits K) ∧ b' = b.map (Block.adjust K.adjust)

/-- A text that is fit to be put out, on both sides. -/
def texts (s s' : String) : Prop := K.text s ∧ s' = s

/-- How looking for a template fails: where the first side fails alone, it does not say that the
template is nowhere. -/
def finding : Failing := ⟨K.cause, fun c => ∀ locator, c ≠ .templateNotFound locator⟩

/-- How compiling a source fails: as looking for a template does, but not at all if no render
fails. -/
def compiling : Failing := ⟨fun c => K.cause c ∧ ¬ K.total, K.finding.alone⟩

variable {K}

theorem isCallable_eq {v v' : Value} (h : K.values v v') : v'.isCallable = v.isCallable := by
  rw [h.2, Value.isCallable_adjust]

theorem args_nil : K.args [] [] := ⟨List.forall_mem_nil _, rfl⟩

theorem args_cons {v v' : Value} {a a' : List Value} (hv : K.values v v') (ha : K.args a a') :
    K.args (v :: a) (v' :: a') := by
  obtain ⟨hv, rfl⟩ := hv
  obtain ⟨ha, rfl⟩ := ha
  exact ⟨List.forall_mem_cons.mpr ⟨hv, ha⟩, rfl⟩

theorem isNotFound_eq_false {failure : Failure}
    (h : ∀ locator, failure.cause ≠ .templateNotFound locator) : failure.isNotFound = false := by
  unfold Failure.isNotFound
  split
  · next locator heq => exact absurd heq (h locator)
  · rfl

end Pairing

theorem Failure.cause_inTemplate (failure : Failure) (id : Option String) :
    (failure.inTemplate id).cause = failure.cause := by
  unfold inTemplate
  split <;> rfl

theorem Cause.IsSyntactic.ne_templateNotFound {c : Cause} (h : c.IsSyntactic) (locator : String) :
    c ≠ .templateNotFound locator := by
  rintro rfl
  exact h

theorem Cause.IsSyntactic.ne_pendingValue {c : Cause} (h : c.IsSyntactic) : c ≠ .pendingValue := by
  rintro rfl
  exact h

namespace Rendering
variable {K : Pairing} {F : Failing}

/-! ## Scopes -/

theorem tandem_context : Tandem K F K.contexts context context :=
  tandem_get.bind fun _ _ ⟨hs, hs'⟩ => tandem_pure ⟨hs.context, by rw [hs']; rfl⟩

theorem tandem_template : Tandem K F K.templates template template :=
  tandem_get.bind fun _ _ ⟨hs, hs'⟩ => tandem_pure ⟨hs.template, by rw [hs']; rfl⟩

theorem tandem_fresh : Tandem K F Eq fresh fresh :=
  (tandem_ask (r := .fresh) trivial fun _ _ => id).mono (fun _ _ h => h.2.symm) (fun _ => id)
    fun _ => id

theorem tandem_modifyContext {change change' : Context → Context}
    (h : ∀ c c', K.contexts c c' → K.contexts (change c) (change' c')) :
    Tandem K F Eq (modifyContext change) (modifyContext change') :=
  tandem_modify fun s hs => by
    obtain ⟨hc, heq⟩ := h s.context _ ⟨hs.context, rfl⟩
    exact ⟨{ hs with context := hc },
      congrArg (fun context => { s.adjust K.adjust with context }) heq⟩

theorem tandem_setVariable (name : String) {v v' : Value} (h : K.values v v') :
    Tandem K F Eq (setVariable name v) (setVariable name v') := by
  obtain ⟨hv, rfl⟩ := h
  refine tandem_modifyContext ?_
  rintro c _ ⟨hc, rfl⟩
  exact ⟨hc.insert name hv, (Dict.mapValues_insert _ c name v).symm⟩

/-! ## Looking things up -/

/-- A lookup that finds nothing: a failure under strict variables, unless the value is tested. -/
theorem tandem_missing {failure : Failure} (hcause : failure.cause ≠ .pendingValue)
    (tested : Bool) :
    Tandem K K.failing K.values
      (do if (← isStrict) && !tested then throw failure else return Value.undefined)
      (do if (← isStrict) && !tested then throw failure else return Value.undefined) := by
  intro s hs
  have hthrow : Tandem K K.failing K.values (throw failure) (throw failure) :=
    tandem_throw (K.cause_of_ne _ hcause)
  have hundefined : Tandem K K.failing K.values (pure Value.undefined) (pure Value.undefined) :=
    tandem_pure ⟨trivial, rfl⟩
  show Program.Tandem K _ _
    ((if s.template.options.strictVariables && !tested then throw failure
      else return Value.undefined : Rendering Value) s)
    ((if (K.adjust s.template.options).strictVariables && !tested then throw failure
      else return Value.undefined : Rendering Value) (s.adjust K.adjust))
  cases tested with
  | true =>
    rw [Bool.not_true, Bool.and_false, Bool.and_false]
    exact hundefined s hs
  | false =>
    -- This is where strict variables matter: with them the first side fails, and the second one may
    -- go on with nothing.
    rw [Bool.not_false, Bool.and_true, Bool.and_true]
    obtain heq | ⟨hparts, hon, hoff, hlost⟩ :=
      K.adjust_strictVariables s.template.options hs.template.1
    · rw [heq]
      split
      · exact hthrow s hs
      · exact hundefined s hs
    · rw [hon, hoff]
      exact .part hparts (gone_throw trivial hs.template.1) (.inl (hlost _))

theorem tandem_lookUpKey {v v' : Value} (h : K.values v v') (name : String)
    (container : Container) (tested : Bool) :
    Tandem K K.failing K.values (lookUpKey v name container tested)
      (lookUpKey v' name container tested) := by
  obtain ⟨hv, rfl⟩ := h
  rw [lookUpKey, lookUpKey, Value.lookup?_adjust, Value.missingKey_adjust]
  cases hfound : v.lookup? name with
  | some found => exact tandem_pure ⟨hv.lookup? hfound, rfl⟩
  | none =>
    refine tandem_missing ?_ tested
    unfold Value.missingKey
    split <;> nofun

theorem tandem_lookUpVariable (name : String) (rest : List Expr.Token) :
    Tandem K K.failing K.values (lookUpVariable name rest) (lookUpVariable name rest) := by
  refine tandem_context.bind ?_
  rintro c _ ⟨hc, rfl⟩
  rw [Dict.find?_mapValues]
  cases hfound : c.find? name with
  | some v => exact tandem_pure ⟨hc.find? hfound, rfl⟩
  | none =>
    dsimp only [Option.map_none]
    split
    · refine tandem_template.bind ?_
      rintro t _ ⟨ht, rfl⟩
      refine tandem_fresh.bind ?_
      rintro identity _ rfl
      exact tandem_pure ⟨Value.within_macrosOf ht identity, Value.macrosOf_adjust _ t identity⟩
    · exact tandem_missing (by nofun) _

/-! ## Results of requests -/

theorem results_of {α : Type} {fits : α → Prop} {f : α → α} {r : Except Failure α}
    (h : K.Result fits r) : K.failing.Results (fun a a' => fits a ∧ a' = f a) r (r.map f) := by
  cases r with
  | ok a => exact .ok ⟨h, rfl⟩
  | error failure => exact .error h

/-- To fail as the program has that was run for a request. -/
theorem gone_settle {α : Type} {c : Cause} {r : Except Failure α}
    (h : ∃ failure, r = .error failure ∧ failure.cause = c) {s : Scope}
    (hs : K.options s.template.options) :
    Program.Gone (Fails K K.failing c) (settle r s) := by
  obtain ⟨failure, rfl, hcause⟩ := h
  exact .done ⟨⟨failure, rfl, hcause, trivial⟩, hs⟩

theorem tandem_invoke {callee callee' : Value} {receiver receiver' : Option Value}
    {args args' : List Value} (hcallee : K.values callee callee')
    (hreceiver : (∀ v ∈ receiver, v.Fits K) ∧ receiver' = receiver.map (Value.adjust K.adjust))
    (hargs : K.args args args') :
    Tandem K K.failing K.values (invoke callee receiver args) (invoke callee' receiver' args') := by
  obtain ⟨hcallee, rfl⟩ := hcallee
  obtain ⟨hreceiver, rfl⟩ := hreceiver
  obtain ⟨hargs, rfl⟩ := hargs
  exact tandem_ask_bind (r := .invoke callee receiver args) ⟨hcallee, hreceiver, hargs⟩
    (fun _ hr => tandem_settle (results_of hr)) fun _ _ _ h hs => gone_settle h hs

theorem tandem_filter {name : String} (hname : name = "raw" → ∀ s, K.text s) {input input' : Value}
    {args args' : List Value} (hinput : K.values input input') (hargs : K.args args args') :
    Tandem K K.failing K.values (do settle (← ask (.filter name input args)))
      (do settle (← ask (.filter name input' args'))) := by
  obtain ⟨hinput, rfl⟩ := hinput
  obtain ⟨hargs, rfl⟩ := hargs
  exact tandem_ask_bind (r := .filter name input args) ⟨hname, hinput, hargs⟩
    (fun _ hr => tandem_settle (results_of hr)) fun _ _ _ h hs => gone_settle h hs

theorem tandem_test (name : String) {input input' : Value} {args args' : List Value}
    (hinput : K.values input input') (hargs : K.args args args') :
    Tandem K K.failing Eq (do settle (← ask (.test name input args)))
      (do settle (← ask (.test name input' args'))) := by
  obtain ⟨hinput, rfl⟩ := hinput
  obtain ⟨hargs, rfl⟩ := hargs
  refine tandem_ask_bind (r := .test name input args) ⟨hinput, hargs⟩ ?_
    fun _ _ _ h hs => gone_settle h hs
  rintro (failure | hit) hr
  · exact tandem_settle (.error hr)
  · exact tandem_settle (.ok rfl)

/-- A callee that was not found in a value. -/
theorem receiver_none : (∀ v ∈ (none : Option Value), v.Fits K)
    ∧ (none : Option Value) = none.map (Value.adjust K.adjust) := ⟨nofun, rfl⟩

/-- The value that a callee was found in. -/
theorem receiver_of {object object' : Value} (h : K.values object object') :
    (∀ v ∈ some object, v.Fits K) ∧ some object' = (some object).map (Value.adjust K.adjust) := by
  obtain ⟨hobject, rfl⟩ := h
  refine ⟨?_, rfl⟩
  rintro _ ⟨⟩
  exact hobject

end Rendering

/-! ## Finding templates -/

namespace Template
variable {K : Pairing} {o : Options} (ho : K.options o)
include ho

theorem tandem_make {tree : CompiledTree} (htree : K.Nodes tree.nodes)
    (fails : Cause → Template → Prop) :
    Program.Tandem K K.templates fails (make o tree) (make (K.adjust o) tree) := by
  refine .ask (r := .fresh) trivial (fun number _ => ?_) fun _ _ _ => False.elim
  have hfits : (ofTree number o tree).Fits K := ⟨ho, htree⟩
  exact .ask (r := .store (ofTree number o tree)) hfits (fun _ _ => .done ⟨hfits, rfl⟩)
    fun _ _ _ => False.elim

theorem tandem_attempt_make (tree : CompiledTree) (htree : K.Nodes tree.nodes) {F : Failing} :
    Attempt.Tandem K F K.templates (make o tree) (make (K.adjust o) tree) :=
  Program.Tandem.bind (tandem_make ho htree fun _ _ => False)
    (fun _ _ h => .done (.ok h)) fun _ _ _ => False.elim

theorem tandem_compile (id : Option String) {source : String} (hsource : K.Source source) :
    Attempt.Tandem K K.compiling K.templates (compile id source o)
      (compile id source (K.adjust o)) := by
  rw [compile, compile]
  cases hread : Node.ofSource source with
  | ok nodes => exact tandem_attempt_make ho _ (hsource nodes hread)
  | error failure =>
    have hsyntax := (Node.ofSource_failsOnSyntax source failure hread).1
    have hthrow (hrethrow : o.rethrow = true) : Attempt.Tandem K K.compiling K.templates
        (throw (failure.inTemplate id)) (throw (failure.inTemplate id)) := by
      refine Attempt.tandem_throw ⟨?_, fun htotal => ?_⟩
      · rw [Failure.cause_inTemplate]
        exact K.cause_of_ne _ hsyntax.ne_pendingValue
      · exact Bool.noConfusion (hrethrow.symm.trans (K.rethrow_of_total htotal o ho))
    dsimp only
    obtain heq | ⟨hparts, hon, hoff, hlost⟩ := K.adjust_rethrow o ho
    · rw [heq]
      cases hrethrow : o.rethrow with
      | true => exact hthrow hrethrow
      | false =>
        exact .ask (r := .report (.compileFailed id failure))
          (K.report_of_not_rethrow o ho hrethrow _)
          (fun _ _ => tandem_attempt_make ho ⟨id, []⟩ trivial) fun _ _ _ => False.elim
    -- The second side reports the source and goes on with a template that has nothing in it.
    · rw [hon, hoff]
      refine .part hparts (Attempt.gone_throw ?_) (.inr ⟨.compileFailed id failure, _, rfl, ?_⟩)
      · rw [Failure.cause_inTemplate]
        exact hsyntax.ne_templateNotFound
      · rw [Failure.cause_inTemplate]
        exact fun reports => hlost _ failure reports rfl

omit ho in
theorem tandem_load (locator : String) :
    Attempt.Tandem K K.finding (fun s s' => K.Source s ∧ s' = s)
      (ExceptT.mk (Program.request (.load locator)))
      (ExceptT.mk (Program.request (.load locator))) := by
  refine .ask (r := .load locator) trivial ?_ fun _ _ _ => False.elim
  rintro (failure | source) hr
  · exact .done (.error hr)
  · exact .done (.ok ⟨hr, rfl⟩)

omit ho in
theorem tandem_writeCache (locator : String) (tree : CompiledTree) (htree : K.Nodes tree.nodes) :
    Attempt.Tandem K K.finding (fun _ _ => True)
      (ExceptT.mk (Program.request (.writeCache locator tree)))
      (ExceptT.mk (Program.request (.writeCache locator tree))) := by
  refine .ask (r := .writeCache locator tree) htree ?_ fun _ _ _ => False.elim
  rintro (failure | u) hr
  · exact .done (.error hr)
  · exact .done (.ok trivial)

omit ho in
theorem tandem_cached (locator : String) :
    Attempt.Tandem K K.finding
      (fun tree tree' => (∀ found ∈ tree, K.Nodes found.nodes) ∧ tree' = tree)
      (ExceptT.mk (Program.request (.cached locator)))
      (ExceptT.mk (Program.request (.cached locator))) := by
  refine .ask (r := .cached locator) trivial ?_ fun _ _ _ => False.elim
  rintro (failure | tree) hr
  · exact .done (.error hr)
  · exact .done (.ok ⟨hr, rfl⟩)

theorem tandem_loadAndCompile (locator : String) :
    Attempt.Tandem K K.finding K.templates (loadAndCompile locator o)
      (loadAndCompile locator (K.adjust o)) := by
  refine (tandem_load locator).bind ?_
  rintro source _ ⟨hsource, rfl⟩
  have hcompile := (tandem_compile ho (some locator) hsource).mono (G := K.finding)
    (fun _ _ h => h) (fun _ h => h.1) fun _ h => h
  refine hcompile.bind ?_
  rintro t _ ⟨ht, rfl⟩
  exact (tandem_writeCache locator t.toTree ht.2).bind fun _ _ _ =>
    Attempt.tandem_pure ⟨ht, rfl⟩

theorem tandem_locate (locator : String) :
    Attempt.Tandem K K.finding K.templates (locate locator o) (locate locator (K.adjust o)) := by
  refine Attempt.tandem_ask_bind (r := .stored locator) trivial ?_ fun _ _ => False.elim
  rintro (_ | t) ht
  · refine (tandem_cached locator).bind ?_
    rintro (_ | tree) _ ⟨htree, rfl⟩
    · exact tandem_loadAndCompile ho locator
    · exact tandem_attempt_make ho _ (htree tree rfl)
  · exact Attempt.tandem_pure ⟨ht t rfl, rfl⟩

theorem tandem_resolve (name : String) (base : Option String) :
    Attempt.Tandem K K.finding K.templates (resolve name base o)
      (resolve name base (K.adjust o)) := by
  rw [resolve, resolve, K.adjust_namespaces, K.adjust_allowInlineIncludes]
  split
  · refine Attempt.tandem_ask_bind (r := .stored name) trivial ?_ fun _ _ => False.elim
    rintro (_ | t) ht
    · exact tandem_locate ho _
    · exact Attempt.tandem_pure ⟨ht t rfl, rfl⟩
  · exact tandem_locate ho _

end Template

namespace Rendering
variable {K : Pairing}

/-- A template by a name. -/
theorem tandem_resolve {name name' : String} (h : name' = name) :
    Tandem K K.finding K.templates
      (do let t ← template; ofAttempt (Template.resolve name t.base t.options))
      (do let t ← template; ofAttempt (Template.resolve name' t.base t.options)) := by
  subst h
  refine tandem_template.bind ?_
  rintro t _ ⟨ht, rfl⟩
  exact tandem_ofAttempt (Template.tandem_resolve ht.1 _ t.base)

mutual

theorem tandem_findTemplate (v : Value) :
    Tandem K K.finding K.templates (findTemplate v) (findTemplate (v.adjust K.adjust)) := by
  cases v with
  | array identity candidates =>
    rw [Value.adjust, findTemplate, findTemplate]
    exact tandem_firstTemplate (.array identity candidates) candidates
  | _ => exact tandem_resolve (Value.text_adjust K.adjust _)
termination_by structural v

theorem tandem_firstTemplate (named : Value) (candidates : List Value) :
    Tandem K K.finding K.templates (firstTemplate named candidates)
      (firstTemplate (named.adjust K.adjust) (Value.adjustItems K.adjust candidates)) := by
  cases candidates with
  | nil =>
    rw [Value.adjustItems, firstTemplate, firstTemplate, Value.text_adjust]
    exact tandem_throw (K.cause_of_ne _ (by nofun))
  | cons v rest =>
    rw [Value.adjustItems, firstTemplate, firstTemplate]
    refine (tandem_findTemplate v).attempt_bind ?_ ?_
    · rintro _ _ (ht | hcause)
      · exact tandem_pure ht
      · next failure =>
        dsimp only
        split
        · exact tandem_firstTemplate named rest
        · exact tandem_throw hcause
    · intro _ failure s halone hs
      dsimp only
      rw [Pairing.isNotFound_eq_false halone]
      exact gone_throw halone hs
termination_by structural candidates

end

/-- A template that is found, where nothing is to be tried otherwise. -/
theorem tandem_find {v v' : Value} (h : K.values v v') :
    Tandem K K.failing K.templates (findTemplate v) (findTemplate v') := by
  obtain ⟨-, rfl⟩ := h
  exact (tandem_findTemplate v).mono (fun _ _ => id) (fun _ => id) fun _ _ => trivial

/-! ## Blocks and functions -/

theorem tandem_renderBlock {b : Block} (hb : b.Fits K) :
    Tandem K K.failing (fun v v' => v.IsOutput K ∧ v' = v.adjust K.adjust) (renderBlock b)
      (renderBlock (b.adjust K.adjust)) := by
  refine tandem_get_bind fun s hs => .ask (r := .renderBlock b s) ⟨hb, hs⟩ (fun r hr => ?_) ?_
  · exact .done ⟨{ hs with context := hr.context, parent := hr.parent }, rfl, results_of hr.result⟩
  · rintro - c r ⟨failure, hr, hcause⟩
    exact .done ⟨⟨failure, hr, hcause, trivial⟩, hs.template.1⟩

/-- The value of a block. -/
theorem tandem_blockValue {b : Block} (hb : b.Fits K) :
    Tandem K K.failing K.values (renderBlock b) (renderBlock (b.adjust K.adjust)) :=
  (tandem_renderBlock hb).mono (fun _ _ h => ⟨h.1.fits, h.2⟩) (fun _ => id) fun _ => id

theorem tandem_findBlock (name : String) :
    Tandem K K.failing K.foundBlocks (findBlock name) (findBlock name) :=
  tandem_get_bind fun s hs => tandem_ask (r := .findBlock s.template s.overrides name)
    ⟨hs.template, hs.overrides⟩ (fun _ _ => id) s hs

theorem tandem_renderParent : Tandem K K.failing K.values renderParent renderParent := by
  refine tandem_get_bind fun s hs => ?_
  have hnesting : (s.adjust K.adjust).nesting = s.nesting := rfl
  rw [hnesting]
  cases s.nesting with
  | nil => exact tandem_throw (K.cause_of_ne _ (by nofun)) s hs
  | cons name outer =>
    refine tandem_ask_bind (r := .inheritedBlock s.template name) hs.template ?_
      (fun _ _ _ => False.elim) s hs
    rintro (_ | b) hb
    · exact tandem_throw (K.cause_of_ne _ (by nofun))
    · exact tandem_blockValue (hb b rfl)

theorem tandem_renderNamedBlock (name : String) :
    Tandem K K.failing K.values (renderNamedBlock name) (renderNamedBlock name) := by
  refine (tandem_findBlock name).bind ?_
  rintro (_ | b) _ ⟨hb, rfl⟩
  · exact tandem_pure ⟨trivial, rfl⟩
  · exact tandem_blockValue (hb b rfl)

theorem tandem_renderTemplate {t : Template} (ht : t.Fits K) (parent : Option Template)
    (hparent : ∀ p ∈ parent, p.Fits K) {c : Context} (hc : K.Variables c) :
    Tandem K K.failing K.texts (renderTemplate t parent c)
      (renderTemplate (t.adjust K.adjust) (parent.map (Template.adjust K.adjust))
        (Dict.mapValues (Value.adjust K.adjust) c)) := by
  refine tandem_ask_bind (r := .render t parent c []) ⟨ht, hparent, hc, Dict.all_nil⟩ ?_
    fun _ _ _ h hs => gone_settle h hs
  rintro (failure | text) ⟨hr, -⟩
  · exact tandem_settle (.error hr)
  · exact tandem_settle (.ok ⟨hr, rfl⟩)

theorem tandem_mergeObject {c c' : Context} (hc : K.contexts c c') {v v' : Value}
    (hv : K.values v v') :
    Tandem K K.failing K.contexts (settle (mergeObject c v)) (settle (mergeObject c' v')) := by
  obtain ⟨hc, rfl⟩ := hc
  obtain ⟨hv, rfl⟩ := hv
  refine tandem_settle ?_
  cases v with
  | object identity entries =>
    rw [Value.adjust_object]
    exact .ok ⟨hc.merge (Value.within_object.mp hv), (Dict.mapValues_merge _ c entries).symm⟩
  | _ => exact .error (K.cause_of_ne _ (by nofun))

/-- What the function `include` does with a template that it has found. -/
def includeFound (withContext : Bool) (bindings : Value) (t : Template) : Rendering Value := do
  let start ← if withContext then context else pure []
  let c ← if bindings.isNone then pure start else settle (mergeObject start bindings)
  return .safe (← renderTemplate t none c)

theorem tandem_includeFound (withContext : Bool) {bindings : Value} (hbindings : bindings.Fits K)
    {t : Template} (ht : t.Fits K) :
    Tandem K K.failing K.values (includeFound withContext bindings t)
      (includeFound withContext (bindings.adjust K.adjust) (t.adjust K.adjust)) := by
  have hrender (c c' : Context) (hc : K.contexts c c') : Tandem K K.failing K.values
      (do return Value.safe (← renderTemplate t none c))
      (do return Value.safe (← renderTemplate (t.adjust K.adjust) none c')) := by
    obtain ⟨hc, rfl⟩ := hc
    refine (tandem_renderTemplate ht none nofun hc).bind ?_
    rintro text _ ⟨htext, rfl⟩
    exact tandem_pure ⟨htext, rfl⟩
  have hstart (start start' : Context) (h : K.contexts start start') :
      Tandem K K.failing K.values
        (do
          let c ← if bindings.isNone then pure start else settle (mergeObject start bindings)
          return Value.safe (← renderTemplate t none c))
        (do
          let c ← if (bindings.adjust K.adjust).isNone then pure start'
            else settle (mergeObject start' (bindings.adjust K.adjust))
          return Value.safe (← renderTemplate (t.adjust K.adjust) none c)) := by
    rw [Value.isNone_adjust]
    dsimp only
    split
    · exact (tandem_pure h).bind hrender
    · exact (tandem_mergeObject h ⟨hbindings, rfl⟩).bind hrender
  cases withContext with
  | true => exact tandem_context.bind hstart
  | false => exact (tandem_pure ⟨Dict.all_nil, rfl⟩).bind hstart

theorem tandem_includeFunction {args args' : List Value} (h : K.args args args') :
    Tandem K K.failing K.values (includeFunction args) (includeFunction args') := by
  obtain ⟨hargs, rfl⟩ := h
  have harg (i : Nat) : K.values (args[i]?.getD Value.undefined)
      ((args.map (Value.adjust K.adjust))[i]?.getD Value.undefined) := by
    rw [List.getElem?_map]
    cases hv : args[i]? with
    | none => exact ⟨trivial, rfl⟩
    | some v => exact ⟨hargs v (List.mem_of_getElem? hv), rfl⟩
  have htruthy : (fun v => (Value.adjust K.adjust v).isTruthy) = Value.isTruthy :=
    funext (Value.isTruthy_adjust K.adjust)
  obtain ⟨hbindings, hbindings'⟩ := harg 1
  obtain ⟨-, htarget'⟩ := harg 0
  rw [includeFunction, includeFunction, hbindings', htarget', List.getElem?_map, Option.any_map,
    List.getElem?_map, Option.all_map, htruthy]
  refine (tandem_findTemplate _).attempt_bind ?_ ?_
  · rintro _ _ (⟨ht, rfl⟩ | hcause)
    · exact tandem_includeFound _ hbindings ht
    · dsimp only
      split
      · exact tandem_pure ⟨K.text_empty, rfl⟩
      · exact tandem_throw hcause
  · intro _ failure s halone hs
    dsimp only
    rw [Pairing.isNotFound_eq_false halone, Bool.and_false]
    exact gone_throw trivial hs

/-- A function that is not one of rendering itself. -/
theorem callFunction_of_ne {name : String} (hparent : name ≠ "parent") (hblock : name ≠ "block")
    (hinclude : name ≠ "include") (args : List Value) :
    callFunction name args = (do
      match ← ask (.function name args) with
      | some r => settle r
      | none =>
        match (← context).find? name with
        | some v =>
          if v.isCallable then invoke v none args else throw ⟨.unknownFunction name, none⟩
        | none => throw ⟨.unknownFunction name, none⟩) := by
  unfold callFunction
  split
  · exact absurd rfl hparent
  · exact absurd rfl hblock
  · exact absurd rfl hinclude
  · rfl

theorem tandem_callFunction (name : String) {args args' : List Value} (h : K.args args args') :
    Tandem K K.failing K.values (callFunction name args) (callFunction name args') := by
  by_cases hparent : name = "parent"
  · subst hparent
    exact tandem_renderParent
  by_cases hblock : name = "block"
  · subst hblock
    have hname : args'.head?.elim "" Value.text = args.head?.elim "" Value.text := by
      rw [h.2]
      cases args with
      | nil => rfl
      | cons v rest => exact Value.text_adjust K.adjust v
    show Tandem K K.failing K.values (renderNamedBlock (args.head?.elim "" Value.text))
      (renderNamedBlock (args'.head?.elim "" Value.text))
    rw [hname]
    exact tandem_renderNamedBlock _
  by_cases hinclude : name = "include"
  · subst hinclude
    exact tandem_includeFunction h
  obtain ⟨hargs, rfl⟩ := h
  rw [callFunction_of_ne hparent hblock hinclude, callFunction_of_ne hparent hblock hinclude]
  refine tandem_ask_bind (r := .function name args) hargs ?_ ?_
  · rintro (_ | r) hr
    · refine tandem_context.bind ?_
      rintro c _ ⟨hc, rfl⟩
      rw [Dict.find?_mapValues]
      cases hv : c.find? name with
      | none => exact tandem_throw (K.cause_of_ne _ (by nofun))
      | some v =>
        dsimp only [Option.map_some]
        rw [Value.isCallable_adjust]
        split
        · exact tandem_invoke ⟨hc.find? hv, rfl⟩ receiver_none ⟨hargs, rfl⟩
        · exact tandem_throw (K.cause_of_ne _ (by nofun))
    · exact tandem_settle (results_of (hr r rfl))
  · rintro c _ s ⟨failure, rfl, hcause⟩ hs
    exact gone_settle ⟨failure, rfl, hcause⟩ hs

end Rendering
end Stencil
