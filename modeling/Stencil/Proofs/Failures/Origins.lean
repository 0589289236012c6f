import Stencil.Proofs.Engine.Depth
import Stencil.Proofs.Failures.Hosts
import Stencil.Proofs.Failures.Nodes
import Stencil.Proofs.Settings.Runs

/-!
# Where failures come from

A failure was raised in the innermost of the calls that fail one inside the other
(`Environment.trail`).  On its way out each of them may put the name of its template to it, and the
first name stays (`Environment.run_render_failure`).  A text that is no list of nodes puts none:
what fails in such a text is taken for a failure of the text around the call.
-/
namespace Stencil
open Rendering

/-! ## The way of a failure -/

/-- The first call of a program that fails: where it is made, and what it fails with. -/
structure Halt where
  call : Request
  state : World
  failure : Failure

namespace Program
variable {α β : Type}

/-- The first call of a program that fails, given the answers to its requests. -/
def haltWith (answer : (r : Request) → World → Outcome r.Answer) :
    Program α → World → Option Halt
  | .done _, _ => none
  | .ask r next, w =>
    match answer r w with
    | .done a after =>
      match r.failure? a with
      | some failure => some ⟨r, w, failure⟩
      | none => haltWith answer (next a) after
    | .pending _ | .tooDeep => none

variable {answer : (r : Request) → World → Outcome r.Answer}

theorem haltWith_sound {p : Program α} {w : World} {h : Halt} (hh : p.haltWith answer w = some h) :
    ∃ a after, answer h.call h.state = .done a after ∧ h.call.failure? a = some h.failure := by
  induction p generalizing w with
  | done a => cases hh
  | ask r next ih =>
    rw [haltWith] at hh
    split at hh
    · next a after ha =>
      split at hh
      · next failure hfailure =>
        obtain rfl := Option.some.inj hh
        exact ⟨a, after, ha, hfailure⟩
      · exact ih a hh
    · cases hh
    · cases hh

theorem haltWith_bind (p : Program α) (k : α → Program β) (w : World) :
    (p >>= k).haltWith answer w = (p.haltWith answer w).or (match p.runWith answer w with
      | .done a after => (k a).haltWith answer after
      | .pending _ | .tooDeep => none) := by
  induction p generalizing w with
  | done a => rfl
  | ask r next ih =>
    rw [ask_bind, haltWith, haltWith, runWith]
    cases answer r w with
    | done a after =>
      dsimp only
      cases r.failure? a with
      | some failure => rfl
      | none => exact ih a after
    | pending after | tooDeep => rfl

end Program

/-- The template whose text a call runs. -/
def Request.text? : Request → Option Template
  | .renderBlock b _ => some b.template
  | .render t .. | .mergeImports t _ => some t
  | .invoke (.lambda _ _ _ t _) .. | .invoke (.templateMacro t _) .. => some t
  | _ => none

/-- The template that is rendered, if it does not extend another one from the start. -/
def Request.unembedded? : Request → Option Template
  | .render t none _ _ => some t
  | _ => none

/-- The text of a call passes failures on, and the template has a name unless it extends another one
from the start. -/
def Request.Strict (r : Request) : Prop :=
  (∀ t ∈ r.text?, t.options.rethrow = true) ∧ ∀ t ∈ r.unembedded?, t.id.isSome = true

instance (r : Request) : Decidable r.Strict := inferInstanceAs (Decidable (_ ∧ _))

/-- A call that has failed, and the name that it puts to failures that have none. -/
structure Passage where
  call : Request
  name? : Option String

namespace Passage

/-- The first name on the way out. -/
def innermost? (trail : List Passage) : Option String :=
  trail.foldr (fun p inner => inner.or p.name?) none

theorem innermost?_cons (p : Passage) (rest : List Passage) :
    innermost? (p :: rest) = (innermost? rest).or p.name? := rfl

/-- The template in whose text the failure was raised, by its name. -/
def origin? (trail : List Passage) : Option String :=
  trail.getLast?.bind fun p => p.call.text?.bind Template.id

/-- A name that is put to a failure where it was raised is not changed. -/
theorem innermost?_of_getLast? {trail : List Passage} {p : Passage} {id : String}
    (hlast : trail.getLast? = some p) (hid : p.name? = some id) : innermost? trail = some id := by
  induction trail with
  | nil => cases hlast
  | cons first rest ih =>
    rw [innermost?_cons]
    cases rest with
    | nil =>
      obtain rfl : first = p := Option.some.inj hlast
      exact hid
    | cons second rest =>
      rw [List.getLast?_cons_cons] at hlast
      rw [ih hlast, Option.some_or]

end Passage

namespace Environment

section
variable (env : Environment) (patience : Patience) (depth : Nat)

/-- The parameters of a macro are bound without a failure. -/
def binds (t : Template) (name : String) (args : List Value) (w : World) : Bool :=
  match t.macros.find? name with
  | some definition =>
    match env.run patience depth
        (resultIn (Scope.start t []) (Template.bindParams definition.params args)).run w with
    | .done (.ok _) _ => true
    | _ => false
  | none => false

/-- The name that a call puts to failures: that of the template if it ends a list of nodes, or the
resolving of `use` tags before the first one; that of the source, if it cannot be compiled. -/
def name? : Request → World → Option String
  | .render t .., _ => t.id
  | .renderBlock b _, _ => b.name?
  | .invoke (.templateMacro t name) _ args, w =>
    if env.binds patience depth t name args w then t.id else none
  | .load locator, _ => some locator
  | _, _ => none

/-- The calls that fail one inside the other, the outermost first. -/
def trail : Nat → Request → World → List Passage
  | 0, _, _ => []
  | depth + 1, r, w =>
    ⟨r, env.name? patience depth r w⟩ ::
      match env.errand? r with
      | some e =>
        match e.program.haltWith (env.answer patience depth) w with
        | some h => trail depth h.call h.state
        | none => []
      | none => []

end

variable {env : Environment} {patience : Patience} {depth : Nat}

/-- The name that the call of a text puts to failures, if it does, is that of its template. -/
theorem name?_eq_id {r : Request} {t : Template} (ht : r.text? = some t) {w : World}
    (hsome : (env.name? patience depth r w).isSome = true) :
    env.name? patience depth r w = t.id := by
  cases r with
  | render =>
    obtain rfl := Option.some.inj ht
    rfl
  | renderBlock b scope =>
    obtain rfl := Option.some.inj ht
    obtain ⟨t, name, body⟩ := b
    cases body with
    | nodes nodes => rfl
    | expression e => cases hsome
  | invoke callee receiver args =>
    cases callee with
    | templateMacro t' name =>
      obtain rfl := Option.some.inj ht
      rw [name?] at hsome ⊢
      split at hsome
      · next hbinds => rw [if_pos hbinds]
      · cases hsome
    | _ => cases hsome
  | mergeImports => cases hsome
  | _ => cases ht

theorem mem_trail {r : Request} {w : World} {p : Passage}
    (hp : p ∈ env.trail patience depth r w) :
    ∃ level state, p.name? = env.name? patience level p.call state := by
  induction depth generalizing r w with
  | zero => cases hp
  | succ depth ih =>
    rw [trail] at hp
    rcases List.mem_cons.mp hp with rfl | hp
    · exact ⟨depth, w, rfl⟩
    · split at hp
      · split at hp
        · exact ih hp
        · cases hp
      · cases hp

/-- Answers are fair, those that tell of a failure up to the first one. -/
def FairUpTo (env : Environment) (patience : Patience) (depth : Nat) (halt : Option Halt) : Prop :=
  ∀ r w a after, env.answer patience depth r w = .done a after →
    (∀ failure, r.failure? a = some failure → halt = some ⟨r, w, failure⟩) → r.Fair a

theorem FairUpTo.none {halt : Option Halt} (h : env.FairUpTo patience depth halt) :
    env.FairUpTo patience depth none := fun r w a after ha hhalt =>
  h r w a after ha fun failure hfailure => absurd (hhalt failure hfailure) nofun

theorem FairUpTo.of_or {first rest : Option Halt}
    (h : env.FairUpTo patience depth (first.or rest)) : env.FairUpTo patience depth first := by
  cases first with
  | none => exact h.none
  | some halt => exact h

/-- A request with an errand is answered with what the errand comes to one level deeper. -/
theorem answer_errand_inv {r : Request} {e : Errand r} (he : env.errand? r = some e)
    {w after : World} {a : r.Answer} (ha : env.answer patience depth r w = .done a after) :
    ∃ level b, depth = level + 1 ∧ env.run patience level e.program w = .done b after ∧
      a = e.answer b := by
  cases depth with
  | zero =>
    rw [env.answer_errand_zero patience he] at ha
    cases ha
  | succ level =>
    rw [env.answer_errand_succ patience level he] at ha
    cases hrun : env.run patience level e.program w with
    | done b last =>
      rw [hrun] at ha
      obtain ⟨rfl, rfl⟩ := Outcome.done.inj ha
      exact ⟨level, b, rfl, hrun, rfl⟩
    | pending last | tooDeep =>
      rw [hrun] at ha
      cases ha

/-- **A run ends as the program says it does**, for the first call that fails on its way. -/
theorem run_relays {α : Type} {post : Option Failure → α → Prop} {p : Program α}
    (h : p.Relays post) {w : World}
    (hfair : env.FairUpTo patience depth (p.haltWith (env.answer patience depth) w)) {b : α}
    {last : World} (hrun : env.run patience depth p w = .done b last) :
    post ((p.haltWith (env.answer patience depth) w).map Halt.failure) b := by
  -- on the program: what it does after a call that has failed no longer depends on the answers,
  -- so these need to be fair up to that call only
  induction p generalizing w with
  | done a =>
    cases hrun
    exact h
  | ask r next ih =>
    cases ha : env.answer patience depth r w with
    | done a after =>
      rw [env.run_ask_done patience depth ha] at hrun
      rw [Program.haltWith, ha] at hfair ⊢
      dsimp only at hfair ⊢
      cases hfailure : r.failure? a with
      | none =>
        rw [hfailure] at hfair
        have hanswer := h a (hfair r w a after ha fun f hf => absurd (hfailure.symm.trans hf) nofun)
        exact ih a (hanswer.1 hfailure) hfair hrun
      | some failure =>
        rw [hfailure] at hfair
        have hanswer := h a (hfair r w a after ha fun f hf => by rw [hfailure.symm.trans hf])
        obtain ⟨c, last', hdone, hc⟩ :=
          env.run_gone patience depth (hanswer.2 failure hfailure) after
        obtain ⟨rfl, -⟩ := Outcome.done.inj (hrun.symm.trans hdone)
        exact hc
    | pending after =>
      rw [env.run_ask_pending patience depth ha] at hrun
      cases hrun
    | tooDeep =>
      rw [env.run_ask_tooDeep patience depth ha] at hrun
      cases hrun

end Environment

/-! ## Fair answers -/

namespace Environment
variable {env : Environment} {patience : Patience}

theorem run_callFree {α : Type} {post : α → Prop} {p : Program α} (h : p.Meets .callFree post)
    {depth : Nat} {w : World} {b : α} {last : World}
    (hrun : env.run patience depth p w = .done b last) : post b := by
  induction p generalizing w with
  | done a =>
    cases hrun
    exact h
  | ask r next ih =>
    cases ha : env.answer patience depth r w with
    | done a after =>
      rw [env.run_ask_done patience depth ha] at hrun
      exact ih a (h.2 a trivial) hrun
    | pending after =>
      rw [env.run_ask_pending patience depth ha] at hrun
      cases hrun
    | tooDeep =>
      rw [env.run_ask_tooDeep patience depth ha] at hrun
      cases hrun

namespace PassesOn
variable (henv : env.PassesOn)
include henv

/-- What is loaded, or what the loader fails with, is fair. -/
theorem fair_load {depth : Nat} {locator : String} {w after : World}
    {a : (Request.load locator).Answer}
    (ha : env.answer patience depth (.load locator) w = .done a after) :
    (Request.load locator).Fair a := by
  obtain ⟨depth, b, rfl, hrun, rfl⟩ := answer_errand_inv rfl ha
  exact run_callFree (henv.load locator) hrun

/-- Answers are fair if the failures of calls are. -/
theorem fairUpTo {depth : Nat} {halt : Option Halt}
    (h : ∀ t c overrides w failure, halt = some ⟨.render t none c overrides, w, failure⟩ →
      failure.template.isSome = true) : env.FairUpTo patience depth halt := by
  intro r w a after ha hhalt
  cases r with
  | load locator => exact henv.fair_load ha
  | cached locator =>
    rw [env.answer_cached] at ha
    obtain ⟨rfl, -⟩ := Outcome.done.inj ha
    exact henv.cachedTree _ _
  | writeCache locator tree =>
    rw [env.answer_onTheSpot patience depth rfl, answer, answerWith] at ha
    have hwrite := henv.cacheTree w.cache locator tree
    split at ha
    · obtain ⟨rfl, -⟩ := Outcome.done.inj ha
      exact .ok ()
    · next failure hfailure =>
      obtain ⟨rfl, -⟩ := Outcome.done.inj ha
      exact .error (hwrite failure hfailure)
  | render t parent c overrides =>
    cases parent with
    | some parent => trivial
    | none =>
      rintro failure rfl
      exact h t c overrides w failure (hhalt failure rfl)
  | _ => trivial

end PassesOn

/-! ## One call -/

/-- What is answered on the spot tells of no failure of a call. -/
theorem failure?_onTheSpot {r : Request} (he : env.errand? r = none) {depth : Nat} {w after : World}
    {a : r.Answer} (ha : env.answer patience depth r w = .done a after) : r.failure? a = none := by
  cases r with
  | function name args =>
    have hf : env.functions.find? name = none := Option.map_eq_none_iff.mp he
    rw [env.answer_onTheSpot patience depth he, answer, answerWith, hf] at ha
    obtain ⟨rfl, -⟩ := Outcome.done.inj ha
    rfl
  | load | filter | test | invoke | findBlock | inheritedBlock | renderBlock | render
  | mergeImports => cases he
  | _ => rfl

/-- The parameters are bound exactly if the binding ends in no failure. -/
theorem binds_eq {depth : Nat} {t : Template} {name : String} {definition : MacroDefinition}
    (hfind : t.macros.find? name = some definition) {args : List Value} {w after : World}
    {bindings : Except Failure (List Value)} {scope : Scope}
    (hbound : env.run patience depth (definition.bound t args) w = .done (bindings, scope) after) :
    env.binds patience depth t name args w = bindings.isOk := by
  have hresult : env.run patience depth (resultIn (Scope.start t [])
      (Template.bindParams definition.params args)).run w = .done bindings after := by
    show (definition.bound t args >>= fun r => .done r.1).runWith _ w = _
    rw [run] at hbound
    rw [Program.runWith_bind, hbound]
    rfl
  rw [binds, hfind]
  dsimp only
  rw [hresult]
  cases bindings with
  | ok left => rfl
  | error failure => rfl

/-- What the binding fails with gets no name; what comes after it gets that of the template. -/
theorem run_afterBinding {depth : Nat} {t : Template} (ht : t.options.rethrow = true)
    (definition : MacroDefinition) (args : List Value) {w after last : World}
    {bindings : Except Failure (List Value)} {scope : Scope} {r : Except Failure Value}
    (hfair : env.FairUpTo patience depth
      ((definition.bound t args >>= definition.afterBinding).haltWith
        (env.answer patience depth) w))
    (hbound : env.run patience depth (definition.bound t args) w = .done (bindings, scope) after)
    (hrun : env.run patience depth (definition.afterBinding (bindings, scope)) after
      = .done r last) :
    (Manner.naming (if bindings.isOk then t.id else none)).Ends
      (((definition.bound t args >>= definition.afterBinding).haltWith
        (env.answer patience depth) w).map Halt.failure) r := by
  rw [Program.haltWith_bind] at hfair ⊢
  obtain ⟨hscope, hends⟩ := run_relays (definition.relays_bound ht args) hfair.of_or hbound
  rw [run] at hbound
  rw [hbound] at hfair ⊢
  -- a call that fails ends the binding in its failure, so the first one is on one side only
  cases bindings with
  | ok left =>
    rw [Option.map_eq_none_iff.mp hends.none_of_ok, Option.none_or] at hfair ⊢
    exact run_relays (relays_resultIn hscope (definition.relays_text ht left)) hfair hrun
  | error failure =>
    obtain ⟨rfl, -⟩ := Outcome.done.inj hrun
    show (Manner.naming none).Ends (Option.map Halt.failure (Option.or _ none)) _
    rw [Option.or_none]
    exact hends.error

/-- A macro puts the name of its template to failures once its parameters are bound. -/
theorem run_callMacro {depth : Nat} {t : Template} (ht : t.options.rethrow = true) (name : String)
    (args : List Value) {w last : World} {r : Except Failure Value}
    (hfair : env.FairUpTo patience depth
      ((t.callMacro name args).run.haltWith (env.answer patience depth) w))
    (hrun : env.run patience depth (t.callMacro name args).run w = .done r last) :
    (Manner.naming (if env.binds patience depth t name args w then t.id else none)).Ends
      (((t.callMacro name args).run.haltWith (env.answer patience depth) w).map Halt.failure)
      r := by
  cases hfind : t.macros.find? name with
  | none =>
    have hbinds : env.binds patience depth t name args w = false := by rw [binds, hfind]
    rw [Template.callMacro_run_none hfind] at hrun ⊢
    obtain ⟨rfl, -⟩ := Outcome.done.inj hrun
    rw [hbinds]
    exact .own rfl
  | some definition =>
    rw [Template.callMacro_run hfind args] at hfair hrun ⊢
    obtain ⟨out, after, hbound, hafter⟩ := Program.runWith_bind_eq_done.mp hrun
    rw [binds_eq hfind hbound]
    exact run_afterBinding ht definition args hfair hbound hafter

namespace PassesOn
variable (henv : env.PassesOn)
include henv

/-- The loader makes no call, and a source that cannot be compiled is named by its locator. -/
theorem relays_load (locator : String) :
    (env.load locator).run.Relays fun f? r => ∀ failure,
      (Request.load locator).failure? r = some failure →
        failure.template = (f?.bind Failure.template).or (some locator) := by
  refine (henv.load locator).relays.mono ?_
  rintro _ (failure | source) ⟨rfl, -⟩ thrown hthrown
  · cases hthrown
  · cases hread : Node.ofSource source with
    | ok nodes =>
      simp only [Request.failure?, hread, Failure.of?, Option.map_none] at hthrown
      cases hthrown
    | error failure =>
      simp only [Request.failure?, hread, Failure.of?, Option.map_some] at hthrown
      obtain rfl := Option.some.inj hthrown
      rw [Failure.template_inTemplate, Node.unnamed_ofSource source failure hread]
      rfl

theorem relays_filter (name : String) (input : Value) (args : List Value) :
    Attempt.Relays (.naming none) (env.filter name input args) := by
  unfold Environment.filter
  split
  · next f hf => exact henv.filter name f hf input args
  · exact Attempt.relays_throw rfl

theorem relays_test (name : String) (input : Value) (args : List Value) :
    Attempt.Relays (.naming none) (env.test name input args) := by
  unfold Environment.test
  split
  · next f hf => exact henv.test name f hf input args
  · exact Attempt.relays_throw rfl

/-- A failed call other than that of a macro puts its name to the failure. -/
theorem relays_errand {r : Request} {e : Errand r} (he : env.errand? r = some e)
    (hfails : ∃ a failure, r.failure? a = some failure) (hstrict : r.Strict)
    (hcallee : ∀ t name receiver args, r ≠ .invoke (.templateMacro t name) receiver args)
    (patience : Patience) (depth : Nat) (w : World) :
    e.program.Relays fun f? b => ∀ failure, r.failure? (e.answer b) = some failure →
      failure.template = (f?.bind Failure.template).or (env.name? patience depth r w) := by
  cases r with
  | load locator =>
    obtain rfl := Option.some.inj he
    exact henv.relays_load locator
  | filter name input args =>
    obtain rfl := Option.some.inj he
    exact Program.Relays.mono (henv.relays_filter name input args)
      fun _ _ hends _ => hends.template_eq
  | test name input args =>
    obtain rfl := Option.some.inj he
    exact Program.Relays.mono (henv.relays_test name input args)
      fun _ _ hends _ => hends.template_eq
  | function name args =>
    obtain ⟨f, hf, rfl⟩ := Option.map_eq_some_iff.mp he
    exact Program.Relays.mono (henv.function name f hf args) fun _ _ hends _ => hends.template_eq
  | invoke callee receiver args =>
    obtain rfl := Option.some.inj he
    cases callee with
    | hostFunction identity =>
      exact Program.Relays.mono (henv.callable identity receiver args)
        fun _ _ hends _ => hends.template_eq
    | lambda identity params body t outer =>
      exact Program.Relays.mono
        (Template.relays_callLambda (hstrict.1 t rfl) params body outer args)
        fun _ _ hends _ => hends.template_eq
    | templateMacro t name => exact absurd rfl (hcallee t name receiver args)
    | _ =>
      rintro failure hfailure
      cases hfailure
  | findBlock t overrides name | inheritedBlock t name =>
    obtain ⟨_, _, hfails⟩ := hfails
    cases hfails
  | renderBlock b scope =>
    obtain rfl := Option.some.inj he
    exact (Block.relays_render (hstrict.1 b.template rfl) scope).mono
      fun _ _ hends _ => hends.template_eq
  | render t parent c overrides =>
    obtain rfl := Option.some.inj he
    exact Program.Relays.mono (Template.relays_render (hstrict.1 t rfl) parent c overrides)
      fun _ _ hends _ => hends.template_eq
  | mergeImports t c =>
    obtain rfl := Option.some.inj he
    exact Program.Relays.mono (Template.relays_mergeImports (hstrict.1 t rfl) c)
      fun _ _ hends _ => hends.template_eq
  | _ => cases he

theorem run_errand {r : Request} {e : Errand r} (he : env.errand? r = some e) (hstrict : r.Strict)
    {depth : Nat} {w last : World} {b : e.Result}
    (hfair : env.FairUpTo patience depth (e.program.haltWith (env.answer patience depth) w))
    (hrun : env.run patience depth e.program w = .done b last) {failure : Failure}
    (hfailure : r.failure? (e.answer b) = some failure) :
    failure.template
      = (((e.program.haltWith (env.answer patience depth) w).map Halt.failure).bind
          Failure.template).or (env.name? patience depth r w) := by
  by_cases hcallee : ∃ t name receiver args, r = .invoke (.templateMacro t name) receiver args
  · obtain ⟨t, name, receiver, args, rfl⟩ := hcallee
    obtain rfl := Option.some.inj he
    exact (run_callMacro (hstrict.1 t rfl) name args hfair hrun).template_eq hfailure
  · have hrelays := henv.relays_errand he ⟨_, _, hfailure⟩ hstrict
      (fun t name receiver args heq => hcallee ⟨t, name, receiver, args, heq⟩) patience depth w
    exact run_relays hrelays hfair hrun failure hfailure

omit henv in
/-- Where a template that nothing extends from the start has a name, so have its failures. -/
theorem isSome_innermost? {depth : Nat} {t : Template} {c : Context} {overrides : Dict Block}
    {w after : World} {a : (Request.render t none c overrides).Answer}
    (ha : env.answer patience depth (.render t none c overrides) w = .done a after)
    (hstrict : ∀ p ∈ env.trail patience depth (.render t none c overrides) w, p.call.Strict) :
    (Passage.innermost? (env.trail patience depth (.render t none c overrides) w)).isSome
      = true := by
  obtain ⟨level, _, rfl, -, -⟩ := answer_errand_inv rfl ha
  rw [trail] at hstrict ⊢
  have hnamed := (hstrict _ List.mem_cons_self).2 t rfl
  rw [Passage.innermost?_cons, Option.isSome_or]
  exact (Bool.or_eq_true _ _).mpr (.inr hnamed)

/-- **The failure of a call names the innermost template on its way**, where all texts on the way
pass failures on. -/
theorem answer_failure {depth : Nat} {r : Request} {w after : World} {a : r.Answer}
    {failure : Failure} (ha : env.answer patience depth r w = .done a after)
    (hfailure : r.failure? a = some failure)
    (hstrict : ∀ p ∈ env.trail patience depth r w, p.call.Strict) :
    failure.template = Passage.innermost? (env.trail patience depth r w) := by
  -- on the depth: the call that fails inside is answered one level below, and all the answers up to
  -- it are fair because of what is known of that level
  induction depth generalizing r w after a failure with
  | zero =>
    cases he : env.errand? r with
    | none => exact absurd ((failure?_onTheSpot he ha).symm.trans hfailure) nofun
    | some e =>
      rw [env.answer_errand_zero patience he] at ha
      cases ha
  | succ depth ih =>
    cases he : env.errand? r with
    | none => exact absurd ((failure?_onTheSpot he ha).symm.trans hfailure) nofun
    | some e =>
      obtain ⟨level, b, hlevel, hrun, rfl⟩ := answer_errand_inv he ha
      obtain rfl : depth = level := Nat.succ.inj hlevel
      rw [trail, he] at hstrict ⊢
      dsimp only at hstrict ⊢
      obtain ⟨hcall, hinside⟩ := List.forall_mem_cons.mp hstrict
      have hinner : ∀ h, e.program.haltWith (env.answer patience depth) w = some h →
          (∀ p ∈ env.trail patience depth h.call h.state, p.call.Strict) ∧
            h.failure.template
              = Passage.innermost? (env.trail patience depth h.call h.state) := by
        intro h hhalt
        rw [hhalt] at hinside
        obtain ⟨_, _, ha', hfailure'⟩ := Program.haltWith_sound hhalt
        exact ⟨hinside, ih ha' hfailure' hinside⟩
      have hfair : env.FairUpTo patience depth
          (e.program.haltWith (env.answer patience depth) w) := by
        refine henv.fairUpTo fun t c overrides w' failure' hhalt => ?_
        obtain ⟨hstrict', hname⟩ := hinner _ hhalt
        obtain ⟨_, _, ha', -⟩ := Program.haltWith_sound hhalt
        rw [hname]
        exact isSome_innermost? ha' hstrict'
      have hname := henv.run_errand he hcall hfair hrun hfailure
      rw [hname, Passage.innermost?_cons]
      cases hhalt : e.program.haltWith (env.answer patience depth) w with
      | none => rfl
      | some h =>
        obtain ⟨-, hname'⟩ := hinner h hhalt
        exact congrArg (Option.or · _) hname'

end PassesOn

/-! ## Renders -/

/-- **Which template the failure of a render names.**  Let the host pass failures on, and let the
texts that the failure leaves on its way do so too, each of a template that has a name or extends
another one from the start.  The failure names the first template on its way that puts a name to it:
because it ends a list of nodes of the template, or its `use` tags, or because the source cannot be
compiled.  If it was raised in such a place, it names the template in whose text it was raised. -/
theorem run_render_failure (henv : env.PassesOn) {depth : Nat} {t : Template}
    {parent : Option Template} {c : Context} {overrides : Dict Block} {w after : World}
    {failure : Failure}
    (hrun : env.run patience depth (t.render parent c overrides).run w
      = .done (.error failure) after) :
    let trail := env.trail patience (depth + 1) (.render t parent c overrides) w
    (∀ p ∈ trail, p.call.Strict) →
      failure.template = Passage.innermost? trail ∧
        ∀ p origin, trail.getLast? = some p → p.call.text? = some origin →
          p.name?.isSome = true → failure.template = origin.id := by
  intro trail hstrict
  have hanswer : env.answer patience (depth + 1) (.render t parent c overrides) w
      = .done (.error failure) after := by
    rw [env.answer_errand_succ patience depth rfl, hrun]
    rfl
  have hname : failure.template = Passage.innermost? trail :=
    henv.answer_failure hanswer rfl hstrict
  refine ⟨hname, fun p origin hlast htext hsome => ?_⟩
  obtain ⟨id, hid⟩ := Option.isSome_iff_exists.mp hsome
  obtain ⟨level, state, hp⟩ := mem_trail (List.mem_of_getLast? hlast)
  rw [hp] at hsome
  rw [hname, Passage.innermost?_of_getLast? hlast hid, ← hid, hp, name?_eq_id htext hsome]

/-! A page that calls a macro, which fails in its body or in the value that stands in for the
missing argument, and a page that extends another one. -/

/-- The host. -/
def strict : Environment := standard { rethrow := true }

/-- A template of the host. -/
def page (number : Nat) (name : String) (nodes : List Node) : Template :=
  ⟨number, some name, some name, nodes, strict.options⟩

/-- The call of a function that there is not. -/
def unknownCall : Expr := [.function "nope" (some [])]

/-- The page that calls the macro. -/
def caller : Template :=
  page 0 "page" [.logic (.imports [.string "lib"] "l") [],
    .output [.variable "l", .keyPeriod "m", .group [] true]]

/-- The library. -/
def library (params : List MacroParam) (body : List Node) : Template :=
  page 1 "lib" [.logic (.macroDef "m" params) body]

/-- The page that extends another one, with a block in the short form. -/
def child : Template :=
  page 0 "child" [.logic (.inherits [.string "base"]) [], .logic (.block "b" (some unknownCall)) []]

/-- The page that is extended. -/
def base : Template := page 1 "base" [.logic (.block "b" none) []]

/-- The state in which a template is stored. -/
def shelved (t : Template) : World := { next := 2, store := [(t.title, t)] }

theorem run_render_failure_macro :
    ∃ failure after, strict.run .patient 9 (caller.render none [] []).run
        (shelved (library [] [.output unknownCall])) = .done (.error failure) after ∧
      failure.template = some "lib" := by
  have hstrict : ∀ p ∈ strict.trail .patient 10 (.render caller none [] [])
      (shelved (library [] [.output unknownCall])), p.call.Strict := by decide
  exact ⟨_, _, rfl, (run_render_failure (passesOn_standard _) rfl hstrict).1⟩

/-- The render of a template fails in the text of one template and names another one. -/
def Misattributes (t : Template) (w : World) (origin named : String) : Prop :=
  let trail := strict.trail .patient 10 (.render t none [] []) w
  (∀ p ∈ trail, p.call.Strict) ∧ Passage.origin? trail = some origin ∧
    ∃ failure after, strict.run .patient 9 (t.render none [] []).run w
      = .done (.error failure) after ∧ failure.template = some named

/-- What fails in the value that stands in for the argument of a macro is said to have failed in the
template that calls it, and what fails in the short form of a block, in the one that is extended. -/
theorem run_render_misattributed :
    Misattributes caller (shelved (library [⟨"x", some unknownCall⟩] [])) "lib" "page" ∧
      Misattributes child (shelved base) "child" "base" := by
  exact ⟨⟨by decide, rfl, _, _, rfl, rfl⟩, ⟨by decide, rfl, _, _, rfl, rfl⟩⟩

end Environment
end Stencil
