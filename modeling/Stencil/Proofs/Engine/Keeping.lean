import Stencil.Engine.Builtins
import Stencil.Engine.Loader
import Stencil.Proofs.Dict
import Stencil.Proofs.Engine.Traces
import Stencil.Proofs.Render.NodeConduct

/-!
# What programs of a contract leave

Let every answer on the spot keep the state good and be what a contract takes for granted, as long
as the contract is met, and let the programs that are run for answers meet the contract too.  Then
every run of a program that meets it leaves the state good, also where it is given up before its end
(`Environment.run_leaves`).

What templates do meets every contract that permits it, so it is the host of which something has to
be known: that its extensions keep away from what is a template's own affair
(`Environment.KeepsAway`).
-/
namespace Stencil

namespace Outcome
variable {α β : Type}

/-- The run comes to what is in `post`, and leaves a good state, if it does not go too deep. A run
that is given up leaves a good state too. -/
def Leaves (good : World → Prop) (post : α → Prop) : Outcome α → Prop
  | .done a w => post a ∧ good w
  | .pending w => good w
  | .tooDeep => True

theorem Leaves.all {good : World → Prop} {post : α → Prop} {o : Outcome α}
    (h : o.Leaves good post) : o.All good := by
  cases o with
  | done a w => exact h.2
  | pending w => exact h
  | tooDeep => trivial

theorem Leaves.of_all {good : World → Prop} {post : α → Prop} {o : Outcome α} (h : o.All good)
    (hpost : ∀ a, post a) : o.Leaves good post := by
  cases o with
  | done a w => exact ⟨hpost a, h⟩
  | pending w => exact h
  | tooDeep => trivial

theorem Leaves.map {good : World → Prop} {post : α → Prop} {post' : β → Prop} {o : Outcome α}
    (h : o.Leaves good post) {f : α → β} (hf : ∀ a, post a → post' (f a)) :
    (o.map f).Leaves good post' := by
  cases o with
  | done a w => exact ⟨hf a h.1, h.2⟩
  | pending w => exact h
  | tooDeep => trivial

end Outcome

/-- What is asked for by contract is answered by contract, in a good state, as long as everything
that happens is heeded. -/
structure Environment.Upholds (env : Environment) (C : Contract) (heed : Request → Prop)
    (good : World → Prop) : Prop where
  onTheSpot : ∀ patience r w, env.errand? r = none → C.asks r → heed r → good w →
    (env.answer patience 0 r w).Leaves good (C.answers r)
  errand : ∀ r e, env.errand? r = some e → C.asks r →
    e.program.Meets C fun a => C.answers r (e.answer a)

namespace Environment
variable {env : Environment} {C : Contract} {heed : Request → Prop} {good : World → Prop}

theorem run_leaves_of_answer {patience : Patience} {depth : Nat}
    (h : ∀ r w, C.asks r → heed r → (∀ r' ∈ env.inside patience depth r w, heed r') → good w →
      (env.answer patience depth r w).Leaves good (C.answers r))
    {α : Type} {post : α → Prop} {p : Program α} (hp : p.Meets C post) {w : World} (hw : good w)
    (hheed : ∀ r ∈ env.events patience depth p w, heed r) :
    (env.run patience depth p w).Leaves good post := by
  induction p generalizing w with
  | done a => exact ⟨hp, hw⟩
  | ask r next ih =>
    obtain ⟨hasks, hnext⟩ := hp
    obtain ⟨more, hmore⟩ := env.events_ask patience depth next w
    have hinside : ∀ r' ∈ env.inside patience depth r w, heed r' := fun r' hr' =>
      hheed r' (hmore ▸ List.mem_cons_of_mem r (List.mem_append_left more hr'))
    have hr := h r w hasks (hheed r (hmore ▸ List.mem_cons_self)) hinside hw
    cases ha : env.answer patience depth r w with
    | done a after =>
      rw [ha] at hr
      rw [env.events_ask_done patience depth ha] at hheed
      rw [env.run_ask_done patience depth ha]
      exact ih a (hnext a hr.1) hr.2 fun r' hr' =>
        hheed r' (List.mem_cons_of_mem r (List.mem_append_right _ hr'))
    | pending after =>
      rw [ha] at hr
      rw [env.run_ask_pending patience depth ha]
      exact hr
    | tooDeep =>
      rw [env.run_ask_tooDeep patience depth ha]
      trivial

theorem answer_leaves (h : env.Upholds C heed good) (patience : Patience) (depth : Nat)
    {r : Request} {w : World} (hasks : C.asks r) (hr : heed r)
    (hinside : ∀ r' ∈ env.inside patience depth r w, heed r') (hw : good w) :
    (env.answer patience depth r w).Leaves good (C.answers r) := by
  -- Answers are made on the spot, or by a run that is one level less deep.
  induction depth generalizing r w with
  | zero =>
    cases he : env.errand? r with
    | none => exact h.onTheSpot patience r w he hasks hr hw
    | some e =>
      rw [env.answer_errand_zero patience he]
      trivial
  | succ depth ih =>
    cases he : env.errand? r with
    | none =>
      rw [env.answer_onTheSpot patience (depth + 1) he]
      exact h.onTheSpot patience r w he hasks hr hw
    | some e =>
      rw [env.inside_errand patience depth he] at hinside
      rw [env.answer_errand_succ patience depth he]
      have hrun := run_leaves_of_answer (fun r w => ih) (h.errand r e he hasks) hw hinside
      exact hrun.map fun _ ha => ha

/-- **Programs of a contract leave a good state**, and come to what they promise. -/
theorem run_leaves (h : env.Upholds C heed good) (patience : Patience) (depth : Nat) {α : Type}
    {post : α → Prop} {p : Program α} (hp : p.Meets C post) {w : World} (hw : good w)
    (hheed : ∀ r ∈ env.events patience depth p w, heed r) :
    (env.run patience depth p w).Leaves good post :=
  run_leaves_of_answer (fun _ _ => answer_leaves h patience depth) hp hw hheed

end Environment

/-! ## Hosts that keep away -/

/-- The request has to do with the `use` tags of a template, or with what is put into the cache. -/
def Request.Internal : Request → Prop
  | .claimImports _ | .releaseImports _ | .importBlock .. | .writeCache .. => True
  | _ => False

theorem Request.Ordinary.not_internal {r : Request} (h : r.Ordinary) : ¬ r.Internal := by
  cases r with
  | claimImports | releaseImports | importBlock | writeCache => exact h.elim
  | _ => exact id

/-- The request is for the source of a locator. -/
def Request.Loads : Request → Prop
  | .load _ => True
  | _ => False

/-- The extensions of a host meet a contract, and so does its loader, which gives texts that are
sources of their locators. -/
structure Environment.Provides (env : Environment) (E : Contract)
    (source : String → String → Prop) : Prop where
  filter : ∀ name input args, (env.filter name input args).run.Meets E fun _ => True
  test : ∀ name input args, (env.test name input args).run.Meets E fun _ => True
  function : ∀ name f args, env.functions.find? name = some f →
    (f args).run.Meets E fun _ => True
  callable : ∀ identity receiver args,
    (env.callables identity receiver args).run.Meets E fun _ => True
  load : ∀ locator, (env.load locator).run.Meets E fun r =>
    ∀ text, r = .ok text → source locator text

/-- Whatever is run for an answer meets a contract that permits what templates do and what the
extensions of the host do. -/
theorem Environment.Provides.errand {env : Environment} {E C : Contract}
    {source : String → String → Prop} (h : env.Provides E source) (P : C.Permits True True)
    (hscopes : ∀ scope, C.scopes scope) (hasks : ∀ r, E.asks r → C.asks r)
    (hproper : ∀ r a, E.answers r a)
    (hfind : ∀ t overrides name, C.asks (.findBlock t overrides name))
    (hload : ∀ locator r, (∀ text, r = .ok text → source locator text) →
      C.answers (.load locator) r)
    (hanswers : ∀ (r : Request) a, ¬ r.Loads → env.errand? r ≠ none → C.answers r a)
    {r : Request} {e : Errand r} (he : env.errand? r = some e) :
    e.program.Meets C fun a => C.answers r (e.answer a) := by
  have hexternal {α : Type} {post : α → Prop} {p : Program α} (hp : p.Meets E post) :
      p.Meets C post := hp.weaken hasks fun r a _ => hproper r a
  have hsome : env.errand? r ≠ none := he ▸ Option.some_ne_none e
  have htrivial (hr : ¬ r.Loads) (hp : e.program.Meets C fun _ => True) :
      e.program.Meets C fun a => C.answers r (e.answer a) :=
    hp.mono fun a _ => hanswers r (e.answer a) hr hsome
  cases r with
  | load locator =>
    obtain rfl := Option.some.inj he
    exact (hexternal (h.load locator)).mono fun r hr => hload locator r hr
  | filter name input args =>
    obtain rfl := Option.some.inj he
    exact htrivial id (hexternal (h.filter name input args))
  | test name input args =>
    obtain rfl := Option.some.inj he
    exact htrivial id (hexternal (h.test name input args))
  | function name args =>
    obtain ⟨f, hf, rfl⟩ := Option.map_eq_some_iff.mp he
    exact htrivial id (hexternal (h.function name f args hf))
  | invoke callee receiver args =>
    obtain rfl := Option.some.inj he
    refine htrivial id (?_ : (env.invoke callee receiver args).run.Meets C fun _ => True)
    unfold invoke
    split
    · exact hexternal (h.callable _ receiver args)
    · exact Value.meets_call P hscopes _ args
  | findBlock t overrides name =>
    obtain rfl := Option.some.inj he
    exact htrivial id (Template.meets_findBlock P t overrides name hfind)
  | inheritedBlock t name =>
    obtain rfl := Option.some.inj he
    exact htrivial id (Template.meets_inheritedBlock P t name hfind)
  | renderBlock b scope =>
    obtain rfl := Option.some.inj he
    exact htrivial id (Block.meets_render P hscopes b scope)
  | render t parent c overrides =>
    obtain rfl := Option.some.inj he
    exact htrivial id (Template.meets_render P hscopes t parent c overrides)
  | mergeImports t c =>
    obtain rfl := Option.some.inj he
    exact htrivial id (Template.meets_mergeImports P hscopes t c)
  | _ => cases he

/-- The contract to ask for nothing internal. -/
def Contract.external : Contract := ⟨fun r => ¬ r.Internal, fun _ _ => True, fun _ => True⟩

/-- The extensions of a host ask for nothing internal, and neither does its loader, which gives
texts that are sources of their locators. -/
structure Environment.KeepsAway (env : Environment) (source : String → String → Prop) : Prop where
  filter : ∀ name input args, (env.filter name input args).run.Meets .external fun _ => True
  test : ∀ name input args, (env.test name input args).run.Meets .external fun _ => True
  function : ∀ name f args, env.functions.find? name = some f →
    (f args).run.Meets .external fun _ => True
  callable : ∀ identity receiver args,
    (env.callables identity receiver args).run.Meets .external fun _ => True
  load : ∀ locator, (env.load locator).run.Meets .external fun r =>
    ∀ text, r = .ok text → source locator text

namespace Environment.KeepsAway
variable {env : Environment} {source : String → String → Prop} {C : Contract}

theorem provides (h : env.KeepsAway source) : env.Provides .external source :=
  ⟨h.filter, h.test, h.function, h.callable, h.load⟩

/-- Whatever is run for an answer meets a contract that permits what templates do and forbids
nothing that is not internal. -/
theorem errand (h : env.KeepsAway source) (P : C.Permits True True)
    (hscopes : ∀ scope, C.scopes scope) (hasks : ∀ r : Request, ¬ r.Internal → C.asks r)
    (hload : ∀ locator r, (∀ text, r = .ok text → source locator text) →
      C.answers (.load locator) r)
    (hanswers : ∀ (r : Request) a, ¬ r.Loads → env.errand? r ≠ none → C.answers r a)
    {r : Request} {e : Errand r} (he : env.errand? r = some e) :
    e.program.Meets C fun a => C.answers r (e.answer a) :=
  h.provides.errand P hscopes hasks (fun _ _ => trivial) (fun _ _ _ => hasks _ id) hload hanswers
    he

end Environment.KeepsAway

/-! ## Extensions that all environments have -/

namespace Filter
variable {C : Contract} (hcall : ∀ f args, C.asks (.invoke f none args))
include hcall

theorem meets_applyArrow (f : Value) (entries : List (Value × Value)) :
    (applyArrow f entries).run.Meets C fun _ => True := by
  have hfrom (done : List Value) : (Attempt.sequenceFrom (fun entry : Value × Value =>
      ExceptT.mk (Program.request (.invoke f none [entry.2, entry.1]))) done entries).run.Meets C
      fun _ => True := by
    induction entries generalizing done with
    | nil => trivial
    | cons entry rest ih =>
      exact Program.Meets.bind_attempt ⟨hcall _ _, fun _ _ => trivial⟩ fun v => ih (v :: done)
  exact hfrom []

variable (hfresh : C.asks .fresh)
include hfresh

omit hcall in
theorem meets_collect (v : Value) (entries : List (Value × Value)) :
    (collect v entries).run.Meets C fun _ => True := by
  refine Program.Meets.bind_attempt ⟨hfresh, fun _ _ => trivial⟩ fun identity => ?_
  cases v <;> trivial

theorem meets_builtin {name : String} {f : Filter} (h : builtins.find? name = some f)
    (input : Value) (args : List Value) : (f input args).run.Meets C fun _ => True := by
  have hmem := Dict.mem_of_find? h
  simp only [builtins, List.mem_cons, Prod.mk.injEq, List.not_mem_nil, or_false] at hmem
  rcases hmem with ⟨-, rfl⟩ | ⟨-, rfl⟩ | ⟨-, rfl⟩ | ⟨-, rfl⟩ | ⟨-, rfl⟩
  · cases input <;> trivial
  · unfold escape
    split
    · trivial
    · split <;> trivial
  · unfold escape
    split
    · trivial
    · split <;> trivial
  · refine Program.Meets.bind_attempt (?_ : Program.Meets C _ (Program.done (arrow "map" args)))
      fun f => Program.Meets.bind_attempt (meets_applyArrow hcall f _) fun _ =>
        meets_collect hfresh input _
    trivial
  · refine Program.Meets.bind_attempt (?_ : Program.Meets C _ (Program.done (arrow "filter" args)))
      fun f => Program.Meets.bind_attempt (meets_applyArrow hcall f _) fun _ =>
        meets_collect hfresh input _
    trivial

end Filter

/-- The built-in tests ask for nothing. -/
theorem Test.meets_builtin {C : Contract} {name : String} {f : Test}
    (h : builtins.find? name = some f) (v : Value) (args : List Value) :
    (f v args).run.Meets C fun _ => True := by
  have hmem := Dict.mem_of_find? h
  simp only [builtins, List.mem_cons, Prod.mk.injEq, List.not_mem_nil, or_false] at hmem
  rcases hmem with ⟨-, rfl⟩ | ⟨-, rfl⟩ | ⟨-, rfl⟩ | ⟨-, rfl⟩ | ⟨-, rfl⟩ | ⟨-, rfl⟩ | ⟨-, rfl⟩ |
    ⟨-, rfl⟩ | ⟨-, rfl⟩ <;> trivial

/-- A table of sources asks for nothing, and gives the sources in it. -/
theorem Loader.serves_memory {C : Contract} (sources : Dict String) (locator : String) :
    (memory sources locator).run.Meets C fun r =>
      ∀ text, r = .ok text → sources.find? locator = some text := by
  rw [memory]
  cases h : sources.find? locator with
  | none => exact fun _ hr => by cases hr
  | some source =>
    rintro text ⟨⟩
    rfl

/-- A host without functions of its own provides what its loader provides, if it may call functions
and make values. -/
theorem Environment.provides_of_builtins {env : Environment} {E : Contract}
    {source : String → String → Prop} (hcall : ∀ f args, E.asks (.invoke f none args))
    (hfresh : E.asks .fresh) (hfilters : env.filters = Filter.builtins)
    (htests : env.tests = Test.builtins) (hfunctions : env.functions = [])
    (hcallable : ∀ identity receiver args,
      (env.callables identity receiver args).run.Meets E fun _ => True)
    (hload : ∀ locator, (env.load locator).run.Meets E fun r =>
      ∀ text, r = .ok text → source locator text) : env.Provides E source where
  filter name input args := by
    rw [filter, hfilters]
    cases h : Filter.builtins.find? name with
    | none => trivial
    | some f => exact Filter.meets_builtin hcall hfresh h input args
  test name input args := by
    rw [test, htests]
    cases h : Test.builtins.find? name with
    | none => trivial
    | some f => exact Test.meets_builtin h input args
  function name f args h := by
    rw [hfunctions] at h
    cases h
  callable := hcallable
  load := hload

/-- A host without functions of its own, whose loader keeps away, keeps away. -/
theorem Environment.keepsAway_of_builtins {env : Environment} {source : String → String → Prop}
    (hfilters : env.filters = Filter.builtins) (htests : env.tests = Test.builtins)
    (hfunctions : env.functions = [])
    (hcallable : ∀ identity receiver args,
      (env.callables identity receiver args).run.Meets .external fun _ => True)
    (hload : ∀ locator, (env.load locator).run.Meets .external fun r =>
      ∀ text, r = .ok text → source locator text) : env.KeepsAway source := by
  have h : env.Provides .external source :=
    provides_of_builtins (fun _ _ => id) id hfilters htests hfunctions hcallable hload
  exact ⟨h.filter, h.test, h.function, h.callable, h.load⟩

end Stencil
