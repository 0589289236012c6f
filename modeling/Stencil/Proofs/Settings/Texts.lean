import Stencil.Engine.Host
import Stencil.Engine.Loader
import Stencil.Proofs.Settings.Runs

/-!
# Texts under two settings

A host asks for a text by a source, a name or a template, and its environment is the same under all
settings but for the settings that it gives to new templates.  So a lawful pairing of settings
compares the whole renders of two environments that differ in nothing else
(`Environment.tandem_textOf`, `Environment.withOptions_parallel`).
-/
namespace Stencil

/-- What a host asks for a text by: a source, a name, or a template that it has. -/
inductive Entry where
  | source (source : String)
  | name (name : String)
  | template (t : Template)

namespace Entry

/-- The same with other settings of the template, if it is one. -/
def adjust (f : Options → Options) : Entry → Entry
  | .template t => .template (t.adjust f)
  | entry => entry

/-- The source or the template fits. -/
def Fits (K : Pairing) : Entry → Prop
  | .source text => K.Source text
  | .name _ => True
  | .template t => t.Fits K

end Entry

/-- A state in which nothing has been compiled or rendered yet. Identities up to `next` are those
of the host. -/
def World.fresh (next : Nat) (cache : Dict Json) : World := { next, cache }

namespace Environment
variable (env : Environment)

/-- The text that a host asks for. -/
def textOf : Entry → Context → Attempt String
  | .source source, c => env.renderSource source c
  | .name name, c => env.renderNamed name c
  | .template t, c => t.text c

/-- The same environment with other settings for new templates. -/
def withOptions (f : Options → Options) : Environment := { env with options := f env.options }

/-! ## Answers do not depend on settings -/

section
variable (f : Options → Options) (patience : Patience)

theorem answerWith_withOptions (deeper : Runner) (r : Request) (w : World) :
    (env.withOptions f).answerWith patience deeper r w = env.answerWith patience deeper r w := by
  cases r <;> rfl

theorem answer_withOptions (depth : Nat) :
    (env.withOptions f).answer patience depth = env.answer patience depth := by
  induction depth with
  | zero => exact funext fun r => funext fun w => env.answerWith_withOptions f patience _ r w
  | succ depth ih =>
    funext r w
    rw [answer, answer, ih]
    exact env.answerWith_withOptions f patience _ r w

theorem errand?_withOptions (r : Request) : (env.withOptions f).errand? r = env.errand? r := by
  cases r <;> rfl

theorem inside_withOptions (depth : Nat) :
    (env.withOptions f).inside patience depth = env.inside patience depth := by
  induction depth with
  | zero => rfl
  | succ depth ih =>
    funext r w
    rw [inside, inside, errand?_withOptions, answer_withOptions, ih]

theorem run_withOptions {α : Type} (depth : Nat) (p : Program α) (w : World) :
    (env.withOptions f).run patience depth p w = env.run patience depth p w := by
  rw [run, run, answer_withOptions]

theorem events_withOptions {α : Type} (depth : Nat) (p : Program α) (w : World) :
    (env.withOptions f).events patience depth p w = env.events patience depth p w := by
  rw [events, events, answer_withOptions, inside_withOptions]

end
end Environment

theorem Environment.renderSource_of_ofSource (env : Environment) {source : String}
    {nodes : List Node} (h : Node.ofSource source = .ok nodes) (c : Context) :
    env.renderSource source c = (do (← Template.make env.options ⟨none, nodes⟩).text c) := by
  rw [renderSource, compile, Template.compile, h]

/-! ## Whole renders -/

section
variable {K : Pairing}

theorem World.fits_fresh (next : Nat) {cache : Dict Json} (h : K.cache cache) :
    (World.fresh next cache).Fits K :=
  ⟨fun _ => ⟨Dict.all_nil, nofun⟩, Dict.all_nil, h, List.forall_mem_nil _⟩

namespace Environment
variable {env : Environment} (ho : K.options env.options) {c : Context} (hc : K.Variables c)
include ho hc

theorem tandem_renderSource (source : String) (hsource : K.Source source) :
    Attempt.Tandem K K.rendering K.texts (env.renderSource source c)
      ((env.withOptions K.adjust).renderSource source
        (Dict.mapValues (Value.adjust K.adjust) c)) := by
  have hcompile := (Template.tandem_compile ho none hsource).mono (G := K.rendering)
    (fun _ _ h => h) (fun _ h => h) fun _ _ => trivial
  refine hcompile.bind ?_
  rintro t _ ⟨ht, rfl⟩
  exact Template.tandem_render ht (by nofun) hc Dict.all_nil

theorem tandem_renderNamed (name : String) :
    Attempt.Tandem K K.failing K.texts (env.renderNamed name c)
      ((env.withOptions K.adjust).renderNamed name (Dict.mapValues (Value.adjust K.adjust) c)) := by
  have hresolve := (Template.tandem_resolve ho name none).mono (G := K.failing)
    (fun _ _ h => h) (fun _ h => h) fun _ _ => trivial
  refine hresolve.bind ?_
  rintro t _ ⟨ht, rfl⟩
  exact (Template.tandem_render ht (by nofun) hc Dict.all_nil).mono (fun _ _ h => h)
    (fun _ h => h.1) fun _ _ => trivial

theorem tandem_textOf {entry : Entry} (hentry : entry.Fits K) :
    Attempt.Tandem K K.failing K.texts (env.textOf entry c)
      ((env.withOptions K.adjust).textOf (entry.adjust K.adjust)
        (Dict.mapValues (Value.adjust K.adjust) c)) := by
  cases entry with
  | source source =>
    exact (tandem_renderSource ho hc source hentry).mono (fun _ _ h => h) (fun _ h => h.1)
      fun _ _ => trivial
  | name name => exact tandem_renderNamed ho hc name
  | template t =>
    exact (Template.tandem_render hentry (by nofun) hc Dict.all_nil).mono (fun _ _ h => h)
      (fun _ h => h.1) fun _ _ => trivial

end Environment

/-- **Programs in tandem under two settings** run in parallel, in environments that differ in
settings alone. -/
theorem Environment.withOptions_parallel {env : Environment} (hosts : env.Hosts K)
    (patience : Patience) (depth : Nat) {α β : Type} {rel : α → β → Prop}
    {fails : Cause → α → Prop} {p : Program α} {p' : Program β}
    (h : Program.Tandem K rel fails p p') {w : World} (hw : w.Fits K)
    (hheeds : K.hosts → ∀ event ∈ env.events patience depth p w, env.Heeds event) :
    Parallel K rel fails (env.events patience depth p w) (env.run patience depth p w)
      ((env.withOptions K.adjust).events patience depth p' (w.adjust K.adjust))
      ((env.withOptions K.adjust).run patience depth p' (w.adjust K.adjust)) := by
  rw [run_withOptions, events_withOptions]
  exact run_parallel hosts patience depth h hw hheeds

/-! ## Where all texts are fit -/

theorem Pairing.nodes_of (htext : ∀ s, K.text s) (hescapes : ∀ a, K.escapes a) (nodes : List Node) :
    K.Nodes nodes := Node.allGuarded_of htext hescapes nodes

/-- Where all texts are fit nothing has to be known of sources and trees. -/
theorem Environment.Extensions.hosts {env : Environment}
    (h : env.Extensions K.hosts K.waits K.cause) (htext : ∀ s, K.text s)
    (hescapes : ∀ a, K.escapes a)
    (hloader : ∀ locator, (env.load locator).run.Meets (.aside K.waits)
      (Yields K.cause fun _ => True))
    (hcache : ∀ entries, K.cache entries)
    (hcached : ∀ entries locator, Yields K.cause (fun _ => True) (env.cachedTree entries locator))
    (hcacheTree : ∀ entries locator tree,
      Yields K.cause (fun _ => True) (env.cacheTree entries locator tree)) : env.Hosts K where
  extensions := h
  loader locator := (hloader locator).mono fun _ hr =>
    hr.mono (fun _ h => h) fun _ _ nodes _ => K.nodes_of htext hescapes nodes
  cached entries locator _ := (hcached entries locator).mono (fun _ h => h)
    fun _ _ found _ => K.nodes_of htext hescapes found.nodes
  cacheTree entries locator tree _ _ := (hcacheTree entries locator tree).mono (fun _ h => h)
    fun entries _ => hcache entries

end

theorem Environment.Extensions.withOptions {env : Environment} {hosts waits : Prop}
    {causes : Cause → Prop} (h : env.Extensions hosts waits causes) (f : Options → Options) :
    (env.withOptions f).Extensions hosts waits causes :=
  ⟨h.filters, h.tests, h.functions, h.callables⟩

/-! ## Values and sources of a host -/

/-- The variables of a host have no settings. -/
theorem Dict.mapValues_foreign {c : Context} (h : c.All Value.Foreign) (f : Options → Options) :
    mapValues (Value.adjust f) c = c :=
  mapValues_eq_self (h.mono fun _ hv => Value.Foreign.adjust hv f)

/-- A host with no extensions but those that all have. -/
theorem Environment.extensions_of_builtins {env : Environment} {hosts waits : Prop}
    {causes : Cause → Prop} (hfilters : env.filters = Filter.builtins)
    (htests : env.tests = Test.builtins) (hfunctions : env.functions = [])
    (hcallables : hosts → ∀ identity receiver args,
      (env.callables identity receiver args).run.Meets (.aside waits)
        (Yields causes Value.Foreign)) : env.Extensions hosts waits causes where
  filters _ _ h := .inl (hfilters ▸ h)
  tests _ _ h := .inl (htests ▸ h)
  functions name f h := by
    rw [hfunctions] at h
    cases h
  callables hhosts identity receiver args _ _ := hcallables hhosts identity receiver args

end Stencil
