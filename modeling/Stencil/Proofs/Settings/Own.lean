import Stencil.Proofs.Inheritance.Independence
import Stencil.Proofs.Settings.Strict

/-!
# Whose settings are stored

Templates are made under the settings of the one that names them, so under those of the environment
from the first one on, unless an extension hands over a function of a template from elsewhere.
Hence a host whose extensions are handed nothing of a template stores templates under its own
settings only (`Environment.under_afterwards`).

This is read off a render that goes in tandem with itself, where all settings but those of the
environment would be other ones in the second render.  Nothing is other there.
-/
namespace Stencil

/-- All settings but the given ones are changed. -/
def Options.changeOthers (o other : Options) : Options :=
  if other = o then other else { other with rethrow := !other.rethrow }

theorem Options.eq_of_changeOthers_eq {o other : Options} (h : o.changeOthers other = other) :
    other = o := by
  by_contra hne
  rw [Options.changeOthers, if_neg hne] at h
  exact absurd (congrArg Options.rethrow h) (Bool.not_ne_self _)

/-- A render under the given settings and the same render once more. It is no other one if all its
templates are under these settings. -/
def Pairing.under (o : Options) : Pairing where
  adjust := o.changeOthers
  options := (· = o)
  text _ := True
  escapes _ := True
  cause _ := True
  report _ := True
  total := False
  parts := False
  lost _ _ := True
  hosts := True
  waits := True
  cache _ := True
  adjust_autoescape _ := by
    unfold Options.changeOthers
    split <;> rfl
  adjust_allowInlineIncludes _ := by
    unfold Options.changeOthers
    split <;> rfl
  adjust_namespaces _ := by
    unfold Options.changeOthers
    split <;> rfl
  adjust_strictVariables _ _ := .inl (by
    unfold Options.changeOthers
    split <;> rfl)
  adjust_rethrow _ ho := .inl (by rw [Options.changeOthers, if_pos ho])
  escapes_autoescape _ _ := trivial
  rethrow_of_parts h := h.elim
  rethrow_of_total h := h.elim
  report_of_not_rethrow _ _ _ _ := trivial
  report_deprecated _ _ := trivial
  cause_of_ne _ _ := trivial
  ne_of_total h _ _ _ := h
  text_empty := trivial
  text_append _ _ _ _ := trivial
  text_spaceless _ _ := trivial
  text_escapeString _ _ := trivial
  text_of_escapes_none _ _ := trivial
  text_of_hosts _ _ := trivial
  lost_append _ _ _ _ := trivial

/-- All that the state holds is made under the settings. -/
structure World.Under (o : Options) (w : World) : Prop where
  fits : w.Fits (.under o)
  adjust : w.adjust o.changeOthers = w

namespace World.Under
variable {o : Options} {w after : World}

theorem of_empty (hlinks : w.links = []) (hstore : w.store = []) : w.Under o := by
  obtain ⟨next, links, store, cache, notes, reports, waited⟩ := w
  obtain rfl : links = [] := hlinks
  obtain rfl : store = [] := hstore
  exact ⟨⟨fun _ => ⟨Dict.all_nil, nofun⟩, Dict.all_nil, trivial, fun _ _ => trivial⟩, rfl⟩

theorem of_withoutJournal (h : w.Under o) (hsame : after.withoutJournal = w.withoutJournal) :
    after.Under o := by
  obtain ⟨-, hlinks, hstore, -⟩ := World.eq_of_withoutJournal hsame
  refine ⟨⟨fun t => ?_, hstore.symm ▸ h.fits.store, trivial, fun _ _ => trivial⟩, ?_⟩
  · rw [World.linksOf, hlinks]
    exact h.fits.links t
  · have hlinks' := congrArg World.links h.adjust
    have hstore' := congrArg World.store h.adjust
    unfold World.adjust at hlinks' hstore' ⊢
    dsimp only at hlinks' hstore'
    rw [hlinks, hstore, hlinks', hstore', ← hlinks, ← hstore]

end World.Under

/-- Templates are stored under the settings if the same happens once more. -/
theorem Parallel.under {α : Type} {o : Options} {rel : α → α → Prop} {fails : Cause → α → Prop}
    {events events' : List Request} {outcome outcome' : Outcome α}
    (h : Parallel (.under o) rel fails events outcome events' outcome')
    (hsame : events' = events) (houtcome : outcome' = outcome) :
    (∀ r ∈ events, r.Under o) ∧ outcome.All (World.Under o) := by
  have hunder (hadjust : events.map (Request.adjust o.changeOthers) = events) :
      ∀ r ∈ events, r.Under o := by
    intro r hr
    have hr := List.map_inj_left.mp (hadjust.trans (List.map_id events).symm) r hr
    cases r with
    | store t =>
      have ht : t.adjust o.changeOthers = t := Request.store.inj hr
      exact Options.eq_of_changeOthers_eq (congrArg Template.options ht)
    | _ => trivial
  cases h with
  | done _ hw =>
    obtain ⟨-, hadjust⟩ := Outcome.done.inj houtcome
    exact ⟨hunder hsame, hw, hadjust⟩
  | pending _ hw => exact ⟨hunder hsame, hw, Outcome.pending.inj houtcome⟩
  | tooDeep => exact ⟨hunder hsame, trivial⟩
  | part hparts => exact hparts.elim

namespace Environment
variable {env : Environment} {sources : Dict String}

/-- What is done is done once more under the settings of the environment. -/
theorem Visit.tandem {α : Type} {p : Program α} (h : env.Visit (·.All Value.Foreign) α p) :
    ∃ rel fails, Program.Tandem (.under env.options) rel fails p p := by
  let K := Pairing.under env.options
  have hadjust : env.options.changeOthers env.options = env.options := if_pos rfl
  have hwith : env.withOptions K.adjust = env := by
    show { env with options := env.options.changeOthers env.options } = env
    rw [hadjust]
  have hsource (source : String) : K.Source source := fun nodes _ =>
    K.nodes_of (fun _ => trivial) (fun _ => trivial) nodes
  have hc {c : Context} (hc : c.All Value.Foreign) :
      K.Variables c ∧ Dict.mapValues (Value.adjust K.adjust) c = c :=
    ⟨hc.mono fun _ hv => hv.fits (K := K) trivial, Dict.mapValues_foreign hc _⟩
  cases h with
  | find name =>
    have htandem := Template.tandem_resolve (K := K) (o := env.options) rfl name none
    rw [show K.adjust env.options = env.options from hadjust] at htandem
    exact ⟨_, _, htandem⟩
  | @render name c hforeign =>
    obtain ⟨hvariables, hsame⟩ := hc hforeign
    have htandem : Attempt.Tandem K K.failing K.texts (env.renderNamed name c) _ :=
      tandem_renderNamed rfl hvariables name
    rw [hwith, hsame] at htandem
    exact ⟨_, _, htandem⟩
  | @page source c hforeign =>
    obtain ⟨hvariables, hsame⟩ := hc hforeign
    have htandem : Attempt.Tandem K K.rendering K.texts (env.renderSource source c) _ :=
      tandem_renderSource rfl hvariables source (hsource source)
    rw [hwith, hsame] at htandem
    exact ⟨_, _, htandem⟩

/-- **All that is stored is made under the settings of the environment**, if its extensions are
handed nothing of a template, and the variables have nothing of one. -/
theorem under_afterwards (henv : env.Supplies sources)
    (hextensions : env.Extensions True True fun _ => True) {start last : World}
    {events : List Request} (hstart : env.Starts sources start)
    (h : History (· = env) (env.Visit (·.All Value.Foreign)) World.withoutJournal start events last)
    (hheeds : ∀ r ∈ events, env.Heeds r) : ∀ r ∈ events, r.Under env.options := by
  have hosts : env.Hosts (.under env.options) := by
    refine hextensions.hosts (fun _ => trivial) (fun _ => trivial) (fun locator => ?_)
      (fun _ => trivial) (fun _ _ => yields_true _) fun _ _ _ => yields_true _
    refine ((henv.load locator).mono fun r _ => yields_true r).weaken (fun r hr => ?_)
      fun _ _ _ => trivial
    cases r with
    | note | wait => trivial
    | _ => exact hr.elim
  have hall : last.Under env.options ∧ ∀ r ∈ events, r.Under env.options := by
    induction h with
    | nil => exact ⟨.of_empty hstart.links hstart.store, List.forall_mem_nil _⟩
    | change h hkept ih => exact ⟨(ih hheeds).1.of_withoutJournal hkept, (ih hheeds).2⟩
    | @run _ w _ h host hsame patience depth _ p hp hlast ih =>
      obtain rfl := hsame
      obtain ⟨hbefore, hrun⟩ := List.forall_mem_append.mp hheeds
      obtain ⟨hw, hevents⟩ := ih hbefore
      obtain ⟨rel, fails, htandem⟩ := hp.tandem
      have hparallel := run_parallel hosts patience depth htandem hw.fits fun _ => hrun
      have hagain : w.adjust (Pairing.under host.options).adjust = w := hw.adjust
      rw [hagain] at hparallel
      obtain ⟨hunder, hafter⟩ := hparallel.under rfl rfl
      exact ⟨hafter.of_world? hlast, List.forall_mem_append.mpr ⟨hevents, hunder⟩⟩
  exact hall.2

end Environment
end Stencil
