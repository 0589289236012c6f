import Stencil.Proofs.Settings.Expressions
import Stencil.Render.Template

/-!
# Nodes and templates in tandem

What holds of expressions holds of loops, tags and nodes, and of all that is called by name inside a
template.  Settings matter in two more places: a list of nodes that ends with a failure passes it on
or reports it, and so does a template whose `use` tags cannot be resolved.
-/
namespace Stencil
open Rendering

/-! ## Loops -/

namespace LoopNames
variable {K : Pairing} (names : LoopNames)

theorem variables_bindEntry {entry entry' : Value × Value} (hkey : K.values entry.1 entry'.1)
    (hvalue : K.values entry.2 entry'.2) {c c' : Context} (hc : K.contexts c c') :
    K.contexts (names.bindEntry entry c) (names.bindEntry entry' c') := by
  obtain ⟨key, value⟩ := entry
  obtain ⟨key', value'⟩ := entry'
  obtain ⟨hkey, rfl : key' = key.adjust K.adjust⟩ := hkey
  obtain ⟨hvalue, rfl : value' = value.adjust K.adjust⟩ := hvalue
  obtain ⟨hc, rfl⟩ := hc
  unfold bindEntry
  rw [← Dict.mapValues_insert]
  cases names.key with
  | none => exact ⟨hc.insert _ hvalue, rfl⟩
  | some name => exact ⟨(hc.insert _ hvalue).insert _ hkey, (Dict.mapValues_insert _ _ _ _).symm⟩

theorem variables_leave {outer outer' inner inner' : Context} (houter : K.contexts outer outer')
    (hinner : K.contexts inner inner') :
    K.contexts (names.leave outer inner) (names.leave outer' inner') := by
  obtain ⟨hinner, rfl⟩ := hinner
  unfold leave
  induction inner generalizing outer outer' with
  | nil => exact houter
  | cons entry rest ih =>
    obtain ⟨hentry, hrest⟩ := Dict.all_cons.mp hinner
    obtain ⟨houter, rfl⟩ := houter
    rw [Dict.mapValues_cons, List.foldl_cons, List.foldl_cons]
    refine ih ?_ hrest
    dsimp only
    rw [Dict.contains_mapValues]
    split
    · exact ⟨houter, rfl⟩
    · exact ⟨houter.insert _ hentry, (Dict.mapValues_insert _ _ _ _).symm⟩

end LoopNames

theorem Pairing.variables_loopEntries {K : Pairing} (index length : Nat) (guarded : Bool)
    {parent parent' : Value} (h : K.values parent parent') :
    K.contexts (loopEntries index length guarded parent)
      (loopEntries index length guarded parent') := by
  obtain ⟨hparent, rfl⟩ := h
  constructor
  · intro entry hentry
    cases guarded <;>
      simp only [loopEntries, List.append_nil, List.mem_append, List.mem_cons, List.not_mem_nil,
        or_false, if_true, if_false, Bool.false_eq_true] at hentry <;>
      rcases hentry with hentry | rfl
    · rcases hentry with (rfl | rfl | rfl) | rfl | rfl | rfl | rfl <;> trivial
    · exact hparent
    · rcases hentry with rfl | rfl | rfl <;> trivial
    · exact hparent
  · cases guarded <;> rfl

namespace Loop
variable {K : Pairing}

theorem tandem_passes {l l' : Loop} (hl : l'.guard? = l.guard?)
    (h : Expr.paramsGuarded (∀ s, K.text s) l.guard?) :
    Tandem K K.failing Eq l.passes l'.passes := by
  unfold passes
  rw [hl]
  split
  · next condition heq =>
    rw [heq] at h
    refine (Expr.tandem_evaluate h).bind fun v v' hv => tandem_pure ?_
    rw [hv.2, Value.isTruthy_adjust]
  · exact tandem_pure rfl

/-- A text that is fit, and something that is the same on both sides. -/
def texts (K : Pairing) {α : Type} (r r' : String × α) : Prop := K.text r.1 ∧ r' = r

theorem tandem_runs {names : LoopNames} {guard? : Option Expr} {length : Nat}
    {parent parent' : Value} (hguard : Expr.paramsGuarded (∀ s, K.text s) guard?)
    (hparent : K.values parent parent') {body : Rendering String}
    (hbody : Tandem K K.failing K.texts body body) {entries : List (Value × Value)}
    (hentries : ∀ entry ∈ entries, entry.1.Fits K ∧ entry.2.Fits K) (index : Nat) {done : String}
    (hdone : K.text done) :
    Tandem K K.failing (texts K)
      (runs ⟨names, guard?, length, parent⟩ body entries index done)
      (runs ⟨names, guard?, length, parent'⟩ body (entries.map (Value.adjustPair K.adjust)) index
        done) := by
  induction entries generalizing index done with
  | nil => exact tandem_pure ⟨hdone, rfl⟩
  | cons entry rest ih =>
    obtain ⟨hentry, hrest⟩ := List.forall_mem_cons.mp hentries
    rw [List.map_cons, runs, runs]
    refine (tandem_modifyContext fun c c' hc =>
      names.variables_bindEntry ⟨hentry.1, rfl⟩ ⟨hentry.2, rfl⟩ hc).bind fun _ _ _ =>
        (tandem_passes rfl hguard).bind ?_
    rintro passed _ rfl
    dsimp only
    split
    · refine tandem_fresh.bind ?_
      rintro identity _ rfl
      obtain ⟨hloop, hloop'⟩ := Pairing.variables_loopEntries index length guard?.isSome hparent
      have hobject : K.values
          (.object identity (loopEntries index length guard?.isSome parent))
          (.object identity (loopEntries index length guard?.isSome parent')) :=
        ⟨Value.Fits.object hloop identity, by rw [Value.adjust_object, hloop']⟩
      refine (tandem_setVariable "loop" hobject).bind fun _ _ _ => hbody.bind ?_
      rintro _ text ⟨htext, rfl⟩
      exact ih hrest (index + 1) (K.text_append _ _ hdone htext)
    · exact ih hrest index hdone

theorem tandem_render (names : LoopNames) {e : Expr} {guard? : Option Expr} (he : K.Tokens e)
    (hguard : Expr.paramsGuarded (∀ s, K.text s) guard?) {body : Rendering String}
    (hbody : Tandem K K.failing K.texts body body) :
    Tandem K K.failing (texts K) (render names e guard? body) (render names e guard? body) := by
  refine (Expr.tandem_evaluate he).bind ?_
  rintro v _ ⟨hv, rfl⟩
  refine tandem_context.bind ?_
  rintro outer _ ⟨houter, rfl⟩
  refine tandem_fresh.bind ?_
  rintro identity _ rfl
  have hparent : K.values (.object identity outer)
      (.object identity (Dict.mapValues (Value.adjust K.adjust) outer)) :=
    ⟨Value.Fits.object houter identity, (Value.adjust_object _ _ _).symm⟩
  obtain ⟨hentries, hmap⟩ := hv.entries
  rw [hmap, List.length_map]
  refine (tandem_runs hguard hparent hbody hentries 0 K.text_empty).bind ?_
  rintro r _ ⟨hr, rfl⟩
  refine (tandem_modifyContext fun inner inner' hinner =>
    names.variables_leave ⟨houter, rfl⟩ hinner).bind fun _ _ _ => tandem_pure ⟨hr, rfl⟩

end Loop

/-! ## Tags -/

namespace Rendering
variable {K : Pairing}

theorem tandem_blockInPlace (name : String) :
    Tandem K K.failing K.texts (blockInPlace name) (blockInPlace name) := by
  refine tandem_get_bind fun s hs => ?_
  have hparent : (s.adjust K.adjust).parent.isSome = s.parent.isSome := Option.isSome_map
  rw [hparent]
  split
  · exact tandem_pure ⟨K.text_empty, rfl⟩ s hs
  · refine ((tandem_findBlock name).bind ?_) s hs
    rintro (_ | b) _ ⟨hb, rfl⟩
    · exact tandem_pure ⟨K.text_empty, rfl⟩
    · refine (tandem_renderBlock (hb b rfl)).bind ?_
      rintro v _ ⟨hv, rfl⟩
      exact tandem_pure ⟨hv.text, Value.text_adjust K.adjust v⟩

/-- What is put back after an action is put back after a failure too. -/
theorem tandem_restoring {α β : Type} {rel : α → β → Prop} {restore restore' : Scope → Scope}
    (hrestore : ∀ s, s.Fits K → (restore s).Fits K ∧
      restore' (s.adjust K.adjust) = (restore s).adjust K.adjust)
    (htemplate : ∀ s, (restore s).template = s.template) {a : Rendering α} {a' : Rendering β}
    (h : Tandem K K.failing rel a a') :
    Tandem K K.failing rel (restoring restore a) (restoring restore' a') := by
  refine h.attempt_bind (fun r r' hr => ?_) fun _ failure s _ hs => ?_
  · exact (tandem_modify hrestore).bind fun _ _ _ => tandem_settle hr
  · refine .done ⟨⟨failure, rfl, rfl, trivial⟩, ?_⟩
    show K.options (restore s).template.options
    rw [htemplate]
    exact hs

theorem tandem_outputText {v v' : Value} (h : K.values v v') :
    Tandem K K.failing K.texts (outputText v) (outputText v') := by
  obtain ⟨hv, rfl⟩ := h
  refine tandem_get.bind ?_
  rintro s _ ⟨hs, rfl⟩
  exact tandem_pure ⟨hv.output hs.autoescape, Value.output_adjust K.adjust s.autoescape v⟩

theorem tandem_inclusionContext {i : Inclusion} (h : i.Guarded (∀ s, K.text s)) :
    Tandem K K.failing K.contexts (inclusionContext i) (inclusionContext i) := by
  unfold inclusionContext
  cases heq : i.bindings with
  | none =>
    dsimp only
    split
    · exact (tandem_pure ⟨Dict.all_nil, rfl⟩).bind fun _ _ hstart => tandem_pure hstart
    · exact tandem_context.bind fun _ _ hstart => tandem_pure hstart
  | some e =>
    have he := h.2
    rw [heq] at he
    have hmerged (start start' : Context) (hstart : K.contexts start start') :
        Tandem K K.failing K.contexts (do settle (mergeObject start (← Expr.evaluate e)))
          (do settle (mergeObject start' (← Expr.evaluate e))) :=
      (Expr.tandem_evaluate he).bind fun _ _ hv => tandem_mergeObject hstart hv
    dsimp only
    split
    · exact (tandem_pure ⟨Dict.all_nil, rfl⟩).bind hmerged
    · exact tandem_context.bind hmerged

theorem tandem_inclusionTemplate {i : Inclusion} (h : i.Guarded (∀ s, K.text s)) :
    Tandem K K.failing (fun t t' => (∀ found ∈ t, found.Fits K)
        ∧ t' = t.map (Template.adjust K.adjust)) (inclusionTemplate i) (inclusionTemplate i) := by
  refine (Expr.tandem_evaluate h.1).bind ?_
  rintro target _ ⟨-, rfl⟩
  refine (tandem_findTemplate target).attempt_bind ?_ ?_
  · rintro _ _ (⟨ht, rfl⟩ | hcause)
    · refine tandem_pure ⟨?_, rfl⟩
      rintro _ ⟨⟩
      exact ht
    · dsimp only
      split
      · exact tandem_pure ⟨nofun, rfl⟩
      · exact tandem_throw hcause
  · intro _ failure s halone hs
    dsimp only
    rw [Pairing.isNotFound_eq_false halone, Bool.and_false]
    exact gone_throw trivial hs

theorem tandem_includeTemplate {i : Inclusion} (h : i.Guarded (∀ s, K.text s)) :
    Tandem K K.failing K.texts (includeTemplate i) (includeTemplate i) := by
  refine (tandem_inclusionTemplate h).bind ?_
  rintro (_ | t) _ ⟨ht, rfl⟩
  · exact tandem_pure ⟨K.text_empty, rfl⟩
  · refine (tandem_inclusionContext h).bind ?_
    rintro c _ ⟨hc, rfl⟩
    exact tandem_renderTemplate (ht t rfl) none nofun hc

theorem tandem_embedTemplate {i : Inclusion} (h : i.Guarded (∀ s, K.text s)) {nodes : List Node}
    (hnodes : K.Nodes nodes) :
    Tandem K K.failing K.texts (embedTemplate i nodes) (embedTemplate i nodes) := by
  refine (tandem_inclusionTemplate h).bind ?_
  rintro (_ | parent) _ ⟨hparent, rfl⟩
  · exact tandem_pure ⟨K.text_empty, rfl⟩
  · refine tandem_template.bind ?_
    rintro outer _ ⟨houter, rfl⟩
    refine tandem_fresh.bind ?_
    rintro number _ rfl
    refine (tandem_inclusionContext h).bind ?_
    rintro c _ ⟨hc, rfl⟩
    exact tandem_renderTemplate (t := ⟨number, none, outer.base, nodes, outer.options⟩)
      ⟨houter.1, hnodes⟩ (some parent) hparent hc

theorem tandem_macroSource {e : Expr} (h : K.Tokens e) :
    Tandem K K.failing K.templates (macroSource e) (macroSource e) := by
  unfold macroSource
  split
  · exact tandem_template
  · exact (Expr.tandem_evaluate h).bind fun _ _ hv => tandem_find hv

theorem tandem_importMacros {source : Template} (hsource : source.Fits K)
    (names : List (String × String)) :
    Tandem K K.failing Eq (importMacros source names)
      (importMacros (source.adjust K.adjust) names) := by
  induction names with
  | nil => exact tandem_pure rfl
  | cons entry rest ih =>
    obtain ⟨name, bound⟩ := entry
    rw [importMacros, importMacros, Template.macros_adjust]
    split
    · exact (tandem_setVariable bound (v := .templateMacro source name) ⟨hsource, rfl⟩).bind
        fun _ _ _ => ih
    · exact tandem_throw (K.cause_of_ne _ (by rintro ⟨⟩))

/-- Run a body with bindings of its own, once they are known. -/
def withBindings (only : Bool) (body : Rendering String) (bindings : Option Value) :
    Rendering String := do
  let saved ← context
  if only then modifyContext fun _ => []
  match bindings with
  | some v => do
    let c ← settle (mergeObject (← context) v)
    modifyContext fun _ => c
  | none => pure ()
  restoring (fun scope => { scope with context := saved }) body

theorem withVariables_eq (e : Option Expr) (only : Bool) (body : Rendering String) :
    withVariables e only body = (match e with
      | some e => some <$> Expr.evaluate e
      | none => pure none) >>= withBindings only body := by
  cases e <;> rfl

theorem tandem_withBindings (only : Bool) {body : Rendering String}
    (hbody : Tandem K K.failing K.texts body body) {bindings : Option Value}
    (hbindings : ∀ v ∈ bindings, v.Fits K) :
    Tandem K K.failing K.texts (withBindings only body bindings)
      (withBindings only body (bindings.map (Value.adjust K.adjust))) := by
  have hempty : Tandem K K.failing Eq (modifyContext fun _ => []) (modifyContext fun _ => []) :=
    tandem_modifyContext fun _ _ _ => ⟨Dict.all_nil, rfl⟩
  unfold withBindings
  refine tandem_context.bind ?_
  rintro saved _ ⟨hsaved, rfl⟩
  have hrest : Tandem K K.failing K.texts
      (restoring (fun scope => { scope with context := saved }) body)
      (restoring (fun scope => { scope with
        context := Dict.mapValues (Value.adjust K.adjust) saved }) body) := by
    refine tandem_restoring (fun s hs => ?_) (fun s => ?_) hbody
    · exact ⟨{ hs with context := hsaved }, rfl⟩
    · rfl
  cases bindings with
  | none =>
    dsimp only [Option.map_none]
    split
    · exact hempty.bind fun _ _ _ => hrest
    · exact hrest
  | some v =>
    have hmerge := tandem_context.bind fun _ _ hc =>
      (tandem_mergeObject hc ⟨hbindings v rfl, rfl⟩).bind fun _ _ hc =>
        (tandem_modifyContext fun _ _ _ => hc).bind fun _ _ _ => hrest
    dsimp only [Option.map_some]
    split
    · exact hempty.bind fun _ _ _ => hmerge
    · exact hmerge

theorem tandem_withVariables {e : Option Expr} (h : Expr.paramsGuarded (∀ s, K.text s) e)
    (only : Bool) {body : Rendering String} (hbody : Tandem K K.failing K.texts body body) :
    Tandem K K.failing K.texts (withVariables e only body) (withVariables e only body) := by
  rw [withVariables_eq]
  cases e with
  | none =>
    have hnone : ∀ v ∈ (none : Option Value), v.Fits K := nofun
    exact tandem_withBindings only hbody hnone
  | some e =>
    have hsome : Tandem K K.failing (fun v v' => (∀ found ∈ v, found.Fits K)
        ∧ v' = v.map (Value.adjust K.adjust)) (some <$> Expr.evaluate e)
        (some <$> Expr.evaluate e) := by
      refine (Expr.tandem_evaluate h).bind ?_
      rintro v _ ⟨hv, rfl⟩
      refine tandem_pure ⟨?_, rfl⟩
      rintro _ ⟨⟩
      exact hv
    refine hsome.bind ?_
    rintro bindings _ ⟨hbindings, rfl⟩
    exact tandem_withBindings only hbody hbindings

theorem tandem_withAutoescape {strategy : Autoescape} (h : K.escapes strategy)
    {body : Rendering String} (hbody : Tandem K K.failing K.texts body body) :
    Tandem K K.failing K.texts (withAutoescape strategy body) (withAutoescape strategy body) := by
  refine tandem_get.bind ?_
  rintro s _ ⟨hs, rfl⟩
  refine (tandem_modify fun s' hs' => ?_).bind fun _ _ _ =>
    tandem_restoring (fun s' hs' => ?_) (fun s' => ?_) hbody
  · exact ⟨{ hs' with autoescape := h }, rfl⟩
  · exact ⟨{ hs' with autoescape := hs.autoescape }, rfl⟩
  · rfl

end Rendering

/-- How a list of nodes fails: not at all, if no render does. -/
def Pairing.rendering (K : Pairing) : Failing := ⟨fun c => K.cause c ∧ ¬ K.total, fun _ => True⟩

section
variable {K : Pairing}

theorem Pairing.rethrow_eq_true {o : Options} (ho : K.options o) {failure : Failure}
    (hcause : K.cause failure.cause) (h : (o.rethrow || failure.isPending) = true) : ¬ K.total := by
  intro htotal
  rw [K.rethrow_of_total htotal o ho, Bool.false_or] at h
  refine K.ne_of_total htotal _ hcause ?_
  unfold Failure.isPending at h
  split at h
  · next heq => exact heq
  · cases h

/-- What becomes of a failure that both sides meet: it is passed on, or it is reported, as the
settings of the template say. -/
theorem Pairing.passes_or_reports {o : Options} (ho : K.options o) {failure : Failure}
    (hcause : K.cause failure.cause) (said : Report) (hsaid : said.failure? = some failure)
    {P : Bool → Bool → Prop} (hpass : ¬ K.total → P true true)
    (hreport : K.report said → P false false)
    (hpart : K.parts → o.rethrow = true →
      (∀ reports, (∀ r ∈ reports, K.report r) → K.lost failure.cause (said :: reports)) →
        P true false) :
    P (o.rethrow || failure.isPending) ((K.adjust o).rethrow || failure.isPending) := by
  obtain heq | ⟨hparts, hon, hoff, hlost⟩ := K.adjust_rethrow o ho
  -- The setting is the same on both sides, and so is what becomes of the failure.
  · rw [heq]
    cases h : o.rethrow || failure.isPending with
    | true => exact hpass (Pairing.rethrow_eq_true ho hcause h)
    | false => exact hreport (K.report_of_not_rethrow o ho (Bool.or_eq_false_iff.mp h).1 said)
  -- The first side passes the failure on. The second one does so if it stands for a wait.
  · have htotal : ¬ K.total := fun htotal =>
      Bool.noConfusion (hon.symm.trans (K.rethrow_of_total htotal o ho))
    rw [hon, hoff, Bool.true_or, Bool.false_or]
    cases failure.isPending with
    | true => exact hpass htotal
    | false => exact hpart hparts hon fun reports => hlost said failure reports hsaid

theorem Rendering.tandem_endList {done : String} (hdone : K.text done) {failure : Failure}
    (hcause : K.cause failure.cause) :
    Tandem K K.rendering K.texts (endList done failure) (endList done failure) := by
  intro s hs
  have hthrow : (failure.inTemplate s.template.id).cause = failure.cause :=
    failure.cause_inTemplate _
  let outcome (pass : Bool) : Rendering String :=
    if pass then throw (failure.inTemplate s.template.id)
    else do
      let _ ← ask (.report (.renderFailed s.template.id failure))
      return done
  refine Pairing.passes_or_reports hs.template.1 hcause (.renderFailed s.template.id failure)
    rfl (P := fun pass pass' => Program.Tandem K (Ends K K.rendering K.texts) (Fails K K.rendering)
      (outcome pass s) (outcome pass' (s.adjust K.adjust)))
    (fun htotal => ?_) (fun hreport => ?_) fun hparts _ hlost => ?_
  · refine tandem_throw ?_ s hs
    rw [hthrow]
    exact ⟨hcause, htotal⟩
  · exact ((tandem_ask (r := .report (.renderFailed s.template.id failure)) hreport
      fun _ _ => id).bind fun _ _ _ => tandem_pure ⟨hdone, rfl⟩) s hs
  · refine .part hparts (c := failure.cause) ?_ (.inr ⟨_, _, rfl, hlost⟩)
    rw [← hthrow]
    exact gone_throw trivial hs.template.1

/-- A failure of the first side alone ends its list. -/
theorem Rendering.gone_endList (hparts : K.parts) (done : String) (failure : Failure) {s : Scope}
    (hs : K.options s.template.options) :
    Program.Gone (Rendering.Fails K K.rendering failure.cause) (endList done failure s) := by
  have hthrow : (failure.inTemplate s.template.id).cause = failure.cause :=
    failure.cause_inTemplate _
  show Program.Gone _ ((if s.template.options.rethrow || failure.isPending then
      throw (failure.inTemplate s.template.id)
    else do
      let _ ← ask (.report (.renderFailed s.template.id failure))
      return done : Rendering String) s)
  rw [K.rethrow_of_parts hparts _ hs, Bool.true_or, ← hthrow]
  exact gone_throw trivial hs

namespace Tag

theorem tandem_closed {a a' : Rendering String} (h : Tandem K K.failing K.texts a a') :
    Tandem K K.failing (Loop.texts K) (render.closed a) (render.closed a') := by
  refine h.bind ?_
  rintro _ text ⟨htext, rfl⟩
  exact tandem_pure ⟨htext, rfl⟩

theorem tandem_branchOn {e : Expr} (he : K.Tokens e) {body : Rendering String}
    (hbody : Tandem K K.failing K.texts body body) :
    Tandem K K.failing (Loop.texts K) (render.branchOn body e) (render.branchOn body e) := by
  refine (Expr.tandem_evaluate he).bind fun v v' hv => ?_
  rw [hv.2, Value.isTruthy_adjust]
  split
  · exact tandem_closed hbody
  · exact tandem_pure ⟨K.text_empty, rfl⟩

theorem tandem_render {tag : Tag} (h : tag.Guarded K.text K.escapes) (active : Bool)
    {nodes : List Node} (hnodes : K.Nodes nodes) {body : Rendering String}
    (hbody : Tandem K K.failing K.texts body body) :
    Tandem K K.failing (Loop.texts K) (tag.render active nodes body)
      (tag.render active nodes body) := by
  have hempty : Tandem K K.failing K.texts (pure "") (pure "") := tandem_pure ⟨K.text_empty, rfl⟩
  have hnothing (chain : Bool) :
      Tandem K K.failing (Loop.texts K) (pure ("", chain)) (pure ("", chain)) :=
    tandem_pure ⟨K.text_empty, rfl⟩
  cases tag with
  | branch condition => exact tandem_branchOn h hbody
  | elseBranch condition =>
    rw [render]
    split
    · exact tandem_branchOn h hbody
    · exact hnothing false
  | otherwise =>
    rw [render]
    split
    · exact tandem_closed hbody
    · exact hnothing false
  | loop key value expression guard? =>
    refine (Loop.tandem_render ⟨key, value⟩ h.1 h.2 hbody).bind ?_
    rintro r _ ⟨hr, rfl⟩
    exact tandem_pure ⟨hr, rfl⟩
  | assign name expression =>
    exact tandem_closed ((Expr.tandem_evaluate h).bind fun _ _ hv =>
      (tandem_setVariable name hv).bind fun _ _ _ => hempty)
  | capture name =>
    refine tandem_closed (hbody.bind ?_)
    rintro _ text ⟨htext, rfl⟩
    exact (tandem_setVariable name (v := .safe text) ⟨htext, rfl⟩).bind fun _ _ _ => hempty
  | block name expression => exact tandem_closed (tandem_blockInPlace name)
  | inherits expression =>
    refine tandem_closed ((Expr.tandem_evaluate h).bind fun _ _ hv => (tandem_find hv).bind ?_)
    rintro parent _ ⟨hparent, rfl⟩
    refine (tandem_modify fun s hs => ?_).bind fun _ _ _ => hempty
    refine ⟨{ hs with parent := ?_ }, rfl⟩
    rintro _ ⟨⟩
    exact hparent
  | uses expression renames => exact hnothing false
  | macroDef name params => exact hnothing false
  | includes inclusion => exact tandem_closed (tandem_includeTemplate h)
  | embeds inclusion => exact tandem_closed (tandem_embedTemplate h hnodes)
  | imports expression name =>
    refine tandem_closed ((tandem_macroSource h).bind ?_)
    rintro source _ ⟨hsource, rfl⟩
    refine tandem_fresh.bind ?_
    rintro identity _ rfl
    exact (tandem_setVariable name ⟨Value.within_macrosOf hsource identity,
      Value.macrosOf_adjust _ source identity⟩).bind fun _ _ _ => hempty
  | importsNames expression names =>
    refine tandem_closed ((tandem_macroSource h).bind ?_)
    rintro source _ ⟨hsource, rfl⟩
    exact (tandem_importMacros hsource names).bind fun _ _ _ => hempty
  | «scoped» expression only => exact tandem_closed (tandem_withVariables h only hbody)
  | spaceless =>
    refine tandem_closed (hbody.bind ?_)
    rintro _ text ⟨htext, rfl⟩
    exact tandem_pure ⟨K.text_spaceless text htext, rfl⟩
  | apply filters =>
    refine tandem_closed (hbody.bind ?_)
    rintro _ text ⟨htext, rfl⟩
    have hseed : K.args [.safe text] [.safe text] :=
      Pairing.args_cons (v := .safe text) ⟨htext, rfl⟩ Pairing.args_nil
    refine (Expr.tandem_evaluateWith h.2 hseed).bind fun v v' hv => tandem_pure ⟨h.1 _, ?_⟩
    rw [hv.2, Value.text_adjust]
  | autoescape strategy => exact tandem_closed (tandem_withAutoescape h hbody)
  | evaluate expression =>
    exact tandem_closed ((Expr.tandem_evaluate h).bind fun _ _ _ => hempty)
  | deprecated message =>
    refine tandem_closed ((Expr.tandem_evaluate h).bind ?_)
    rintro v _ ⟨-, rfl⟩
    refine tandem_template.bind ?_
    rintro t _ ⟨-, rfl⟩
    rw [Value.text_adjust]
    exact (tandem_ask (r := .report (.deprecated t.id v.text)) (K.report_deprecated _ _)
      fun _ _ => id).bind fun _ _ _ => hempty

end Tag
end

/-! ## Nodes -/

namespace Node

mutual

theorem tandem_render {K : Pairing} (n : Node) (h : n.Guarded K.text K.escapes) (active : Bool) :
    Tandem K K.failing (Loop.texts K) (render active n) (render active n) := by
  cases n with
  | raw value => exact tandem_pure ⟨h, rfl⟩
  | output e =>
    refine (Expr.tandem_evaluate h).bind fun _ _ hv => (tandem_outputText hv).bind ?_
    rintro _ text ⟨htext, rfl⟩
    exact tandem_pure ⟨htext, rfl⟩
  | logic tag nodes =>
    rw [Guarded] at h
    rw [render]
    exact Tag.tandem_render h.1 active h.2
      ((tandem_renderAll nodes h.2 false K.text_empty).mono (fun _ _ => id) (fun _ => And.left)
        fun _ => id)
termination_by structural n

theorem tandem_renderAll {K : Pairing} (nodes : List Node)
    (h : allGuarded K.text K.escapes nodes) (active : Bool) {done : String} (hdone : K.text done) :
    Tandem K K.rendering K.texts (renderAll active done nodes) (renderAll active done nodes) := by
  cases nodes with
  | nil => exact tandem_pure ⟨hdone, rfl⟩
  | cons n rest =>
    rw [allGuarded] at h
    rw [renderAll]
    -- Where the first side fails alone, its settings make it pass the failure on.
    refine (tandem_render n h.1 active).attempt_bind ?_ fun hparts failure s _ hs =>
      gone_endList hparts done failure hs
    rintro _ _ (⟨htext, rfl⟩ | hcause)
    · exact tandem_renderAll rest h.2 _ (K.text_append _ _ hdone htext)
    · exact tandem_endList hdone hcause
termination_by structural nodes

end

/-- The text of a list of nodes, where it does not matter whether it can fail. -/
theorem tandem_text {K : Pairing} {nodes : List Node} (h : K.Nodes nodes) :
    Tandem K K.failing K.texts (renderAll false "" nodes) (renderAll false "" nodes) :=
  (tandem_renderAll nodes h false K.text_empty).mono (fun _ _ => id) (fun _ => And.left)
    fun _ => id

end Node
end Stencil
