import Stencil.Proofs.Inheritance.Borrowing

/-!
# What is borrowed does not depend on what was done before

All that is asked for is answered from a sound state to a sound one, each level of answers by the
one below it (`Environment.answersKeep`).  So behind any history of finding and rendering templates
the stored ones whose `use` tags are resolved have the blocks that their tags bring
(`Environment.sound_afterwards`).

The extensions of the host leave templates alone.  The tags of a template that is not stored may
fail halfway or lead anywhere, for no other template borrows from it.
-/
namespace Stencil
open Rendering World

/-! ## Programs of templates -/

section
variable {env : Environment} {sources : Dict String} {patience : Patience} {depth : Nat}
  {α : Type} {pre : World → Prop}

theorem Rendering.Keeps.resultIn {a : Rendering α} {post : α → World → Prop}
    (h : a.Keeps env sources patience depth pre post) (hpre : Lasting pre) {s : Scope}
    (hs : ∀ w, pre w → ∀ p ∈ s.parent, w.Knows p) :
    env.Keeps sources patience depth pre (resultIn s a).run
      fun r after => ∀ v, r = .ok v → post v after := by
  refine Environment.Keeps.bind ((h s).since _ fun w hw => ⟨hw, hs w hw⟩) hpre fun out => ?_
  exact Environment.keeps_done fun w hw => hw.2.2

namespace Environment

theorem Keeps.tryCatch {p : Attempt α} {handle : Failure → Attempt α}
    (h : env.Keeps sources patience depth pre p.run fun _ _ => True) (hpre : Lasting pre)
    (hhandle : ∀ failure,
      env.Keeps sources patience depth pre (handle failure).run fun _ _ => True) :
    env.Keeps sources patience depth pre (tryCatch p handle).run fun _ _ => True := by
  refine Keeps.bind h hpre fun r => ?_
  cases r with
  | ok a => exact keeps_done fun _ _ => trivial
  | error failure => exact (hhandle failure).mono (fun _ hw => hw.1) fun _ _ _ => trivial

end Environment

variable (hanswers : env.AnswersKeep sources patience depth) (henv : env.Supplies sources)
  (hcoherent : env.Coherent sources)

section
include hanswers

theorem Template.keeps_importBlocks (t : Template) (i : BlockImport)
    (blocks : List (String × Block)) :
    env.Keeps sources patience depth (fun w => w.Spares t.number) (t.importBlocks i blocks)
      fun _ _ => True := by
  induction blocks with
  | nil => exact Environment.keeps_done fun _ _ => trivial
  | cons entry rest ih =>
    have himport := Environment.keeps_ask hanswers
      (r := .importBlock t (i.rename entry.1) entry.2) fun w (hw : w.Spares t.number) => hw
    exact himport.bind (lasting_spares t.number) fun _ => ih.since _ fun _ hw => hw.1

include henv hcoherent

theorem Block.keeps_render (b : Block) (scope : Scope) :
    env.Keeps sources patience depth (fun w => ∀ p ∈ scope.parent, w.Knows p) (b.render scope)
      fun r after => ∀ p ∈ r.parent, after.Knows p := by
  have hbody : b.renderBody.Minds env sources patience depth := by
    refine Block.holds_renderBody (R := keepsTagRules hanswers henv hcoherent) ?_
    split
    · exact Node.allWithin_of trivial trivial _
    · exact Expr.tokensWithin_of trivial _
  refine Environment.Keeps.bind ((hbody _).since _ fun w hw => ⟨trivial, hw⟩)
    (lasting_parent scope.parent) fun out => ?_
  exact Environment.keeps_done fun w hw => hw.2.1

/-- A value that is called starts in a scope that extends nothing. -/
theorem Value.keeps_call (v : Value) (args : List Value) :
    env.Keeps sources patience depth (fun _ => True) (v.call args).run fun _ _ => True := by
  unfold Value.call
  split
  · exact (Keeps.resultIn (minds_evaluate hanswers henv hcoherent _) lasting_true
      fun _ _ _ hp => by cases hp).forget
  · next t name =>
    have hmacro := Template.holds_callMacro (R := keepsTagRules hanswers henv hcoherent) t name args
    exact (Keeps.resultIn hmacro lasting_true fun _ _ _ hp => by cases hp).forget
  · exact Environment.keeps_done fun _ _ => trivial

/-! ## Resolving the tags of a template that is not stored -/

theorem Template.keeps_mergeEach (t : Template) (imports : List BlockImport) :
    (t.mergeEach imports).Keeps env sources patience depth (fun w => w.Spares t.number)
      fun _ _ => True := by
  have hspares : Lasting fun w => w.Spares t.number := lasting_spares t.number
  induction imports with
  | nil => exact keeps_pure fun _ _ => trivial
  | cons i rest ih =>
    rw [mergeEach]
    refine (minds_evaluate hanswers henv hcoherent i.expression).followed hspares fun v => ?_
    refine ((keeps_findTemplate henv hcoherent v).since _ fun _ _ => trivial).bind hspares
      fun source => ?_
    have hboth : Lasting fun w => w.Spares t.number ∧ w.Knows source :=
      hspares.and (lasting_knows source)
    refine minds_context.followed hboth fun c => ?_
    have hmerge := keeps_ask hanswers (r := .mergeImports source c)
      (fun w (hw : w.Spares t.number ∧ w.Knows source) => hw.2) hboth
    refine hmerge.bind hboth fun merged => ?_
    refine .since (fun w => w.Spares t.number) ?_ fun _ hw => hw.1.1
    refine (minds_settle _).followed hspares fun _ => ?_
    refine (minds_ask hanswers (r := .links source) fun _ => trivial).followed hspares
      fun links => ?_
    have himport : (lift (t.importBlocks i (links.imported.merge source.definedBlocks))).Keeps env
        sources patience depth (fun w => w.Spares t.number) fun _ _ => True := by
      intro s
      refine ((t.keeps_importBlocks hanswers i _).since _ fun _ hw => hw.1).bind
        (hspares.and (lasting_parent s.parent)) fun _ => ?_
      exact Environment.keeps_done fun w hw => ⟨hw.1.2, fun _ _ => trivial⟩
    exact himport.bind hspares fun _ => ih.since _ fun _ hw => hw.1

theorem Template.keeps_mergeImports_of_spares (t : Template) (c : Context) :
    env.Keeps sources patience depth (fun w => w.Spares t.number) (t.mergeImports c).run
      fun _ _ => True := by
  have hspares : Lasting fun w => w.Spares t.number := lasting_spares t.number
  have hclaim := Environment.keeps_ask hanswers (r := .claimImports t)
    fun w (hw : w.Spares t.number) => hw
  refine hclaim.bind hspares fun (unresolved : Bool) => ?_
  refine .since (fun w => w.Spares t.number) ?_ fun _ hw => hw.1
  cases unresolved with
  | false => exact Environment.keeps_done fun _ _ => trivial
  | true =>
    have heach := (t.keeps_mergeEach hanswers henv hcoherent t.blockImports).resultIn hspares
      (s := Scope.start t c) fun _ _ _ hp => by cases hp
    refine Environment.Keeps.tryCatch heach.forget hspares fun failure => ?_
    have hrelease := Environment.keeps_ask hanswers (r := .releaseImports t)
      fun w (hw : w.Spares t.number) => hw
    exact hrelease.bind hspares fun _ => Environment.keeps_done fun _ _ => trivial

/-! ## Rendering -/

variable (hdelivers : env.Delivers sources)
include hdelivers

/-- Be it stored or not: its tags are resolved, or they are still to be resolved. -/
theorem Template.keeps_mergeImports (t : Template) (c : Context) :
    env.Keeps sources patience depth (fun w => w.Knows t) (t.mergeImports c).run
      fun _ _ => True := by
  intro w hw hknows hheed
  by_cases hstored : ∃ locator, w.store.find? locator = some t
  · obtain ⟨locator, ht⟩ := hstored
    have hmerges := hw.run_mergeImports henv hdelivers hcoherent patience depth ht
      (fun _ => False.elim) c
    exact hmerges.mono (fun _ _ h => ⟨h.2.1, trivial⟩) (fun _ => False.elim) fun h => h
  · have hspares : w.Spares t.number := ⟨hknows.1, fun locator u hu hsame =>
      hstored ⟨locator, hknows.2 locator u hu hsame ▸ hu⟩⟩
    exact t.keeps_mergeImports_of_spares hanswers henv hcoherent c w hw hspares hheed

theorem Template.keeps_prepare (t : Template) (c : Context) :
    env.Keeps sources patience depth (fun w => w.Knows t) (t.prepare c).run fun _ _ => True := by
  have hknows : Lasting fun w => w.Knows t := lasting_knows t
  refine Environment.Keeps.tryCatch
    (t.keeps_mergeImports hanswers henv hcoherent hdelivers c) hknows fun failure => ?_
  have hcase (pass : Bool) : env.Keeps sources patience depth (fun w => w.Knows t) (ExceptT.run
      (if pass then throw (failure.inTemplate t.id)
        else liftM (Program.request (.report (.useFailed t.id failure))) : Attempt Unit))
      fun _ _ => True := by
    cases pass with
    | true => exact Environment.keeps_done fun _ _ => trivial
    | false =>
      have hreport := Environment.keeps_ask hanswers (r := .report (.useFailed t.id failure))
        fun w (_ : w.Knows t) => trivial
      exact hreport.bind hknows fun _ => Environment.keeps_done fun _ _ => trivial
  exact hcase _

theorem Template.keeps_render (t : Template) (parent : Option Template) (c : Context)
    (overrides : Dict Block) :
    env.Keeps sources patience depth (fun w => w.Knows t ∧ ∀ p ∈ parent, w.Knows p)
      (t.render parent c overrides).run fun _ _ => True := by
  have hpre : Lasting fun w => w.Knows t ∧ ∀ p ∈ parent, w.Knows p :=
    (lasting_knows t).and (lasting_parent parent)
  have hprepare : env.Keeps sources patience depth (fun w => w.Knows t ∧ ∀ p ∈ parent, w.Knows p)
      (t.prepare c).run fun r _ => ∀ v, r = .ok v → True :=
    (t.keeps_prepare hanswers henv hcoherent hdelivers c).mono (fun _ hw => hw.1)
      fun _ _ _ _ _ => trivial
  refine hprepare.bind_attempt hpre (fun _ => ?_) fun _ _ _ => trivial
  -- the template that is extended behind the text has been known before or found on the way
  have hnodes : (Node.renderAll false "" t.nodes).Minds env sources patience depth :=
    Node.holds_renderAll (R := keepsTagRules hanswers henv hcoherent) _
      (Node.allWithin_of trivial trivial _) _ _
  have htext : (do return (← Node.renderAll false "" t.nodes, ← get) :
      Rendering (String × Scope)).Keeps env sources patience depth
      (fun w => w.Knows t ∧ ∀ p ∈ parent, w.Knows p)
      fun r w => ∀ p ∈ r.2.parent, w.Knows p :=
    hnodes.followed hpre fun text => keeps_get.bind hpre fun scope =>
      keeps_pure fun _ hw => hw.2
  refine ((htext.resultIn hpre (s := { Scope.start t c with overrides, parent })
    fun _ hw => hw.2).since _ fun _ hw => hw.1).bind_attempt
    (hpre.and lasting_true) (fun r => ?_) fun _ _ _ => trivial
  obtain ⟨text, scope⟩ := r
  dsimp only
  split
  · exact Environment.keeps_done fun _ _ => trivial
  · next p hp =>
    have hknows : Lasting fun w => w.Knows p := lasting_knows p
    have hlast : env.Keeps sources patience depth (fun w => w.Knows p) (do
        Program.request (.setParent t p)
        let links ← Program.request (.links t)
        Program.request
          (.render p none scope.context (t.offeredBlocks links scope.overrides)))
        fun _ _ => True := by
      have hset := Environment.keeps_ask hanswers (r := .setParent t p)
        fun w (_ : w.Knows p) => trivial
      have hlinks := Environment.keeps_ask hanswers (r := .links t)
        fun w (_ : w.Knows p) => trivial
      refine hset.bind hknows fun _ => .since (fun w => w.Knows p) ?_ fun _ hw => hw.1
      refine hlinks.bind hknows fun links => ?_
      have hrender := Environment.keeps_ask hanswers
        (r := .render p none scope.context (t.offeredBlocks links scope.overrides))
        fun w (hw : w.Knows p) => ⟨hw, nofun⟩
      exact hrender.mono (fun _ hw => hw.1) fun _ _ _ => trivial
    exact hlast.since _ fun w hw => hw.2 p hp

end
end

/-! ## Answers -/

/-- The contract to leave templates alone: they are neither looked for nor rendered, and what is
stored, cached and claimed is not touched. -/
def Contract.aloof : Contract where
  asks
    | .stored _ | .store _ | .cached _ | .writeCache .. | .load _ | .claimImports _
    | .releaseImports _ | .importBlock .. | .mergeImports .. | .render .. | .renderBlock .. => False
    | _ => True
  answers _ _ := True
  scopes _ := True

theorem Contract.expects_of_aloof {r : Request} (h : Contract.aloof.asks r) (w : World) :
    w.Expects r := by
  cases r with
  | stored | store | cached | writeCache | load | claimImports | releaseImports | importBlock
  | mergeImports | render | renderBlock => exact h.elim
  | _ => trivial

namespace Template

/-- Blocks are looked up without any change. -/
theorem aloof_inheritedBlock (t : Template) (name : String) :
    (t.inheritedBlock name).Meets .aloof fun _ => True := by
  refine ⟨trivial, fun links _ => ?_⟩
  dsimp only [Program.bind]
  split
  · trivial
  · exact ⟨trivial, fun _ _ => trivial⟩
  · trivial

theorem aloof_findBlock (t : Template) (overrides : Dict Block) (name : String) :
    (t.findBlock overrides name).Meets .aloof fun _ => True := by
  unfold findBlock
  split
  · trivial
  · trivial
  · exact t.aloof_inheritedBlock name

end Template

namespace Environment
variable {env : Environment} {sources : Dict String} {patience : Patience} {depth : Nat}

/-- The links of a template that no stored one shares are changed as one likes. -/
theorem Sound.of_spares {w : World} (h : env.Sound sources (fun _ => False) w) {t : Template}
    (ht : w.Spares t.number) (change : Links → Links) :
    env.Sound sources (fun _ => False) (w.modifyLinks t change) ∧
      w.Evolves (w.modifyLinks t change) := by
  refine h.relink (Nat.le_refl _) rfl rfl fun u => ?_
  rw [World.linksOf_modifyLinks]
  split
  · next hsame => exact .inr ⟨hsame ▸ ht.1, fun l hu => absurd hsame.symm (ht.2 l u hu)⟩
  · exact .inl ⟨rfl, rfl⟩

/-- What is answered on the spot. -/
theorem keeps_onTheSpot {r : Request} (he : env.errand? r = none) {w : World}
    (h : env.Sound sources (fun _ => False) w) (hr : w.Expects r) :
    (env.answer patience depth r w).Ends
      (fun a after => (env.Sound sources (fun _ => False) after ∧ w.Evolves after) ∧
        after.Tells r a)
      (env.Sound sources fun _ => False) True := by
  rw [env.answer_onTheSpot patience depth he]
  cases r with
  | fresh =>
    refine ⟨h.relink (Nat.le_succ _) rfl rfl fun _ => .inl ⟨rfl, rfl⟩, Nat.lt_succ_self _, ?_⟩
    exact fun l u hu => Nat.ne_of_lt (h.numbered l u hu)
  | wait =>
    cases patience with
    | immediate =>
      have hwaited : env.Sound sources (fun _ => False) { w with waited := true } ∧ _ :=
        h.of_journal rfl
      exact hwaited.1
    | patient => exact ⟨h.of_journal rfl, trivial⟩
  | note | report => exact ⟨h.of_journal rfl, trivial⟩
  | links => exact ⟨⟨h, .refl w⟩, trivial⟩
  | setParent t parent =>
    refine ⟨h.relink (Nat.le_refl _) rfl rfl fun u => .inl ?_, trivial⟩
    rw [World.linksOf_modifyLinks]
    split <;> exact ⟨rfl, rfl⟩
  | claimImports t =>
    rw [env.answer_claimImports]
    split
    · exact ⟨h.of_spares hr _, trivial⟩
    · exact ⟨⟨h, .refl w⟩, trivial⟩
  | releaseImports t | importBlock t => exact ⟨h.of_spares hr _, trivial⟩
  | stored | store | cached | writeCache | load => exact hr.elim
  | function name args =>
    rw [env.answer_function_none patience 0 (Option.map_eq_none_iff.mp he)]
    exact ⟨⟨h, .refl w⟩, trivial⟩
  | _ => cases he

/-- What is run for an answer, if the answers one level deeper do. -/
theorem keeps_errand (hanswers : env.AnswersKeep sources patience depth)
    (henv : env.Supplies sources) (hcoherent : env.Coherent sources)
    (hdelivers : env.Delivers sources) (hhost : env.Provides .aloof fun _ _ => True) {r : Request}
    {e : Errand r} (he : env.errand? r = some e) :
    env.Keeps sources patience depth (fun w => w.Expects r) e.program
      fun a after => after.Tells r (e.answer a) := by
  have haloof {α : Type} {post : α → Prop} {p : Program α} (hp : p.Meets .aloof post) :
      env.Keeps sources patience depth (fun _ => True) p fun _ _ => True :=
    (keeps_of_meets hanswers (fun _ => Contract.expects_of_aloof) (fun _ _ => trivial) hp).mono
      (fun _ h => h) fun _ _ _ => trivial
  cases r with
  | load locator => exact fun _ _ hr => hr.elim
  | filter name input args =>
    obtain rfl := Option.some.inj he
    exact haloof (hhost.filter name input args)
  | test name input args =>
    obtain rfl := Option.some.inj he
    exact haloof (hhost.test name input args)
  | function name args =>
    obtain ⟨f, hf, rfl⟩ := Option.map_eq_some_iff.mp he
    exact haloof (hhost.function name f args hf)
  | invoke callee receiver args =>
    obtain rfl := Option.some.inj he
    refine (?_ : env.Keeps sources patience depth (fun _ => True)
      (env.invoke callee receiver args).run fun _ _ => True)
    unfold invoke
    split
    · exact haloof (hhost.callable _ receiver args)
    · exact Value.keeps_call hanswers henv hcoherent _ args
  | findBlock t overrides name =>
    obtain rfl := Option.some.inj he
    exact haloof (t.aloof_findBlock overrides name)
  | inheritedBlock t name =>
    obtain rfl := Option.some.inj he
    exact haloof (t.aloof_inheritedBlock name)
  | renderBlock b scope =>
    obtain rfl := Option.some.inj he
    exact b.keeps_render hanswers henv hcoherent scope
  | render t parent c overrides =>
    obtain rfl := Option.some.inj he
    exact t.keeps_render hanswers henv hcoherent hdelivers parent c overrides
  | mergeImports t c =>
    obtain rfl := Option.some.inj he
    exact t.keeps_mergeImports hanswers henv hcoherent hdelivers c
  | _ => cases he

section
variable (henv : env.Supplies sources) (hcoherent : env.Coherent sources)
  (hdelivers : env.Delivers sources) (hhost : env.Provides .aloof fun _ _ => True)
include henv hcoherent hdelivers hhost

/-- **All answers leave a sound state**, at all levels. -/
theorem answersKeep (patience : Patience) (depth : Nat) :
    env.AnswersKeep sources patience depth := by
  induction depth with
  | zero =>
    intro r w hw hr _ _
    cases he : env.errand? r with
    | none => exact keeps_onTheSpot he hw hr
    | some e =>
      rw [env.answer_errand_zero patience he]
      trivial
  | succ depth ih =>
    intro r w hw hr _ hinside
    cases he : env.errand? r with
    | none => exact keeps_onTheSpot he hw hr
    | some e =>
      rw [env.inside_errand patience depth he] at hinside
      rw [env.answer_errand_succ patience depth he]
      exact (keeps_errand ih henv hcoherent hdelivers hhost he w hw hr hinside).map

end

/-! ## Histories -/

/-- What is done before: templates are found by their names and rendered, and so are pages that have
no name, with variables of a kind. -/
inductive Visit (env : Environment) (proper : Context → Prop) : (α : Type) → Program α → Prop
  | find (name : String) : Visit env proper _ (env.template name).run
  | render (name : String) {c : Context} (hc : proper c) :
    Visit env proper _ (env.renderNamed name c).run
  | page (source : String) {c : Context} (hc : proper c) :
    Visit env proper _ (env.renderSource source c).run

/-- Before anything has been compiled. What is in the cache stands for the sources. -/
structure Starts (env : Environment) (sources : Dict String) (start : World) : Prop where
  links : start.links = []
  store : start.store = []
  mirrors : env.Mirrors sources start
  readable : env.Readable start

theorem Starts.sound {start : World} (h : env.Starts sources start) :
    env.Sound sources (fun _ => False) start := by
  have hnothing {l : String} {t : Template} (ht : start.store.find? l = some t) : False := by
    rw [h.store] at ht
    cases ht
  have hlinks (t : Template) : start.linksOf t = {} := by
    rw [World.linksOf, h.links]
    rfl
  refine ⟨h.mirrors, h.readable, fun _ _ ht => (hnothing ht).elim, fun _ _ ht => (hnothing ht).elim,
    fun _ _ _ _ ht => (hnothing ht).elim, fun t _ => ?_, fun _ _ ht => (hnothing ht).elim,
    fun _ _ ht => (hnothing ht).elim⟩
  rw [hlinks]
  exact ⟨rfl, rfl⟩

/-- A template without a name is not stored. -/
theorem keeps_make (options : Options) (nodes : List Node) :
    env.Keeps sources patience depth (fun _ => True)
      (Template.make options ⟨none, nodes⟩ : Attempt Template).run
      fun r after => ∀ t, r = .ok t → after.Knows t := by
  intro w hw _ _
  rw [run_make]
  have hmade : env.Sound sources (fun _ => False) { w with next := w.next + 1 } ∧
      w.Evolves { w with next := w.next + 1 } :=
    hw.relink (Nat.le_succ _) rfl rfl fun _ => .inl ⟨rfl, rfl⟩
  refine ⟨hmade, ?_⟩
  rintro _ ⟨⟩
  refine Spares.knows ⟨Nat.lt_succ_self _, fun l u hu => ?_⟩
  exact Nat.ne_of_lt (hw.numbered l u hu)

theorem keeps_compile (hanswers : env.AnswersKeep sources patience depth) (source : String)
    (options : Options) :
    env.Keeps sources patience depth (fun _ => True) (Template.compile none source options).run
      fun r after => ∀ t, r = .ok t → after.Knows t := by
  unfold Template.compile
  split
  · exact keeps_make options _
  · next failure _ =>
    split
    · exact keeps_done fun _ _ => nofun
    · have hreport := keeps_ask hanswers (r := .report (.compileFailed none failure))
        fun _ (_ : True) => trivial
      exact hreport.bind lasting_true fun _ => (keeps_make options []).since _ fun _ _ => trivial

section
variable (henv : env.Supplies sources) (hcoherent : env.Coherent sources)
  (hdelivers : env.Delivers sources) (hhost : env.Provides .aloof fun _ _ => True)
include henv hcoherent hdelivers hhost

theorem Visit.keeps {proper : Context → Prop} {α : Type} {p : Program α}
    (h : env.Visit proper α p) :
    env.Keeps sources patience depth (fun _ => True) p fun _ _ => True := by
  have hanswers := answersKeep henv hcoherent hdelivers hhost patience depth
  have htext (t : Template) (c : Context) :
      env.Keeps sources patience depth (fun w => w.Knows t) (t.text c).run fun _ _ => True :=
    (t.keeps_render hanswers henv hcoherent hdelivers none c []).mono
      (fun _ hw => ⟨hw, nofun⟩) fun _ _ h => h
  have hfind (name : String) :
      env.Keeps sources patience depth (fun _ => True) (env.template name).run
        fun r after => ∀ t, r = .ok t → after.Knows t :=
    keeps_resolve henv hcoherent name none env.options
  cases h with
  | find name => exact (hfind name).forget
  | @render name c =>
    exact (hfind name).bind_attempt lasting_true
      (fun t => (htext t c).since _ fun _ hw => hw.2) fun _ _ _ => trivial
  | @page source c =>
    exact (keeps_compile hanswers source env.options).bind_attempt lasting_true
      (fun t => (htext t c).since _ fun _ hw => hw.2) fun _ _ _ => trivial

/-- **Whatever has been done, the state is sound.** -/
theorem sound_afterwards {proper : Context → Prop} {start last : World} {events : List Request}
    (hstart : env.Starts sources start)
    (h : History (· = env) (env.Visit proper) World.withoutJournal start events last)
    (hunder : ∀ r ∈ events, r.Under env.options) : env.Sound sources (fun _ => False) last := by
  refine h.leaves (env.Sound sources fun _ => False) (·.Under env.options)
    (fun w w' hsame hw => (hw.of_journal hsame).1)
    (fun host hsame patience depth α p hp w hw hheed => ?_) hunder hstart.sound
  obtain rfl := hsame
  have hkeeps : host.Keeps sources patience depth (fun _ => True) p fun _ _ => True :=
    hp.keeps henv hcoherent hdelivers hhost
  have hends := hkeeps w hw trivial hheed
  cases hrun : host.run patience depth p w with
  | done a after =>
    rw [hrun] at hends
    exact hends.1.1
  | pending after =>
    rw [hrun] at hends
    exact hends
  | tooDeep => trivial

end
end Environment
end Stencil
