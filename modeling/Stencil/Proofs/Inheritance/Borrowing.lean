import Stencil.Engine.Host
import Stencil.Proofs.Inheritance.Claims
import Stencil.Proofs.Inheritance.Merging

/-!
# Blocks that templates borrow

A render finds templates, renders them and resolves their tags, from a sound state to a sound one.
This is shown for programs put together in any way, if it holds of the answers to what they ask
for (`Environment.AnswersKeep`), and so for expressions, tags and nodes
(`Rendering.keepsRules`, `Rendering.keepsTagRules`).

Not every template that a render meets is stored: pages and embedded templates are not, and their
imports are changed as one likes.  So of each template it is known that it is stored, or else that
no stored one shares its number (`World.Knows`).  What is known of it stays so (`World.Lasting`),
since templates that are stored later on have later numbers.
-/
namespace Stencil

/-! ## What is known of a template in a render -/

namespace World

/-- The template is stored, or none that is or will be stored has its number. -/
def Knows (w : World) (t : Template) : Prop :=
  t.number < w.next ∧ ∀ l u, w.store.find? l = some u → u.number = t.number → u = t

/-- No template that is or will be stored has the number. -/
def Spares (w : World) (number : Nat) : Prop :=
  number < w.next ∧ ∀ l u, w.store.find? l = some u → u.number ≠ number

/-- What a render takes care of when it asks. It asks neither for what is done in search of a
template nor for what is done to the imports of a stored one: these belong together. -/
def Expects (w : World) : Request → Prop
  | .stored _ | .store _ | .cached _ | .writeCache .. | .load _ => False
  | .claimImports t | .releaseImports t | .importBlock t .. => w.Spares t.number
  | .mergeImports t _ => w.Knows t
  | .render t parent .. => w.Knows t ∧ ∀ p ∈ parent, w.Knows p
  | .renderBlock _ scope => ∀ p ∈ scope.parent, w.Knows p
  | _ => True

/-- What a render can rely on behind an answer. -/
def Tells (after : World) : (r : Request) → r.Answer → Prop
  | .fresh, (n : Nat) => after.Spares n
  | .renderBlock .., (r : BlockResult) => ∀ p ∈ r.parent, after.Knows p
  | _, _ => True

/-- What holds in a state holds in the later ones. -/
def Lasting (P : World → Prop) : Prop := ∀ w after, w.Evolves after → P w → P after

variable {w after : World}

theorem Spares.knows {t : Template} (h : w.Spares t.number) : w.Knows t :=
  ⟨h.1, fun l u hu hsame => absurd hsame (h.2 l u hu)⟩

theorem lasting_knows (t : Template) : Lasting (·.Knows t) := by
  intro w after h ht
  refine ⟨Nat.lt_of_lt_of_le ht.1 h.next, fun l u hu hsame => ?_⟩
  rcases h.fresh l u hu with hold | hnew
  · exact ht.2 l u hold hsame
  · have hnumber := ht.1
    omega

theorem lasting_spares (number : Nat) : Lasting (·.Spares number) := by
  intro w after h hn
  refine ⟨Nat.lt_of_lt_of_le hn.1 h.next, fun l u hu => ?_⟩
  rcases h.fresh l u hu with hold | hnew
  · exact hn.2 l u hold
  · have hnumber := hn.1
    omega

theorem lasting_true : Lasting fun _ => True := fun _ _ _ _ => trivial

theorem Lasting.and {P Q : World → Prop} (hP : Lasting P) (hQ : Lasting Q) :
    Lasting fun w => P w ∧ Q w := fun w after h hw => ⟨hP w after h hw.1, hQ w after h hw.2⟩

theorem lasting_parent (parent : Option Template) : Lasting fun w => ∀ p ∈ parent, w.Knows p :=
  fun w after h hw p hp => lasting_knows p w after h (hw p hp)

end World

/-- What is stored is made under the settings. -/
def Request.Under (options : Options) : Request → Prop
  | .store t => t.options = options
  | _ => True

/-! ## Programs of a render -/

namespace Environment
open World

/-- From a sound state, if what is stored is made under the settings of the environment, the program
leaves a sound state, and it comes to what it promises unless it goes too deep. -/
def Keeps (env : Environment) (sources : Dict String) (patience : Patience) (depth : Nat) {α : Type}
    (pre : World → Prop) (p : Program α) (post : α → World → Prop) : Prop :=
  ∀ w, env.Sound sources (fun _ => False) w → pre w →
    (∀ r ∈ env.events patience depth p w, r.Under env.options) →
    (env.run patience depth p w).Ends
      (fun a after => (env.Sound sources (fun _ => False) after ∧ w.Evolves after) ∧ post a after)
      (env.Sound sources fun _ => False) True

/-- So do the answers to what a render asks for. -/
def AnswersKeep (env : Environment) (sources : Dict String) (patience : Patience) (depth : Nat) :
    Prop :=
  ∀ r w, env.Sound sources (fun _ => False) w → w.Expects r → r.Under env.options →
    (∀ r' ∈ env.inside patience depth r w, r'.Under env.options) →
    (env.answer patience depth r w).Ends
      (fun a after => (env.Sound sources (fun _ => False) after ∧ w.Evolves after) ∧
        after.Tells r a)
      (env.Sound sources fun _ => False) True

variable {env : Environment} {sources : Dict String} {patience : Patience} {depth : Nat}
  {α β : Type} {pre pre' : World → Prop}

theorem keeps_done {a : α} {post : α → World → Prop} (h : ∀ w, pre w → post a w) :
    env.Keeps sources patience depth pre (.done a) post :=
  fun w hw hpre _ => ⟨⟨hw, .refl w⟩, h w hpre⟩

theorem Keeps.mono {p : Program α} {post post' : α → World → Prop}
    (h : env.Keeps sources patience depth pre p post) (hpre : ∀ w, pre' w → pre w)
    (hpost : ∀ a w, post a w → post' a w) : env.Keeps sources patience depth pre' p post' :=
  fun w hw hw' hheed => (h w hw (hpre w hw') hheed).mono
    (fun a after ha => ⟨ha.1, hpost a after ha.2⟩) (fun _ hafter => hafter) id

/-- What is known holds since something else does. -/
theorem Keeps.since (pre : World → Prop) {p : Program α} {post : α → World → Prop}
    (h : env.Keeps sources patience depth pre p post) (hpre : ∀ w, pre' w → pre w) :
    env.Keeps sources patience depth pre' p post := h.mono hpre fun _ _ h => h

/-- What the program comes to is of no matter. -/
theorem Keeps.forget {p : Program α} {post : α → World → Prop}
    (h : env.Keeps sources patience depth pre p post) :
    env.Keeps sources patience depth pre p fun _ _ => True :=
  h.mono (fun _ h => h) fun _ _ _ => trivial

/-- One program behind another one, which may rely on what was known before as well. -/
theorem Keeps.bind {p : Program α} {f : α → Program β} {mid : α → World → Prop}
    {post : β → World → Prop} (h : env.Keeps sources patience depth pre p mid)
    (hpre : Lasting pre)
    (hf : ∀ a, env.Keeps sources patience depth (fun w => pre w ∧ mid a w) (f a) post) :
    env.Keeps sources patience depth pre (p >>= f) post := by
  intro w hw hw' hheed
  rw [events_bind] at hheed
  obtain ⟨hfirst, hsecond⟩ := List.forall_mem_append.mp hheed
  have hp := h w hw hw' hfirst
  rw [run, Program.runWith_bind]
  cases hrun : env.run patience depth p w with
  | done a between =>
    rw [hrun] at hp hsecond
    obtain ⟨⟨hbetween, hevolves⟩, hmid⟩ := hp
    have hnext := hf a between hbetween ⟨hpre w between hevolves hw', hmid⟩ hsecond
    rw [run] at hrun
    rw [hrun]
    exact hnext.mono (fun b after hb => ⟨⟨hb.1.1, hevolves.trans hb.1.2⟩, hb.2⟩)
      (fun _ hafter => hafter) id
  | pending between =>
    rw [hrun] at hp
    rw [run] at hrun
    rw [hrun]
    exact hp
  | tooDeep =>
    rw [run] at hrun
    rw [hrun]
    trivial

theorem keeps_ask (hanswers : env.AnswersKeep sources patience depth) {r : Request}
    (hr : ∀ w, pre w → w.Expects r) :
    env.Keeps sources patience depth pre (Program.request r) fun a after => after.Tells r a := by
  intro w hw hw' hheed
  obtain ⟨more, hmore⟩ := env.events_ask patience depth (r := r) .done w
  have hevents : env.events patience depth (Program.request r) w
      = r :: (env.inside patience depth r w ++ more) := hmore
  rw [hevents] at hheed
  rw [run_request]
  exact hanswers r w hw (hr w hw') (hheed r List.mem_cons_self) fun r' hr' =>
    hheed r' (List.mem_cons_of_mem r (List.mem_append_left more hr'))

/-- A program that may fail, behind another one. -/
theorem Keeps.bind_attempt {p : Attempt α} {f : α → Attempt β} {mid : α → World → Prop}
    {post : Except Failure β → World → Prop}
    (h : env.Keeps sources patience depth pre p.run fun r after => ∀ a, r = .ok a → mid a after)
    (hpre : Lasting pre)
    (hf : ∀ a, env.Keeps sources patience depth (fun w => pre w ∧ mid a w) (f a).run post)
    (herror : ∀ failure w, pre w → post (.error failure) w) :
    env.Keeps sources patience depth pre (p >>= f).run post := by
  refine Keeps.bind h hpre fun r => ?_
  cases r with
  | ok a => exact (hf a).since _ fun w hw => ⟨hw.1, hw.2 a rfl⟩
  | error failure => exact keeps_done fun w hw => herror failure w hw.1

/-- A program that meets a contract of harmless requests. -/
theorem keeps_of_meets (hanswers : env.AnswersKeep sources patience depth) {C : Contract}
    (hasks : ∀ r, C.asks r → ∀ w : World, w.Expects r) (hgiven : ∀ r a, C.answers r a)
    {post : α → Prop} {p : Program α} (h : p.Meets C post) :
    env.Keeps sources patience depth (fun _ => True) p fun a _ => post a := by
  induction p with
  | done a => exact keeps_done fun _ _ => h
  | ask r next ih =>
    have hr : env.Keeps sources patience depth (fun _ => True) (Program.request r)
        fun a after => after.Tells r a := keeps_ask hanswers fun w _ => hasks r h.1 w
    exact hr.bind lasting_true fun a => (ih a (h.2 a (hgiven r a))).since _ fun _ _ => trivial

end Environment

/-! ## Renderings -/

open Rendering World

/-- Wherever it starts, the template that is extended is known, and behind the rendering too. -/
def Rendering.Keeps (env : Environment) (sources : Dict String) (patience : Patience)
    (depth : Nat) {α : Type} (pre : World → Prop) (a : Rendering α) (post : α → World → Prop) :
    Prop :=
  ∀ s : Scope, env.Keeps sources patience depth (fun w => pre w ∧ ∀ p ∈ s.parent, w.Knows p) (a s)
    fun r after => (∀ p ∈ r.2.parent, after.Knows p) ∧ ∀ v, r.1 = .ok v → post v after

namespace Rendering
variable {env : Environment} {sources : Dict String} {patience : Patience} {depth : Nat}
  {α β : Type} {pre pre' : World → Prop}

theorem Keeps.mono {a : Rendering α} {post post' : α → World → Prop}
    (h : a.Keeps env sources patience depth pre post) (hpre : ∀ w, pre' w → pre w)
    (hpost : ∀ v w, post v w → post' v w) : a.Keeps env sources patience depth pre' post' :=
  fun s => (h s).mono (fun w hw => ⟨hpre w hw.1, hw.2⟩) fun _ w hr =>
    ⟨hr.1, fun v hv => hpost v w (hr.2 v hv)⟩

/-- What is known holds since something else does. -/
theorem Keeps.since (pre : World → Prop) {a : Rendering α} {post : α → World → Prop}
    (h : a.Keeps env sources patience depth pre post) (hpre : ∀ w, pre' w → pre w) :
    a.Keeps env sources patience depth pre' post := h.mono hpre fun _ _ h => h

/-- What the rendering comes to is of no matter. -/
theorem Keeps.forget {a : Rendering α} {post : α → World → Prop}
    (h : a.Keeps env sources patience depth pre post) :
    a.Keeps env sources patience depth pre fun _ _ => True :=
  h.mono (fun _ h => h) fun _ _ _ => trivial

theorem keeps_settle {post : α → World → Prop} (r : Except Failure α)
    (h : ∀ v w, r = .ok v → pre w → post v w) :
    (settle r).Keeps env sources patience depth pre post :=
  fun _ => Environment.keeps_done fun w hw => ⟨hw.2, fun v hv => h v w hv hw.1⟩

theorem keeps_pure {post : α → World → Prop} {v : α} (h : ∀ w, pre w → post v w) :
    (pure v : Rendering α).Keeps env sources patience depth pre post :=
  fun _ => Environment.keeps_done fun w hw => ⟨hw.2, by rintro _ ⟨⟩; exact h w hw.1⟩

theorem keeps_throw {post : α → World → Prop} (failure : Failure) :
    (throw failure : Rendering α).Keeps env sources patience depth pre post :=
  fun _ => Environment.keeps_done fun _ hw => ⟨hw.2, nofun⟩

theorem Keeps.bind {a : Rendering α} {f : α → Rendering β} {mid : α → World → Prop}
    {post : β → World → Prop} (h : a.Keeps env sources patience depth pre mid)
    (hpre : Lasting pre)
    (hf : ∀ v, (f v).Keeps env sources patience depth (fun w => pre w ∧ mid v w) post) :
    (a >>= f).Keeps env sources patience depth pre post := by
  intro s
  rw [bind_run]
  refine (h s).bind (hpre.and (lasting_parent s.parent)) fun out => ?_
  obtain ⟨r, after⟩ := out
  cases r with
  | ok v => exact (hf v after).since _ fun w hw => ⟨⟨hw.1.1, hw.2.2 v rfl⟩, hw.2.1⟩
  | error failure => exact Environment.keeps_done fun _ hw => ⟨hw.2.1, nofun⟩

theorem Keeps.attempt {a : Rendering α} {post : α → World → Prop}
    (h : a.Keeps env sources patience depth pre post) (hpre : Lasting pre) :
    (attempt a).Keeps env sources patience depth pre
      fun r w => ∀ v, r = .ok v → post v w := by
  intro s
  refine (h s).bind (hpre.and (lasting_parent s.parent)) fun out => ?_
  refine Environment.keeps_done fun w hw => ⟨hw.2.1, ?_⟩
  rintro _ ⟨⟩
  exact hw.2.2

theorem keeps_get : (get : Rendering Scope).Keeps env sources patience depth pre
    fun s w => ∀ p ∈ s.parent, w.Knows p :=
  fun _ => Environment.keeps_done fun _ hw => ⟨hw.2, by rintro _ ⟨⟩; exact hw.2⟩

theorem keeps_modify {f : Scope → Scope}
    (h : ∀ s w, pre w → (∀ p ∈ s.parent, w.Knows p) → ∀ p ∈ (f s).parent, w.Knows p) :
    (modify f : Rendering Unit).Keeps env sources patience depth pre fun _ _ => True :=
  fun s => Environment.keeps_done fun w hw => ⟨h s w hw.1 hw.2, fun _ _ => trivial⟩

theorem keeps_ask (hanswers : env.AnswersKeep sources patience depth) {r : Request}
    (hr : ∀ w, pre w → w.Expects r) (hpre : Lasting pre) :
    (ask r).Keeps env sources patience depth pre fun a w => w.Tells r a := by
  intro s
  have h : env.Keeps sources patience depth (fun w => pre w ∧ ∀ p ∈ s.parent, w.Knows p)
      (Program.request r) fun a after => after.Tells r a :=
    Environment.keeps_ask hanswers fun w hw => hr w hw.1
  refine h.bind (hpre.and (lasting_parent s.parent)) fun a => ?_
  refine Environment.keeps_done fun w hw => ⟨hw.1.2, ?_⟩
  rintro _ ⟨⟩
  exact hw.2

end Rendering

/-! ## Finding templates -/

section
variable {env : Environment} {sources : Dict String} {patience : Patience} {depth : Nat}
  {pre : World → Prop}

namespace Environment

theorem Sound.knows {w : World} (h : env.Sound sources (fun _ => False) w) {locator : String}
    {t : Template} (ht : w.store.find? locator = some t) : w.Knows t :=
  ⟨h.numbered locator t ht, fun l u hu hsame => h.distinct l locator u t hu ht hsame⟩

/-- **A template that is found is known.** -/
theorem keeps_resolve (henv : env.Supplies sources) (hcoherent : env.Coherent sources)
    (name : String) (base : Option String) (options : Options) :
    env.Keeps sources patience depth pre (Template.resolve name base options).run
      fun r after => ∀ t, r = .ok t → after.Knows t := by
  intro w hw _ hheed
  let locator := Locator.resolveString options.namespaces base name
  have hstore := env.run_store patience depth (Template.resolve name base options).run w
  have hends : (env.run patience depth (Template.resolve name base options).run w).Ends _ _ _ :=
    run_resolve_ends henv hw.mirrors name base
  -- what is stored in the run is stored by one of its events
  have hgains {t : Template} {after : World} (hgained : env.Gains sources options locator w t after)
      (hnone : w.store.find? locator = none) (hevents : after.store
        = (env.events patience depth (Template.resolve name base options).run w).foldl
          Request.storeOf w.store) :
      (env.Sound sources (fun _ => False) after ∧ w.Evolves after) ∧
        after.store.find? locator = some t := by
    have hfound : after.store.find? locator = some t := by
      rw [hgained.store]
      exact (Dict.find?_insert _ _ _ _).trans (if_pos rfl)
    have hoptions : options = env.options := by
      rw [← hgained.options]
      rcases Request.store_of_find? (hevents ▸ hfound) with hold | ⟨hevent, -⟩
      · cases hnone.symm.trans hold
      · exact hheed _ hevent
    subst hoptions
    exact ⟨hw.of_gains hcoherent hgained hnone, hfound⟩
  cases hrun : env.run patience depth (Template.resolve name base options).run w with
  | tooDeep => trivial
  | pending after =>
    rw [hrun] at hends
    exact (hw.of_journal hends).1
  | done r after =>
    rw [hrun] at hends hstore
    have hsought : env.Sought sources options name base w r after := hends
    unfold Sought at hsought
    split at hsought
    · next t ht =>
      obtain ⟨rfl, rfl⟩ := hsought
      refine ⟨⟨hw, .refl after⟩, ?_⟩
      rintro _ ⟨⟩
      rcases Option.or_eq_some_iff.mp ht with hraw | ⟨-, hlocator⟩
      · split at hraw
        · exact hw.knows hraw
        · cases hraw
      · exact hw.knows hlocator
    · obtain ⟨hnone, hfound, hmade⟩ := hsought
      have hkept : env.Sound sources (fun _ => False) after ∧ w.Evolves after := by
        rcases hfound with hsame | ⟨t, hgained⟩
        · exact hw.of_journal hsame
        · exact (hgains hgained hnone hstore).1
      exact ⟨hkept, fun t ht => hkept.1.knows (hgains (hmade t ht) hnone hstore).2⟩

end Environment

namespace Rendering

mutual

theorem keeps_findTemplate (henv : env.Supplies sources) (hcoherent : env.Coherent sources)
    (v : Value) : (findTemplate v).Keeps env sources patience depth (fun _ => True)
      fun t w => w.Knows t := by
  have hresolve (name : String) (base : Option String) (options : Options) :
      (ofAttempt (Template.resolve name base options)).Keeps env sources patience depth
        (fun _ => True) fun t w => w.Knows t := by
    intro s
    refine (Environment.keeps_resolve henv hcoherent name base options).bind
      (lasting_true.and (lasting_parent s.parent)) fun found => ?_
    exact Environment.keeps_done fun w hw => ⟨hw.1.2, hw.2⟩
  cases v with
  | array identity candidates =>
    rw [findTemplate]
    exact keeps_firstTemplate henv hcoherent _ candidates
  | _ =>
    have htemplate : template.Keeps env sources patience depth (fun _ => True) fun _ _ => True :=
      keeps_get.bind lasting_true fun _ => keeps_pure fun _ _ => trivial
    exact htemplate.bind lasting_true fun t => (hresolve _ _ _).since _ fun _ _ => trivial
termination_by structural v

theorem keeps_firstTemplate (henv : env.Supplies sources) (hcoherent : env.Coherent sources)
    (named : Value) (candidates : List Value) :
    (firstTemplate named candidates).Keeps env sources patience depth (fun _ => True)
      fun t w => w.Knows t := by
  cases candidates with
  | nil => exact keeps_throw _
  | cons v rest =>
    rw [firstTemplate]
    refine ((keeps_findTemplate henv hcoherent v).attempt lasting_true).bind lasting_true
      fun found => ?_
    split
    · exact keeps_pure fun _ hw => hw.2 _ rfl
    · split
      · exact (keeps_firstTemplate henv hcoherent named rest).since _ fun _ _ => trivial
      · exact keeps_throw _
termination_by structural candidates

end

/-! ## Blocks and templates inside a rendering -/

/-- From any sound state the rendering leaves a sound one. -/
def Minds (env : Environment) (sources : Dict String) (patience : Patience) (depth : Nat)
    {α : Type} (a : Rendering α) : Prop :=
  a.Keeps env sources patience depth (fun _ => True) fun _ _ => True

section
variable {α β : Type} {a : Rendering α}

/-- What was known before may be relied on behind it. -/
theorem Minds.followed {f : α → Rendering β} {post : β → World → Prop}
    (h : a.Minds env sources patience depth) (hpre : Lasting pre)
    (hf : ∀ v, (f v).Keeps env sources patience depth pre post) :
    (a >>= f).Keeps env sources patience depth pre post :=
  (h.since _ fun _ _ => trivial).bind hpre fun v => (hf v).since _ fun _ hw => hw.1

/-- What comes behind may rely on what the first part has found out. -/
theorem Keeps.minds {post : α → World → Prop} {f : α → Rendering β}
    (h : a.Keeps env sources patience depth (fun _ => True) post)
    (hf : ∀ v, (f v).Keeps env sources patience depth (post v) fun _ _ => True) :
    (a >>= f).Minds env sources patience depth :=
  h.bind lasting_true fun v => (hf v).since _ fun _ hw => hw.2

theorem Minds.bind {f : α → Rendering β} (h : a.Minds env sources patience depth)
    (hf : ∀ v, (f v).Minds env sources patience depth) :
    (a >>= f).Minds env sources patience depth := h.minds hf

theorem Minds.attempt (h : a.Minds env sources patience depth) :
    (attempt a).Minds env sources patience depth :=
  (Keeps.attempt h lasting_true).forget

theorem minds_settle (r : Except Failure α) : (settle r).Minds env sources patience depth :=
  keeps_settle r fun _ _ _ _ => trivial

theorem minds_pure (v : α) : (pure v : Rendering α).Minds env sources patience depth :=
  minds_settle (.ok v)

theorem minds_get : (get : Rendering Scope).Minds env sources patience depth :=
  keeps_get.forget

theorem minds_template : template.Minds env sources patience depth :=
  minds_get.bind fun _ => minds_pure _

theorem minds_context : context.Minds env sources patience depth :=
  minds_get.bind fun _ => minds_pure _

end

section
variable (hanswers : env.AnswersKeep sources patience depth)
include hanswers

theorem minds_ask {r : Request} (hr : ∀ w : World, w.Expects r) :
    (ask r).Minds env sources patience depth :=
  (keeps_ask hanswers (fun w _ => hr w) lasting_true).forget

theorem minds_renderBlock (b : Block) : (renderBlock b).Minds env sources patience depth := by
  intro s
  have h : env.Keeps sources patience depth (fun w => True ∧ ∀ p ∈ s.parent, w.Knows p)
      (Program.request (.renderBlock b s)) fun a after => after.Tells (.renderBlock b s) a :=
    Environment.keeps_ask hanswers fun w hw => hw.2
  refine h.bind (lasting_true.and (lasting_parent s.parent)) fun r => ?_
  exact Environment.keeps_done fun w hw => ⟨hw.2, fun _ _ => trivial⟩

theorem minds_findBlock (name : String) : (findBlock name).Minds env sources patience depth :=
  minds_get.bind fun _ => minds_ask hanswers fun _ => trivial

theorem minds_renderParent : renderParent.Minds env sources patience depth := by
  refine minds_get.bind fun scope => ?_
  split
  · exact keeps_throw _
  · next name outer _ =>
    refine (minds_ask hanswers (r := .inheritedBlock scope.template name)
      fun _ => trivial).bind fun found => ?_
    split
    · exact minds_renderBlock hanswers _
    · exact keeps_throw _

theorem minds_renderNamedBlock (name : String) :
    (renderNamedBlock name).Minds env sources patience depth := by
  refine (minds_findBlock hanswers name).bind fun found => ?_
  split
  · exact minds_renderBlock hanswers _
  · exact minds_pure _

theorem minds_blockInPlace (name : String) :
    (blockInPlace name).Minds env sources patience depth := by
  refine minds_get.bind fun scope => ?_
  split
  · exact minds_pure _
  · refine (minds_findBlock hanswers name).bind fun found => ?_
    split
    · exact (minds_renderBlock hanswers _).bind fun v => minds_pure _
    · exact minds_pure _

/-- A template that is known is rendered. -/
theorem keeps_renderTemplate (t : Template) (parent : Option Template) (c : Context) :
    (renderTemplate t parent c).Keeps env sources patience depth
      (fun w => w.Knows t ∧ ∀ p ∈ parent, w.Knows p) fun _ _ => True :=
  (keeps_ask hanswers (r := .render t parent c []) (fun _ hw => hw)
    ((lasting_knows t).and (lasting_parent parent))).bind
    ((lasting_knows t).and (lasting_parent parent)) fun r => keeps_settle r fun _ _ _ _ => trivial

variable (henv : env.Supplies sources) (hcoherent : env.Coherent sources)
include henv hcoherent

theorem minds_includeFunction (args : List Value) :
    (includeFunction args).Minds env sources patience depth := by
  refine ((keeps_findTemplate henv hcoherent _).attempt lasting_true).minds fun found => ?_
  split
  · split
    · exact keeps_pure fun _ _ => trivial
    · exact keeps_throw _
  · next t =>
    have hrender (c : Context) : (do return Value.safe (← renderTemplate t none c)).Keeps env
        sources patience depth (fun w => w.Knows t) fun _ _ => True :=
      ((keeps_renderTemplate hanswers t none c).since _ fun w hw => ⟨hw, nofun⟩).bind
        (lasting_knows t) fun _ => keeps_pure fun _ _ => trivial
    have hbindings (bindings : Value) (start : Context) : (do
        let c ← if bindings.isNone then pure start else settle (mergeObject start bindings)
        return Value.safe (← renderTemplate t none c)).Keeps env sources patience depth
        (fun w => w.Knows t) fun _ _ => True := by
      dsimp only
      split
      · exact (minds_pure _).followed (lasting_knows t) hrender
      · exact (minds_settle _).followed (lasting_knows t) hrender
    refine .since (fun w => w.Knows t) ?_ fun w hw => hw t rfl
    dsimp only
    split
    · exact minds_context.followed (lasting_knows t) (hbindings _)
    · exact (minds_pure _).followed (lasting_knows t) (hbindings _)

/-- So the evaluation of expressions leaves a sound state, -/
def keepsRules : VariableRules True where
  Holds a := a.Minds env sources patience depth
  settle := minds_settle
  bind := Minds.bind
  attempt := Minds.attempt
  get := minds_get
  modifyContext _ := keeps_modify fun _ _ _ h => h
  ask r h := minds_ask hanswers fun w => by
    cases r with
    | fresh | report | filter | test | function | invoke => trivial
    | _ => exact h.elim
  renderParent _ := minds_renderParent hanswers
  renderNamedBlock _ := minds_renderNamedBlock hanswers
  includeFunction := minds_includeFunction hanswers henv hcoherent

theorem minds_evaluate (e : Expr) : (Expr.evaluate e).Minds env sources patience depth :=
  Expr.holds_evaluate (R := (keepsRules hanswers henv hcoherent).toRules)
    (Expr.tokensWithin_of trivial e)

theorem minds_inclusionContext (i : Inclusion) :
    (inclusionContext i).Minds env sources patience depth :=
  holds_inclusionContext (R := (keepsRules hanswers henv hcoherent).toRules)
    ⟨Expr.tokensWithin_of trivial _, optionWithin_of trivial _⟩

theorem keeps_inclusionTemplate (i : Inclusion) :
    (inclusionTemplate i).Keeps env sources patience depth (fun _ => True)
      fun found w => ∀ t ∈ found, w.Knows t := by
  refine (minds_evaluate hanswers henv hcoherent _).followed lasting_true fun target => ?_
  refine ((keeps_findTemplate henv hcoherent target).attempt lasting_true).bind lasting_true
    fun found => ?_
  split
  · next t => exact keeps_pure fun w hw u hu => Option.some.inj hu ▸ hw.2 t rfl
  · split
    · exact keeps_pure fun _ _ u hu => absurd hu (Option.not_mem_none u)
    · exact keeps_throw _

theorem minds_includeTemplate (i : Inclusion) :
    (includeTemplate i).Minds env sources patience depth := by
  refine (keeps_inclusionTemplate hanswers henv hcoherent i).minds fun found => ?_
  split
  · next t =>
    refine .since (fun w => w.Knows t) ?_ fun w hw => hw t rfl
    refine (minds_inclusionContext hanswers henv hcoherent i).followed (lasting_knows t)
      fun c => ?_
    exact (keeps_renderTemplate hanswers t none c).since _ fun w hw => ⟨hw, nofun⟩
  · exact keeps_pure fun _ _ => trivial

/-- The embedded template has a number of its own. -/
theorem minds_embedTemplate (i : Inclusion) (nodes : List Node) :
    (embedTemplate i nodes).Minds env sources patience depth := by
  refine (keeps_inclusionTemplate hanswers henv hcoherent i).minds fun found => ?_
  split
  · next parent =>
    have hparent : Lasting fun w => w.Knows parent := lasting_knows parent
    refine .since (fun w => w.Knows parent) ?_ fun w hw => hw parent rfl
    refine minds_template.followed hparent fun outer => ?_
    have hfresh : (ask .fresh).Keeps env sources patience depth (fun w => w.Knows parent)
        fun (n : Nat) w => w.Spares n := keeps_ask hanswers (fun _ _ => trivial) hparent
    refine hfresh.bind hparent fun (n : Nat) => ?_
    have hboth : Lasting fun w => w.Knows parent ∧ w.Spares n := hparent.and (lasting_spares n)
    refine (minds_inclusionContext hanswers henv hcoherent i).followed hboth fun c => ?_
    refine (keeps_renderTemplate hanswers _ (some parent) c).since _ fun w hw => ⟨?_, ?_⟩
    · exact Spares.knows (t := ⟨n, none, outer.base, nodes, outer.options⟩) hw.2
    · rintro p ⟨⟩
      exact hw.1
  · exact keeps_pure fun _ _ => trivial

theorem minds_macroSource (e : Expr) : (macroSource e).Minds env sources patience depth := by
  unfold macroSource
  split
  · exact minds_template
  · exact (minds_evaluate hanswers henv hcoherent e).bind fun v =>
      (keeps_findTemplate henv hcoherent v).forget

/-- and so does the rendering of tags and nodes. -/
def keepsTagRules : TagRules True True where
  toVariableRules := keepsRules hanswers henv hcoherent
  autoescape _ := keeps_modify fun _ _ _ h => h
  blockInPlace := minds_blockInPlace hanswers
  includeTemplate i _ := minds_includeTemplate hanswers henv hcoherent i
  embedTemplate i nodes _ := minds_embedTemplate hanswers henv hcoherent i nodes
  macroSource e _ := minds_macroSource hanswers henv hcoherent e
  inherit _ e _ := by
    refine (minds_evaluate hanswers henv hcoherent e).bind fun v => ?_
    refine (keeps_findTemplate henv hcoherent v).minds fun t => ?_
    have hparent : (modify fun scope => { scope with parent := some t } : Rendering Unit).Keeps
        env sources patience depth (fun w => w.Knows t) fun _ _ => True :=
      keeps_modify fun s w ht _ p hp => Option.some.inj hp ▸ ht
    exact hparent.bind (lasting_knows t) fun _ => keeps_pure fun _ _ => trivial

end
end Rendering
end
end Stencil
