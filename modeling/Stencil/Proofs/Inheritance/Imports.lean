import Stencil.Engine.Loader
import Stencil.Proofs.Engine.Depth
import Stencil.Proofs.Engine.Histories
import Stencil.Proofs.Inheritance.Chain

/-!
# Who resolves the `use` tags

The `use` tags of a template are resolved once.  Whoever comes first claims them, so that nobody
else tries meanwhile, and gives them back after a failure: then the next render tries again.  A run
that is given up while it is at it can give nothing back.  From then on the tags count as resolved
for good, and the template is left with the blocks that had been imported until then
(`Environment.mergeImports_afterwards`).  So a render at once that meets a value which is not there
yet spoils all later ones, patient ones included (`Environment.text_given_up`).
-/
namespace Stencil

/-- The contract of programs that run while the `use` tags of a template are claimed: they do not
give the claim back.  Where the tags are resolved already, they import no block into the template
either. -/
def Contract.claimed (t : Template) (resolved : Prop) : Contract where
  asks
    | .releaseImports u => u.number ≠ t.number
    | .importBlock u _ _ => resolved → u.number ≠ t.number
    | _ => True
  answers
    | .claimImports u, (a : Bool) => u.number = t.number → a = false
    | _, _ => True
  scopes _ := True

/-- The `use` tags of the template are claimed, and if they are resolved, its imports are these. -/
def World.Claimed (t : Template) (resolved : Prop) (imports : Dict Block) (w : World) : Prop :=
  (w.linksOf t).claimed = true ∧ (resolved → (w.linksOf t).imported = imports)

namespace Contract
variable {t : Template} {resolved : Prop}

theorem claimed_asks {r : Request} (h : ¬ r.Internal) : (claimed t resolved).asks r := by
  cases r with
  | releaseImports | importBlock => exact (h trivial).elim
  | _ => trivial

theorem claimed_permits (t : Template) (resolved : Prop) :
    (claimed t resolved).Permits True True where
  storeless _ h := claimed_asks h.ordinary.not_internal
  resolve := Template.meets_resolve (fun _ h => claimed_asks h.ordinary.not_internal)
    fun _ _ => trivial
  claim _ := trivial
  merge u hu := by
    -- the tags of a claimed template are given to nobody
    have hother : u.number ≠ t.number := fun h => absurd (hu h) (by decide)
    exact ⟨hother, fun _ _ _ => hother⟩
  context _ _ _ := trivial
  autoescape _ _ _ := trivial
  find _ _ _ _ := trivial
  found _ _ _ _ _ _ := trivial
  above _ _ _ _ _ _ := trivial
  foundAbove _ _ _ _ _ _ _ _ := trivial
  after _ _ _ _ _ _ := trivial
  inherit _ _ _ _ := trivial

end Contract

namespace World
variable {w : World} {t : Template} {resolved : Prop} {imports : Dict Block}

theorem isUnresolved_iff : w.isUnresolved t = true ↔
    t.blockImports.isEmpty = false ∧ (w.linksOf t).claimed = false := by
  rw [isUnresolved, Bool.and_eq_true, Bool.not_eq_true', Bool.not_eq_true']

theorem isUnresolved_of_claimed (h : (w.linksOf t).claimed = true) : w.isUnresolved t = false := by
  rw [isUnresolved, h, Bool.not_true, Bool.and_false]

/-- Resolved tags stay so where claims do. -/
theorem isUnresolved_mono {after : World}
    (hclaimed : (w.linksOf t).claimed = true → (after.linksOf t).claimed = true)
    (h : w.isUnresolved t = false) : after.isUnresolved t = false := by
  rw [isUnresolved, Bool.and_eq_false_iff, Bool.not_eq_false', Bool.not_eq_false'] at h ⊢
  exact h.imp_right hclaimed

theorem Claimed.not_unresolved (h : w.Claimed t resolved imports) {u : Template}
    (hu : u.number = t.number) : w.isUnresolved u = false := by
  refine isUnresolved_of_claimed ?_
  rw [w.linksOf_of_number hu]
  exact h.1

theorem Claimed.of_links (h : w.Claimed t resolved imports) {after : World}
    (hlinks : after.links = w.links) : after.Claimed t resolved imports := by
  rwa [Claimed, linksOf_congr hlinks]

/-- Changes of links that keep the claim, and the imports where they matter. -/
theorem Claimed.modify (h : w.Claimed t resolved imports) (u : Template) {change : Links → Links}
    (hclaimed : ∀ l, l.claimed = true → u.number = t.number → (change l).claimed = true)
    (himported : resolved → ∀ l, u.number = t.number → (change l).imported = l.imported) :
    (w.modifyLinks u change).Claimed t resolved imports := by
  rw [Claimed, linksOf_modifyLinks]
  by_cases hu : u.number = t.number
  · rw [if_pos hu]
    exact ⟨hclaimed _ h.1 hu, fun hr => (himported hr _ hu).trans (h.2 hr)⟩
  · rw [if_neg hu]
    exact h

end World

namespace Environment
open Rendering
variable {source : String → String → Prop}

/-- **A claim is kept** by everything that templates do, and by hosts that keep away. -/
theorem upholds_claimed {env : Environment} (henv : env.KeepsAway source) (t : Template)
    (resolved : Prop) (imports : Dict Block) :
    env.Upholds (.claimed t resolved) (fun _ => True) (World.Claimed t resolved imports) where
  errand _ _ he _ := henv.errand (Contract.claimed_permits t resolved) (fun _ => trivial)
    (fun _ => Contract.claimed_asks) (fun _ _ _ => trivial)
    (fun r a _ he => by
      cases r with
      | claimImports u => exact absurd rfl he
      | _ => trivial) he
  onTheSpot patience r w he hasks _ hw := by
    cases r with
    | claimImports u =>
      rw [env.answer_claimImports]
      by_cases hu : w.isUnresolved u = true
      · have hother : u.number ≠ t.number := fun h => by
          rw [hw.not_unresolved h] at hu
          cases hu
        rw [if_pos hu]
        exact ⟨fun h => absurd h hother, hw.modify u (fun _ _ _ => rfl) fun _ _ _ => rfl⟩
      · rw [if_neg hu]
        exact ⟨fun _ => rfl, hw⟩
    | releaseImports u =>
      exact ⟨trivial, hw.modify u (fun _ _ h => absurd h hasks) fun _ _ _ => rfl⟩
    | importBlock u name b =>
      exact ⟨trivial, hw.modify u (fun _ h _ => h) fun hr _ h => absurd h (hasks hr)⟩
    | setParent u parent =>
      exact ⟨trivial, hw.modify u (fun _ h _ => h) fun _ _ _ => rfl⟩
    | _ =>
      exact .of_all ((env.answer_frame patience he w).mono fun after h => hw.of_links (h.1 id))
        fun _ => trivial

/-- So the imports of a template whose tags are resolved, or count as resolved, stay as they are for
the rest of time, and nobody resolves the tags again. -/
theorem imports_afterwards {hosts : Environment → Prop}
    (hhosts : ∀ env, hosts env → env.KeepsAway source) {t : Template} {w last : World}
    {events : List Request} (hclaimed : (w.linksOf t).claimed = true)
    (h : History hosts Order World.links w events last) :
    (last.linksOf t).claimed = true ∧ (last.linksOf t).imported = (w.linksOf t).imported := by
  have hlast : last.Claimed t True (w.linksOf t).imported := by
    refine h.leaves (·.Claimed t True (w.linksOf t).imported) (fun _ => True)
      (fun _ _ hlinks hw => hw.of_links hlinks)
      (fun env henv patience depth _ p hp w hw hheed => ?_) (fun _ _ => trivial)
      ⟨hclaimed, fun _ => rfl⟩
    have hmeets := hp.meets (Contract.claimed_permits t True) (fun _ => trivial)
      fun _ h => Contract.claimed_asks h.not_internal
    exact (run_leaves (upholds_claimed (hhosts env henv) t True _) patience depth hmeets hw
      hheed).all
  exact ⟨hlast.1, hlast.2 trivial⟩

/-! ## Resolving -/

section
variable (env : Environment) {patience : Patience} {depth : Nat} {t : Template} {c : Context}
  {w : World}

/-- Where the tags are resolved, or count as resolved, there is nothing to do. -/
theorem run_mergeImports_resolved (h : w.isUnresolved t = false) :
    env.run patience depth (t.mergeImports c).run w = .done (.ok ()) w := by
  have hclaim := env.answer_claimImports patience depth t w
  rw [h, if_neg Bool.false_ne_true] at hclaim
  exact env.run_ask_done patience depth hclaim

/-- Else they are claimed and resolved, and given back after a failure. -/
theorem run_mergeImports_unresolved (h : w.isUnresolved t = true) :
    env.run patience depth (t.mergeImports c).run w
      = (env.run patience depth (resultIn (Scope.start t c) (t.mergeEach t.blockImports)).run
          (w.modifyLinks t fun l => { l with claimed := true })).bind fun r after => match r with
        | .ok _ => .done (.ok ()) after
        | .error failure =>
          .done (.error failure) (after.modifyLinks t fun l => { l with claimed := false }) := by
  have hclaim := env.answer_claimImports patience depth t w
  rw [h, if_pos rfl] at hclaim
  refine (env.run_ask_done patience depth hclaim).trans
    ((Program.runWith_tryCatch _ _ _).trans ?_)
  congr 1
  funext r after
  cases r with
  | ok _ => rfl
  | error failure =>
    exact env.run_ask_done patience depth (env.answer_onTheSpot patience depth rfl after)

/-- After a failure they are unresolved again. -/
theorem isUnresolved_of_mergeImports (h : w.isUnresolved t = true) {failure : Failure}
    {after : World}
    (hrun : env.run patience depth (t.mergeImports c).run w = .done (.error failure) after) :
    after.isUnresolved t = true := by
  obtain ⟨himports, -⟩ := World.isUnresolved_iff.mp h
  rw [env.run_mergeImports_unresolved h] at hrun
  cases hinner : env.run patience depth
      (resultIn (Scope.start t c) (t.mergeEach t.blockImports)).run
      (w.modifyLinks t fun l => { l with claimed := true }) with
  | done r mid =>
    rw [hinner] at hrun
    cases r with
    | ok _ => cases hrun
    | error _ =>
      cases hrun
      refine World.isUnresolved_iff.mpr ⟨himports, ?_⟩
      rw [World.linksOf_modifyLinks_self]
  | pending mid | tooDeep =>
    rw [hinner] at hrun
    cases hrun

variable {env} in
/-- While they are resolved, and behind that, they are claimed. -/
theorem claimed_of_mergeImports (henv : env.KeepsAway source) (h : w.isUnresolved t = true)
    {after : World} (hrun : env.run patience depth (t.mergeImports c).run w = .done (.ok ()) after ∨
      env.run patience depth (t.mergeImports c).run w = .pending after) :
    (after.linksOf t).claimed = true := by
  have hclaimed : (w.modifyLinks t fun l => { l with claimed := true }).Claimed t False [] := by
    rw [World.Claimed, World.linksOf_modifyLinks_self]
    exact ⟨rfl, False.elim⟩
  have hmeets : (resultIn (Scope.start t c) (t.mergeEach t.blockImports)).run.Meets
      (.claimed t False) fun _ => True :=
    Rendering.meets_resultIn trivial
      (Template.meets_mergeEach (Contract.claimed_permits t False) (fun _ _ => False.elim) _)
  have hleaves := run_leaves (upholds_claimed henv t False []) patience depth hmeets hclaimed
    fun _ _ => trivial
  rw [env.run_mergeImports_unresolved h] at hrun
  cases hinner : env.run patience depth
      (resultIn (Scope.start t c) (t.mergeEach t.blockImports)).run
      (w.modifyLinks t fun l => { l with claimed := true }) with
  | done r mid =>
    rw [hinner] at hrun hleaves
    cases r with
    | ok _ =>
      rcases hrun with hrun | hrun
      · cases hrun
        exact hleaves.2.1
      · cases hrun
    | error _ => rcases hrun with hrun | hrun <;> cases hrun
  | pending mid =>
    rw [hinner] at hrun hleaves
    rcases hrun with hrun | hrun
    · cases hrun
    · cases hrun
      exact hleaves.1
  | tooDeep =>
    rw [hinner] at hrun
    rcases hrun with hrun | hrun <;> cases hrun

/-- A render that is given up while it resolves the tags leaves what was left there. -/
theorem run_text_pending {after : World}
    (h : env.run patience depth (t.mergeImports c).run w = .pending after) :
    env.run patience depth (t.text c).run w = .pending after := by
  refine (Program.runWith_attempt_bind (t.prepare c) _ w).trans ?_
  have hprepare : (t.prepare c).run.runWith (env.answer patience depth) w = .pending after := by
    refine (Program.runWith_tryCatch _ _ w).trans ?_
    rw [run] at h
    rw [h]
    rfl
  rw [hprepare]
  rfl

/-- A render that cannot resolve the tags fails with that, if it passes failures on. -/
theorem run_text_error (hrethrow : t.options.rethrow = true) {failure : Failure} {after : World}
    (h : env.run patience depth (t.mergeImports c).run w = .done (.error failure) after) :
    env.run patience depth (t.text c).run w
      = .done (.error (failure.inTemplate t.id)) after := by
  refine (Program.runWith_attempt_bind (t.prepare c) _ w).trans ?_
  have hprepare : (t.prepare c).run.runWith (env.answer patience depth) w
      = .done (.error (failure.inTemplate t.id)) after := by
    refine (Program.runWith_tryCatch _ _ w).trans ?_
    rw [run] at h
    rw [h]
    dsimp only [Outcome.bind]
    rw [hrethrow]
    rfl
  rw [hprepare]
  rfl

end

/-- **What resolving `use` tags leaves.**  Let the tags of a template be unresolved.  If a render
fails to resolve them, they are unresolved again, and the next one resolves them anew.  If it has
resolved them, or if it was given up while it was at it, then they count as resolved for all time to
come: whatever templates are compiled, found and rendered later on, the imports of the template stay
what they were at that moment, and no render has anything to resolve. -/
theorem mergeImports_afterwards {hosts : Environment → Prop}
    (hhosts : ∀ env, hosts env → env.KeepsAway source) {env : Environment} (henv : hosts env)
    (patience : Patience) (depth : Nat) (t : Template) (c : Context) {w : World}
    (hunresolved : w.isUnresolved t = true) :
    let outcome := env.run patience depth (t.mergeImports c).run w
    (∀ failure after, outcome = .done (.error failure) after → after.isUnresolved t = true ∧
        (t.options.rethrow = true → env.run patience depth (t.text c).run w
          = .done (.error (failure.inTemplate t.id)) after)) ∧
      (∀ after, outcome = .pending after →
        env.run patience depth (t.text c).run w = .pending after) ∧
      ∀ after, outcome = .done (.ok ()) after ∨ outcome = .pending after →
        ∀ events last, History hosts Order World.links after events last →
          (last.linksOf t).imported = (after.linksOf t).imported ∧
            ∀ (later : Environment) patience depth c,
              later.run patience depth (t.mergeImports c).run last = .done (.ok ()) last := by
  intro outcome
  refine ⟨fun failure after hfailed => ?_, fun after => env.run_text_pending, ?_⟩
  · exact ⟨env.isUnresolved_of_mergeImports hunresolved hfailed,
      fun hrethrow => env.run_text_error hrethrow hfailed⟩
  · intro after hafter events last h
    have hclaimed := claimed_of_mergeImports (hhosts env henv) hunresolved hafter
    obtain ⟨hlast, himported⟩ := imports_afterwards hhosts hclaimed h
    have hresolved : last.isUnresolved t = false := by
      rw [World.isUnresolved, hlast, Bool.not_true, Bool.and_false]
    exact ⟨himported, fun later patience depth c => later.run_mergeImports_resolved hresolved⟩

/-! A template that uses a block of another one, whose source takes its time to arrive. -/

/-- The source of the other template, which is not there at once. -/
def late (locator : String) : Attempt String := do
  Program.request .wait
  Loader.memory [("s", "{% block x %}X{% endblock %}")] locator

/-- The host with that source. -/
def tardy : Environment := { standard { rethrow := true } with loader := some late }

/-- The template that uses the block. -/
def borrowing : Template where
  number := 0
  id := none
  base := none
  nodes := [.logic (.uses [.string "s"] []) [],
    .raw "[", .output [.function "block" (some [.string "x"])], .raw "]"]
  options := { rethrow := true }

theorem keepsAway_tardy : tardy.KeepsAway fun _ _ => True :=
  keepsAway_of_builtins rfl rfl rfl (fun _ _ _ => trivial) fun locator => by
    have hload := Loader.serves_memory (C := .external) [("s", "{% block x %}X{% endblock %}")]
      locator
    exact ⟨id, fun _ _ => hload.mono fun _ _ _ _ => trivial⟩

/-- A render at once has been given up, and a patient one behind it has nothing to resolve. -/
theorem mergeImports_afterwards_borrowing :
    ∃ after last events, tardy.run .immediate 9 (borrowing.mergeImports []).run { next := 1 }
        = .pending after ∧
      History (· = tardy) Order World.links after events last ∧
      (last.linksOf borrowing).imported = [] ∧
      tardy.run .patient 9 (borrowing.mergeImports []).run last = .done (.ok ()) last := by
  obtain ⟨after, hafter, hnone, last, hlast⟩ : ∃ after,
      tardy.run .immediate 9 (borrowing.mergeImports []).run { next := 1 } = .pending after ∧
        (after.linksOf borrowing).imported = [] ∧
        ∃ last, (tardy.run .patient 9 (borrowing.text []).run after).world? = some last :=
    ⟨_, rfl, rfl, _, rfl⟩
  have h : History (· = tardy) Order World.links after
      (tardy.events .patient 9 (borrowing.text []).run after) last := by
    refine .single ?_ (.render borrowing []) hlast
    exact rfl
  have hhosts : ∀ env, env = tardy → env.KeepsAway fun _ _ => True := by
    rintro _ rfl
    exact keepsAway_tardy
  have hunresolved : World.isUnresolved { next := 1 } borrowing = true := rfl
  obtain ⟨-, -, hresolved⟩ :=
    mergeImports_afterwards hhosts rfl .immediate 9 borrowing [] hunresolved
  obtain ⟨himported, hdone⟩ := hresolved after (.inr hafter) _ last h
  exact ⟨after, last, _, hafter, h, himported.trans hnone, hdone tardy .patient 9 []⟩

/-- A patient render finds the block, unless a render at once has been given up before it. -/
theorem text_given_up :
    let render (patience : Patience) (w : World) := tardy.run patience 9 (borrowing.text []).run w
    let start : World := { next := 1 }
    (render .patient start).text? = some "[X]" ∧ (render .immediate start).text? = none ∧
      (render .immediate start).world?.bind (fun after => (render .patient after).text?)
        = some "[]" := by
  decide +kernel

end Environment
end Stencil
