import Stencil.Engine.Builtins
import Stencil.Engine.Host
import Stencil.Proofs.Engine.Traces
import Stencil.Proofs.Inheritance.Chain

/-!
# Parents outlive the render

The template that a template extends is noted on the template itself, where all renders see it, and
nothing takes the note back.  So a template extends, for all that look for a block from there, the
template that any render has made it extend last (`Environment.run_parent`), be it the render that
looks or one before it (`Environment.findBlock_afterwards`).  A render can tell whether another one
came before it: a template that extends another one under a condition finds the blocks of that one
even when the condition no longer holds (`Environment.text_extending_twice`).
-/
namespace Stencil

/-- What a template extends behind the request, given what it extended before. -/
def Request.parentOf (t : Template) (parent : Option Template) : Request → Option Template
  | .setParent u p => if u.number = t.number then some p else parent
  | _ => parent

namespace Environment
variable (env : Environment) (patience : Patience)

/-- To change links otherwise than by a parent leaves the parents. -/
theorem linksOf_modifyLinks_parent (w : World) (u t : Template) (change : Links → Links)
    (h : ∀ l, (change l).parent = l.parent) :
    ((w.modifyLinks u change).linksOf t).parent = (w.linksOf t).parent := by
  rw [World.linksOf_modifyLinks]
  split
  · exact h _
  · rfl

theorem answer_parent (t : Template) {r : Request} {w : World} (he : env.errand? r = none) :
    (env.answer patience 0 r w).All fun after =>
      (after.linksOf t).parent = r.parentOf t (w.linksOf t).parent := by
  cases r with
  | setParent u p =>
    show ((w.modifyLinks u fun l => { l with parent := some p }).linksOf t).parent
      = if u.number = t.number then some p else (w.linksOf t).parent
    rw [World.linksOf_modifyLinks]
    split <;> rfl
  | claimImports u =>
    rw [answer, answerWith]
    split
    · exact linksOf_modifyLinks_parent w u t (fun l => { l with claimed := true }) fun _ => rfl
    · exact (rfl : (w.linksOf t).parent = _)
  | releaseImports u =>
    exact linksOf_modifyLinks_parent w u t (fun l => { l with claimed := false }) fun _ => rfl
  | importBlock u name b =>
    exact linksOf_modifyLinks_parent w u t
      (fun l => { l with imported := l.imported.insert name b }) fun _ => rfl
  | wait => cases patience <;> exact (rfl : (w.linksOf t).parent = _)
  | store u =>
    show ((w.storeTemplate u).linksOf t).parent = (w.linksOf t).parent
    unfold World.storeTemplate
    split <;> rfl
  | writeCache locator tree =>
    rw [answer, answerWith]
    split <;> exact (rfl : (w.linksOf t).parent = _)
  | function name args =>
    have hf : env.functions.find? name = none := Option.map_eq_none_iff.mp he
    rw [answer, answerWith, hf]
    exact (rfl : (w.linksOf t).parent = _)
  | load | filter | test | invoke | findBlock | inheritedBlock | renderBlock | render
  | mergeImports => cases he
  | fresh | note | report | links | stored | cached => exact (rfl : (w.linksOf t).parent = _)

/-- **What a template extends** behind a run is what the last event that says so has made it
extend, and else what it extended before. -/
theorem run_parent (depth : Nat) {α : Type} (p : Program α) (w : World) (t : Template) :
    (env.run patience depth p w).All fun after =>
      (after.linksOf t).parent
        = (env.events patience depth p w).foldl (Request.parentOf t) (w.linksOf t).parent := by
  refine env.run_reads patience (fun w => (w.linksOf t).parent) (Request.parentOf t)
    (fun r w he => env.answer_parent patience t he) (fun r e parent he => ?_) depth p w
  cases r with
  | setParent u p => cases he
  | _ => rfl

/-- **Blocks that an earlier run brings.**  Let a run leave a state in which a template imports no
block of a name.  Whatever runs then looks for the block that the template inherits, or for one that
the template does not define and nothing overrides, looks for it from the template that the earlier
run has made this one extend last. -/
theorem findBlock_afterwards (depth levels : Nat) {α : Type} (p : Program α) (w : World)
    (t : Template) (name : String) :
    let parent := (env.events patience depth p w).foldl (Request.parentOf t) (w.linksOf t).parent
    (env.run patience depth p w).All fun after =>
      (after.linksOf t).imported.find? name = none →
        let above := parent.elim (.done none after) fun parent =>
          env.answer patience levels (.findBlock parent [] name) after
        env.run patience levels (t.inheritedBlock name) after = above ∧
          ∀ overrides : Dict Block, overrides.find? name = none → t.block? name = none →
            env.run patience levels (t.findBlock overrides name) after = above := by
  intro parent
  refine (env.run_parent patience depth p w t).mono fun after hparent himported => ?_
  have hinherited : env.run patience levels (t.inheritedBlock name) after
      = parent.elim (.done none after) fun parent =>
        env.answer patience levels (.findBlock parent [] name) after := by
    rw [Chain.run_inheritedBlock_of himported, hparent]
  refine ⟨hinherited, fun overrides hoverrides hown => ?_⟩
  -- Neither an override nor the template itself comes before the block that is inherited.
  rw [Template.findBlock, hoverrides, hown]
  exact hinherited

/-! A template that extends another one if it is told to, and shows a block of that one in any
case. -/

/-- The template that is extended. -/
def layout : Template where
  number := 1
  id := some "layout"
  base := some "layout"
  nodes := [.logic (.block "b" none) [.raw "B"]]
  options := { rethrow := true }

/-- The template that extends it. -/
def extending : Template where
  number := 0
  id := none
  base := none
  nodes := [.logic (.branch [.variable "child"]) [.logic (.inherits [.string "layout"]) []],
    .raw "(", .output [.function "block" (some [.string "b"])], .raw ")"]
  options := { rethrow := true }

/-- Both have been compiled, and nothing has been rendered. -/
def unrendered : World := { next := 2, store := [("layout", layout)] }

/-- The variables by which the template is told whether to extend the other one. -/
def told (child : Bool) : Context := [("child", .bool child)]

theorem findBlock_afterwards_extending :
    let env := standard { rethrow := true }
    ∃ after,
      env.run .immediate 9 (extending.text (told true)).run unrendered = .done (.ok "B") after ∧
      env.run .immediate 4 (extending.findBlock [] "b") after
        = .done (some ⟨layout, "b", .nodes [.raw "B"]⟩) after := by
  intro env
  obtain ⟨after, hrun, himported⟩ : ∃ after,
      env.run .immediate 9 (extending.text (told true)).run unrendered = .done (.ok "B") after ∧
        (after.linksOf extending).imported.find? "b" = none := ⟨_, rfl, rfl⟩
  have hafter := env.findBlock_afterwards .immediate 9 4 (extending.text (told true)).run unrendered
    extending "b"
  dsimp only at hafter
  rw [hrun] at hafter
  exact ⟨after, hrun, (hafter himported).2 [] rfl rfl⟩

/-- Rendered alone, the template does not find the block.  Rendered after a render that has extended
the other template, it does. -/
theorem text_extending_twice :
    let env := standard { rethrow := true }
    let render (child : Bool) (w : World) :=
      env.run .immediate 9 (extending.text (told child)).run w
    (∃ last, render false unrendered = .done (.ok "()") last) ∧
      ∃ after, render true unrendered = .done (.ok "B") after ∧
        ∃ last, render false after = .done (.ok "(B)") last :=
  ⟨⟨_, rfl⟩, _, rfl, _, rfl⟩

end Environment
end Stencil
