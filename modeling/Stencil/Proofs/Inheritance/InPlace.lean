import Stencil.Proofs.Inheritance.Chain

/-!
# Blocks in place

The reference for what a chain of templates renders: whoever asks for a block of a name gets the
block that the name stands for in the chain, whoever asks what a block overrides gets the next
definition above, and neither overrides nor links are looked at (`Chain.answer`).  Everything else
is answered as always; what a macro, a function written in a template or an included template asks
for is its own affair.

A rendering that starts in a template of the chain, that extends nothing and carries the blocks from
below, stays so (`Chain.inPlace`).  Then the look-ups of the engine are those of the reference
(`Chain.Linked.answer_agrees`).
-/
namespace Stencil.Chain
variable (chain : Chain)

/-! ## The reference -/

section
variable (env : Environment) (patience : Patience)

/-- Answer a request with the blocks of the chain in place. -/
def answerInPlace (depth : Nat) (deeper : Runner) : (r : Request) → World → Outcome r.Answer
  | .findBlock _ _ name, w => .done (chain.block? name) w
  | .inheritedBlock t name, w => .done (chain.blockAbove? t name) w
  | .renderBlock b scope, w => deeper (b.render scope) w
  | r, w => env.answer patience depth r w

/-- Answer a request with the blocks of the chain in place, those inside other blocks included. -/
def answer : (depth : Nat) → (r : Request) → World → Outcome r.Answer
  | 0 => chain.answerInPlace env patience 0 fun _ _ => .tooDeep
  | depth + 1 =>
    chain.answerInPlace env patience (depth + 1) fun p w => p.runWith (answer depth) w

theorem answer_plain {r : Request} (h : r.Plain) (depth : Nat) (w : World) :
    chain.answer env patience depth r w = env.answer patience depth r w := by
  cases depth with
  | zero =>
    cases r with
    | findBlock | inheritedBlock | renderBlock => exact False.elim h
    | _ => rfl
  | succ depth =>
    cases r with
    | findBlock | inheritedBlock | renderBlock => exact False.elim h
    | _ => rfl

end

/-! ## Where blocks are rendered -/

/-- The scope belongs to a template of the chain or to one of its blocks, and nothing is extended
from it. -/
structure Renders (overrides : Dict Block) (scope : Scope) : Prop where
  template : scope.template ∈ chain.templates
  parent : scope.parent = none
  overrides : scope.overrides = overrides

/-- The contract of renderings in such scopes: they look blocks up from there, and are given blocks
of the chain. -/
def inPlace (overrides : Dict Block) : Contract where
  asks
    | .findBlock t given _ => t ∈ chain.templates ∧ given = overrides
    | .inheritedBlock t _ => t ∈ chain.templates
    | .renderBlock b scope => chain.Defines b ∧ chain.Renders overrides scope
    | _ => True
  answers
    | .findBlock .., found | .inheritedBlock .., found => ∀ b, found = some b → chain.Defines b
    | .renderBlock .., r => r.parent = none
    | _, _ => True
  scopes := chain.Renders overrides

variable {chain} {overrides : Dict Block}

theorem inPlace_asks {r : Request} (h : r.Ordinary) : (chain.inPlace overrides).asks r := by
  cases r with
  | findBlock | inheritedBlock | renderBlock => exact False.elim h
  | _ => trivial

theorem inPlace_permits : (chain.inPlace overrides).Permits True False where
  storeless _ h := inPlace_asks h.ordinary
  resolve := Template.meets_resolve (fun _ h => inPlace_asks h.ordinary) fun _ _ => trivial
  claim _ := trivial
  merge _ _ := ⟨trivial, fun _ _ => trivial⟩
  context _ _ h := ⟨h.template, h.parent, h.overrides⟩
  autoescape _ _ h := ⟨h.template, h.parent, h.overrides⟩
  find _ _ h _ := ⟨h.template, h.overrides⟩
  found _ _ b h _ hfound := ⟨hfound b rfl, h⟩
  above _ _ _ h _ _ := h.template
  foundAbove _ _ _ b h _ _ hfound := ⟨hfound b rfl, h⟩
  after _ _ _ h _ hr := ⟨h.template, hr, h.overrides⟩
  inherit _ _ h _ := False.elim h

/-- A block of the chain extends nothing. -/
theorem meets_render {b : Block} (hb : chain.Defines b) {scope : Scope}
    (hscope : chain.Renders overrides scope) :
    (b.render scope).Meets (chain.inPlace overrides) fun r => r.parent = none := by
  have hwithin := hb.within
  have hbody : Rendering.Meets (chain.inPlace overrides) b.renderBody := by
    refine Block.meets_renderBody inPlace_permits ?_
    cases hcontent : b.body with
    | nodes content =>
      rw [hcontent] at hwithin
      exact hwithin
    | expression e =>
      rw [hcontent] at hwithin
      exact hwithin
  have hinner : (chain.inPlace overrides).scopes
      { scope with template := b.template, nesting := b.name :: scope.nesting } :=
    ⟨hb.template_mem, hscope.parent, hscope.overrides⟩
  refine (hbody _ hinner).bind ?_
  rintro ⟨r, after⟩ hafter
  exact hafter.parent

/-! ## The engine and the reference -/

variable {env : Environment} {patience : Patience}

section
variable (hoverrides : ∀ name, overrides.find? name = firstOf chain.below name)
include hoverrides

/-- However few levels it took, a look-up found what there is in the chain. -/
theorem Linked.found_findBlock {t : Template} (ht : t ∈ chain.templates) {name : String}
    {depth : Nat} {w after : World} (hw : chain.Linked chain.below w) {found : Option Block}
    (ha : env.answer patience depth (.findBlock t overrides name) w = .done found after) :
    found = chain.block? name := by
  have hdeeper := env.answer_deeper patience (Nat.le_add_right depth (chain.below.length + 1))
    (.findBlock t overrides name) w
  rw [ha, hw.answer_findBlock ht hoverrides name (by omega)] at hdeeper
  cases hdeeper.done
  rfl

omit hoverrides in
theorem Linked.found_inheritedBlock {t : Template} (ht : t ∈ chain.templates) {name : String}
    {depth : Nat} {w after : World} (hw : chain.Linked chain.below w) {found : Option Block}
    (ha : env.answer patience depth (.inheritedBlock t name) w = .done found after) :
    found = chain.blockAbove? t name := by
  have hdeeper := env.answer_deeper patience (Nat.le_add_right depth (chain.below.length + 1))
    (.inheritedBlock t name) w
  rw [ha, hw.answer_inheritedBlock ht name (by omega)] at hdeeper
  cases hdeeper.done
  rfl

/-- What the engine answers keeps the contract and the links. -/
theorem Linked.answers_inPlace (depth : Nat) {r : Request} {w : World}
    (hasks : (chain.inPlace overrides).asks r) (hw : chain.Linked chain.below w)
    (hspares : chain.SparesWithin env patience depth r w) {a : r.Answer} {after : World}
    (ha : env.answer patience depth r w = .done a after) :
    (chain.inPlace overrides).answers r a ∧ chain.Linked chain.below after := by
  refine ⟨?_, hw.answer hspares.1 hspares.2 ha⟩
  cases r with
  | findBlock t given name =>
    obtain ⟨ht, rfl⟩ := hasks
    intro b hb
    rw [hw.found_findBlock hoverrides ht ha] at hb
    exact chain.defines_of_firstOf (fun _ hu => hu) hb
  | inheritedBlock t name =>
    intro b hb
    rw [hw.found_inheritedBlock hasks ha] at hb
    exact chain.defines_of_firstOf (fun _ hu => mem_of_mem_behind hu) hb
  | renderBlock b scope =>
    cases depth with
    | zero =>
      rw [env.answer_errand_zero patience rfl] at ha
      cases ha
    | succ depth =>
      have hinside := hspares.2
      rw [env.inside_errand patience depth rfl] at hinside
      rw [env.answer_errand_succ patience depth rfl] at ha
      obtain ⟨result, hrun, rfl⟩ := Outcome.map_eq_done ha
      have halong := env.along_of_events patience hinside
      have hstep := (meets_render hasks.1 hasks.2).along hw halong
        fun r w hasks hw hspares a after ha => Linked.answers_inPlace depth hasks hw hspares ha
      exact (hstep.2 result after hrun).1
  | _ => trivial
termination_by depth

/-- So the way of a block that is rendered is within the contract. -/
theorem Linked.along_renderBlock {b : Block} {scope : Scope} {levels : Nat} {w : World}
    (hasks : (chain.inPlace overrides).asks (.renderBlock b scope))
    (hw : chain.Linked chain.below w)
    (hspares : chain.SparesWithin env patience (levels + 1) (.renderBlock b scope) w) :
    (b.render scope).Along (env.answer patience levels) (fun r w =>
      (chain.inPlace overrides).asks r ∧ chain.Linked chain.below w ∧
        chain.SparesWithin env patience levels r w) w := by
  have hinside := hspares.2
  rw [env.inside_errand patience levels rfl] at hinside
  have halong := env.along_of_events patience hinside
  have hstep := (meets_render hasks.1 hasks.2).along hw halong
    fun r w hasks hw hspares a after ha => hw.answers_inPlace hoverrides levels hasks hspares ha
  exact hstep.1

/-- **The engine answers as the reference does**, if it has some more levels: as many as the chain
has templates, for looking up along the links. -/
theorem Linked.answer_agrees (depth : Nat) {levels : Nat}
    (hdepth : depth + chain.below.length < levels) {r : Request} {w : World}
    (hasks : (chain.inPlace overrides).asks r) (hw : chain.Linked chain.below w)
    (hspares : chain.SparesWithin env patience levels r w) :
    (env.answer patience levels r w).Agrees (chain.answer env patience depth r w) := by
  have hplain := env.answer_deeper patience (show depth ≤ levels by omega) r w
  cases r with
  | findBlock t given name =>
    obtain ⟨ht, rfl⟩ := hasks
    rw [hw.answer_findBlock ht hoverrides name (by omega)]
    cases depth <;> exact .refl _
  | inheritedBlock t name =>
    rw [hw.answer_inheritedBlock hasks name (by omega)]
    cases depth <;> exact .refl _
  | renderBlock b scope =>
    obtain ⟨levels, rfl⟩ := Nat.exists_eq_add_one_of_ne_zero (Nat.ne_zero_of_lt hdepth)
    cases depth with
    | zero => exact fun hdeep => absurd rfl hdeep
    | succ depth =>
      have hagrees := Program.runWith_agrees (.inl (hw.along_renderBlock hoverrides hasks hspares))
        fun r w hok => Linked.answer_agrees depth (by omega) hok.1 hok.2.1 hok.2.2
      rw [env.answer_errand_succ patience levels rfl]
      show ((env.run patience levels (b.render scope) w).map id).Agrees _
      rw [Outcome.map_id]
      exact hagrees
  | _ => cases depth <;> exact hplain
termination_by depth

/-- **The reference answers as the engine does**, if it has no fewer levels. -/
theorem Linked.reference_agrees (depth : Nat) {levels : Nat} (hdepth : levels ≤ depth)
    {r : Request} {w : World} (hasks : (chain.inPlace overrides).asks r)
    (hw : chain.Linked chain.below w) (hspares : chain.SparesWithin env patience levels r w) :
    (chain.answer env patience depth r w).Agrees (env.answer patience levels r w) := by
  have hplain := env.answer_deeper patience hdepth r w
  have hmore := env.answer_deeper patience (Nat.le_add_right levels (chain.below.length + 1)) r w
  cases r with
  | findBlock t given name =>
    obtain ⟨ht, rfl⟩ := hasks
    rw [hw.answer_findBlock ht hoverrides name (by omega)] at hmore
    cases depth <;> exact hmore
  | inheritedBlock t name =>
    rw [hw.answer_inheritedBlock hasks name (by omega)] at hmore
    cases depth <;> exact hmore
  | renderBlock b scope =>
    cases levels with
    | zero =>
      rw [env.answer_errand_zero patience rfl]
      exact fun hdeep => absurd rfl hdeep
    | succ levels =>
      obtain ⟨depth, rfl⟩ := Nat.exists_eq_add_one_of_ne_zero (Nat.ne_zero_of_lt hdepth)
      have hagrees := Program.runWith_agrees (.inr (hw.along_renderBlock hoverrides hasks hspares))
        fun r w hok => Linked.reference_agrees depth (by omega) hok.1 hok.2.1 hok.2.2
      rw [env.answer_errand_succ patience levels rfl]
      show Outcome.Agrees _ ((env.run patience levels (b.render scope) w).map id)
      rw [Outcome.map_id]
      exact hagrees
  | _ => cases depth <;> exact hplain
termination_by depth

end

end Stencil.Chain
