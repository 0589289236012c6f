import Stencil.Proofs.Dict
import Stencil.Proofs.Engine.Depth
import Stencil.Proofs.Render.NodeConduct

/-!
# Chains of templates

In a chain every template but the last starts by extending the next one.  Which block a name stands
for is read off the chain alone: the first template that defines the block has it (`Chain.block?`),
and what it overrides is defined further up (`Chain.blockAbove?`).

The links that renders leave behind agree with a chain (`Chain.Linked`) as long as nothing on the
way makes a template of the chain extend another one or imports blocks into it (`Chain.Spares`).
Then looking a block up along the links comes to the same (`Chain.answer_findBlock`,
`Chain.answer_inheritedBlock`).
-/
namespace Stencil

/-! ## What a template defines -/

/-- What the block renders asks for blocks only if `calls` holds, and extends a template only if
`inherits` does. -/
def BlockBody.Within (calls inherits : Prop) : BlockBody → Prop
  | .nodes content => Node.allWithin calls inherits content
  | .expression e => Expr.tokensWithin calls e

namespace Template

/-- The block definitions of the template, in the order of the text and each before those inside it.
The insides of macros and of embedded templates are left out. -/
def blockDefinitions (t : Template) : List (String × BlockBody) :=
  t.definingNodes.filterMap Node.block?

/-- The first block of a name that the template defines. -/
def firstBlock? (t : Template) (name : String) : Option Block :=
  (t.blockDefinitions.find? fun definition => definition.1 = name).map fun definition =>
    ⟨t, name, definition.2⟩

/-- The template that the text names at its very start as the one that it extends. -/
def extended? (t : Template) : Option String :=
  match t.nodes with
  | .logic (.inherits [.string name]) _ :: _ => some name
  | _ => none

theorem block?_eq_firstBlock? (t : Template) (name : String) :
    t.block? name = t.firstBlock? name := by
  have hfind (definitions : List (String × BlockBody)) :
      (Dict.find? definitions name).map (Block.mk t name)
      = (definitions.find? fun definition => definition.1 = name).map fun definition =>
        (⟨t, name, definition.2⟩ : Block) := by
    induction definitions with
    | nil => rfl
    | cons definition rest ih =>
      rw [Dict.find?, List.find?_cons]
      by_cases hname : definition.1 = name
      · rw [if_pos hname, decide_eq_true hname]
        rfl
      · rw [if_neg hname, decide_eq_false hname]
        exact ih
  rw [block?, blocks, Dict.find?_ofFirst]
  exact hfind t.blockDefinitions

theorem find?_definedBlocks (t : Template) (name : String) :
    t.definedBlocks.find? name = t.firstBlock? name := by
  rw [← block?_eq_firstBlock?, block?, definedBlocks]
  induction t.blocks with
  | nil => rfl
  | cons entry rest ih =>
    rw [List.map_cons, Dict.find?, Dict.find?, ih]
    split
    · next heq => rw [heq, Option.map_some]
    · rfl

theorem distinct_definedBlocks (t : Template) : t.definedBlocks.Distinct := by
  have hkeys : t.definedBlocks.keys = t.blocks.keys := by
    rw [Dict.keys, Dict.keys, definedBlocks, List.map_map]
    rfl
  rw [Dict.Distinct, hkeys]
  exact Dict.distinct_ofFirst t.blockDefinitions

theorem nodes_of_extended? {t : Template} {name : String} (h : t.extended? = some name) :
    ∃ nodes, t.nodes = .logic (.inherits [.string name]) nodes :: t.nodes.tail := by
  unfold extended? at h
  split at h
  · next name' nodes rest hnodes =>
    obtain rfl := Option.some.inj h
    exact ⟨nodes, by rw [hnodes, List.tail_cons]⟩
  · cases h

/-- What a template without imports gives on are its own blocks, but for those that were given to
it. -/
theorem find?_offeredBlocks (t : Template) {links : Links} (hlinks : links.imported = [])
    {overrides : Dict Block} (hoverrides : overrides.Distinct) (name : String) :
    (t.offeredBlocks links overrides).find? name
      = (overrides.find? name).or (t.firstBlock? name) := by
  rw [offeredBlocks, Dict.find?_merge hoverrides, Dict.find?_merge t.distinct_definedBlocks, hlinks,
    find?_definedBlocks, Dict.find?, Option.or_none]

theorem distinct_offeredBlocks (t : Template) {links : Links} (hlinks : links.imported = [])
    (overrides : Dict Block) : (t.offeredBlocks links overrides).Distinct := by
  rw [offeredBlocks, hlinks]
  exact (Dict.distinct_nil.merge _).merge _

end Template

/-! ## Chains -/

/-- A chain of templates. -/
structure Chain where
  /-- Those that extend another, from the one that is rendered. -/
  below : List Template
  /-- The one that extends nothing. -/
  root : Template
  distinct : ((below ++ [root]).map Template.number).Nodup
  /-- There are no `use` tags. -/
  noImports : ∀ t ∈ below ++ [root], t.blockImports = []
  extending : ∀ t ∈ below, t.extended?.isSome
  /-- Behind its start, a template that extends another extends no more and asks for no block. -/
  below_within : ∀ t ∈ below, Node.allWithin False False t.nodes.tail
  root_within : Node.allWithin True False root.nodes
  blocks_within : ∀ t ∈ below ++ [root], ∀ definition ∈ t.blockDefinitions,
    definition.2.Within True False

namespace Chain
variable (chain : Chain)

/-- All templates of the chain. -/
def templates : List Template := chain.below ++ [chain.root]

/-- The templates behind another in a list. -/
def behind : List Template → Template → List Template
  | [], _ => []
  | u :: rest, t => if u.number = t.number then rest else behind rest t

/-- The templates of the chain that another one extends. -/
def above (t : Template) : List Template := behind chain.templates t

/-- The block of a name in the first of some templates that defines it. -/
def firstOf (ts : List Template) (name : String) : Option Block :=
  ts.findSome? fun t => t.firstBlock? name

/-- The block that a name stands for. -/
def block? (name : String) : Option Block := firstOf chain.templates name

/-- The block that the template's block of a name overrides. -/
def blockAbove? (t : Template) (name : String) : Option Block := firstOf (chain.above t) name

/-- The block is one of the chain. -/
def Defines (b : Block) : Prop := ∃ t ∈ chain.templates, t.firstBlock? b.name = some b

theorem defines_of_firstOf {ts : List Template} (hts : ∀ t ∈ ts, t ∈ chain.templates)
    {name : String} {b : Block} (h : firstOf ts name = some b) : chain.Defines b := by
  obtain ⟨t, ht, hb⟩ := List.exists_of_findSome?_eq_some h
  have hname : b.name = name := by
    obtain ⟨definition, -, rfl⟩ := Option.map_eq_some_iff.mp hb
    rfl
  exact ⟨t, hts t ht, hname ▸ hb⟩

theorem Defines.template_mem {chain : Chain} {b : Block} (h : chain.Defines b) :
    b.template ∈ chain.templates := by
  obtain ⟨t, ht, hb⟩ := h
  obtain ⟨definition, -, heq⟩ := Option.map_eq_some_iff.mp hb
  rw [← heq]
  exact ht

theorem Defines.within {chain : Chain} {b : Block} (h : chain.Defines b) :
    b.body.Within True False := by
  obtain ⟨t, ht, hb⟩ := h
  obtain ⟨definition, hdefinition, heq⟩ := Option.map_eq_some_iff.mp hb
  rw [← heq]
  exact chain.blocks_within t ht definition (List.mem_of_find?_eq_some hdefinition)

theorem behind_append {done rest : List Template} {t : Template}
    (h : ((done ++ t :: rest).map Template.number).Nodup) :
    behind (done ++ t :: rest) t = rest := by
  induction done with
  | nil => exact if_pos rfl
  | cons u done ih =>
    rw [List.cons_append, List.map_cons, List.nodup_cons] at h
    have hne : u.number ≠ t.number := by
      intro heq
      exact h.1 (heq ▸ List.mem_map_of_mem (List.mem_append_right done List.mem_cons_self))
    rw [List.cons_append, behind, if_neg hne]
    exact ih h.2

theorem mem_of_mem_behind {ts : List Template} {t u : Template} (h : u ∈ behind ts t) : u ∈ ts := by
  induction ts with
  | nil => exact h
  | cons v rest ih =>
    rw [behind] at h
    split at h
    · exact List.mem_cons_of_mem v h
    · exact List.mem_cons_of_mem v (ih h)

theorem above_eq {done rest : List Template} {t : Template}
    (h : chain.templates = done ++ t :: rest) : chain.above t = rest := by
  rw [above, h]
  refine behind_append ?_
  rw [← h]
  exact chain.distinct

end Chain

/-! ## Links -/

namespace World

theorem lookup_cons (n : Nat) (l : Links) (rest : List (Nat × Links)) (number : Nat) :
    List.lookup number ((n, l) :: rest) = if n = number then some l else rest.lookup number := by
  rw [List.lookup_cons]
  by_cases h : n = number
  · subst h
    simp
  · rw [if_neg h, beq_false_of_ne (Ne.symm h)]

theorem lookup_replaceLinks (links : List (Nat × Links)) (number other : Nat) (l : Links) :
    (replaceLinks number l links).lookup other
      = if number = other then some l else links.lookup other := by
  induction links with
  | nil => exact lookup_cons number l [] other
  | cons entry rest ih =>
    obtain ⟨n, old⟩ := entry
    rw [replaceLinks]
    by_cases hn : n = number
    · subst hn
      rw [if_pos rfl, lookup_cons, lookup_cons]
      by_cases h : n = other
      · rw [if_pos h, if_pos h]
      · rw [if_neg h, if_neg h, if_neg h]
    · rw [if_neg hn, lookup_cons, lookup_cons, ih]
      by_cases h : n = other
      · subst h
        rw [if_pos rfl, if_pos rfl, if_neg (Ne.symm hn)]
      · rw [if_neg h, if_neg h]

theorem linksOf_congr {w after : World} (h : after.links = w.links) (t : Template) :
    after.linksOf t = w.linksOf t := by rw [linksOf, linksOf, h]

/-- Templates of one number share their links. -/
theorem linksOf_of_number (w : World) {t u : Template} (h : t.number = u.number) :
    w.linksOf t = w.linksOf u := by rw [linksOf, linksOf, h]

theorem linksOf_modifyLinks (w : World) (t u : Template) (f : Links → Links) :
    (w.modifyLinks t f).linksOf u
      = if t.number = u.number then f (w.linksOf u) else w.linksOf u := by
  rw [linksOf, modifyLinks, lookup_replaceLinks]
  by_cases h : t.number = u.number
  · rw [if_pos h, if_pos h, Option.getD_some, w.linksOf_of_number h]
  · rw [if_neg h, if_neg h, linksOf]

theorem linksOf_modifyLinks_self (w : World) (t : Template) (f : Links → Links) :
    (w.modifyLinks t f).linksOf t = f (w.linksOf t) :=
  (w.linksOf_modifyLinks t t f).trans (if_pos rfl)

theorem linksOf_modifyLinks_of_ne (w : World) {t u : Template} (h : t.number ≠ u.number)
    (f : Links → Links) : (w.modifyLinks t f).linksOf u = w.linksOf u :=
  (w.linksOf_modifyLinks t u f).trans (if_neg h)

end World

namespace Chain
variable (chain : Chain)

/-- The request leaves the chain as it is: it does not make a template of the chain extend another
one than in the chain, nor import a block. -/
def Spares : Request → Prop
  | .setParent t parent =>
    (∃ u ∈ chain.templates, u.number = t.number) → (chain.above t).head? = some parent
  | .importBlock t _ _ => ∀ u ∈ chain.templates, u.number ≠ t.number
  | _ => True

/-- The links of the templates of the chain are as in the chain, as far as there are any. Those of
the templates in `done` are there. -/
structure Linked (done : List Template) (w : World) : Prop where
  noImports : ∀ t ∈ chain.templates, (w.linksOf t).imported = []
  parent : ∀ t ∈ chain.templates, ∀ p, (w.linksOf t).parent = some p →
    (chain.above t).head? = some p
  done : ∀ t ∈ done, (w.linksOf t).parent.isSome

variable {chain} {done : List Template} {w : World}

theorem Linked.of_links (h : chain.Linked done w) {after : World} (hlinks : after.links = w.links) :
    chain.Linked done after := by
  have hof (t : Template) : after.linksOf t = w.linksOf t := World.linksOf_congr hlinks t
  refine ⟨fun t ht => ?_, fun t ht p hp => ?_, fun t ht => ?_⟩
  · rw [hof]
    exact h.noImports t ht
  · rw [hof] at hp
    exact h.parent t ht p hp
  · rw [hof]
    exact h.done t ht

/-- Only what a change makes of imports and parents matters. -/
theorem Linked.modify (h : chain.Linked done w) {t : Template} {f : Links → Links}
    (himported : ∀ u ∈ chain.templates, t.number = u.number → (f (w.linksOf u)).imported = [])
    (hparent : ∀ u ∈ chain.templates, t.number = u.number → ∀ p,
      (f (w.linksOf u)).parent = some p → (chain.above u).head? = some p)
    (hsome : ∀ l, l.parent.isSome → (f l).parent.isSome) :
    chain.Linked done (w.modifyLinks t f) := by
  refine ⟨fun u hu => ?_, fun u hu p hp => ?_, fun u hu => ?_⟩
  · rw [World.linksOf_modifyLinks]
    split
    · next heq => exact himported u hu heq
    · exact h.noImports u hu
  · rw [World.linksOf_modifyLinks] at hp
    split at hp
    · next heq => exact hparent u hu heq p hp
    · exact h.parent u hu p hp
  · rw [World.linksOf_modifyLinks]
    split
    · exact hsome _ (h.done u hu)
    · exact h.done u hu

theorem behind_congr {ts : List Template} {t u : Template} (h : t.number = u.number) :
    behind ts t = behind ts u := by
  induction ts with
  | nil => rfl
  | cons v rest ih => rw [behind, behind, h, ih]

theorem above_congr {t u : Template} (h : t.number = u.number) : chain.above t = chain.above u :=
  behind_congr h

theorem Linked.setParent (h : chain.Linked done w) {t parent : Template}
    (hspares : chain.Spares (.setParent t parent)) :
    chain.Linked done (w.modifyLinks t fun l => { l with parent := some parent }) := by
  refine h.modify (fun u hu _ => h.noImports u hu) (fun u hu heq p hp => ?_) fun _ _ => rfl
  obtain rfl := Option.some.inj hp
  rw [← above_congr heq]
  exact hspares ⟨u, hu, heq.symm⟩

theorem Linked.importBlock (h : chain.Linked done w) {t : Template} {name : String} {b : Block}
    (hspares : chain.Spares (.importBlock t name b)) :
    chain.Linked done
      (w.modifyLinks t fun l => { l with imported := l.imported.insert name b }) :=
  h.modify (fun u hu heq => absurd heq.symm (hspares u hu))
    (fun u hu heq => absurd heq.symm (hspares u hu)) fun _ hl => hl

theorem Linked.setClaimed (h : chain.Linked done w) (t : Template) (claimed : Bool) :
    chain.Linked done (w.modifyLinks t fun l => { l with claimed }) :=
  h.modify (fun u hu _ => h.noImports u hu) (fun u hu _ => h.parent u hu) fun _ hl => hl

theorem Linked.push (h : chain.Linked done w) {t : Template}
    (hparent : (w.linksOf t).parent.isSome) : chain.Linked (done ++ [t]) w := by
  refine ⟨h.noImports, h.parent, fun u hu => ?_⟩
  rcases List.mem_append.mp hu with hu | hu
  · exact h.done u hu
  · rw [List.mem_singleton.mp hu]
    exact hparent

variable {env : Environment} {patience : Patience} {depth : Nat}

/-- A request that is answered on the spot and spares the chain keeps the links. -/
theorem Linked.answer_onTheSpot (h : chain.Linked done w) {r : Request}
    (hspot : env.errand? r = none) (hspares : chain.Spares r) {a : r.Answer} {after : World}
    (ha : env.answer patience depth r w = .done a after) : chain.Linked done after := by
  rw [env.answer_onTheSpot patience depth hspot, Environment.answer] at ha
  cases r with
  | load | filter | test | invoke | findBlock | inheritedBlock | renderBlock | render
  | mergeImports => cases hspot
  | function name args =>
    rw [Environment.answerWith, Option.map_eq_none_iff.mp hspot] at ha
    cases ha
    exact h
  | wait =>
    cases patience with
    | immediate => cases ha
    | patient =>
      cases ha
      exact h.of_links rfl
  | setParent t parent =>
    cases ha
    exact h.setParent hspares
  | importBlock t name b =>
    cases ha
    exact h.importBlock hspares
  | claimImports t =>
    rw [Environment.answerWith] at ha
    split at ha
    · cases ha
      exact h.setClaimed t true
    · cases ha
      exact h
  | releaseImports t =>
    cases ha
    exact h.setClaimed t false
  | store t =>
    cases ha
    refine h.of_links ?_
    rw [World.storeTemplate]
    split
    · rfl
    · rfl
  | writeCache locator tree =>
    rw [Environment.answerWith] at ha
    split at ha
    · cases ha
      exact h.of_links rfl
    · cases ha
      exact h
  | _ =>
    cases ha
    exact h.of_links rfl

/-- So does any request whose events spare the chain. -/
theorem Linked.answer (h : chain.Linked done w) {r : Request} (hspares : chain.Spares r)
    (hinside : ∀ r' ∈ env.inside patience depth r w, chain.Spares r') {a : r.Answer}
    {after : World} (ha : env.answer patience depth r w = .done a after) :
    chain.Linked done after := by
  induction depth generalizing r w after with
  | zero =>
    cases he : env.errand? r with
    | none => exact h.answer_onTheSpot he hspares ha
    | some e =>
      rw [env.answer_errand_zero patience he] at ha
      cases ha
  | succ depth ih =>
    cases he : env.errand? r with
    | none => exact h.answer_onTheSpot he hspares ha
    | some e =>
      rw [env.inside_errand patience depth he] at hinside
      rw [env.answer_errand_succ patience depth he] at ha
      obtain ⟨x, hrun, -⟩ := Outcome.map_eq_done ha
      have hstep := (Program.meets_any e.program).along h (env.along_of_events patience hinside)
        fun r w _ hw hok a after ha => ⟨trivial, ih hw hok.1 hok.2 ha⟩
      exact (hstep.2 x after hrun).2

/-- The request and all that happens inside its answer spare the chain. -/
def SparesWithin (chain : Chain) (env : Environment) (patience : Patience) (depth : Nat)
    (r : Request) (w : World) : Prop :=
  chain.Spares r ∧ ∀ r' ∈ env.inside patience depth r w, chain.Spares r'

/-- A run on whose way all spares the chain keeps the links. -/
theorem Linked.run (h : chain.Linked done w) {α : Type} {p : Program α}
    (hspares : p.Along (env.answer patience depth) (chain.SparesWithin env patience depth) w)
    {a : α} {after : World} (hrun : env.run patience depth p w = .done a after) :
    chain.Linked done after := by
  have hstep := (Program.meets_any p).along h hspares
    fun r w _ hw hok a after ha => ⟨trivial, hw.answer hok.1 hok.2 ha⟩
  exact (hstep.2 a after hrun).2

/-! ## Looking blocks up -/

theorem firstOf_cons (t : Template) (rest : List Template) (name : String) :
    firstOf (t :: rest) name = (t.firstBlock? name).or (firstOf rest name) := by
  rw [firstOf, List.findSome?_cons]
  cases t.firstBlock? name with
  | some b => rfl
  | none => rfl

theorem firstOf_append (ts us : List Template) (name : String) :
    firstOf (ts ++ us) name = (firstOf ts name).or (firstOf us name) := List.findSome?_append

theorem below_eq : chain.below = chain.templates.dropLast := List.dropLast_concat.symm

theorem mem_below_of_front {front rest : List Template} {t u : Template}
    (h : chain.templates = front ++ t :: rest) (hu : u ∈ front) : u ∈ chain.below := by
  rw [below_eq, h, List.dropLast_append_of_ne_nil (List.cons_ne_nil t rest)]
  exact List.mem_append_left _ hu

theorem mem_below_of_rest {front rest : List Template} {t u : Template}
    (h : chain.templates = front ++ t :: u :: rest) : t ∈ chain.below := by
  rw [List.append_cons] at h
  exact mem_below_of_front h (List.mem_append_right front (List.mem_singleton.mpr rfl))

theorem Linked.parent_eq (h : chain.Linked chain.below w) {front rest : List Template}
    {t : Template} (htemplates : chain.templates = front ++ t :: rest) :
    (w.linksOf t).parent = rest.head? := by
  have ht : t ∈ chain.templates := by simp [htemplates]
  cases hp : (w.linksOf t).parent with
  | some p =>
    rw [← chain.above_eq htemplates]
    exact (h.parent t ht p hp).symm
  | none =>
    cases rest with
    | nil => rfl
    | cons u rest =>
      have hsome := h.done t (mem_below_of_rest htemplates)
      rw [hp] at hsome
      cases hsome

theorem run_findBlock_of {t : Template} {name : String} {found : Option Block}
    (h : env.run patience depth (t.inheritedBlock name) w = .done found w)
    (overrides : Dict Block) :
    env.run patience depth (t.findBlock overrides name) w
      = .done ((overrides.find? name).or ((t.firstBlock? name).or found)) w := by
  rw [Template.findBlock, t.block?_eq_firstBlock?]
  cases overrides.find? name with
  | some b => rfl
  | none =>
    cases t.firstBlock? name with
    | some b => rfl
    | none => exact h

/-- The links of the template say whether the block is an imported one or the parent's. -/
theorem run_inheritedBlock_links (t : Template) (name : String) :
    env.run patience depth (t.inheritedBlock name) w
      = ((w.linksOf t).imported.find? name).elim
        ((w.linksOf t).parent.elim (.done none w) fun parent =>
          env.answer patience depth (.findBlock parent [] name) w)
        fun b => .done (some b) w := by
  refine (env.run_ask_done patience depth (env.answer_links patience depth t w)).trans ?_
  dsimp only [Program.bind]
  cases (w.linksOf t).imported.find? name with
  | some b => rfl
  | none =>
    cases (w.linksOf t).parent with
    | none => rfl
    | some parent => exact env.run_request patience depth (.findBlock parent [] name) w

theorem run_inheritedBlock_of {t : Template} {name : String}
    (himported : (w.linksOf t).imported.find? name = none) :
    env.run patience depth (t.inheritedBlock name) w
      = (w.linksOf t).parent.elim (.done none w) fun parent =>
        env.answer patience depth (.findBlock parent [] name) w := by
  rw [run_inheritedBlock_links, himported]
  rfl

/-- Along complete links the templates above are searched in order. -/
theorem Linked.run_inheritedBlock (h : chain.Linked chain.below w) {front rest : List Template}
    {t : Template} (htemplates : chain.templates = front ++ t :: rest) (name : String)
    (hdepth : rest.length ≤ depth) :
    env.run patience depth (t.inheritedBlock name) w = .done (firstOf rest name) w := by
  induction rest generalizing front t depth with
  | nil =>
    have himported := h.noImports t (by simp [htemplates])
    rw [run_inheritedBlock_of (himported ▸ rfl), h.parent_eq htemplates]
    rfl
  | cons u rest ih =>
    have himported := h.noImports t (by simp [htemplates])
    rw [run_inheritedBlock_of (himported ▸ rfl), h.parent_eq htemplates]
    obtain ⟨depth, rfl⟩ := Nat.exists_eq_add_one_of_ne_zero (Nat.ne_zero_of_lt hdepth)
    have hrest := ih (htemplates.trans (List.append_cons front t (u :: rest)))
      (Nat.le_of_succ_le_succ hdepth)
    show env.answer patience (depth + 1) (.findBlock u [] name) w = _
    rw [env.answer_errand_succ patience depth rfl, run_findBlock_of hrest, firstOf_cons]
    rfl

theorem length_rest_le {front rest : List Template} {t : Template}
    (h : chain.templates = front ++ t :: rest) : rest.length ≤ chain.below.length := by
  have hlength := congrArg List.length h
  simp only [templates, List.length_append, List.length_cons, List.length_nil] at hlength
  omega

/-- **Looking a block up** from a template of the chain, with the blocks of those below as
overrides, finds the block that the name stands for. -/
theorem Linked.answer_findBlock (h : chain.Linked chain.below w) {t : Template}
    (ht : t ∈ chain.templates) {overrides : Dict Block}
    (hoverrides : ∀ name, overrides.find? name = firstOf chain.below name) (name : String)
    (hdepth : chain.below.length < depth) :
    env.answer patience depth (.findBlock t overrides name) w = .done (chain.block? name) w := by
  obtain ⟨front, rest, htemplates⟩ := List.append_of_mem ht
  obtain ⟨depth, rfl⟩ := Nat.exists_eq_add_one_of_ne_zero (Nat.ne_zero_of_lt hdepth)
  have hrest := length_rest_le htemplates
  have hfound : (firstOf chain.below name).or ((t.firstBlock? name).or (firstOf rest name))
      = chain.block? name := by
    cases hbelow : firstOf chain.below name with
    | some b => rw [block?, templates, firstOf_append, hbelow, Option.some_or, Option.some_or]
    | none =>
      -- what stands before the template in the chain is below, where nothing was found
      have hfront : firstOf front name = none := by
        rw [firstOf, List.findSome?_eq_none_iff] at hbelow ⊢
        intro u hu
        exact hbelow u (mem_below_of_front htemplates hu)
      rw [block?, htemplates, firstOf_append, hfront, firstOf_cons, Option.none_or]
  rw [env.answer_errand_succ patience depth rfl,
    run_findBlock_of (h.run_inheritedBlock htemplates name (by omega)), hoverrides, hfound]
  rfl

/-- **Looking up what a block overrides** finds it above its template in the chain. -/
theorem Linked.answer_inheritedBlock (h : chain.Linked chain.below w) {t : Template}
    (ht : t ∈ chain.templates) (name : String) (hdepth : chain.below.length < depth) :
    env.answer patience depth (.inheritedBlock t name) w
      = .done (chain.blockAbove? t name) w := by
  obtain ⟨front, rest, htemplates⟩ := List.append_of_mem ht
  obtain ⟨depth, rfl⟩ := Nat.exists_eq_add_one_of_ne_zero (Nat.ne_zero_of_lt hdepth)
  have hrest := length_rest_le htemplates
  rw [env.answer_errand_succ patience depth rfl,
    h.run_inheritedBlock htemplates name (by omega), blockAbove?, chain.above_eq htemplates]
  rfl

end Chain
end Stencil
