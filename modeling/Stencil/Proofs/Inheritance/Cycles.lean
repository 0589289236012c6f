import Mathlib.Data.Fintype.EquivFin
import Mathlib.Data.Set.Finite.List
import Mathlib.Order.WellFounded
import Stencil.Proofs.Engine.Histories
import Stencil.Proofs.Inheritance.Parents

/-!
# Links that run in circles

Whoever looks for a block that a template does not define goes on to the template that it extends,
by the link that the last render to extend one has left.  So the search ends for every name exactly
if the links from the template end (`World.ascends_iff`), and links end everywhere exactly if no
template comes back to itself along them (`World.ascends_iff_acyclic`).

No single render has to go in a circle for the links to do so: one render may leave a link from a
template to another one, the next render the link back (`Environment.ascends_crossing`).  What a
history leaves is known from its events alone (`History.ascends`): where the templates that it has
made others extend never come back to themselves, all links end.
-/
namespace Stencil

namespace World
variable (w : World)

/-- The template that the one of a number extends. -/
def parentOf (n : Nat) : Option Template := ((w.links.lookup n).getD {}).parent

/-- The template of the first number extends that of the second. -/
def Extends (n m : Nat) : Prop := ∃ parent, w.parentOf n = some parent ∧ parent.number = m

/-- The links that lead up from a template come to an end. -/
def Ascends (t : Template) : Prop :=
  Acc (fun parent u => (w.linksOf u).parent = some parent) t

/-- The template neither defines nor imports a block of the name. -/
def Lacks (name : String) (t : Template) : Prop :=
  t.block? name = none ∧ (w.linksOf t).imported.find? name = none

variable {w} {t : Template}

/-- Links that do not end do not end one template further up. -/
theorem exists_parent_of_not_ascends (h : ¬ w.Ascends t) :
    ∃ parent, (w.linksOf t).parent = some parent ∧ ¬ w.Ascends parent := by
  by_contra hnone
  refine h (Acc.intro t fun parent hparent => ?_)
  by_contra habove
  exact hnone ⟨parent, hparent, habove⟩

/-! ## Looking up -/

section
variable (env : Environment) (patience : Patience)

/-- A block of the template itself is found at once. -/
theorem run_findBlock_own {overrides : Dict Block} {name : String} {b : Block} (levels : Nat)
    (h : (overrides.find? name).or (t.block? name) = some b) :
    env.run patience levels (t.findBlock overrides name) w = .done (some b) w := by
  rw [Template.findBlock]
  cases hoverride : overrides.find? name with
  | some b' =>
    rw [hoverride, Option.some_or] at h
    exact congrArg (Outcome.done · w) h
  | none =>
    rw [hoverride, Option.none_or] at h
    rw [h]
    rfl

theorem findBlock_eq_inheritedBlock (overrides : Dict Block) {name : String}
    (h : (overrides.find? name).or (t.block? name) = none) :
    t.findBlock overrides name = t.inheritedBlock name := by
  obtain ⟨hoverrides, hown⟩ := Option.or_eq_none_iff.mp h
  rw [Template.findBlock, hoverrides, hown]

theorem run_inheritedBlock_imported {name : String} {b : Block} (levels : Nat)
    (h : (w.linksOf t).imported.find? name = some b) :
    env.run patience levels (t.inheritedBlock name) w = .done (some b) w := by
  rw [Chain.run_inheritedBlock_links, h]
  rfl

theorem run_inheritedBlock_none {name : String} (levels : Nat)
    (himported : (w.linksOf t).imported.find? name = none) (hparent : (w.linksOf t).parent = none) :
    env.run patience levels (t.inheritedBlock name) w = .done none w := by
  rw [Chain.run_inheritedBlock_of himported, hparent]
  rfl

/-- The search goes on one level deeper, from the template that this one extends. -/
theorem run_inheritedBlock_parent {name : String} {parent : Template} (levels : Nat)
    (himported : (w.linksOf t).imported.find? name = none)
    (hparent : (w.linksOf t).parent = some parent) :
    env.run patience (levels + 1) (t.inheritedBlock name) w
      = env.run patience levels (parent.findBlock [] name) w := by
  rw [Chain.run_inheritedBlock_of himported, hparent]
  exact (env.answer_errand_succ patience levels rfl w).trans (Outcome.map_id _)

theorem run_inheritedBlock_zero {name : String} {parent : Template}
    (himported : (w.linksOf t).imported.find? name = none)
    (hparent : (w.linksOf t).parent = some parent) :
    env.run patience 0 (t.inheritedBlock name) w = .tooDeep := by
  rw [Chain.run_inheritedBlock_of himported, hparent]
  exact env.answer_errand_zero patience rfl w

/-- Where the links end, every block is found or found missing. -/
theorem Ascends.run_findBlock (h : w.Ascends t) (overrides : Dict Block) (name : String) :
    ∃ levels found, env.run patience levels (t.findBlock overrides name) w = .done found w := by
  induction h generalizing overrides with
  | intro t _ ih =>
    cases hown : (overrides.find? name).or (t.block? name) with
    | some b => exact ⟨0, some b, run_findBlock_own env patience 0 hown⟩
    | none =>
      rw [findBlock_eq_inheritedBlock overrides hown]
      cases himported : (w.linksOf t).imported.find? name with
      | some b => exact ⟨0, some b, run_inheritedBlock_imported env patience 0 himported⟩
      | none =>
        cases hparent : (w.linksOf t).parent with
        | none => exact ⟨0, none, run_inheritedBlock_none env patience 0 himported hparent⟩
        | some parent =>
          obtain ⟨levels, found, hrun⟩ := ih parent hparent []
          refine ⟨levels + 1, found, ?_⟩
          rw [run_inheritedBlock_parent env patience levels himported hparent]
          exact hrun

/-- Where they do not end, the search for a block that no template on the way has goes on for ever.
-/
theorem run_findBlock_tooDeep {name : String} (h : ¬ w.Ascends t) (ht : w.Lacks name t)
    (hparents : ∀ n parent, w.parentOf n = some parent → w.Lacks name parent) (levels : Nat) :
    env.run patience levels (t.findBlock [] name) w = .tooDeep := by
  induction levels generalizing t with
  | zero =>
    obtain ⟨parent, hparent, -⟩ := exists_parent_of_not_ascends h
    rw [findBlock_eq_inheritedBlock [] ht.1]
    exact run_inheritedBlock_zero env patience ht.2 hparent
  | succ levels ih =>
    obtain ⟨parent, hparent, habove⟩ := exists_parent_of_not_ascends h
    rw [findBlock_eq_inheritedBlock [] ht.1,
      run_inheritedBlock_parent env patience levels ht.2 hparent]
    exact ih habove (hparents t.number parent hparent)

end

/-! ## A name that nobody has -/

theorem mem_links_of_lookup {n : Nat} {l : Links} (h : w.links.lookup n = some l) :
    (n, l) ∈ w.links := by
  generalize w.links = links at h
  induction links with
  | nil => cases h
  | cons entry rest ih =>
    obtain ⟨m, l'⟩ := entry
    rw [lookup_cons] at h
    split at h
    · next heq =>
      obtain rfl := Option.some.inj h
      exact heq ▸ List.mem_cons_self
    · exact List.mem_cons_of_mem _ (ih h)

/-- What a template extends stands in the links. -/
theorem exists_links_of_parentOf {n : Nat} {parent : Template} (h : w.parentOf n = some parent) :
    ∃ l, (n, l) ∈ w.links ∧ l.parent = some parent := by
  unfold parentOf at h
  cases hlookup : w.links.lookup n with
  | none =>
    rw [hlookup] at h
    cases h
  | some l =>
    rw [hlookup] at h
    exact ⟨l, mem_links_of_lookup hlookup, h⟩

/-- Only finitely many templates are linked, so there is a block that none of them has. -/
theorem exists_lacks (w : World) (t : Template) : ∃ name, w.Lacks name t ∧
    ∀ n parent, w.parentOf n = some parent → w.Lacks name parent := by
  let templates := t :: w.links.filterMap fun entry => entry.2.parent
  let names := templates.flatMap (fun u => u.blocks.keys)
    ++ w.links.flatMap (fun entry => entry.2.imported.keys)
  obtain ⟨name, hname⟩ := (List.finite_toSet names).exists_notMem
  have hnames : name ∉ names := hname
  rw [List.mem_append, not_or] at hnames
  have hlacks (u : Template) (hu : u ∈ templates) : w.Lacks name u := by
    constructor
    · rw [Template.block?, Dict.find?_eq_none fun hkey =>
        hnames.1 (List.mem_flatMap.mpr ⟨u, hu, hkey⟩)]
      rfl
    · rw [linksOf]
      cases hlookup : w.links.lookup u.number with
      | none => rfl
      | some l =>
        exact Dict.find?_eq_none fun hkey =>
          hnames.2 (List.mem_flatMap.mpr ⟨(u.number, l), mem_links_of_lookup hlookup, hkey⟩)
  refine ⟨name, hlacks t List.mem_cons_self, fun n parent hparent => hlacks parent ?_⟩
  obtain ⟨l, hl, hl'⟩ := exists_links_of_parentOf hparent
  exact List.mem_cons_of_mem t (List.mem_filterMap.mpr ⟨(n, l), hl, hl'⟩)

/-- **The links from a template end exactly if every block can be looked up from there.** -/
theorem ascends_iff (w : World) (t : Template) : w.Ascends t ↔
    ∀ (env : Environment) (patience : Patience) (name : String), ∃ levels found,
      env.run patience levels (t.findBlock [] name) w = .done found w := by
  constructor
  · exact fun h env patience name => h.run_findBlock env patience [] name
  · intro h
    by_contra hnot
    obtain ⟨name, ht, hparents⟩ := w.exists_lacks t
    obtain ⟨levels, found, hrun⟩ := h {} .immediate name
    rw [run_findBlock_tooDeep {} .immediate hnot ht hparents levels] at hrun
    cases hrun

/-! ## Cycles -/

/-- Links are those of a number, whichever template has it. -/
theorem ascends_iff_acc (w : World) (t : Template) :
    w.Ascends t ↔ Acc (fun m n => w.Extends n m) t.number := by
  constructor
  · intro h
    induction h with
    | intro t _ ih =>
      refine Acc.intro _ fun m hm => ?_
      obtain ⟨parent, hparent, rfl⟩ := hm
      exact ih parent hparent
  · intro h
    have hview := InvImage.accessible Template.number h
    exact Subrelation.accessible (fun {parent u} hparent => ⟨parent, hparent, rfl⟩) hview

/-- What comes back to itself does not end. -/
theorem not_transGen_of_acc {α : Type} {r : α → α → Prop} {a : α} (h : Acc r a) :
    ¬ Relation.TransGen r a a := by
  have hacc := h.transGen
  clear h
  induction hacc with
  | intro a _ ih => exact fun hself => ih a hself hself

/-- **All links end exactly if no template comes back to itself along them.** -/
theorem ascends_iff_acyclic (w : World) :
    (∀ t, w.Ascends t) ↔ ∀ n, ¬ Relation.TransGen w.Extends n n := by
  constructor
  · intro h n hcycle
    let t : Template := { number := n, id := none, base := none, nodes := [], options := {} }
    have hacc : Acc (fun m n => w.Extends n m) n := (w.ascends_iff_acc t).mp (h t)
    exact not_transGen_of_acc hacc (Relation.transGen_swap.mp hcycle)
  · intro h t
    rw [ascends_iff_acc]
    -- Only the finitely many numbers that have links extend anything.
    let linked : Set Nat := {n | n ∈ w.links.map Prod.fst}
    have hlinked {n m : Nat} (hn : w.Extends n m) : n ∈ linked := by
      obtain ⟨parent, hparent, -⟩ := hn
      obtain ⟨l, hl, -⟩ := exists_links_of_parentOf hparent
      exact List.mem_map.mpr ⟨(n, l), hl, rfl⟩
    have : Finite linked := List.finite_toSet (w.links.map Prod.fst)
    let above : linked → linked → Prop := fun m n => Relation.TransGen w.Extends n m
    have : IsTrans linked above := ⟨fun _ _ _ hab hbc => hbc.trans hab⟩
    have : Std.Irrefl above := ⟨fun n hn => h n hn⟩
    have hwf : WellFounded above := Finite.wellFounded_of_trans_of_irrefl above
    have hacc (n : linked) : Acc (fun m n => w.Extends n m) n.1 := by
      induction n using hwf.induction with
      | _ n ih =>
        refine Acc.intro _ fun m hm => ?_
        by_cases hmem : m ∈ linked
        · exact ih ⟨m, hmem⟩ (.single hm)
        · exact Acc.intro _ fun k hk => absurd (hlinked hk) hmem
    by_cases hmem : t.number ∈ linked
    · exact hacc ⟨t.number, hmem⟩
    · exact Acc.intro _ fun m hm => absurd (hlinked hm) hmem

end World

/-! ## Histories -/

/-- The templates, by number, of which the request makes the first one extend the second. -/
def Request.link? : Request → Option (Nat × Nat)
  | .setParent t parent => some (t.number, parent.number)
  | _ => none

/-- What events make a template extend, one of them has made it extend, or it extended it before. -/
theorem Request.mem_of_foldl_parentOf {t p : Template} {events : List Request}
    {parent : Option Template} (h : events.foldl (parentOf t) parent = some p) :
    parent = some p ∨ (t.number, p.number) ∈ events.filterMap link? := by
  induction events generalizing parent with
  | nil => exact .inl h
  | cons r rest ih =>
    have hrest : ∀ link ∈ rest.filterMap link?, link ∈ (r :: rest).filterMap link? := fun link hl =>
      ((List.sublist_cons_self r rest).filterMap link?).mem hl
    rcases ih h with hr | hlater
    · cases r with
      | setParent u q =>
        rw [parentOf] at hr
        split at hr
        · next heq =>
          obtain rfl := Option.some.inj hr
          right
          rw [List.filterMap_cons, link?, heq]
          exact List.mem_cons_self
        · exact .inl hr
      | _ => exact .inl hr
    · exact .inr (hrest _ hlater)

/-- **The links that a history leaves.**  Whatever runs there have been, of whatever programs in
whatever environments, a template extends what the last event that says so has made it extend.  All
blocks can be looked up from a template exactly if the links that lead up from it end.  Where no
template comes back to itself along the links that were there at first and those that the events
have made, they end everywhere. -/
theorem History.ascends {hosts : Environment → Prop} {programs : (α : Type) → Program α → Prop}
    {start last : World} {events : List Request}
    (h : History hosts programs World.links start events last) :
    (∀ t, (last.linksOf t).parent
        = events.foldl (Request.parentOf t) (start.linksOf t).parent) ∧
      (∀ t, last.Ascends t ↔
        ∀ (env : Environment) (patience : Patience) (name : String), ∃ levels found,
          env.run patience levels (t.findBlock [] name) last = .done found last) ∧
      ((∀ n, ¬ Relation.TransGen
          (fun n m => start.Extends n m ∨ (n, m) ∈ events.filterMap Request.link?) n n) →
        ∀ t, last.Ascends t) := by
  have hparent (t : Template) : (last.linksOf t).parent
      = events.foldl (Request.parentOf t) (start.linksOf t).parent :=
    h.reads (fun w => (w.linksOf t).parent) (Request.parentOf t)
      (fun w w' hlinks => by rw [World.linksOf, World.linksOf, hlinks])
      fun env patience depth _ p w => env.run_parent patience depth p w t
  refine ⟨hparent, last.ascends_iff, fun hacyclic => ?_⟩
  refine last.ascends_iff_acyclic.mpr fun n hcycle =>
    hacyclic n (Relation.TransGen.mono ?_ n n hcycle)
  rintro n m ⟨p, hp, rfl⟩
  let t : Template := { number := n, id := none, base := none, nodes := [], options := {} }
  have hfold := (hparent t).symm.trans (hp : (last.linksOf t).parent = some p)
  rcases Request.mem_of_foldl_parentOf hfold with hbefore | hlink
  · exact .inl ⟨p, hbefore, rfl⟩
  · exact .inr hlink

/-! The template that extends the layout if it is told to has left one link, and it leads up. -/

theorem History.ascends_extending :
    let env := Environment.standard { rethrow := true }
    let kind (α : Type) (_ : Program α) : Prop := True
    let p := (Environment.extending.text (Environment.told true)).run
    ∃ last, History (· = env) kind World.links Environment.unrendered
        (env.events .immediate 9 p Environment.unrendered) last ∧
      (last.linksOf Environment.extending).parent = some Environment.layout ∧
      ∀ t, last.Ascends t := by
  intro env kind p
  obtain ⟨last, hlast, hparent⟩ : ∃ last,
      (env.run .immediate 9 p Environment.unrendered).world? = some last ∧
        (last.linksOf Environment.extending).parent = some Environment.layout := ⟨_, rfl, rfl⟩
  have h : History (· = env) kind World.links Environment.unrendered
      (env.events .immediate 9 p Environment.unrendered) last := by
    refine .single ?_ ?_ hlast
    · exact rfl
    · trivial
  have hlinks : (env.events .immediate 9 p Environment.unrendered).filterMap Request.link?
      = [(0, 1)] := rfl
  refine ⟨last, h, hparent, (History.ascends h).2.2 fun n hcycle => ?_⟩
  rw [hlinks] at hcycle
  -- The one link leads from a number to a greater one.
  have hup : Relation.TransGen (· < ·) n n := by
    refine Relation.TransGen.mono ?_ n n hcycle
    rintro a b (⟨parent, hnone, -⟩ | hab)
    · cases hnone
    · obtain ⟨rfl, rfl⟩ := Prod.mk.inj (List.mem_singleton.mp hab)
      exact Nat.zero_lt_one
  rw [Relation.transGen_eq_self] at hup
  exact Nat.lt_irrefl n hup

namespace Environment

/-! Two templates each of which extends the other one if it is told to, and a render of each. -/

/-- A template that extends another one if a variable says so. -/
def crossing (number : Nat) (name other told : String) : Template where
  number
  id := some name
  base := some name
  nodes := [.logic (.branch [.variable told]) [.logic (.inherits [.string other]) []]]
  options := { rethrow := true }

/-- The first of the two. -/
def ascending : Template := crossing 0 "a" "b" "up"

/-- The second. -/
def descending : Template := crossing 1 "b" "a" "down"

/-- The state in which both have been compiled, with the links that renders have left. -/
def crossed (links : List (Nat × Links)) : World :=
  { next := 2, links, store := [("a", ascending), ("b", descending)] }

/-- Two renders, each of which comes to its end, leave links from which there is no way out: a block
that neither template has is looked for without end. -/
theorem ascends_crossing :
    let env := standard { rethrow := true }
    let up : Nat × Links := (0, { parent := some descending })
    let down : Nat × Links := (1, { parent := some ascending })
    env.run .immediate 9 (ascending.text [("up", .bool true)]).run (crossed [])
        = .done (.ok "") (crossed [up]) ∧
      env.run .immediate 9 (descending.text [("down", .bool true)]).run (crossed [up])
        = .done (.ok "") (crossed [up, down]) ∧
      ¬ (crossed [up, down]).Ascends ascending ∧
      ∀ levels, env.run .immediate levels (ascending.findBlock [] "x") (crossed [up, down])
        = .tooDeep := by
  intro env up down
  have hnot : ¬ (crossed [up, down]).Ascends ascending := by
    rw [World.ascends_iff_acc]
    intro h
    have hcycle : Relation.TransGen (fun m n => (crossed [up, down]).Extends n m) 0 0 :=
      .tail (b := 1) (.single ⟨ascending, rfl, rfl⟩) ⟨descending, rfl, rfl⟩
    exact World.not_transGen_of_acc h hcycle
  refine ⟨rfl, rfl, hnot, fun levels => ?_⟩
  refine World.run_findBlock_tooDeep env .immediate hnot ⟨rfl, rfl⟩ (fun n parent hparent => ?_)
    levels
  obtain ⟨l, hl, hl'⟩ := World.exists_links_of_parentOf hparent
  have hboth : l = up.2 ∨ l = down.2 := by
    rcases List.mem_cons.mp hl with heq | hl
    · exact .inl (congrArg Prod.snd heq)
    · exact .inr (congrArg Prod.snd (List.mem_singleton.mp hl))
  rcases hboth with rfl | rfl
  · obtain rfl := Option.some.inj hl'
    exact ⟨rfl, rfl⟩
  · obtain rfl := Option.some.inj hl'
    exact ⟨rfl, rfl⟩

end Environment
end Stencil
