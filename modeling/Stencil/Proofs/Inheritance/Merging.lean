import Mathlib.Logic.Relation
import Stencil.Proofs.Inheritance.Imports
import Stencil.Proofs.Inheritance.Uses

/-!
# What `use` tags bring

The sources of a host are such that their `use` tags lead from each one to others and never back
(`Environment.Coherent`).  Then the tags of a stored template bring what they should, whatever else
is stored already and whose tags have been resolved (`Environment.Sound.run_mergeImports`).

What is true between two runs is true inside of one only but for the templates whose tags are just
being resolved, which are claimed and have no more than a part of their blocks.  They are called
busy.  A tag leads away from all of them, so that none is met again, and the template that it leads
to is either done or comes to be done before its blocks are taken.  At last the blocks of a template
are the fold over its tags (`Environment.Sound.eq_usedBlocks`).
-/
namespace Stencil

/-! ## Later states -/

namespace World

/-- What later states have in common with an earlier one: what is stored stays stored, and what is
stored in addition has been made since.  Resolved `use` tags of stored templates stay resolved. -/
structure Evolves (w after : World) : Prop where
  next : w.next ≤ after.next
  store : ∀ locator t, w.store.find? locator = some t → after.store.find? locator = some t
  fresh : ∀ locator t, after.store.find? locator = some t →
    w.store.find? locator = some t ∨ w.next ≤ t.number
  claimed : ∀ locator t, w.store.find? locator = some t → (w.linksOf t).claimed = true →
    (after.linksOf t).claimed = true

variable {w mid after : World}

theorem Evolves.refl (w : World) : w.Evolves w :=
  ⟨Nat.le_refl _, fun _ _ h => h, fun _ _ => .inl, fun _ _ _ h => h⟩

theorem Evolves.trans (h : w.Evolves mid) (h' : mid.Evolves after) : w.Evolves after where
  next := Nat.le_trans h.next h'.next
  store locator t ht := h'.store locator t (h.store locator t ht)
  fresh locator t ht := (h'.fresh locator t ht).elim (h.fresh locator t)
    fun hnew => .inr (Nat.le_trans h.next hnew)
  claimed locator t ht hclaimed :=
    h'.claimed locator t (h.store locator t ht) (h.claimed locator t ht hclaimed)

theorem Evolves.isUnresolved (h : w.Evolves after) {locator : String} {t : Template}
    (ht : w.store.find? locator = some t) (hresolved : w.isUnresolved t = false) :
    after.isUnresolved t = false := by
  exact isUnresolved_mono (h.claimed locator t ht) hresolved

end World

/-! ## The blocks that tags bring -/

/-- Behind the tags, which stand in the template, the blocks `d` have become `e`: for one tag after
the other, what the tags of the named template bring, overlaid by the blocks that it defines, is put
among them.  The named templates are stored, and their own tags are resolved. -/
inductive Template.Brings (w : World) :
    Template → List BlockImport → Dict Block → Dict Block → Prop
  | nil {t : Template} {d : Dict Block} : Brings w t [] d d
  | cons {t source : Template} {i : BlockImport} {rest : List BlockImport} {name : String}
    {brought d e : Dict Block} (hname : i.expression = [.string name])
    (hsource : w.store.find? (Locator.resolveString t.options.namespaces t.base name) = some source)
    (hresolved : w.isUnresolved source = false)
    (hbrought : Brings w source source.blockImports [] brought)
    (hrest : Brings w t rest (i.importInto d (brought.merge source.definedBlocks)) e) :
    Brings w t (i :: rest) d e

namespace Template.Brings
variable {w after : World} {t : Template} {imports : List BlockImport} {d e e' : Dict Block}

theorem evolves (h : Brings w t imports d e) (hevolves : w.Evolves after) :
    Brings after t imports d e := by
  induction h with
  | nil => exact .nil
  | cons hname hsource hresolved _ _ ihbrought ihrest =>
    exact .cons hname (hevolves.store _ _ hsource) (hevolves.isUnresolved hsource hresolved)
      ihbrought ihrest

/-- There is one outcome. -/
theorem unique (h : Brings w t imports d e) (h' : Brings w t imports d e') : e = e' := by
  induction h generalizing e' with
  | nil =>
    cases h'
    rfl
  | cons hname hsource _ _ _ ihbrought ihrest =>
    cases h' with
    | cons hname' hsource' _ hbrought' hrest' =>
      rw [hname] at hname'
      obtain ⟨⟨rfl⟩, -⟩ := List.cons.inj hname'
      obtain rfl := Option.some.inj (hsource.symm.trans hsource')
      obtain rfl := ihbrought hbrought'
      exact ihrest hrest'

end Template.Brings

/-! ## Sources that use one another -/

/-- A `use` tag in the source of the locator names a template so. -/
def Dict.NamesUse (sources : Dict String) (locator name : String) : Prop :=
  ∃ source nodes i, sources.find? locator = some source ∧ Node.ofSource source = .ok nodes ∧
    i ∈ (Node.walkAll nodes).filterMap Node.blockImport? ∧ i.expression = [.string name]

/-- A `use` tag in the source of the first locator leads to the second one. -/
def Dict.Uses (sources : Dict String) (options : Options) (locator other : String) : Prop :=
  ∃ name, sources.NamesUse locator name ∧
    Locator.resolveString options.namespaces (some locator) name = other

/-- The sources of a host can be compiled, their `use` tags name sources by texts, and no source
comes back to itself along them. -/
structure Environment.Connects (env : Environment) (sources : Dict String) : Prop where
  named : ∀ locator source nodes, sources.find? locator = some source →
    Node.ofSource source = .ok nodes → Node.UsesByName nodes
  compiles : ∀ locator source, sources.find? locator = some source →
    ∃ nodes, Node.ofSource source = .ok nodes
  present : ∀ locator other, sources.Uses env.options locator other →
    ∃ source, sources.find? other = some source
  acyclic : ∀ locator, ¬ Relation.TransGen (sources.Uses env.options) locator locator

/-- Where a template is also found by a name as it is written, the name in a `use` tag is not the
locator of another source than the one that the tag leads to. -/
structure Environment.Coherent (env : Environment) (sources : Dict String) : Prop
    extends env.Connects sources where
  inline : env.options.allowInlineIncludes = true → ∀ locator name, sources.NamesUse locator name →
    sources.find? name ≠ none →
    Locator.resolveString env.options.namespaces (some locator) name = name

/-! ## States -/

/-- The template is what is made of the source of a locator. -/
structure Template.Compiled (t : Template) (sources : Dict String) (options : Options)
    (locator : String) : Prop where
  base : t.base = some locator
  options : t.options = options
  source : ∃ source, sources.find? locator = some source ∧ Node.ofSource source = .ok t.nodes

/-- The stored templates are made of the sources, each has a number of its own, and where their
`use` tags are resolved they have the blocks that the tags bring.  The tags of those that are `busy`
are just being resolved. -/
structure Environment.Sound (env : Environment) (sources : Dict String) (busy : String → Prop)
    (w : World) : Prop where
  mirrors : env.Mirrors sources w
  readable : env.Readable w
  compiled : ∀ locator t, w.store.find? locator = some t →
    t.Compiled sources env.options locator
  numbered : ∀ locator t, w.store.find? locator = some t → t.number < w.next
  distinct : ∀ locator other t u, w.store.find? locator = some t →
    w.store.find? other = some u → t.number = u.number → t = u
  unused : ∀ t : Template, w.next ≤ t.number →
    (w.linksOf t).claimed = false ∧ (w.linksOf t).imported = []
  untouched : ∀ locator t, w.store.find? locator = some t → (w.linksOf t).claimed = false →
    (w.linksOf t).imported = []
  merged : ∀ locator t, w.store.find? locator = some t → ¬ busy locator →
    w.isUnresolved t = false → t.Brings w t.blockImports [] (w.linksOf t).imported

namespace Environment
variable {env : Environment} {sources : Dict String} {busy : String → Prop} {w after : World}
  {locator : String} {t : Template}

theorem Sound.at_most_one (h : env.Sound sources busy w) (ht : w.store.find? locator = some t)
    {other : String} {u : Template} (hu : w.store.find? other = some u)
    (hsame : u.number = t.number) : other = locator := by
  obtain rfl := h.distinct other locator u t hu ht hsame
  exact Option.some.inj ((h.compiled other u hu).base.symm.trans (h.compiled locator u ht).base)

/-- More may be busy. -/
theorem Sound.mono (h : env.Sound sources busy w) {busy' : String → Prop}
    (himp : ∀ l, busy l → busy' l) : env.Sound sources busy' w :=
  { h with merged := fun l t ht hl => h.merged l t ht fun hbusy => hl (himp l hbusy) }

/-- The tags of one that was busy are resolved. -/
theorem Sound.settle (h : env.Sound sources (fun l => busy l ∨ l = locator) w)
    (hmerged : ∀ t, w.store.find? locator = some t →
      t.Brings w t.blockImports [] (w.linksOf t).imported) : env.Sound sources busy w :=
  { h with
    merged := fun l t ht hl hresolved => by
      by_cases heq : l = locator
      · subst heq
        exact hmerged t ht
      · exact h.merged l t ht (fun hbusy => hbusy.elim hl heq) hresolved }

/-- Claims and imports are changed only of templates that are not stored, or that are busy. -/
theorem Sound.relink (h : env.Sound sources busy w) (hnext : w.next ≤ after.next)
    (hstore : after.store = w.store) (hcache : after.cache = w.cache)
    (hlinks : ∀ u : Template, ((after.linksOf u).claimed = (w.linksOf u).claimed ∧
        (after.linksOf u).imported = (w.linksOf u).imported) ∨
      u.number < w.next ∧ ∀ l, w.store.find? l = some u →
        busy l ∧ (after.linksOf u).claimed = true) :
    env.Sound sources busy after ∧ w.Evolves after := by
  have hevolves : w.Evolves after := by
    refine ⟨hnext, fun _ _ hu => hstore.symm ▸ hu, fun _ _ hu => .inl (hstore ▸ hu),
      fun l u hu hclaimed => ?_⟩
    rcases hlinks u with ⟨hsame, -⟩ | ⟨-, hbusy⟩
    · exact hsame.trans hclaimed
    · exact (hbusy l hu).2
  refine ⟨⟨?_, ?_, ?_, ?_, ?_, fun u hu => ?_, fun l u hu hfree => ?_,
    fun l u hu hl hresolved => ?_⟩, hevolves⟩
  · rw [Mirrors, hstore, hcache]
    exact h.mirrors
  · rw [Readable, hstore, hcache]
    exact h.readable
  · rw [hstore]
    exact h.compiled
  · rw [hstore]
    exact fun l u hu => Nat.lt_of_lt_of_le (h.numbered l u hu) hnext
  · rw [hstore]
    exact h.distinct
  · have hold := Nat.le_trans hnext hu
    rcases hlinks u with ⟨hclaimed, himported⟩ | ⟨hnew, -⟩
    · rw [hclaimed, himported]
      exact h.unused u hold
    · exact absurd hnew (Nat.not_lt.mpr hold)
  · rw [hstore] at hu
    rcases hlinks u with ⟨hclaimed, himported⟩ | ⟨-, hbusy⟩
    · rw [himported]
      exact h.untouched l u hu (hclaimed ▸ hfree)
    · rw [(hbusy l hu).2] at hfree
      cases hfree
  · rw [hstore] at hu
    rcases hlinks u with ⟨hclaimed, himported⟩ | ⟨-, hbusy⟩
    · rw [World.isUnresolved, hclaimed] at hresolved
      rw [himported]
      exact (h.merged l u hu hl hresolved).evolves hevolves
    · exact absurd (hbusy l hu).1 hl

/-- What is written into the journal is nothing to them. -/
theorem Sound.of_journal (h : env.Sound sources busy w)
    (hw : after.withoutJournal = w.withoutJournal) :
    env.Sound sources busy after ∧ w.Evolves after := by
  obtain ⟨hnext, hlinks, hstore, hcache⟩ := World.eq_of_withoutJournal hw
  refine h.relink (Nat.le_of_eq hnext.symm) hstore hcache fun u => .inl ?_
  rw [World.linksOf_congr hlinks]
  exact ⟨rfl, rfl⟩

/-- Blocks are imported into one that is busy. -/
theorem Sound.of_imports (h : env.Sound sources busy w) (ht : w.store.find? locator = some t)
    (hbusy : busy locator) (hclaimed : (w.linksOf t).claimed = true) {imported : Dict Block}
    (himports : w.Imports t imported after) :
    env.Sound sources busy after ∧ w.Evolves after := by
  refine h.relink (Nat.le_of_eq himports.next.symm) himports.store himports.cache fun u => ?_
  by_cases hsame : u.number = t.number
  · refine .inr ⟨hsame ▸ h.numbered locator t ht, fun l hu => ?_⟩
    obtain rfl := h.at_most_one ht hu hsame
    obtain rfl := Option.some.inj (ht.symm.trans hu)
    exact ⟨hbusy, himports.claimed.trans hclaimed⟩
  · rw [himports.others u hsame]
    exact .inl ⟨rfl, rfl⟩

/-- A template that is claimed is busy. -/
theorem Sound.claim (h : env.Sound sources busy w) (ht : w.store.find? locator = some t) :
    let claimed := w.modifyLinks t fun l => { l with claimed := true }
    env.Sound sources (fun l => busy l ∨ l = locator) claimed ∧ w.Evolves claimed := by
  intro claimed
  refine (h.mono fun _ => .inl).relink (Nat.le_refl _) rfl rfl fun u => ?_
  rw [World.linksOf_modifyLinks]
  split
  · next hsame =>
    refine .inr ⟨hsame ▸ h.numbered locator t ht, fun l hu => ⟨.inr ?_, rfl⟩⟩
    exact h.at_most_one ht hu hsame.symm
  · exact .inl ⟨rfl, rfl⟩

/-- A template that is made of its source is stored, and its tags are to be resolved. -/
theorem Sound.of_gains (hcoherent : env.Coherent sources) (h : env.Sound sources busy w)
    (hgains : env.Gains sources env.options locator w t after)
    (hnone : w.store.find? locator = none) :
    env.Sound sources busy after ∧ w.Evolves after := by
  have hlinks (u : Template) : after.linksOf u = w.linksOf u :=
    World.linksOf_congr hgains.links u
  have hstored {l : String} {u : Template} (hu : after.store.find? l = some u) :
      w.store.find? l = some u ∨ l = locator ∧ u = t := by
    rw [hgains.store, Dict.find?_insert] at hu
    split at hu
    · next heq => exact .inr ⟨heq.symm, (Option.some.inj hu).symm⟩
    · exact .inl hu
  have hstays {l : String} {u : Template} (hu : w.store.find? l = some u) :
      after.store.find? l = some u := by
    rw [hgains.store, Dict.find?_insert, if_neg]
    · exact hu
    · rintro rfl
      cases hnone.symm.trans hu
  have hnumber : w.next ≤ t.number := Nat.le_of_eq hgains.number.symm
  have hnew := h.unused t hnumber
  have hcompiled : t.Compiled sources env.options locator := by
    obtain ⟨source, hsource, -, hnodes⟩ := hgains.source
    obtain ⟨nodes, hcompiles⟩ := hcoherent.compiles locator source hsource
    refine ⟨hgains.base, hgains.options, source, hsource, ?_⟩
    rcases hnodes with hnodes | ⟨failure, hfailure, -⟩
    · exact hnodes
    · cases hcompiles.symm.trans hfailure
  have hevolves : w.Evolves after := by
    refine ⟨hgains.next ▸ Nat.le_succ _, fun l u => hstays, fun l u hu => ?_,
      fun l u _ hclaimed => (hlinks u).symm ▸ hclaimed⟩
    rcases hstored hu with hold | ⟨-, rfl⟩
    · exact .inl hold
    · exact .inr hnumber
  refine ⟨⟨h.mirrors.of_gains hgains, h.readable.of_gains hgains, fun l u hu => ?_,
    fun l u hu => ?_, fun l other u v hu hv hsame => ?_, fun u hu => ?_, fun l u hu hfree => ?_,
    fun l u hu hl hresolved => ?_⟩, hevolves⟩
  · rcases hstored hu with hold | ⟨rfl, rfl⟩
    · exact h.compiled l u hold
    · exact hcompiled
  · rw [hgains.next]
    rcases hstored hu with hold | ⟨-, rfl⟩
    · exact Nat.lt_succ_of_lt (h.numbered l u hold)
    · exact hgains.number ▸ Nat.lt_succ_self _
  · rcases hstored hu with hu | ⟨-, rfl⟩ <;> rcases hstored hv with hv | ⟨-, rfl⟩
    · exact h.distinct l other u v hu hv hsame
    · have hold := h.numbered l u hu
      omega
    · have hold := h.numbered other v hv
      omega
    · rfl
  · rw [hlinks]
    exact h.unused u (Nat.le_trans hevolves.next hu)
  · rw [hlinks] at hfree ⊢
    rcases hstored hu with hold | ⟨-, rfl⟩
    · exact h.untouched l u hold hfree
    · exact hnew.2
  · rw [World.isUnresolved, hlinks] at hresolved
    rw [hlinks]
    rcases hstored hu with hold | ⟨-, rfl⟩
    · exact (h.merged l u hold hl hresolved).evolves hevolves
    · rw [hnew.1, Bool.not_false, Bool.and_true, Bool.not_eq_false', List.isEmpty_iff]
        at hresolved
      rw [hresolved, hnew.2]
      exact .nil

/-! ## Following a tag -/

section
variable {patience : Patience} {depth : Nat} {i : BlockImport} {name : String}

/-- What a tag of a stored template names is a source that the template's own source uses. -/
theorem Sound.namesUse (h : env.Sound sources busy w) (ht : w.store.find? locator = some t)
    (hi : i ∈ t.blockImports) (hname : i.expression = [.string name]) :
    sources.NamesUse locator name := by
  obtain ⟨source, hsource, hnodes⟩ := (h.compiled locator t ht).source
  exact ⟨source, t.nodes, i, hsource, hnodes, hi, hname⟩

variable (henv : env.Supplies sources) (hdelivers : env.Delivers sources)
  (hcoherent : env.Coherent sources)
include henv hdelivers hcoherent

/-- **The template that a tag names is found** under the locator that the tag leads to. -/
theorem Sound.run_resolve (h : env.Sound sources busy w) (ht : w.store.find? locator = some t)
    (hi : i ∈ t.blockImports) (hname : i.expression = [.string name]) :
    (env.run patience depth (Template.resolve name t.base t.options).run w).Ends
      (fun r after => ∃ source, r = .ok source ∧
        after.store.find? (Locator.resolveString t.options.namespaces t.base name) = some source ∧
        (env.Sound sources busy after ∧ w.Evolves after) ∧ after.links = w.links)
      (fun _ => False) True := by
  have hcompiled := h.compiled locator t ht
  have hnames := h.namesUse ht hi hname
  rw [hcompiled.base, hcompiled.options]
  cases hstored : env.options.stored? w.store name (some locator) with
  | some source =>
    rw [env.run_resolve_stored hstored]
    refine ⟨source, rfl, ?_, ⟨h, .refl w⟩, rfl⟩
    rcases Option.or_eq_some_iff.mp hstored with hraw | ⟨-, hlocator⟩
    · -- found by the name as it is written, which is where the tag leads to as well
      by_cases hinline : env.options.allowInlineIncludes = true
      · rw [if_pos hinline] at hraw
        obtain ⟨text, htext, -⟩ := (h.compiled name source hraw).source
        have hpresent : sources.find? name ≠ none := by
          rw [htext]
          exact Option.some_ne_none text
        rw [hcoherent.inline hinline locator name hnames hpresent]
        exact hraw
      · rw [if_neg hinline] at hraw
        cases hraw
    · exact hlocator
  | none =>
    obtain ⟨hraw, hnone⟩ := Option.or_eq_none_iff.mp hstored
    rw [Environment.run_resolve, hraw]
    obtain ⟨source, hsource⟩ := hcoherent.present locator _ ⟨name, hnames, rfl⟩
    obtain ⟨nodes, hnodes⟩ := hcoherent.compiles _ source hsource
    have hends : (env.run patience depth (Template.locate _ env.options).run w).Ends _ _ _ :=
      run_locate_ends henv h.mirrors hnone
    refine (hends.and (run_locate_delivers hdelivers h.readable hnone hsource hnodes)).mono
      (fun r after hr => ?_) (fun _ hr => hr.2) fun _ => trivial
    obtain ⟨⟨-, hgains⟩, source, rfl⟩ := hr
    have hgained := hgains source rfl
    refine ⟨source, rfl, ?_, h.of_gains hcoherent hgained hnone, hgained.links⟩
    rw [hgained.store]
    exact (Dict.find?_insert _ _ _ _).trans (if_pos rfl)

/-- What resolving the tags of a stored template comes to, while those of others are busy. -/
def Merges (env : Environment) (sources : Dict String) (busy : String → Prop) (t : Template)
    (w : World) (r : Except Failure Unit) (after : World) : Prop :=
  r = .ok () ∧ (env.Sound sources busy after ∧ w.Evolves after) ∧ after.isUnresolved t = false ∧
    ∀ l u, busy l → w.store.find? l = some u → after.linksOf u = w.linksOf u

/-- Behind some of the tags of a template, while its tags and those of others are busy. -/
def MergesEach (env : Environment) (sources : Dict String) (busy : String → Prop)
    (locator : String) (t : Template) (imports : List BlockImport) (w : World)
    (r : Except Failure Unit) (after : World) : Prop :=
  r = .ok () ∧ (env.Sound sources busy after ∧ w.Evolves after) ∧
    (after.linksOf t).claimed = true ∧
    t.Brings after imports (w.linksOf t).imported (after.linksOf t).imported ∧
    ∀ l u, busy l → l ≠ locator → w.store.find? l = some u → after.linksOf u = w.linksOf u

/-- **One tag after the other brings what it should**, if the named templates come to theirs. -/
theorem Sound.run_mergeEach {c : Context} (hmerges : ∀ w other source, env.Sound sources busy w →
      w.store.find? other = some source → sources.Uses env.options locator other →
      (env.answer patience depth (.mergeImports source c) w).Ends
        (env.Merges sources busy source w) (fun _ => False) True)
    (hbusy : busy locator) (hpath : ∀ l, busy l →
      Relation.ReflTransGen (sources.Uses env.options) l locator)
    {imports : List BlockImport} (himports : ∀ i ∈ imports, i ∈ t.blockImports)
    (h : env.Sound sources busy w) (ht : w.store.find? locator = some t)
    (hclaimed : (w.linksOf t).claimed = true) :
    (env.run patience depth (Rendering.resultIn (Scope.start t c) (t.mergeEach imports)).run w).Ends
      (env.MergesEach sources busy locator t imports w) (fun _ => False) True := by
  induction imports generalizing w with
  | nil => exact ⟨rfl, ⟨h, .refl w⟩, hclaimed, .nil, fun _ _ _ _ _ => rfl⟩
  | cons i rest ih =>
    obtain ⟨hi, hrest⟩ := List.forall_mem_cons.mp himports
    have hcompiled := h.compiled locator t ht
    obtain ⟨name, hname⟩ : ∃ name, i.expression = [.string name] := by
      obtain ⟨text, htext, hnodes⟩ := hcompiled.source
      exact hcoherent.named locator text t.nodes htext hnodes i hi
    let other := Locator.resolveString t.options.namespaces t.base name
    have huses : sources.Uses env.options locator other := by
      refine ⟨name, h.namesUse ht hi hname, ?_⟩
      rw [← hcompiled.options, ← hcompiled.base]
    have hidle : ¬ busy other := fun hother =>
      hcoherent.acyclic other (Relation.TransGen.tail' (hpath other hother) huses)
    rw [t.resultIn_mergeEach_cons c hname]
    refine ends_attempt_bind (h.run_resolve henv hdelivers hcoherent ht hi hname)
      (fun source found hfound => ?_) fun _ _ ⟨_, hr, _⟩ => by cases hr
    obtain ⟨_, ⟨⟩, hsource, ⟨hsound, hevolves⟩, hlinks⟩ := hfound
    have ht₁ := hevolves.store locator t ht
    have hmerge := cast (congrArg (Outcome.Ends _ _ _)
      (env.run_request patience depth (.mergeImports source c) found).symm)
      (hmerges found other source hsound hsource huses)
    refine ends_attempt_bind hmerge (fun _ merged hmerged => ?_) fun _ _ hr => by cases hr.1
    obtain ⟨-, ⟨hsound₂, hevolves₂⟩, hresolved, hothers⟩ := hmerged
    have ht₂ := hevolves₂.store locator t ht₁
    have hsource₂ := hevolves₂.store other source hsource
    have hsame : merged.linksOf t = w.linksOf t := by
      rw [hothers locator t hbusy ht₁, World.linksOf_congr hlinks]
    have hclaimed₂ : (merged.linksOf t).claimed = true := hsame ▸ hclaimed
    have hbrought := hsound₂.merged other source hsource₂ hidle hresolved
    have hlast : (env.run patience depth ((do
        let links ← (Program.request (.links source) : Program Links)
        t.importBlocks i (links.imported.merge source.definedBlocks) : Attempt Unit) >>= fun _ =>
        Rendering.resultIn (Scope.start t c) (t.mergeEach rest)).run merged).Ends
        (env.MergesEach sources busy locator t (i :: rest) w) (fun _ => False) True := by
      refine ends_attempt_bind (run_importFrom t source i merged)
        (fun _ between hbetween => ?_) fun _ _ hr => by cases hr.1
      obtain ⟨-, himports⟩ := hbetween
      obtain ⟨hsound₃, hevolves₃⟩ := hsound₂.of_imports ht₂ hbusy hclaimed₂ himports
      refine (ih hrest hsound₃ (hevolves₃.store locator t ht₂)
        (himports.claimed.trans hclaimed₂)).mono (fun r after hr => ?_) (fun _ hr => hr) id
      obtain ⟨hok, ⟨hsound₄, hevolves₄⟩, hclaimed₄, hbrings, hkept⟩ := hr
      have hlater := hevolves₃.trans hevolves₄
      refine ⟨hok, ⟨hsound₄, hevolves.trans (hevolves₂.trans hlater)⟩, hclaimed₄, ?_, ?_⟩
      · refine .cons hname (hlater.store other source hsource₂)
          (hlater.isUnresolved hsource₂ hresolved) (hbrought.evolves hlater) ?_
        rw [himports.imported] at hbrings
        rw [← hsame]
        exact hbrings
      · intro l u hl hne hu
        have hu₁ := hevolves.store l u hu
        have hu₂ := hevolves₂.store l u hu₁
        have hnumber : u.number ≠ t.number := fun heq => hne (hsound₂.at_most_one ht₂ hu₂ heq)
        rw [hkept l u hl hne (hevolves₃.store l u hu₂), himports.others u hnumber,
          hothers l u hl hu₁, World.linksOf_congr hlinks]
    exact hlast

/-- So the tags of a template bring what they should, if those of its sources do. -/
theorem Sound.run_mergeImports_of {c : Context} {patience : Patience} {depth : Nat}
    (hmerges : ∀ (busy : String → Prop) w other source, env.Sound sources busy w →
      w.store.find? other = some source →
      (∀ l, busy l → Relation.TransGen (sources.Uses env.options) l other) →
      (env.answer patience depth (.mergeImports source c) w).Ends
        (env.Merges sources busy source w) (fun _ => False) True)
    (h : env.Sound sources busy w) (ht : w.store.find? locator = some t)
    (hpath : ∀ l, busy l → Relation.TransGen (sources.Uses env.options) l locator) :
    (env.run patience depth (t.mergeImports c).run w).Ends (env.Merges sources busy t w)
      (fun _ => False) True := by
  cases hopen : w.isUnresolved t with
  | false =>
    rw [env.run_mergeImports_resolved hopen]
    exact ⟨rfl, ⟨h, .refl w⟩, hopen, fun _ _ _ _ => rfl⟩
  | true =>
    have hidle : ¬ busy locator := fun hbusy => hcoherent.acyclic locator (hpath locator hbusy)
    obtain ⟨hclaimed, hevolves⟩ := h.claim ht
    have hmine : ((w.modifyLinks t fun l => { l with claimed := true }).linksOf t)
        = { w.linksOf t with claimed := true } := w.linksOf_modifyLinks_self t _
    obtain ⟨-, hfree⟩ := World.isUnresolved_iff.mp hopen
    have hpath' (l : String) (hl : busy l ∨ l = locator) :
        Relation.ReflTransGen (sources.Uses env.options) l locator := by
      rcases hl with hl | rfl
      · exact (hpath l hl).to_reflTransGen
      · exact .refl
    have heach := hclaimed.run_mergeEach henv hdelivers hcoherent
      (fun w other source hw hsource huses => hmerges _ w other source hw hsource
        fun l hl => Relation.TransGen.tail' (hpath' l hl) huses)
      (.inr rfl) hpath' (fun _ hi => hi) ht (congrArg Links.claimed hmine)
    rw [env.run_mergeImports_unresolved hopen]
    refine heach.bind fun r after hafter => ?_
    obtain ⟨rfl, ⟨hsound, hlater⟩, hdone, hbrings, hkept⟩ := hafter
    have ht' := hlater.store locator t ht
    refine ⟨rfl, ⟨hsound.settle fun u hu => ?_, hevolves.trans hlater⟩, ?_, fun l u hl hu => ?_⟩
    · obtain rfl := Option.some.inj (ht'.symm.trans hu)
      rw [hmine, h.untouched locator t ht hfree] at hbrings
      exact hbrings
    · exact World.isUnresolved_of_claimed hdone
    · have hne : l ≠ locator := by
        rintro rfl
        exact hidle hl
      have hnumber : t.number ≠ u.number := fun heq => hne (h.at_most_one ht hu heq.symm)
      rw [hkept l u (.inl hl) hne hu, w.linksOf_modifyLinks_of_ne hnumber]

/-- **The `use` tags of a stored template bring what they should.**  It does not matter which
templates have been stored and whose tags have been resolved before, nor from where this one is
reached, as long as it is not busy itself. -/
theorem Sound.run_mergeImports (patience : Patience) (depth : Nat) {busy : String → Prop}
    {w : World} {locator : String} {t : Template} (h : env.Sound sources busy w)
    (ht : w.store.find? locator = some t)
    (hpath : ∀ l, busy l → Relation.TransGen (sources.Uses env.options) l locator) (c : Context) :
    (env.run patience depth (t.mergeImports c).run w).Ends (env.Merges sources busy t w)
      (fun _ => False) True := by
  induction depth generalizing busy w locator t with
  | zero =>
    refine h.run_mergeImports_of henv hdelivers hcoherent (fun busy w other source _ _ _ => ?_) ht
      hpath
    rw [env.answer_errand_zero patience rfl]
    trivial
  | succ depth ih =>
    refine h.run_mergeImports_of henv hdelivers hcoherent
      (fun busy w other source hw hsource hother => ?_) ht hpath
    rw [env.answer_errand_succ patience depth rfl]
    exact cast (congrArg _ (Outcome.map_id _).symm) (ih hw hsource hother)

end
end Environment

/-! ## The fold over the tags -/

namespace World
variable (w : World) (t : Template)

/-- The template that a `use` tag of the template names, if it is stored. -/
def used? (i : BlockImport) : Option Template :=
  match i.expression with
  | [.string name] => w.store.find? (Locator.resolveString t.options.namespaces t.base name)
  | _ => none

/-- The blocks that the `use` tags of the template bring, from left to right: of each named template
those that are imported into it, overlaid by those that it defines, under their new names. -/
def usedBlocks : Dict Block :=
  t.blockImports.foldl (fun d i => match w.used? t i with
    | some source => i.importInto d ((w.linksOf source).imported.merge source.definedBlocks)
    | none => d) []

/-- The imports of the template are what its tags bring, whose templates are all stored, and their
own tags are resolved. -/
def Merged : Prop :=
  (w.linksOf t).imported = w.usedBlocks t ∧
    ∀ i ∈ t.blockImports, ∃ source, w.used? t i = some source ∧ w.isUnresolved source = false

end World

namespace Environment
variable {env : Environment} {sources : Dict String} {w : World} {locator : String} {t : Template}

theorem Sound.eq_usedBlocks (h : env.Sound sources (fun _ => False) w)
    (ht : w.store.find? locator = some t) (hresolved : w.isUnresolved t = false) :
    w.Merged t := by
  have hfold {imports : List BlockImport} {d e : Dict Block} (hbrings : t.Brings w imports d e) :
      e = imports.foldl (fun d i => match w.used? t i with
        | some source => i.importInto d ((w.linksOf source).imported.merge source.definedBlocks)
        | none => d) d ∧
      ∀ i ∈ imports, ∃ source, w.used? t i = some source ∧ w.isUnresolved source = false := by
    clear ht hresolved
    induction hbrings with
    | nil => exact ⟨rfl, List.forall_mem_nil _⟩
    | @cons t source i rest name brought d e hname hsource hresolved hbrought _ _ ih =>
      have hused : w.used? t i = some source := by
        rw [World.used?, hname]
        exact hsource
      -- the blocks of the named template are those that its own tags bring
      obtain rfl := hbrought.unique (h.merged _ source hsource id hresolved)
      rw [List.foldl_cons, hused]
      exact ⟨ih.1, List.forall_mem_cons.mpr ⟨⟨source, hused, hresolved⟩, ih.2⟩⟩
  exact hfold (h.merged locator t ht id hresolved)

end Environment
end Stencil
