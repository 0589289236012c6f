import Mathlib.Data.Finset.Card
import Mathlib.Data.Finset.Filter
import Mathlib.Data.Finset.Lattice.Lemmas
import Stencil.Proofs.Inheritance.Imports
import Stencil.Proofs.Inheritance.Uses

/-!
# How often `use` tags are resolved

Whoever resolves the `use` tags of a template claims them first.  So along `use` tags that lead from
one template to another nobody meets a template twice, in whatever graph they lie: one that is met
again is claimed, and there is nothing to do.  What decreases with each claim is the number of
locators that are open, where no template is stored yet or one that nobody has claimed, and a run
comes to its end with that many levels of answers (`Environment.frugal_mergeImports`).

The claims of a run are listed beside it as its events are (`Environment.grants`).  A failure gives
claims back, but it ends the whole run, so that nobody claims them anew in this run.
-/
namespace Stencil

/-! ## What is claimed -/

/-- The template whose `use` tags are to be resolved by the one who asks. -/
def Request.granted (w : World) : Request → List Template
  | .claimImports t => if w.isUnresolved t then [t] else []
  | _ => []

/-- The templates whose `use` tags are resolved in a run of the program, in order, given those for
which that is done inside the answers. -/
def Program.grantsWith {α : Type} (answer : (r : Request) → World → Outcome r.Answer)
    (inside : Request → World → List Template) : Program α → World → List Template
  | .done _, _ => []
  | .ask r next, w =>
    r.granted w ++ inside r w ++ match answer r w with
      | .done a after => grantsWith answer inside (next a) after
      | .pending _ | .tooDeep => []

namespace Environment
variable (env : Environment) (patience : Patience)

/-- The templates whose `use` tags are resolved inside the answer to a request. -/
def grantsInside : Nat → Request → World → List Template
  | 0, _, _ => []
  | depth + 1, r, w =>
    match env.errand? r with
    | some e => e.program.grantsWith (env.answer patience depth) (grantsInside depth) w
    | none => []

/-- The templates whose `use` tags are resolved in a run, once for each time. -/
def grants {α : Type} (depth : Nat) (p : Program α) (w : World) : List Template :=
  p.grantsWith (env.answer patience depth) (env.grantsInside patience depth) w

section
variable {α β : Type} {depth : Nat} {w : World}

theorem grants_ask (r : Request) (next : r.Answer → Program α) :
    env.grants patience depth (.ask r next) w
      = r.granted w ++ env.grantsInside patience depth r w ++
        match env.answer patience depth r w with
        | .done a after => env.grants patience depth (next a) after
        | .pending _ | .tooDeep => [] := by
  rw [grants, Program.grantsWith]
  rfl

theorem grants_bind (p : Program α) (f : α → Program β) :
    env.grants patience depth (p >>= f) w
      = env.grants patience depth p w ++ match env.run patience depth p w with
        | .done a after => env.grants patience depth (f a) after
        | .pending _ | .tooDeep => [] := by
  induction p generalizing w with
  | done a => rfl
  | ask r next ih =>
    rw [Program.ask_bind, grants_ask, grants_ask]
    cases ha : env.answer patience depth r w with
    | done a after =>
      rw [env.run_ask_done patience depth ha]
      simp only [ih, List.append_assoc]
    | pending after =>
      rw [env.run_ask_pending patience depth ha]
      simp only [List.append_nil]
    | tooDeep =>
      rw [env.run_ask_tooDeep patience depth ha]
      simp only [List.append_nil]

theorem grants_attempt_bind (p : Attempt α) (f : α → Attempt β) :
    env.grants patience depth (p >>= f).run w
      = env.grants patience depth p.run w ++ match env.run patience depth p.run w with
        | .done (.ok a) between => env.grants patience depth (f a).run between
        | .done (.error _) _ | .pending _ | .tooDeep => [] := by
  refine (env.grants_bind patience p.run _).trans ?_
  cases env.run patience depth p.run w with
  | done r between => cases r <;> rfl
  | pending between | tooDeep => rfl

theorem grants_tryCatch (p : Attempt α) (handle : Failure → Attempt α) :
    env.grants patience depth (tryCatch p handle).run w
      = env.grants patience depth p.run w ++ match env.run patience depth p.run w with
        | .done (.error failure) after => env.grants patience depth (handle failure).run after
        | .done (.ok _) _ | .pending _ | .tooDeep => [] := by
  refine (env.grants_bind patience p.run _).trans ?_
  cases env.run patience depth p.run w with
  | done r after => cases r <;> rfl
  | pending after | tooDeep => rfl

theorem grantsInside_onTheSpot {r : Request} (he : env.errand? r = none) :
    env.grantsInside patience depth r w = [] := by
  cases depth with
  | zero => rfl
  | succ depth => rw [grantsInside, he]

theorem grantsInside_errand {r : Request} {e : Errand r} (he : env.errand? r = some e) :
    env.grantsInside patience (depth + 1) r w = env.grants patience depth e.program w := by
  rw [grantsInside, he]
  rfl

/-- Who asks for nothing by which tags are resolved resolves none. -/
theorem grants_of_meets {C : Contract} {post : α → Prop} {p : Program α} (h : p.Meets C post)
    (hanswers : ∀ r a, C.answers r a) (hasks : ∀ r w, C.asks r →
      r.granted w = [] ∧ env.grantsInside patience depth r w = []) :
    env.grants patience depth p w = [] := by
  induction p generalizing w with
  | done a => rfl
  | ask r next ih =>
    obtain ⟨hgranted, hinside⟩ := hasks r w h.1
    rw [grants_ask, hgranted, hinside]
    cases env.answer patience depth r w with
    | done a after => exact ih a (h.2 a (hanswers r a))
    | pending after | tooDeep => rfl

theorem grants_journal {waits : Prop} {post : α → Prop} {p : Program α}
    (h : p.Meets (.journal waits) post) : env.grants patience depth p w = [] := by
  refine env.grants_of_meets patience h (fun _ _ => trivial) fun r w hasks => ?_
  cases r with
  | note | wait => exact ⟨rfl, env.grantsInside_onTheSpot patience rfl⟩
  | _ => exact hasks.elim

variable {env} {sources : Dict String} in
/-- To find a template resolves no tags. -/
theorem grants_resolve (henv : env.Supplies sources) (name : String) (base : Option String)
    (options : Options) :
    env.grants patience depth (Template.resolve name base options).run w = [] := by
  let C : Contract := ⟨fun r => r.Seeks ∨ r.Caches, fun _ _ => True, fun _ => True⟩
  have h : (Template.resolve name base options).run.Meets C fun _ => True :=
    Template.meets_resolve (fun _ => Or.inl) (fun _ _ => Or.inr trivial) name base options
  refine env.grants_of_meets patience h (fun _ _ => trivial) fun r w hasks => ?_
  cases r with
  | fresh | report | stored | store | cached | writeCache =>
    exact ⟨rfl, env.grantsInside_onTheSpot patience rfl⟩
  | load locator =>
    refine ⟨rfl, ?_⟩
    cases depth with
    | zero => rfl
    | succ depth =>
      rw [env.grantsInside_errand patience rfl]
      exact env.grants_journal patience (henv.load locator)
  | _ => exact (hasks.elim id id).elim

end

section
variable {depth : Nat} {t : Template} {c : Context} {w : World}

theorem grants_mergeImports_resolved (h : w.isUnresolved t = false) :
    env.grants patience depth (t.mergeImports c).run w = [] := by
  have hclaim := env.answer_claimImports patience depth t w
  rw [h, if_neg Bool.false_ne_true] at hclaim
  refine (env.grants_ask patience _ _).trans ?_
  rw [hclaim, env.grantsInside_onTheSpot patience rfl, Request.granted, h]
  rfl

theorem grants_mergeImports_unresolved (h : w.isUnresolved t = true) :
    env.grants patience depth (t.mergeImports c).run w
      = t :: env.grants patience depth
          (Rendering.resultIn (Scope.start t c) (t.mergeEach t.blockImports)).run
          (w.modifyLinks t fun l => { l with claimed := true }) := by
  have hclaim := env.answer_claimImports patience depth t w
  rw [h, if_pos rfl] at hclaim
  refine (env.grants_ask patience _ _).trans ?_
  rw [hclaim, env.grantsInside_onTheSpot patience rfl, Request.granted, h]
  refine congrArg (t :: ·) ((env.grants_tryCatch patience _ _).trans ?_)
  -- to give the tags back after a failure resolves nothing
  cases env.run patience depth (Rendering.resultIn (Scope.start t c)
      (t.mergeEach t.blockImports)).run (w.modifyLinks t fun l => { l with claimed := true }) with
  | done r after =>
    cases r with
    | ok _ => exact List.append_nil _
    | error failure =>
      have hrelease : env.grants patience depth (do
          Program.request (.releaseImports t); throw failure : Attempt Unit).run after = [] := by
        refine (env.grants_ask patience _ _).trans ?_
        rw [env.grantsInside_onTheSpot patience rfl, env.answer_onTheSpot patience depth rfl]
        rfl
      exact (congrArg (_ ++ ·) hrelease).trans (List.append_nil _)
  | pending after | tooDeep => exact List.append_nil _

end
end Environment

/-! ## States in which tags are resolved -/

namespace World
variable (w : World)

/-- No template is stored for the locator, or one whose `use` tags are still to be resolved. -/
def isOpen (locator : String) : Bool := (w.store.find? locator).all w.isUnresolved

/-- The other state has the same templates stored, and the same claimed, and maybe more. -/
structure Advances (after : World) : Prop where
  store : ∀ locator t, w.store.find? locator = some t → after.store.find? locator = some t
  claimed : ∀ t : Template, (w.linksOf t).claimed = true → (after.linksOf t).claimed = true

variable {w} {mid after : World}

theorem Advances.refl : w.Advances w := ⟨fun _ _ h => h, fun _ h => h⟩

theorem Advances.trans (h : w.Advances mid) (h' : mid.Advances after) : w.Advances after :=
  ⟨fun locator t ht => h'.store locator t (h.store locator t ht),
    fun t ht => h'.claimed t (h.claimed t ht)⟩

theorem Advances.isUnresolved (h : w.Advances after) {t : Template}
    (ht : w.isUnresolved t = false) : after.isUnresolved t = false := by
  exact isUnresolved_mono (h.claimed t) ht

theorem Advances.isOpen (h : w.Advances after) {locator : String}
    (ho : after.isOpen locator = true) : w.isOpen locator = true := by
  rw [World.isOpen, Option.all_eq_true] at ho ⊢
  intro t ht
  by_contra hresolved
  have hopen := ho t (h.store locator t ht)
  rw [h.isUnresolved (Bool.not_eq_true _ ▸ hresolved)] at hopen
  cases hopen

theorem Advances.unclaimed (h : w.Advances after) {t : Template}
    (ht : (after.linksOf t).claimed = false) : (w.linksOf t).claimed = false := by
  by_contra hclaimed
  rw [h.claimed t (Bool.not_eq_false _ ▸ hclaimed)] at ht
  cases ht

theorem claim_advances (t : Template) :
    w.Advances (w.modifyLinks t fun l => { l with claimed := true }) := by
  refine ⟨fun _ _ h => h, fun u hu => ?_⟩
  rw [linksOf_modifyLinks]
  split
  · rfl
  · exact hu

/-- How many of the locators are open. -/
def countOpen (w : World) (known : Finset String) : Nat :=
  (known.filter fun locator => w.isOpen locator).card

theorem Advances.countOpen_le (h : w.Advances after) (known : Finset String) :
    after.countOpen known ≤ w.countOpen known :=
  Finset.card_le_card fun _ hmem => by
    rw [Finset.mem_filter] at hmem ⊢
    exact ⟨hmem.1, h.isOpen hmem.2⟩

/-- Who claims a stored template has one locator less in front of him. -/
theorem countOpen_claim_lt {known : Finset String} {locator : String} {t : Template}
    (hmem : locator ∈ known) (ht : w.store.find? locator = some t)
    (hopen : w.isUnresolved t = true) :
    (w.modifyLinks t fun l => { l with claimed := true }).countOpen known < w.countOpen known := by
  have hbefore : w.isOpen locator = true := by
    rw [isOpen, ht]
    exact hopen
  have hbehind : (w.modifyLinks t fun l => { l with claimed := true }).isOpen locator = false := by
    have hsame : (w.modifyLinks t fun l => { l with claimed := true }).store.find? locator
        = some t := ht
    rw [isOpen, hsame, Option.all_some]
    exact isUnresolved_of_claimed (congrArg Links.claimed (w.linksOf_modifyLinks_self t _))
  refine Finset.card_lt_card (Finset.ssubset_iff_subset_ne.mpr ⟨fun l hl => ?_, fun heq => ?_⟩)
  · rw [Finset.mem_filter] at hl ⊢
    exact ⟨hl.1, (claim_advances t).isOpen hl.2⟩
  · have hmember := heq.symm ▸ Finset.mem_filter.mpr ⟨hmem, hbefore⟩
    have hstill := (Finset.mem_filter.mp hmember).2
    rw [hbehind] at hstill
    cases hstill

end World

/-- The `use` tags of all stored templates name templates by texts, and what is cached for others
stands for the sources. -/
structure Environment.Tidy (env : Environment) (sources : Dict String) (known : Finset String)
    (w : World) : Prop where
  mirrors : env.Mirrors sources w
  stored : ∀ locator t, w.store.find? locator = some t →
    locator ∈ known ∧ Node.UsesByName t.nodes

namespace Environment
variable {env : Environment} {sources : Dict String} {known : Finset String} {w after : World}

theorem Tidy.of_links (h : env.Tidy sources known w) (hstore : after.store = w.store)
    (hcache : after.cache = w.cache) : env.Tidy sources known after where
  mirrors := by
    rw [Mirrors, hstore, hcache]
    exact h.mirrors
  stored := by
    rw [hstore]
    exact h.stored

section
variable (hknown : ∀ locator source, sources.find? locator = some source → locator ∈ known)
  (hnamed : ∀ locator source nodes, sources.find? locator = some source →
    Node.ofSource source = .ok nodes → Node.UsesByName nodes)
include hknown hnamed

theorem Tidy.of_gains (h : env.Tidy sources known w) {options : Options} {locator : String}
    {t : Template} (ht : env.Gains sources options locator w t after)
    (hnone : w.store.find? locator = none) :
    env.Tidy sources known after ∧ w.Advances after := by
  obtain ⟨source, hsource, -, hnodes⟩ := ht.source
  have hlinks (u : Template) : after.linksOf u = w.linksOf u := World.linksOf_congr ht.links u
  refine ⟨⟨h.mirrors.of_gains ht, fun other u hu => ?_⟩, fun other u hu => ?_,
    fun u hu => (hlinks u).symm ▸ hu⟩
  · rw [ht.store, Dict.find?_insert] at hu
    split at hu
    · next heq =>
      obtain rfl := Option.some.inj hu
      refine ⟨heq ▸ hknown locator source hsource, ?_⟩
      rcases hnodes with hnodes | ⟨_, -, hempty, -⟩
      · exact hnamed locator source _ hsource hnodes
      · rw [show t.nodes = [] from hempty]
        exact List.forall_mem_nil _
    · exact h.stored other u hu
  · rw [ht.store, Dict.find?_insert, if_neg]
    · exact hu
    · rintro rfl
      cases hnone.symm.trans hu

/-- A template that is found is stored, and the state is as tidy as it was. -/
theorem Tidy.of_sought (h : env.Tidy sources known w) {options : Options} {name : String}
    {base : Option String} {t : Template}
    (ht : env.Sought sources options name base w (.ok t) after) :
    (env.Tidy sources known after ∧ w.Advances after) ∧
      ∃ locator, after.store.find? locator = some t := by
  unfold Sought at ht
  split at ht
  · next u hu =>
    obtain ⟨hsame, rfl⟩ := ht
    obtain rfl := Except.ok.inj hsame
    refine ⟨⟨h, .refl⟩, ?_⟩
    rcases Option.or_eq_some_iff.mp hu with hname | ⟨-, hlocator⟩
    · split at hname
      · exact ⟨_, hname⟩
      · cases hname
    · exact ⟨_, hlocator⟩
  · obtain ⟨hnone, -, hgains⟩ := ht
    have hgained := hgains t rfl
    refine ⟨h.of_gains hknown hnamed hgained hnone,
      Locator.resolveString options.namespaces base name, ?_⟩
    rw [hgained.store]
    exact (Dict.find?_insert _ _ _ _).trans (if_pos rfl)

end

/-! ## Once for each template -/

/-- The run comes to an end or is given up, and on its way the `use` tags of a template are resolved
only if they have not been so before, by this run or by others.  If it does not fail, they are
resolved behind it. -/
structure Frugal (env : Environment) (sources : Dict String) (known : Finset String)
    (patience : Patience) (depth : Nat) {α : Type} (p : Attempt α) (post : α → World → Prop)
    (w : World) : Prop where
  ends : env.run patience depth p.run w ≠ .tooDeep
  once : ((env.grants patience depth p.run w).map Template.number).Nodup
  unclaimed : ∀ t ∈ env.grants patience depth p.run w, (w.linksOf t).claimed = false
  goesOn : ∀ a after, env.run patience depth p.run w = .done (.ok a) after →
    env.Tidy sources known after ∧ w.Advances after ∧ post a after ∧
      ∀ t ∈ env.grants patience depth p.run w, (after.linksOf t).claimed = true

section
variable {patience : Patience} {depth : Nat} {α β : Type}

theorem Frugal.of_ends {p : Attempt α} {post : α → World → Prop}
    (hnone : env.grants patience depth p.run w = [])
    (h : (env.run patience depth p.run w).Ends (fun r after => ∀ a, r = .ok a →
      (env.Tidy sources known after ∧ w.Advances after) ∧ post a after) (fun _ => True) False) :
    env.Frugal sources known patience depth p post w := by
  refine ⟨fun hdeep => ?_, ?_, ?_, fun a after hrun => ?_⟩
  · rw [hdeep] at h
    exact h
  · rw [hnone]
    exact List.nodup_nil
  · rw [hnone]
    exact List.forall_mem_nil _
  · rw [hrun] at h
    obtain ⟨⟨htidy, hadvances⟩, hpost⟩ := h a rfl
    rw [hnone]
    exact ⟨htidy, hadvances, hpost, List.forall_mem_nil _⟩

/-- What stops where the program does, short of a value, resolves no more than the program. -/
theorem Frugal.of_stopped {p : Attempt α} {q : Attempt β} {mid : α → World → Prop}
    {post : β → World → Prop} (h : env.Frugal sources known patience depth p mid w)
    (hgrants : env.grants patience depth q.run w = env.grants patience depth p.run w)
    (hends : env.run patience depth q.run w ≠ .tooDeep)
    (hstops : ∀ b after, env.run patience depth q.run w ≠ .done (.ok b) after) :
    env.Frugal sources known patience depth q post w :=
  ⟨hends, hgrants ▸ h.once, hgrants ▸ h.unclaimed, fun b after hb => absurd hb (hstops b after)⟩

theorem Frugal.bind {p : Attempt α} {f : α → Attempt β} {mid : α → World → Prop}
    {post : β → World → Prop} (h : env.Frugal sources known patience depth p mid w)
    (hf : ∀ a between, env.Tidy sources known between → w.Advances between → mid a between →
      env.Frugal sources known patience depth (f a) post between) :
    env.Frugal sources known patience depth (p >>= f) post w := by
  have hgrants := @Environment.grants_attempt_bind env patience _ _ depth w p f
  have hrun : env.run patience depth (p >>= f).run w = _ := Program.runWith_attempt_bind p f w
  cases hp : env.run patience depth p.run w with
  | tooDeep => exact absurd hp h.ends
  | pending between =>
    have hstop := hrun.trans (congrArg (Outcome.andThen · _) hp)
    rw [hp, List.append_nil] at hgrants
    refine h.of_stopped hgrants ?_ ?_ <;> rw [hstop] <;> exact nofun
  | done r between =>
    cases r with
    | error failure =>
      have hstop := hrun.trans (congrArg (Outcome.andThen · _) hp)
      rw [hp, List.append_nil] at hgrants
      refine h.of_stopped hgrants ?_ ?_ <;> rw [hstop] <;> exact nofun
    | ok a =>
      have hrun : env.run patience depth (p >>= f).run w
          = env.run patience depth (f a).run between :=
        hrun.trans (congrArg (Outcome.andThen · _) hp)
      rw [hp] at hgrants
      obtain ⟨htidy, hadvances, hmid, hclaimed⟩ := h.goesOn a between hp
      have hnext := hf a between htidy hadvances hmid
      -- what the second part resolves is not claimed behind the first
      have hapart : ∀ t ∈ env.grants patience depth p.run w,
          ∀ u ∈ env.grants patience depth (f a).run between, t.number ≠ u.number := by
        intro t ht u hu hsame
        have hfree := hnext.unclaimed u hu
        rw [← between.linksOf_of_number hsame, hclaimed t ht] at hfree
        cases hfree
      refine ⟨hrun ▸ hnext.ends, ?_, fun t ht => ?_, fun b after hb => ?_⟩
      · rw [hgrants, List.map_append, List.nodup_append]
        refine ⟨h.once, hnext.once, fun n hn n' hn' => ?_⟩
        obtain ⟨t, ht, rfl⟩ := List.mem_map.mp hn
        obtain ⟨u, hu, rfl⟩ := List.mem_map.mp hn'
        exact hapart t ht u hu
      · rw [hgrants, List.mem_append] at ht
        exact ht.elim (h.unclaimed t) fun ht => hadvances.unclaimed (hnext.unclaimed t ht)
      · obtain ⟨htidy', hadvances', hpost, hclaimed'⟩ := hnext.goesOn b after (hrun.symm.trans hb)
        refine ⟨htidy', hadvances.trans hadvances', hpost, fun t ht => ?_⟩
        rw [hgrants, List.mem_append] at ht
        exact ht.elim (fun ht => hadvances'.claimed t (hclaimed t ht)) (hclaimed' t)

end

/-! ## Resolving -/

section
variable {patience : Patience} {depth : Nat} (henv : env.Supplies sources)
  (hknown : ∀ locator source, sources.find? locator = some source → locator ∈ known)
  (hnamed : ∀ locator source nodes, sources.find? locator = some source →
    Node.ofSource source = .ok nodes → Node.UsesByName nodes)
include henv hknown hnamed

theorem frugal_resolve (hw : env.Tidy sources known w) (name : String) (base : Option String)
    (options : Options) :
    env.Frugal sources known patience (depth + 1) (Template.resolve name base options)
      (fun t after => ∃ locator, after.store.find? locator = some t) w := by
  refine .of_ends (env.grants_resolve patience henv name base options) ?_
  refine (run_resolve_ends henv hw.mirrors name base).mono (fun r after h => ?_)
    (fun _ _ => trivial) (Nat.succ_ne_zero depth)
  rintro t rfl
  exact hw.of_sought hknown hnamed h

omit henv hknown hnamed in
theorem advances_of_imports {t : Template} {imported : Dict Block}
    (h : w.Imports t imported after) : w.Advances after := by
  refine ⟨fun _ _ hu => h.store.symm ▸ hu, fun u hu => ?_⟩
  by_cases hsame : u.number = t.number
  · rw [World.linksOf_of_number _ hsame] at hu ⊢
    exact h.claimed.trans hu
  · rw [h.others u hsame]
    exact hu

omit henv hknown hnamed in
/-- To look at links and to import blocks is no claim. -/
theorem frugal_importBlocks (hw : env.Tidy sources known w) (t source : Template)
    (i : BlockImport) : env.Frugal sources known patience depth (do
      let links ← (Program.request (.links source) : Program Links)
      t.importBlocks i (links.imported.merge source.definedBlocks) : Attempt Unit)
      (fun _ _ => True) w := by
  refine .of_ends ?_ ?_
  · let C : Contract := ⟨fun | .links _ | .importBlock .. => True | _ => False,
      fun _ _ => True, fun _ => True⟩
    have himport (blocks : List (String × Block)) :
        (t.importBlocks i blocks : Attempt Unit).run.Meets C fun _ => True :=
      (Template.meets_importBlocks (fun _ _ => trivial) i blocks).bind fun _ _ => trivial
    have hmeets : (do
        let links ← (Program.request (.links source) : Program Links)
        t.importBlocks i (links.imported.merge source.definedBlocks) : Attempt Unit).run.Meets C
        fun _ => True := ⟨trivial, fun links _ => himport _⟩
    refine env.grants_of_meets patience hmeets (fun _ _ => trivial) fun r w hasks => ?_
    cases r with
    | links | importBlock => exact ⟨rfl, env.grantsInside_onTheSpot patience rfl⟩
    | _ => exact hasks.elim
  · refine (run_importFrom t source i w).mono (fun _ after h => ?_) (fun _ h => h) id
    exact fun _ _ => ⟨⟨hw.of_links h.2.store h.2.cache, advances_of_imports h.2⟩, trivial⟩

omit henv hknown hnamed in
/-- Where the tags are resolved there is nothing to do. -/
theorem frugal_resolved (hw : env.Tidy sources known w) {t : Template}
    (ht : w.isUnresolved t = false) (c : Context) :
    env.Frugal sources known patience depth (t.mergeImports c) (fun _ _ => True) w := by
  refine .of_ends (env.grants_mergeImports_resolved patience ht) ?_
  rw [env.run_mergeImports_resolved ht]
  exact fun _ _ => ⟨⟨hw, .refl⟩, trivial⟩

omit henv hknown hnamed in
/-- To ask for it takes one level more. -/
theorem Frugal.request {source : Template} {c : Context} {post : Unit → World → Prop}
    (h : env.Frugal sources known patience depth (source.mergeImports c) post w) :
    env.Frugal sources known patience (depth + 1)
      (ExceptT.mk (Program.request (.mergeImports source c))) post w := by
  have hanswer := (env.answer_errand_succ patience depth (r := .mergeImports source c) rfl w).trans
    (Outcome.map_id _)
  have hrun : env.run patience (depth + 1)
      (ExceptT.mk (Program.request (.mergeImports source c)) : Attempt Unit).run w
      = env.run patience depth (source.mergeImports c).run w :=
    (env.run_request patience (depth + 1) _ w).trans hanswer
  have hgrants : env.grants patience (depth + 1)
      (ExceptT.mk (Program.request (.mergeImports source c)) : Attempt Unit).run w
      = env.grants patience depth (source.mergeImports c).run w := by
    refine (env.grants_ask patience _ _).trans ?_
    rw [env.grantsInside_errand patience rfl]
    cases env.answer patience (depth + 1) (.mergeImports source c) w <;> exact List.append_nil _
  refine ⟨hrun ▸ h.ends, hgrants ▸ h.once, hgrants ▸ h.unclaimed, ?_⟩
  rw [hrun, hgrants]
  exact h.goesOn

/-- One tag after the other, if the tags of the sources can be resolved one level deeper. -/
theorem frugal_mergeEach {t : Template} {c : Context} {most : Nat}
    (hsource : ∀ (w : World) (locator : String) (source : Template), env.Tidy sources known w →
      w.store.find? locator = some source → w.countOpen known ≤ most →
      env.Frugal sources known patience depth (source.mergeImports c) (fun _ _ => True) w)
    {imports : List BlockImport}
    (himports : ∀ i ∈ imports, ∃ name, i.expression = [.string name])
    (hw : env.Tidy sources known w) (hmost : w.countOpen known ≤ most) :
    env.Frugal sources known patience (depth + 1)
      (Rendering.resultIn (Scope.start t c) (t.mergeEach imports)) (fun _ _ => True) w := by
  induction imports generalizing w with
  | nil => exact .of_ends rfl fun _ _ => ⟨⟨hw, .refl⟩, trivial⟩
  | cons i rest ih =>
    obtain ⟨⟨name, hname⟩, hrest⟩ := List.forall_mem_cons.mp himports
    have hstep (source : Template) (w : World) (hw : env.Tidy sources known w)
        (hmost : w.countOpen known ≤ most) :
        env.Frugal sources known patience (depth + 1) ((do
          let links ← (Program.request (.links source) : Program Links)
          t.importBlocks i (links.imported.merge source.definedBlocks) : Attempt Unit) >>= fun _ =>
          Rendering.resultIn (Scope.start t c) (t.mergeEach rest)) (fun _ _ => True) w :=
      (frugal_importBlocks hw t source i).bind fun _ after htidy hadvances _ =>
        ih hrest htidy ((hadvances.countOpen_le known).trans hmost)
    rw [t.resultIn_mergeEach_cons c hname]
    refine (frugal_resolve henv hknown hnamed hw name t.base t.options).bind
      fun source found hfound hadvances hstored => ?_
    obtain ⟨locator, hlocator⟩ := hstored
    have hfew := (hadvances.countOpen_le known).trans hmost
    refine (hsource found locator source hfound hlocator hfew).request.bind
      fun _ merged hmerged hadvances _ => ?_
    exact hstep source merged hmerged ((hadvances.countOpen_le known).trans hfew)

omit henv hknown hnamed in
/-- Who has claimed a template goes through its tags. -/
theorem Frugal.claimed {t : Template} {c : Context} (hopen : w.isUnresolved t = true)
    (h : env.Frugal sources known patience depth
      (Rendering.resultIn (Scope.start t c) (t.mergeEach t.blockImports)) (fun _ _ => True)
      (w.modifyLinks t fun l => { l with claimed := true })) :
    env.Frugal sources known patience depth (t.mergeImports c) (fun _ _ => True) w := by
  have hadvances := World.claim_advances (w := w) t
  have hrun : env.run patience depth (t.mergeImports c).run w = _ :=
    env.run_mergeImports_unresolved hopen
  have hgrants : env.grants patience depth (t.mergeImports c).run w = _ :=
    env.grants_mergeImports_unresolved patience hopen
  have hmine :
      ((w.modifyLinks t fun l => { l with claimed := true }).linksOf t).claimed = true := by
    rw [World.linksOf_modifyLinks_self]
  obtain ⟨-, hfree⟩ := World.isUnresolved_iff.mp hopen
  refine ⟨fun hdeep => ?_, ?_, fun u hu => ?_, fun a after hafter => ?_⟩
  · rw [hrun] at hdeep
    cases hinner : env.run patience depth
        (Rendering.resultIn (Scope.start t c) (t.mergeEach t.blockImports)).run
        (w.modifyLinks t fun l => { l with claimed := true }) with
    | tooDeep => exact h.ends hinner
    | pending between =>
      rw [hinner] at hdeep
      cases hdeep
    | done r between =>
      rw [hinner] at hdeep
      cases r <;> cases hdeep
  · rw [hgrants, List.map_cons, List.nodup_cons]
    refine ⟨fun hmem => ?_, h.once⟩
    obtain ⟨u, hu, hsame⟩ := List.mem_map.mp hmem
    have hother := h.unclaimed u hu
    rw [World.linksOf, hsame] at hother
    cases hother.symm.trans hmine
  · rw [hgrants, List.mem_cons] at hu
    rcases hu with rfl | hu
    · exact hfree
    · exact hadvances.unclaimed (h.unclaimed u hu)
  · rw [hrun] at hafter
    cases hinner : env.run patience depth
        (Rendering.resultIn (Scope.start t c) (t.mergeEach t.blockImports)).run
        (w.modifyLinks t fun l => { l with claimed := true }) with
    | tooDeep | pending between =>
      rw [hinner] at hafter
      cases hafter
    | done r between =>
      rw [hinner] at hafter
      cases r with
      | error failure => cases hafter
      | ok _ =>
        cases hafter
        obtain ⟨htidy, hlater, -, hclaimed⟩ := h.goesOn _ after hinner
        refine ⟨htidy, hadvances.trans hlater, trivial, fun u hu => ?_⟩
        rw [hgrants, List.mem_cons] at hu
        rcases hu with rfl | hu
        · exact hlater.claimed u hmine
        · exact hclaimed u hu

/-- **The `use` tags of a template are resolved once**, and it takes no more levels than there are
templates whose tags are still to be resolved. -/
theorem frugal_mergeImports (hw : env.Tidy sources known w) {t : Template}
    (ht : Node.UsesByName t.nodes) (c : Context) (hdepth : w.isUnresolved t = true →
      (w.modifyLinks t fun l => { l with claimed := true }).countOpen known < depth) :
    env.Frugal sources known patience depth (t.mergeImports c) (fun _ _ => True) w := by
  induction depth generalizing w t with
  | zero =>
    cases hopen : w.isUnresolved t with
    | true => exact absurd (hdepth hopen) (Nat.not_lt_zero _)
    | false => exact frugal_resolved hw hopen c
  | succ depth ih =>
    cases hopen : w.isUnresolved t with
    | false => exact frugal_resolved hw hopen c
    | true =>
      have hclaimed :
          env.Tidy sources known (w.modifyLinks t fun l => { l with claimed := true }) :=
        hw.of_links rfl rfl
      refine .claimed hopen (frugal_mergeEach henv hknown hnamed
        (fun w locator source hw hsource hmost => ?_) ht hclaimed
        (Nat.le_of_lt_succ (hdepth hopen)))
      obtain ⟨hlocator, hnames⟩ := hw.stored locator source hsource
      refine ih hw hnames fun hsourceOpen => ?_
      exact (World.countOpen_claim_lt hlocator hsource hsourceOpen).trans_le hmost

end
end Environment
end Stencil
