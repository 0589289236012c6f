import Stencil.Proofs.Engine.Caching
import Stencil.Proofs.Engine.References
import Stencil.Proofs.Tree.Documents

/-!
# What is stored stays found

A template that is found by its locator is in the store from then on.  So whoever comes to that
locator later on, from whichever template and under whichever settings, is given what is stored
there, and neither the cache nor the loader is asked for it again
(`Environment.resolve_afterwards`).  It is the very same template unless the host compiles another
one of that name.  For this the cache has to hold trees under their own names, since it is by its
name that a tree is stored.
-/
namespace Stencil

/-! ## All that is asked for in a run -/

namespace Program
variable {α : Type} {answer : (r : Request) → World → Outcome r.Answer}

theorem Along.mono {ok ok' : Request → World → Prop} {p : Program α} {w : World}
    (h : p.Along answer ok w) (himp : ∀ r w, ok r w → ok' r w) : p.Along answer ok' w := by
  induction p generalizing w with
  | done a => trivial
  | ask r next ih => exact ⟨himp r w h.1, fun a after ha => ih a (h.2 a after ha)⟩

end Program

namespace Environment

/-- `ok` holds of the request, of all that is asked for inside its answer, and of the states in
which that is done. -/
def WithinAnswer (env : Environment) (patience : Patience) (ok : Request → World → Prop) :
    (depth : Nat) → Request → World → Prop
  | 0, r, w => ok r w
  | depth + 1, r, w => ok r w ∧ ∀ e, env.errand? r = some e →
    e.program.Along (env.answer patience depth) (env.WithinAnswer patience ok depth) w

/-- Whatever is asked for in a run, at all levels: `ok` holds of the request and the state then. -/
def Throughout {α : Type} (env : Environment) (patience : Patience) (depth : Nat)
    (ok : Request → World → Prop) (p : Program α) (w : World) : Prop :=
  p.Along (env.answer patience depth) (env.WithinAnswer patience ok depth) w

section
variable {env : Environment} {patience : Patience} {depth : Nat} {ok ok' : Request → World → Prop}

theorem WithinAnswer.here {r : Request} {w : World}
    (h : env.WithinAnswer patience ok depth r w) : ok r w := by
  cases depth with
  | zero => exact h
  | succ depth => exact h.1

theorem WithinAnswer.mono (himp : ∀ r w, ok r w → ok' r w) {r : Request} {w : World}
    (h : env.WithinAnswer patience ok depth r w) : env.WithinAnswer patience ok' depth r w := by
  induction depth generalizing r w with
  | zero => exact himp r w h
  | succ depth ih => exact ⟨himp r w h.1, fun e he => (h.2 e he).mono fun r w => ih⟩

theorem Throughout.mono {α : Type} {p : Program α} {w : World}
    (h : env.Throughout patience depth ok p w) (himp : ∀ r w, ok r w → ok' r w) :
    env.Throughout patience depth ok' p w :=
  Program.Along.mono h fun _ _ => WithinAnswer.mono himp

/-- The events are what is asked for. -/
theorem events_of_along {α : Type} {heed : Request → Prop} {p : Program α} {w : World}
    (h : p.Along (env.answer patience depth) (fun r w => heed r ∧
      ∀ r' ∈ env.inside patience depth r w, heed r') w) :
    ∀ r ∈ env.events patience depth p w, heed r := by
  induction p generalizing w with
  | done a => exact List.forall_mem_nil _
  | ask r next ih =>
    obtain ⟨⟨hr, hinside⟩, hnext⟩ := h
    cases ha : env.answer patience depth r w with
    | done a after =>
      rw [env.events_ask_done patience depth ha]
      exact List.forall_mem_cons.mpr
        ⟨hr, List.forall_mem_append.mpr ⟨hinside, ih a (hnext a after ha)⟩⟩
    | pending after =>
      rw [env.events_ask_pending patience depth ha]
      exact List.forall_mem_cons.mpr ⟨hr, hinside⟩
    | tooDeep =>
      rw [env.events_ask_tooDeep patience depth ha]
      exact List.forall_mem_cons.mpr ⟨hr, hinside⟩

theorem WithinAnswer.inside {heed : Request → Prop} {r : Request} {w : World}
    (h : env.WithinAnswer patience (fun r _ => heed r) depth r w) :
    ∀ r' ∈ env.inside patience depth r w, heed r' := by
  induction depth generalizing r w with
  | zero => exact List.forall_mem_nil _
  | succ depth ih =>
    cases he : env.errand? r with
    | none =>
      rw [env.inside_onTheSpot patience (depth + 1) he]
      exact List.forall_mem_nil _
    | some e =>
      rw [env.inside_errand patience depth he]
      exact events_of_along ((h.2 e he).mono fun r w hr => ⟨hr.here, ih hr⟩)

theorem Throughout.events {α : Type} {heed : Request → Prop} {p : Program α} {w : World}
    (h : env.Throughout patience depth (fun r _ => heed r) p w) :
    ∀ r ∈ env.events patience depth p w, heed r :=
  events_of_along (Program.Along.mono h fun _ _ hr => ⟨hr.here, hr.inside⟩)

/-- **All that is asked for in a run is in its contract**, and it is asked for in a good state. -/
theorem throughout_of_meets {C : Contract} {good : World → Prop}
    (h : env.Upholds C (fun _ => True) good) {α : Type} {post : α → Prop} {p : Program α}
    (hp : p.Meets C post) {w : World} (hw : good w) :
    env.Throughout patience depth (fun r w => C.asks r ∧ good w) p w := by
  have halong (depth : Nat) {α : Type} {post : α → Prop} {p : Program α} (hp : p.Meets C post)
      {w : World} (hw : good w) :
      p.Along (env.answer patience depth) (fun r w => C.asks r ∧ good w) w := by
    refine (hp.along hw (Program.along_of_forall (fun _ _ => trivial) p w)
      fun r w hasks hw _ a after ha => ?_).1.mono fun r w hr => ⟨hr.1, hr.2.1⟩
    have hleaves := answer_leaves h patience depth hasks trivial (fun _ _ => trivial) hw
    rwa [ha] at hleaves
  -- The programs that are run for answers meet the contract one level deeper.
  have hwithin (depth : Nat) (r : Request) (w : World) (hr : C.asks r) (hw : good w) :
      env.WithinAnswer patience (fun r w => C.asks r ∧ good w) depth r w := by
    induction depth generalizing r w with
    | zero => exact ⟨hr, hw⟩
    | succ depth ih =>
      refine ⟨⟨hr, hw⟩, fun e he => ?_⟩
      exact (halong depth (h.errand r e he hr) hw).mono fun r w hr => ih r w hr.1 hr.2
  exact (halong depth hp hw).mono fun r w hr => hwithin depth r w hr.1 hr.2

end
end Environment

/-! ## The contract -/

/-- The request has to do with the store, or with where its templates come from. -/
def Request.Resolves : Request → Prop
  | .stored _ | .store _ | .cached _ | .writeCache .. | .load _ => True
  | _ => False

/-- The request goes behind the store for the template of a locator. -/
def Request.Fetches (locator : String) : Request → Prop
  | .cached other | .writeCache other _ | .load other => other = locator
  | _ => False

/-- The contract to leave the store, the cache and the loader alone. -/
def Contract.apart : Contract := ⟨fun r => ¬ r.Resolves, fun _ _ => True, fun _ => True⟩

/-- The contract to store templates under the names that their references start from, and trees
under their own names. Nothing is fetched for names under which something is `stored`, and what is
stored under names that are `kept` is not replaced. -/
def Contract.storing (stored kept : String → Prop) : Contract where
  asks
    | .cached locator | .load locator => ¬ stored locator
    | .writeCache locator tree => ¬ stored locator ∧ tree.id = some locator
    | .store t => t.base = t.id ∧ ∀ name, t.id = some name → ¬ kept name
    | _ => True
  answers
    | .stored name, (found : Option Template) => stored name → found.isSome = true
    | .cached locator, (r : Except Failure (Option CompiledTree)) =>
      ∀ tree, r = .ok (some tree) → tree.id = some locator
    | _, _ => True
  scopes _ := True

namespace Contract
variable {stored kept : String → Prop}

theorem storing_asks {r : Request} (h : ¬ r.Resolves) : (storing stored kept).asks r := by
  cases r with
  | stored | store | cached | writeCache | load => exact (h trivial).elim
  | _ => trivial

theorem storing_make (options : Options) {tree : CompiledTree}
    (h : ∀ name, tree.id = some name → ¬ kept name) :
    (Template.make options tree).Meets (storing stored kept) fun t => t.id = tree.id :=
  ⟨trivial, fun _ _ => ⟨⟨rfl, h⟩, fun _ _ => rfl⟩⟩

theorem storing_compile {id : Option String} (h : ∀ name, id = some name → ¬ kept name)
    (source : String) (options : Options) :
    Attempt.Meets (storing stored kept) (fun t => t.id = id)
      (Template.compile id source options) := by
  unfold Template.compile
  split
  · exact Attempt.meets_lift (storing_make options h)
  · split
    · exact Attempt.meets_throw _
    · exact ⟨trivial, fun _ _ => Attempt.meets_lift (storing_make options h)⟩

/-- What is not stored is fetched and stored. -/
theorem storing_locate (h : ∀ name, kept name → stored name) (locator : String)
    (options : Options) :
    (Template.locate locator options).run.Meets (storing stored kept) fun _ => True := by
  refine ⟨trivial, fun found hfound => ?_⟩
  cases found with
  | some t => trivial
  | none =>
    have hnone : ¬ stored locator := fun hs => Bool.false_ne_true (hfound hs)
    have hkept : ∀ name, some locator = some name → ¬ kept name := by
      rintro name ⟨⟩ hk
      exact hnone (h locator hk)
    have hcached : Attempt.Meets (storing stored kept)
        (fun tree? => ∀ tree, tree? = some tree → tree.id = some locator)
        (ExceptT.mk (Program.request (.cached locator))) :=
      ⟨hnone, fun r hr tree? htree tree hsome => hr tree (htree.trans (congrArg _ hsome))⟩
    have hload : Attempt.Meets (storing stored kept) (fun _ => True)
        (ExceptT.mk (Program.request (.load locator))) := ⟨hnone, fun _ _ _ _ => trivial⟩
    refine Program.Meets.mono (hcached.bind fun tree? htree =>
      (?_ : Attempt.Meets (storing stored kept) (fun _ => True) _)) fun _ _ => trivial
    cases tree? with
    | some tree =>
      have hid : tree.id = some locator := htree tree rfl
      exact Attempt.meets_lift ((storing_make options (hid ▸ hkept)).mono fun _ _ => trivial)
    | none =>
      refine hload.bind fun source _ => (storing_compile hkept source options).bind fun t ht => ?_
      have hwrite : Attempt.Meets (storing stored kept) (fun _ => True)
          (ExceptT.mk (Program.request (.writeCache locator t.toTree))) :=
        ⟨⟨hnone, ht⟩, fun _ _ _ _ => trivial⟩
      exact hwrite.bind fun _ _ => Attempt.meets_pure trivial

theorem storing_resolve (h : ∀ name, kept name → stored name) (name : String)
    (base : Option String) (options : Options) :
    (Template.resolve name base options).run.Meets (storing stored kept) fun _ => True := by
  unfold Template.resolve
  split
  · refine ⟨trivial, fun found _ => ?_⟩
    cases found with
    | some t => trivial
    | none => exact storing_locate h _ options
  · exact storing_locate h _ options

theorem storing_permits (h : ∀ name, kept name → stored name) :
    (storing stored kept).Permits True True where
  storeless r hr := storing_asks (by cases r <;> first | exact id | exact hr.elim)
  resolve := storing_resolve h
  claim _ := trivial
  merge _ _ := ⟨trivial, fun _ _ => trivial⟩
  context _ _ _ := trivial
  autoescape _ _ _ := trivial
  find _ _ _ _ := trivial
  found _ _ _ _ _ _ := trivial
  above _ _ _ _ _ _ := trivial
  foundAbove _ _ _ _ _ _ _ _ := trivial
  after _ _ _ _ _ _ := trivial
  inherit _ _ _ _ := trivial

end Contract

/-! ## The state -/

/-- Each template is stored under its own name, which is also where its references start from. -/
def World.StoresNames (w : World) : Prop :=
  ∀ name t, w.store.find? name = some t → t.id = some name ∧ t.base = some name

/-- What the cache of the host holds for a locator is a tree of that name. -/
def Environment.CachesNames (env : Environment) (entries : Dict Json) : Prop :=
  ∀ locator tree, env.cachedTree entries locator = .ok (some tree) → tree.id = some locator

/-- The extensions of the host and its loader have nothing to do with the store and the cache, and a
tree that is put into the cache under its name comes back with it. -/
structure Environment.Memoizes (env : Environment) : Prop where
  apart : env.Provides .apart fun _ _ => True
  cache : ∀ entries written locator tree, env.CachesNames entries → tree.id = some locator →
    env.cacheTree entries locator tree = .ok written → env.CachesNames written

/-- What is known of a state: something is stored under some names, and under some of these what was
stored before. -/
structure Environment.Holds (env : Environment) (stored kept : String → Prop)
    (before : Dict Template) (w : World) : Prop where
  cache : env.CachesNames w.cache
  names : w.StoresNames
  stored : ∀ name, stored name → (w.store.find? name).isSome = true
  kept : ∀ name, kept name → w.store.find? name = before.find? name

namespace Environment
variable {env : Environment} {stored kept : String → Prop} {before : Dict Template}

theorem Holds.of_store {w after : World} (h : env.Holds stored kept before w)
    (hstore : after.store = w.store) (hcache : env.CachesNames after.cache) :
    env.Holds stored kept before after where
  cache := hcache
  names := by
    rw [World.StoresNames, hstore]
    exact h.names
  stored := by
    rw [hstore]
    exact h.stored
  kept := by
    rw [hstore]
    exact h.kept

theorem Holds.store {w : World} (h : env.Holds stored kept before w) {t : Template}
    (hbase : t.base = t.id) (hkept : ∀ name, t.id = some name → ¬ kept name) :
    env.Holds stored kept before (w.storeTemplate t) := by
  unfold World.storeTemplate
  cases hid : t.id with
  | none => exact h
  | some id =>
    refine ⟨h.cache, fun name u hu => ?_, fun name hs => ?_, fun name hk => ?_⟩
    · rw [Dict.find?_insert] at hu
      split at hu
      · next heq =>
        obtain rfl := heq
        obtain rfl := Option.some.inj hu
        exact ⟨hid, hbase.trans hid⟩
      · exact h.names name u hu
    · rw [Dict.find?_insert]
      split
      · rfl
      · exact h.stored name hs
    · rw [Dict.find?_insert, if_neg fun heq : id = name => hkept id hid (heq ▸ hk)]
      exact h.kept name hk

/-- **What is stored stays stored** whatever templates do. -/
theorem upholds_storing (henv : env.Memoizes) (hsub : ∀ name, kept name → stored name)
    (before : Dict Template) :
    env.Upholds (.storing stored kept) (fun _ => True) (env.Holds stored kept before) where
  errand _ _ he _ := henv.apart.errand (Contract.storing_permits hsub) (fun _ => trivial)
    (fun _ => Contract.storing_asks) (fun _ _ => trivial) (fun _ _ _ => trivial)
    (fun _ _ _ => trivial)
    (fun r a _ he => by
      cases r with
      | stored | cached => exact absurd rfl he
      | _ => trivial) he
  onTheSpot patience r w he hasks _ hw := by
    cases r with
    | stored name => exact ⟨fun hs => hw.stored name hs, hw⟩
    | cached locator => exact ⟨fun tree => hw.cache locator tree, hw⟩
    | store t => exact ⟨trivial, hw.store hasks.1 hasks.2⟩
    | writeCache locator tree =>
      rw [env.answer_writeCache]
      cases hwrite : env.cacheTree w.cache locator tree with
      | error failure => exact ⟨trivial, hw⟩
      | ok written =>
        exact ⟨trivial, hw.of_store rfl (henv.cache _ written locator tree hw.cache hasks.2 hwrite)⟩
    | load locator => cases he
    | _ =>
      refine .of_all ((env.answer_frame patience he w).mono fun after h => ?_) fun _ => trivial
      exact hw.of_store (h.2.1 id) (h.2.2 id ▸ hw.cache)


/-! ## Finding and storing -/

end Environment

namespace Outcome
variable {α β : Type}

theorem eq_of_andThen_eq_done {o : Outcome (Except Failure α)}
    {f : α → World → Outcome (Except Failure β)} {b : β} {w : World}
    (h : o.andThen f = .done (.ok b) w) :
    ∃ a mid, o = .done (.ok a) mid ∧ f a mid = .done (.ok b) w := by
  obtain ⟨failure | a, mid, hdone, hnext⟩ := bind_eq_done.mp h
  · cases hnext
  · exact ⟨a, mid, hdone, hnext⟩

end Outcome

namespace Environment
variable {env : Environment} {patience : Patience} {depth : Nat} {options : Options}
  {w after : World} {t : Template}

theorem run_attempt_bind {α β : Type} {p : Attempt α} {f : α → Attempt β} {b : β}
    (h : env.run patience depth (p >>= f).run w = .done (.ok b) after) :
    ∃ a mid, env.run patience depth p.run w = .done (.ok a) mid ∧
      env.run patience depth (f a).run mid = .done (.ok b) after :=
  Outcome.eq_of_andThen_eq_done ((Program.runWith_attempt_bind p f w).symm.trans h)

/-- A template is made with a number of its own, and stored. -/
theorem run_make (tree : CompiledTree) :
    env.run patience depth (Template.make options tree : Attempt Template).run w
      = .done (.ok (Template.ofTree w.next options tree))
          (World.storeTemplate { w with next := w.next + 1 }
            (Template.ofTree w.next options tree)) := by
  have hfresh : env.answer patience depth .fresh w = .done w.next { w with next := w.next + 1 } :=
    env.answer_onTheSpot patience depth rfl w
  refine (env.run_ask_done patience depth hfresh).trans ?_
  exact env.run_ask_done patience depth (env.answer_onTheSpot patience depth rfl _)

/-- A template that is not stored is made of the cached tree, or of its source. -/
theorem run_locate_absent {locator : String} (hnone : w.store.find? locator = none) :
    env.run patience depth (Template.locate locator options).run w
      = match env.cachedTree w.cache locator with
        | .ok (some tree) =>
          env.run patience depth (Template.make options tree : Attempt Template).run w
        | .ok none => env.run patience depth (Template.loadAndCompile locator options).run w
        | .error failure => .done (.error failure) w := by
  have hstored := env.answer_stored patience depth locator w
  rw [hnone] at hstored
  refine (env.run_ask_done patience depth hstored).trans
    ((env.run_ask_done patience depth (env.answer_cached patience depth locator w)).trans ?_)
  cases env.cachedTree w.cache locator with
  | error failure => rfl
  | ok tree? => cases tree? <;> rfl

/-- Loading is a run of its own, one level deeper. -/
theorem run_load (locator : String) (w : World) :
    env.run patience depth (ExceptT.mk (Program.request (.load locator)) : Attempt String).run w
      = match depth with
        | 0 => .tooDeep
        | depth + 1 => env.run patience depth (env.load locator).run w := by
  refine (env.run_request patience depth (.load locator) w).trans ?_
  cases depth with
  | zero => exact env.answer_errand_zero patience rfl w
  | succ depth => exact (env.answer_errand_succ patience depth rfl w).trans (Outcome.map_id _)

theorem find?_storeTemplate {id : String} (h : t.id = some id) :
    (w.storeTemplate t).store.find? id = some t := by
  rw [World.storeTemplate, h]
  exact (Dict.find?_insert _ _ _ _).trans (if_pos rfl)

theorem stored_of_run_make {tree : CompiledTree} {id : String} (hid : tree.id = some id)
    (h : env.run patience depth (Template.make options tree : Attempt Template).run w
      = .done (.ok t) after) : after.store.find? id = some t := by
  rw [run_make] at h
  cases h
  exact find?_storeTemplate hid

theorem stored_of_run_compile {id source : String}
    (h : env.run patience depth (Template.compile (some id) source options).run w
      = .done (.ok t) after) : after.store.find? id = some t := by
  unfold Template.compile at h
  split at h
  · exact stored_of_run_make rfl h
  · split at h
    · cases h
    · next failure _ _ =>
      have hreport := env.answer_onTheSpot patience depth
        (r := .report (.compileFailed (some id) failure)) rfl w
      exact stored_of_run_make rfl ((env.run_ask_done patience depth hreport).symm.trans h)

/-- What is found by its locator is stored under it. -/
theorem stored_of_run_locate {locator : String} (hcache : env.CachesNames w.cache)
    (h : env.run patience depth (Template.locate locator options).run w = .done (.ok t) after) :
    after.store.find? locator = some t := by
  cases hstored : w.store.find? locator with
  | some u =>
    rw [env.run_locate_stored hstored] at h
    cases h
    exact hstored
  | none =>
    rw [run_locate_absent hstored] at h
    rcases hcached : env.cachedTree w.cache locator with failure | _ | tree
    · rw [hcached] at h
      cases h
    · rw [hcached] at h
      obtain ⟨source, loaded, -, hcompile⟩ := run_attempt_bind h
      obtain ⟨u, compiled, hcompiled, hwrite⟩ := run_attempt_bind hcompile
      have hu := stored_of_run_compile hcompiled
      obtain ⟨_, written, hwritten, hdone⟩ := run_attempt_bind hwrite
      have hrequest := (env.run_request patience depth (.writeCache locator u.toTree)
        compiled).symm.trans hwritten
      have hframe := env.answer_frame patience (r := .writeCache locator u.toTree) rfl compiled
      rw [← env.answer_onTheSpot patience depth rfl, hrequest] at hframe
      cases hdone
      rw [hframe.2.1 id]
      exact hu
    · rw [hcached] at h
      exact stored_of_run_make (hcache locator tree hcached) h

/-- Whoever comes to the locator finds the template, and nothing else happens. -/
def Finds (env : Environment) (locator : String) (t : Template) (w : World) : Prop :=
  w.store.find? locator = some t ∧
    ∀ (patience : Patience) (depth : Nat) (name : String) (base : Option String)
      (options : Options), Locator.resolveString options.namespaces base name = locator →
      (options.allowInlineIncludes = true → w.store.find? name = none) →
      env.run patience depth (Template.resolve name base options).run w = .done (.ok t) w

theorem finds_of_find? {locator : String} (h : w.store.find? locator = some t) :
    env.Finds locator t w := by
  refine ⟨h, fun patience depth name base options hlocator hname => ?_⟩
  refine env.run_resolve_stored (Option.or_eq_some_iff.mpr (.inr ⟨?_, hlocator ▸ h⟩))
  split
  · next hinline => exact hname hinline
  · rfl

/-- Whoever comes to the locator finds a template, which is the one given if that is `kept`. -/
def StillFinds (env : Environment) (locator : String) (t : Template) (kept : Prop) (w : World) :
    Prop :=
  ∃ u, env.Finds locator u w ∧ (kept → u = t)

/-- What the host does not change by itself: the store, and whether the cache holds trees under
their own names. -/
def holdings (env : Environment) (w : World) : Dict Template × Prop :=
  (w.store, env.CachesNames w.cache)

section
variable {stored kept : String → Prop} {before : Dict Template}
  {programs : (α : Type) → Program α → Prop} (henv : env.Memoizes)
  (hsub : ∀ name, kept name → stored name) (hprograms : ∀ α p, programs α p → Order α p)
  (hkept : ∀ name, kept name → ∀ source options,
    ¬ programs _ (Template.compile (some name) source options).run)
include hsub hprograms hkept

/-- What a host has done meets the contract, if it compiles nothing under the names that are kept.
-/
theorem meets_storing {α : Type} {p : Program α} (hp : programs α p) :
    p.Meets (.storing stored kept) fun _ => True := by
  cases hprograms α p hp with
  | compile id source options =>
    refine (Contract.storing_compile (fun name hid hk => ?_) source options).mono
      fun _ _ => trivial
    exact hkept name hk source options (hid ▸ hp)
  | find name base options => exact Contract.storing_resolve hsub name base options
  | render t c =>
    exact Template.meets_render (Contract.storing_permits hsub) (fun _ => trivial) t none c []

include henv

theorem throughout_storing {α : Type} {p : Program α} (hp : programs α p) {w : World}
    (hw : env.Holds stored kept before w) :
    env.Throughout patience depth
      (fun r w => (Contract.storing stored kept).asks r ∧ env.Holds stored kept before w) p w :=
  throughout_of_meets (upholds_storing henv hsub before) (meets_storing hsub hprograms hkept hp) hw

/-- What is stored stays stored in the whole history. -/
theorem holds_afterwards {events : List Request} {last : World}
    (h : History (· = env) programs env.holdings w events last)
    (hw : env.Holds stored kept before w) :
    env.Holds stored kept before last ∧ ∀ r ∈ events, (Contract.storing stored kept).asks r := by
  induction h with
  | nil => exact ⟨hw, List.forall_mem_nil _⟩
  | change h hchange ih =>
    obtain ⟨hstore, hcache⟩ := Prod.mk.inj hchange
    exact ⟨ih.1.of_store hstore (hcache.mpr ih.1.cache), ih.2⟩
  | run h hsame patience depth hp hlast ih =>
    obtain rfl := hsame
    have hleaves := run_leaves (upholds_storing henv hsub before) patience depth
      (meets_storing hsub hprograms hkept hp) ih.1 fun _ _ => trivial
    have hthroughout : Throughout _ patience depth _ _ _ :=
      throughout_storing henv hsub hprograms hkept hp ih.1
    have hevents := (hthroughout.mono fun r w hr => hr.1).events
    exact ⟨hleaves.all.of_world? hlast, List.forall_mem_append.mpr ⟨ih.2, hevents⟩⟩

end

theorem Holds.stillFinds {locator : String} {unchanged : Prop}
    (ht : after.store.find? locator = some t)
    (h : env.Holds (· = locator) (fun name => name = locator ∧ unchanged) after.store w) :
    env.StillFinds locator t unchanged w := by
  obtain ⟨u, hu⟩ := Option.isSome_iff_exists.mp (h.stored locator rfl)
  refine ⟨u, finds_of_find? hu, fun hunchanged => ?_⟩
  have hsame := h.kept locator ⟨rfl, hunchanged⟩
  rw [hu, ht] at hsame
  exact Option.some.inj hsame

/-- **What is found stays found.**  Let a host compile, find and render templates from an empty
store on, with a cache that holds trees under their own names.  Then each template is stored under
its own name, from which its references start.  Once the template of a locator has been found,
everyone who comes to the locator is given what is stored there, in whatever is done later on and at
every moment of it, and the cache and the loader are not asked for the locator any more.  It is the
same template, unless the host compiles another one under that name. -/
theorem resolve_afterwards (henv : env.Memoizes) {start : World} {events : List Request}
    (hstore : start.store = []) (hcache : env.CachesNames start.cache)
    (h : History (· = env) Order env.holdings start events w) :
    w.StoresNames ∧
      ∀ (name : String) (base : Option String),
        (options.allowInlineIncludes = true → w.store.find? name = none) →
        env.run patience depth (Template.resolve name base options).run w = .done (.ok t) after →
        let locator := Locator.resolveString options.namespaces base name
        env.Finds locator t after ∧
          ∀ (programs : (α : Type) → Program α → Prop) (later : List Request) (last : World),
            (∀ α p, programs α p → Order α p) →
            History (· = env) programs env.holdings after later last →
            let unchanged := ∀ source options,
              ¬ programs _ (Template.compile (some locator) source options).run
            (∀ r ∈ later, ¬ r.Fetches locator) ∧ env.StillFinds locator t unchanged last ∧
              ∀ patience depth α p, programs α p →
                env.Throughout patience depth (fun r w => ¬ r.Fetches locator ∧ w.StoresNames ∧
                  env.StillFinds locator t unchanged w) p last := by
  have hstart : env.Holds (fun _ => False) (fun _ => False) [] start := by
    refine ⟨hcache, fun name t ht => ?_, fun _ => False.elim, fun _ => False.elim⟩
    rw [hstore] at ht
    cases ht
  have hw := (holds_afterwards henv (fun _ => id) (fun _ _ => id) (fun _ => False.elim) h hstart).1
  refine ⟨hw.names, fun name base hname hrun => ?_⟩
  intro locator
  have hafter : env.Holds (fun _ => False) (fun _ => False) [] after := by
    have hleaves := run_leaves (upholds_storing henv (fun _ => id) []) patience depth
      (Contract.storing_resolve (fun _ => id) name base options) hw fun _ _ => trivial
    rw [hrun] at hleaves
    exact hleaves.2
  have hlocate : env.run patience depth (Template.locate locator options).run w
      = .done (.ok t) after := by
    rw [run_resolve] at hrun
    split at hrun
    · next u hu =>
      split at hu
      · next hinline => cases (hname hinline).symm.trans hu
      · cases hu
    · exact hrun
  have hfound := stored_of_run_locate hw.cache hlocate
  refine ⟨finds_of_find? hfound, fun programs later last hprograms hlater => ?_⟩
  intro unchanged
  have hheld : env.Holds (· = locator) (fun name => name = locator ∧ unchanged) after.store
      after := by
    refine ⟨hafter.cache, hafter.names, ?_, fun _ _ => rfl⟩
    rintro _ rfl
    rw [hfound]
    rfl
  have hspared : ∀ name, name = locator ∧ unchanged → ∀ source options,
      ¬ programs _ (Template.compile (some name) source options).run := by
    rintro _ ⟨rfl, hunchanged⟩
    exact hunchanged
  have hfetches (r : Request) (hr : (Contract.storing (· = locator)
      (fun name => name = locator ∧ unchanged)).asks r) : ¬ r.Fetches locator := by
    cases r with
    | cached | load => exact hr
    | writeCache => exact hr.1
    | _ => exact id
  obtain ⟨hlast, hevents⟩ :=
    holds_afterwards henv (fun _ => And.left) hprograms hspared hlater hheld
  refine ⟨fun r hr => hfetches r (hevents r hr), hlast.stillFinds hfound, ?_⟩
  intro patience depth α p hp
  exact (throughout_storing henv (fun _ => And.left) hprograms hspared hp hlast).mono
    fun r w hr => ⟨hfetches r hr.1, hr.2.names, hr.2.stillFinds hfound⟩

/-! A part that is loaded for the first page that includes it, and found for the second one. -/

theorem cachedTree_memory (hcache : env.cache = some Cache.memory) {entries : Dict Json}
    {locator : String} {tree : CompiledTree} :
    env.cachedTree entries locator = .ok (some tree) ↔
      ∃ document, entries.find? locator = some document ∧
        CompiledTree.ofJson? document = some tree := by
  simp only [cachedTree, hcache, Cache.memory, Dict.contains, Cache.readDocument]
  cases entries.find? locator with
  | none => simp
  | some document => cases hread : CompiledTree.ofJson? document <;> simp [hread]

theorem reader_memoizes (table : Dict String) (options : Options) :
    (reader table options).Memoizes where
  apart := by
    refine provides_of_builtins (fun _ _ => id) id rfl rfl rfl (fun _ _ _ => trivial)
      fun locator => ?_
    exact (Loader.serves_memory table locator).mono fun _ _ _ _ => trivial
  cache entries written locator tree hentries hid hwrite := by
    obtain rfl := Except.ok.inj hwrite
    intro other back hback
    obtain ⟨document, hfound, hread⟩ := (cachedTree_memory rfl).mp hback
    rw [Dict.find?_insert] at hfound
    split at hfound
    · next heq =>
      obtain rfl := Option.some.inj hfound
      rw [CompiledTree.id_of_ofJson? hread, hid, heq]
    · exact hentries other back ((cachedTree_memory rfl).mpr ⟨document, hfound, hread⟩)

/-- The host of the pages. -/
def Including.host : Environment := reader [("part", "{{ s }}")] {}

/-- A page that includes the part. -/
def Including.page (number : Nat) : Template where
  number
  id := none
  base := none
  nodes := [.logic (.includes ⟨[.string "part"], none, false, false⟩) []]
  options := {}

open Including

/-- Behind a search for the part nothing is fetched for the page that includes it. -/
theorem resolve_afterwards_part :
    let finding := (Template.resolve "part" none {}).run
    let rendering := ((page 1).text []).run
    ∃ t after last, host.run .immediate 9 finding { next := 2 } = .done (.ok t) after ∧
      (host.run .immediate 9 rendering after).world? = some last ∧
      (∀ r ∈ host.events .immediate 9 rendering after, ¬ r.Fetches "part") ∧
      ∃ u, host.Finds "part" u last := by
  intro finding rendering
  have hruns : ((host.run .immediate 9 finding { next := 2 }).ok?.any fun found =>
      (host.run .immediate 9 rendering found.2).world?.isSome) = true := by decide +kernel
  simp only [Option.any_eq_true, Option.isSome_iff_exists, Outcome.ok?_eq_some] at hruns
  obtain ⟨⟨t, after⟩, hfound, last, hlast⟩ := hruns
  have hcache : host.CachesNames [] := by
    intro locator tree htree
    obtain ⟨document, hnone, -⟩ := (cachedTree_memory rfl).mp htree
    cases hnone
  have h : History (· = host) Order host.holdings after
      (host.events .immediate 9 rendering after) last := by
    refine .single ?_ (.render (page 1) []) hlast
    exact rfl
  have hhost : host.Memoizes := reader_memoizes _ _
  have hnil : History (· = host) Order host.holdings { next := 2 } [] { next := 2 } := .nil
  obtain ⟨-, hagain⟩ := resolve_afterwards hhost rfl hcache hnil
  obtain ⟨-, hlater⟩ := hagain "part" none (fun _ => rfl) hfound
  obtain ⟨hnothing, ⟨u, hu, -⟩, -⟩ := hlater Order _ _ (fun _ _ => id) h
  exact ⟨t, after, last, hfound, hlast, hnothing, u, hu⟩

end Environment
end Stencil
