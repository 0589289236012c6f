import Stencil.Proofs.Engine.Stored

/-!
# What is left where no template is found

A template that is not stored is read from the cache, or else its source is loaded and compiled, and
then it is stored and put into the cache.  Whatever fails in front of that leaves nothing behind but
what the loader has done by itself, so the same reference fails again.  But where the cache does not
take the tree, the template has been stored already: the reference fails once, and from then on the
template is found (`Environment.resolve_failed`, `Environment.resolve_again`).
-/
namespace Stencil

namespace Outcome
variable {α β : Type}

/-- A run that goes on behind another one that has succeeded. -/
theorem result?_andThen (o : Outcome (Except Failure α))
    (f : α → World → Outcome (Except Failure β)) :
    (o.andThen f).result? = o.result?.bind fun (r, w) =>
      match r with
      | .ok a => (f a w).result?
      | .error failure => some (.error failure, w) := by
  cases o with
  | done r w => cases r <;> rfl
  | pending | tooDeep => rfl

end Outcome

/-- What a source is compiled to, and what is reported of it. -/
def Template.compiled (options : Options) (locator source : String) :
    Except Failure (List Node × List Report) :=
  match Node.ofSource source with
  | .ok nodes => .ok (nodes, [])
  | .error cause =>
    if options.rethrow then .error (cause.inTemplate (some locator))
    else .ok ([], [.compileFailed (some locator) cause])

/-- The state behind one where a template was made for a locator. -/
def World.made (w : World) (locator : String) (t : Template) (reports : List Report) : World :=
  { w with
    next := w.next + 1
    store := w.store.insert locator t
    reports := reports ++ w.reports }

/-- What is stored under the locator of a name is found by that name, if nothing was before. -/
theorem Options.stored?_insert {options : Options} {store : Dict Template} {name : String}
    {base : Option String} (h : options.stored? store name base = none) (t : Template) :
    options.stored? (store.insert (Locator.resolveString options.namespaces base name) t) name base
      = some t := by
  have hname := (Option.or_eq_none_iff.mp h).1
  have hlocator : (store.insert (Locator.resolveString options.namespaces base name) t).find?
      (Locator.resolveString options.namespaces base name) = some t :=
    (Dict.find?_insert _ _ _ _).trans (if_pos rfl)
  unfold stored?
  rw [hlocator]
  by_cases hinline : options.allowInlineIncludes = true
  · rw [if_pos hinline] at hname ⊢
    rw [Dict.find?_insert]
    split
    · rfl
    · rw [hname]
      rfl
  · rw [if_neg hinline]
    rfl

namespace Environment
variable (env : Environment) (patience : Patience) (depth : Nat) (options : Options)
  (locator : String)

/-- What loading a source comes to, and the state that it leaves. -/
def loading (w : World) : Option (Except Failure String × World) :=
  (env.run patience depth
    (ExceptT.mk (Program.request (.load locator)) : Attempt String).run w).result?

/-- What a source that was loaded comes to: it is compiled and stored, and then the cache is to take
the tree. -/
def finishing (source : String) (w : World) : Except Failure Template × World :=
  match Template.compiled options locator source with
  | .error failure => (.error failure, w)
  | .ok (nodes, reports) =>
    let t := Template.ofTree w.next options ⟨some locator, nodes⟩
    match env.cacheTree w.cache locator t.toTree with
    | .error failure => (.error failure, w.made locator t reports)
    | .ok cache => (.ok t, { w.made locator t reports with cache })

/-! ## The steps -/

section
variable {env patience depth options locator}

theorem run_compile_source (source : String) (w : World) :
    env.run patience depth (Template.compile (some locator) source options).run w
      = match Template.compiled options locator source with
        | .error failure => .done (.error failure) w
        | .ok (nodes, reports) =>
          .done (.ok (Template.ofTree w.next options ⟨some locator, nodes⟩))
            (w.made locator (Template.ofTree w.next options ⟨some locator, nodes⟩) reports) := by
  unfold Template.compile Template.compiled
  cases Node.ofSource source with
  | ok nodes => exact run_make ⟨some locator, nodes⟩
  | error cause =>
    cases options.rethrow with
    | true => rfl
    | false =>
      have hreport := env.answer_onTheSpot patience depth
        (r := .report (.compileFailed (some locator) cause)) rfl w
      exact (env.run_ask_done patience depth hreport).trans (run_make ⟨some locator, []⟩)

/-- The cache takes a tree or refuses it. -/
theorem run_writeCache (t : Template) (w : World) :
    env.run patience depth
        (ExceptT.mk (Program.request (.writeCache locator t.toTree)) : Attempt Unit).run w
      = match env.cacheTree w.cache locator t.toTree with
        | .ok cache => .done (.ok ()) { w with cache }
        | .error failure => .done (.error failure) w :=
  (env.run_request patience depth (.writeCache locator t.toTree) w).trans
    (env.answer_writeCache patience depth locator t.toTree w)

theorem result?_finishing (source : String) (w : World) :
    (env.run patience depth (do
        let t ← Template.compile (some locator) source options
        ExceptT.mk (Program.request (.writeCache locator t.toTree))
        return t : Attempt Template).run w).result?
      = some (env.finishing options locator source w) := by
  rw [run, Program.runWith_attempt_bind, ← run, run_compile_source, finishing]
  cases Template.compiled options locator source with
  | error failure => rfl
  | ok tree =>
    change (env.run patience depth (ExceptT.mk (Program.request (.writeCache locator _)) >>=
      fun _ => pure _ : Attempt Template).run _).result? = _
    rw [run, Program.runWith_attempt_bind, ← run, run_writeCache]
    dsimp only [World.made]
    cases env.cacheTree w.cache locator
      (Template.ofTree w.next options ⟨some locator, tree.1⟩).toTree <;> rfl

/-- **What becomes of a reference** to a template that is not stored. -/
theorem result?_locate {w : World} (hnone : w.store.find? locator = none) :
    (env.run patience depth (Template.locate locator options).run w).result?
      = match env.cachedTree w.cache locator with
        | .error failure => some (.error failure, w)
        | .ok (some tree) =>
          (env.run patience depth (Template.make options tree : Attempt Template).run w).result?
        | .ok none => (env.loading patience depth locator w).map fun (r, loaded) =>
          match r with
          | .error failure => (.error failure, loaded)
          | .ok source => env.finishing options locator source loaded := by
  rw [run_locate_absent hnone]
  rcases env.cachedTree w.cache locator with failure | _ | tree
  · rfl
  · change (env.run patience depth (Template.loadAndCompile locator options).run w).result? = _
    rw [Template.loadAndCompile, run, Program.runWith_attempt_bind, Outcome.result?_andThen, ← run,
      ← loading]
    rcases env.loading patience depth locator w with _ | ⟨failure | source, loaded⟩
    · rfl
    · rfl
    · exact result?_finishing source loaded
  · rfl

end

/-! ## Failing -/

/-- How the template of a locator is not found, and the state that this leaves: its cached tree
cannot be read, its source is not loaded, or that cannot be compiled. -/
inductive Unfound (w : World) : Failure → World → Prop
  | unread {failure : Failure} (hcached : env.cachedTree w.cache locator = .error failure) :
    Unfound w failure w
  | unloaded {failure : Failure} {loaded : World}
    (hcached : env.cachedTree w.cache locator = .ok none)
    (hload : env.loading patience depth locator w = some (.error failure, loaded)) :
    Unfound w failure loaded
  | uncompiled {source : String} {failure : Failure} {loaded : World}
    (hcached : env.cachedTree w.cache locator = .ok none)
    (hload : env.loading patience depth locator w = some (.ok source, loaded))
    (hsource : Template.compiled options locator source = .error failure) :
    Unfound w failure loaded

/-- The template of a locator is made of its source and stored, and the cache refuses its tree. -/
structure Refused (w : World) (failure : Failure) (t : Template) (loaded after : World) : Prop where
  cached : env.cachedTree w.cache locator = .ok none
  made : ∃ source nodes reports, env.loading patience depth locator w = some (.ok source, loaded) ∧
    Template.compiled options locator source = .ok (nodes, reports) ∧
    t = Template.ofTree loaded.next options ⟨some locator, nodes⟩ ∧
    after = loaded.made locator t reports
  refused : env.cacheTree loaded.cache locator t.toTree = .error failure

section
variable {env patience depth options locator} {failure : Failure} {w after : World}

theorem Unfound.result?_locate (h : env.Unfound patience depth options locator w failure after)
    (hnone : w.store.find? locator = none) :
    (env.run patience depth (Template.locate locator options).run w).result?
      = some (.error failure, after) := by
  rw [Environment.result?_locate hnone]
  cases h with
  | unread hcached => rw [hcached]
  | unloaded hcached hload =>
    rw [hcached, hload]
    rfl
  | uncompiled hcached hload hsource =>
    rw [hcached, hload]
    dsimp only [Option.map_some]
    rw [finishing, hsource]

/-- What is not found is not found again, if the cache is the same and the loader does the same. -/
theorem Unfound.again (h : env.Unfound patience depth options locator w failure after) {w' : World}
    (hcache : w'.cache = w.cache)
    (hload : ∀ r loaded, env.loading patience depth locator w = some (r, loaded) →
      ∃ loaded', env.loading patience depth locator w' = some (r, loaded')) :
    ∃ after', env.Unfound patience depth options locator w' failure after' := by
  cases h with
  | unread hcached => exact ⟨w', .unread (hcache ▸ hcached)⟩
  | unloaded hcached h =>
    obtain ⟨loaded', h'⟩ := hload _ _ h
    exact ⟨loaded', .unloaded (hcache ▸ hcached) h'⟩
  | uncompiled hcached h hsource =>
    obtain ⟨loaded', h'⟩ := hload _ _ h
    exact ⟨loaded', .uncompiled (hcache ▸ hcached) h' hsource⟩

/-- These are all ways to fail. -/
theorem unfound_or_refused (hnone : w.store.find? locator = none)
    (h : (env.run patience depth (Template.locate locator options).run w).result?
      = some (.error failure, after)) :
    env.Unfound patience depth options locator w failure after ∨
      ∃ t loaded, env.Refused patience depth options locator w failure t loaded after := by
  rw [result?_locate hnone] at h
  rcases hcached : env.cachedTree w.cache locator with failure' | _ | tree
  · rw [hcached] at h
    cases h
    exact .inl (.unread hcached)
  · rw [hcached] at h
    obtain ⟨⟨r, loaded⟩, hload, hend⟩ := Option.map_eq_some_iff.mp h
    cases r with
    | error failure' =>
      cases hend
      exact .inl (.unloaded hcached hload)
    | ok source =>
      dsimp only at hend
      unfold finishing at hend
      split at hend
      · next hsource =>
        cases hend
        exact .inl (.uncompiled hcached hload hsource)
      · next nodes reports hsource =>
        dsimp only at hend
        split at hend
        · next hrefused =>
          cases hend
          exact .inr ⟨_, loaded, hcached, ⟨source, nodes, reports, hload, hsource, rfl, rfl⟩,
            hrefused⟩
        · cases hend
  · rw [hcached] at h
    dsimp only at h
    rw [run_make] at h
    cases h

theorem Refused.store {t : Template} {loaded : World}
    (h : env.Refused patience depth options locator w failure t loaded after) :
    after.store = loaded.store.insert locator t := by
  obtain ⟨source, nodes, reports, -, -, -, rfl⟩ := h.made
  rfl

end

/-- **What a reference has done where it fails.**  Nothing was stored for it.  Unless the cache
refuses the tree, the state is what the loader has left, if it was asked at all; and if that has the
same store and the same cache, and the loader does the same again, the reference fails again in the
same way.  But if the cache refuses the tree, the template has been stored under its locator, where
every later reference finds it, for example the same one again. -/
theorem resolve_failed {options : Options} {name : String} {base : Option String} {w after : World}
    {failure : Failure}
    (h : (env.run patience depth (Template.resolve name base options).run w).result?
      = some (.error failure, after)) :
    let locator := Locator.resolveString options.namespaces base name
    let repeated := (env.run patience depth (Template.resolve name base options).run after).result?
    options.stored? w.store name base = none ∧
      ((env.Unfound patience depth options locator w failure after ∧
          (after.store = w.store → after.cache = w.cache →
            (∀ r loaded, env.loading patience depth locator w = some (r, loaded) →
              ∃ loaded', env.loading patience depth locator after = some (r, loaded')) →
            ∃ again, repeated = some (.error failure, again))) ∨
        ∃ t loaded, env.Refused patience depth options locator w failure t loaded after ∧
          env.Finds locator t after ∧
          (loaded.store = w.store → repeated = some (.ok t, after))) := by
  intro locator repeated
  have hstored : options.stored? w.store name base = none := by
    cases hstored : options.stored? w.store name base with
    | none => rfl
    | some t =>
      rw [env.run_resolve_stored hstored] at h
      cases h
  obtain ⟨hname, hnone⟩ := Option.or_eq_none_iff.mp hstored
  rw [run_resolve, hname] at h
  refine ⟨hstored, (unfound_or_refused hnone h).imp (fun hunfound => ⟨hunfound, ?_⟩) ?_⟩
  · intro hstore hcache hload
    obtain ⟨again, hagain⟩ := hunfound.again hcache hload
    refine ⟨again, ?_⟩
    have hrepeated : repeated = (env.run patience depth
        (Template.locate locator options).run after).result? := by
      refine congrArg Outcome.result? ((env.run_resolve name base).trans ?_)
      rw [hstore, hname]
    rw [hrepeated]
    exact hagain.result?_locate (hstore ▸ hnone)
  · rintro ⟨t, loaded, hrefused⟩
    refine ⟨t, loaded, hrefused, finds_of_find? ?_, fun hstore => ?_⟩
    · rw [hrefused.store]
      exact (Dict.find?_insert _ _ _ _).trans (if_pos rfl)
    · have hfound : options.stored? after.store name base = some t := by
        rw [hrefused.store, hstore]
        exact Options.stored?_insert hstored t
      exact congrArg Outcome.result? (env.run_resolve_stored hfound)

/-! A host with a cache that takes no trees. -/

/-- The cache. -/
def Refusing.cache : Cache where
  has _ _ := false
  read _ _ := .ok none
  write _ locator _ := .error ⟨.cache locator "refused", none⟩

/-- The host. -/
def refusing : Environment where
  options := { rethrow := true }
  loader := some (Loader.memory [("a", "A")])
  cache := some Refusing.cache

theorem resolve_failed_refusing :
    let failure : Failure := ⟨.cache "a" "refused", none⟩
    let t : Template := .ofTree 0 refusing.options ⟨some "a", [.raw "A"]⟩
    let after : World := { next := 1, store := [("a", t)] }
    let first := refusing.run .patient 3 (Template.resolve "a" none refusing.options).run {}
    first.result? = some (.error failure, after) ∧ refusing.Finds "a" t after := by
  intro failure t after first
  have hfirst : first.result? = some (.error failure, after) := rfl
  have hload : refusing.loading .patient 3 "a" {} = some (.ok "A", {}) := rfl
  have hsource : Template.compiled refusing.options "a" "A" = .ok ([.raw "A"], []) := rfl
  refine ⟨hfirst, ?_⟩
  obtain ⟨-, ⟨hunfound, -⟩ | ⟨u, loaded, -, hfinds, -⟩⟩ := refusing.resolve_failed .patient 3 hfirst
  · generalize hafter : after = after' at hunfound
    cases hunfound with
    | unread => cases congrArg World.store hafter
    | unloaded _ h => cases hload.symm.trans h
    | uncompiled _ h h' =>
      cases hload.symm.trans h
      cases hsource.symm.trans h'
  · obtain rfl : t = u := Option.some.inj hfinds.1
    exact hfinds

/-- The reference fails, and then the template is found. -/
theorem resolve_again :
    let resolve := refusing.run .patient 3 (Template.resolve "a" none refusing.options).run
    ((resolve {}).result?.map fun (r, after) => (r.isOk, after.store.contains "a"))
        = some (false, true) ∧
      ((resolve {}).result?.bind fun (_, after) => (resolve after).result?.map (·.1.isOk))
        = some true := by
  decide +kernel

end Environment
end Stencil
