import Stencil.Proofs.Engine.Stored
import Stencil.Proofs.Inheritance.Streams

/-!
# Where `use` tags lead

A set of sources is given, of which the loader of a host takes what it loads
(`Environment.Supplies`).  A `use` tag that names its template by a text leads from one source to
another one, whatever has been rendered before.  Here is what it takes to follow such a tag: the
template is found in the store, or else it is made of the source of its locator and stored there
(`Environment.run_locate_ends`), and then its blocks are imported (`Environment.run_importBlocks`).
-/
namespace Stencil

/-! ## How runs end -/

namespace Outcome
variable {α β : Type}

/-- What holds where a run comes to its end, where it is given up, and where it goes too deep. -/
def Ends (post : α → World → Prop) (given : World → Prop) (deep : Prop) : Outcome α → Prop
  | .done a w => post a w
  | .pending w => given w
  | .tooDeep => deep

section
variable {post post' : α → World → Prop} {given given' : World → Prop} {deep deep' : Prop}
  {o : Outcome α}

theorem Ends.mono (h : o.Ends post given deep) (hpost : ∀ a w, post a w → post' a w)
    (hgiven : ∀ w, given w → given' w) (hdeep : deep → deep') : o.Ends post' given' deep' := by
  cases o with
  | done a w => exact hpost a w h
  | pending w => exact hgiven w h
  | tooDeep => exact hdeep h

theorem Ends.and (h : o.Ends post given deep) (h' : o.Ends post' given' deep') :
    o.Ends (fun a w => post a w ∧ post' a w) (fun w => given w ∧ given' w) (deep ∧ deep') := by
  cases o with
  | done a w | pending w | tooDeep => exact ⟨h, h'⟩

theorem Ends.map {f : α → β} {post : β → World → Prop}
    (h : o.Ends (fun a w => post (f a) w) given deep) : (o.map f).Ends post given deep := by
  cases o with
  | done a w | pending w | tooDeep => exact h

theorem Ends.bind {f : α → World → Outcome β} {post' : β → World → Prop}
    (h : o.Ends post given deep) (hf : ∀ a w, post a w → (f a w).Ends post' given deep) :
    (o.bind f).Ends post' given deep := by
  cases o with
  | done a w => exact hf a w h
  | pending w | tooDeep => exact h

/-- Behind a run that may fail, whose failures are passed on. -/
theorem Ends.andThen {o : Outcome (Except Failure α)} {f : α → World → Outcome (Except Failure β)}
    {post : Except Failure α → World → Prop} {post' : Except Failure β → World → Prop}
    (h : o.Ends post given deep) (hf : ∀ a w, post (.ok a) w → (f a w).Ends post' given deep)
    (herror : ∀ failure w, post (.error failure) w → post' (.error failure) w) :
    (o.andThen f).Ends post' given deep := by
  refine h.bind fun r w hr => ?_
  cases r with
  | ok a => exact hf a w hr
  | error failure => exact herror failure w hr

end
end Outcome

namespace Environment
variable {env : Environment} {patience : Patience} {depth : Nat} {α β : Type}
  {given : World → Prop} {deep : Prop}

theorem ends_bind {p : Program α} {f : α → Program β} {w : World} {post : α → World → Prop}
    {post' : β → World → Prop} (h : (env.run patience depth p w).Ends post given deep)
    (hf : ∀ a after, post a after → (env.run patience depth (f a) after).Ends post' given deep) :
    (env.run patience depth (p >>= f) w).Ends post' given deep := by
  rw [run, Program.runWith_bind]
  exact h.bind hf

theorem ends_attempt_bind {p : Attempt α} {f : α → Attempt β} {w : World}
    {post : Except Failure α → World → Prop} {post' : Except Failure β → World → Prop}
    (h : (env.run patience depth p.run w).Ends post given deep)
    (hf : ∀ a after, post (.ok a) after →
      (env.run patience depth (f a).run after).Ends post' given deep)
    (herror : ∀ failure after, post (.error failure) after → post' (.error failure) after) :
    (env.run patience depth (p >>= f).run w).Ends post' given deep := by
  rw [run, Program.runWith_attempt_bind]
  exact h.andThen hf herror

theorem ends_ask {r : Request} {next : r.Answer → Program α} {w : World}
    {post : r.Answer → World → Prop} {post' : α → World → Prop}
    (h : (env.answer patience depth r w).Ends post given deep)
    (hf : ∀ a after, post a after →
      (env.run patience depth (next a) after).Ends post' given deep) :
    (env.run patience depth (.ask r next) w).Ends post' given deep := by
  cases ha : env.answer patience depth r w with
  | done a after =>
    rw [ha] at h
    rw [env.run_ask_done patience depth ha]
    exact hf a after h
  | pending after =>
    rw [ha] at h
    rw [env.run_ask_pending patience depth ha]
    exact h
  | tooDeep =>
    rw [ha] at h
    rw [env.run_ask_tooDeep patience depth ha]
    exact h

end Environment

/-! ## The journal -/

/-- The contract to write into the journal and nothing else, and to wait only if that is permitted.
-/
def Contract.journal (waits : Prop) : Contract where
  asks
    | .note _ => True
    | .wait => waits
    | _ => False
  answers _ _ := True
  scopes _ := True

theorem World.eq_of_withoutJournal {w w' : World} (h : w'.withoutJournal = w.withoutJournal) :
    w'.next = w.next ∧ w'.links = w.links ∧ w'.store = w.store ∧ w'.cache = w.cache := by
  obtain ⟨hnext, hlinks, hstore, hcache, -⟩ := World.mk.inj h
  exact ⟨hnext, hlinks, hstore, hcache⟩

namespace Environment
variable (env : Environment) (patience : Patience) (depth : Nat)

/-- Who only writes into the journal changes nothing else, and comes to an end. -/
theorem run_journal {waits : Prop} {α : Type} {post : α → Prop} {p : Program α}
    (h : p.Meets (.journal waits) post) (w : World) :
    (env.run patience depth p w).Ends
      (fun a after => post a ∧ after.withoutJournal = w.withoutJournal)
      (fun after => waits ∧ after.withoutJournal = w.withoutJournal) False := by
  induction p generalizing w with
  | done a => exact ⟨h, rfl⟩
  | ask r next ih =>
    obtain ⟨hasks, hnext⟩ := h
    cases r with
    | note line =>
      have hnote := env.answer_onTheSpot patience depth (r := .note line) rfl w
      rw [env.run_ask_done patience depth hnote]
      exact ih () (hnext () trivial) _
    | wait =>
      have hwait := env.answer_onTheSpot patience depth (r := .wait) rfl w
      cases patience with
      | immediate =>
        rw [env.run_ask_pending .immediate depth hwait]
        exact ⟨hasks, rfl⟩
      | patient =>
        rw [env.run_ask_done .patient depth hwait]
        exact ih () (hnext () trivial) _
    | _ => exact hasks.elim

end Environment

/-! ## Sources -/

/-- The templates that the `use` tags among the nodes name are named by texts. -/
def Node.UsesByName (nodes : List Node) : Prop :=
  ∀ i ∈ (walkAll nodes).filterMap blockImport?, ∃ name, i.expression = [.string name]

/-- What the loader loads are sources of a table, and to put a tree into the cache does not change
what is cached for other locators. -/
structure Environment.Supplies (env : Environment) (sources : Dict String) : Prop where
  load : ∀ locator, (env.load locator).run.Meets (.journal True) fun r =>
    ∀ source, r = .ok source → sources.find? locator = some source
  cache : ∀ entries written locator tree, env.cacheTree entries locator tree = .ok written →
    ∀ other, other ≠ locator → env.cachedTree written other = env.cachedTree entries other

/-- The loader has all sources of the table and gives them at once, and the cache takes all trees.
-/
structure Environment.Delivers (env : Environment) (sources : Dict String) : Prop where
  load : ∀ locator source, sources.find? locator = some source →
    (env.load locator).run.Meets (.journal False) fun r => r = .ok source
  cache : ∀ entries locator tree, ∃ written, env.cacheTree entries locator tree = .ok written

/-- What is cached for templates that are not stored stands for the sources. -/
def Environment.Mirrors (env : Environment) (sources : Dict String) (w : World) : Prop :=
  ∀ locator tree, w.store.find? locator = none →
    env.cachedTree w.cache locator = .ok (some tree) →
    ∃ source, sources.find? locator = some source ∧
      tree.StandsFor locator source fun _ => True

/-- What is cached for templates that are not stored can be read. -/
def Environment.Readable (env : Environment) (w : World) : Prop :=
  ∀ locator, w.store.find? locator = none → ∃ tree?, env.cachedTree w.cache locator = .ok tree?

/-- Behind the one state a template is stored that was made for a locator under which none had been
stored. -/
structure Environment.Gains (env : Environment) (sources : Dict String) (options : Options)
    (locator : String) (w : World) (t : Template) (after : World) : Prop where
  number : t.number = w.next
  options : t.options = options
  base : t.base = some locator
  source : ∃ source, sources.find? locator = some source ∧
    t.toTree.StandsFor locator source fun _ => True
  next : after.next = w.next + 1
  links : after.links = w.links
  store : after.store = w.store.insert locator t
  cache : ∀ other, other ≠ locator →
    env.cachedTree after.cache other = env.cachedTree w.cache other

/-! ## Finding -/

namespace Environment
variable {env : Environment} {sources : Dict String} {patience : Patience} {depth : Nat}
  {options : Options} {locator : String} {w : World}

theorem Gains.of_make {tree : CompiledTree} {source : String}
    (hsource : sources.find? locator = some source)
    (htree : tree.StandsFor locator source fun _ => True) {w' : World}
    (hw : w'.withoutJournal = w.withoutJournal) :
    env.Gains sources options locator w (Template.ofTree w'.next options tree)
      (World.storeTemplate { w' with next := w'.next + 1 }
        (Template.ofTree w'.next options tree)) := by
  obtain ⟨hnext, hlinks, hstore, hcache⟩ := World.eq_of_withoutJournal hw
  have hid : (Template.ofTree w'.next options tree).id = some locator := htree.id
  have hmade : World.storeTemplate { w' with next := w'.next + 1 }
      (Template.ofTree w'.next options tree)
      = { w' with
          next := w'.next + 1
          store := w'.store.insert locator (Template.ofTree w'.next options tree) } := by
    rw [World.storeTemplate, hid]
  rw [hmade]
  refine ⟨hnext, rfl, htree.id, ⟨source, hsource, htree⟩, ?_, hlinks, ?_, fun other _ => ?_⟩
  · rw [hnext]
  · rw [hstore]
  · rw [hcache]

/-- What is cached for the others is the same. -/
theorem Gains.find?_ne_none {t : Template} {after : World}
    (h : env.Gains sources options locator w t after) {other : String}
    (hnone : after.store.find? other = none) : other ≠ locator ∧ w.store.find? other = none := by
  rw [h.store, Dict.find?_insert] at hnone
  split at hnone
  · cases hnone
  · next hne => exact ⟨Ne.symm hne, hnone⟩

theorem Mirrors.of_gains (hw : env.Mirrors sources w) {t : Template} {after : World}
    (h : env.Gains sources options locator w t after) : env.Mirrors sources after := by
  intro other tree hnone hcached
  obtain ⟨hne, hbefore⟩ := h.find?_ne_none hnone
  rw [h.cache other hne] at hcached
  exact hw other tree hbefore hcached

theorem Readable.of_gains (hw : env.Readable w) {t : Template} {after : World}
    (h : env.Gains sources options locator w t after) : env.Readable after := by
  intro other hnone
  obtain ⟨hne, hbefore⟩ := h.find?_ne_none hnone
  rw [h.cache other hne]
  exact hw other hbefore

/-- What has been found of a template that was not stored. -/
def Found (env : Environment) (sources : Dict String) (options : Options) (locator : String)
    (w : World) (r : Except Failure Template) (after : World) : Prop :=
  (after.withoutJournal = w.withoutJournal ∨ ∃ t, env.Gains sources options locator w t after) ∧
    ∀ t, r = .ok t → env.Gains sources options locator w t after

theorem Found.of_error {w after : World} {failure : Failure}
    (h : after.withoutJournal = w.withoutJournal) :
    env.Found sources options locator w (.error failure) after := ⟨.inl h, nofun⟩

theorem Found.of_gains {w after : World} {t : Template}
    (h : env.Gains sources options locator w t after) :
    env.Found sources options locator w (.ok t) after := by
  refine ⟨.inr ⟨t, h⟩, ?_⟩
  rintro _ ⟨⟩
  exact h

theorem run_make_ends {tree : CompiledTree} {source : String}
    (hsource : sources.find? locator = some source)
    (htree : tree.StandsFor locator source fun _ => True) {w' : World}
    (hw : w'.withoutJournal = w.withoutJournal) {given : World → Prop} {deep : Prop} :
    (env.run patience depth (Template.make options tree : Attempt Template).run w').Ends
      (env.Found sources options locator w) given deep := by
  rw [run_make]
  exact .of_gains (.of_make hsource htree hw)

theorem run_compile_ends {source : String} (hsource : sources.find? locator = some source)
    {w' : World} (hw : w'.withoutJournal = w.withoutJournal) {given : World → Prop}
    {deep : Prop} :
    (env.run patience depth (Template.compile (some locator) source options).run w').Ends
      (env.Found sources options locator w) given deep := by
  unfold Template.compile
  split
  · next nodes hnodes =>
    have htree : CompiledTree.StandsFor ⟨some locator, nodes⟩ locator source fun _ => True :=
      ⟨rfl, .inl hnodes⟩
    exact run_make_ends hsource htree hw
  · next failure hfailure =>
    split
    · exact .of_error hw
    · have htree : CompiledTree.StandsFor ⟨some locator, []⟩ locator source fun _ => True :=
        ⟨rfl, .inr ⟨failure, hfailure, rfl, trivial⟩⟩
      have hreport : (env.answer patience depth
          (.report (.compileFailed (some locator) failure)) w').Ends
          (fun _ after => after.withoutJournal = w.withoutJournal) given deep := by
        rw [env.answer_onTheSpot patience depth rfl]
        exact hw
      exact ends_ask hreport fun _ after hafter => run_make_ends hsource htree hafter

/-- A source is loaded one level deeper. -/
theorem run_load_ends (henv : env.Supplies sources) :
    (env.run patience depth
      (ExceptT.mk (Program.request (.load locator)) : Attempt String).run w).Ends
      (fun r after => (∀ source, r = .ok source → sources.find? locator = some source) ∧
        after.withoutJournal = w.withoutJournal)
      (fun after => after.withoutJournal = w.withoutJournal) (depth = 0) := by
  rw [run_load]
  cases depth with
  | zero => exact (rfl : 0 = 0)
  | succ depth =>
    exact (env.run_journal patience depth (henv.load locator) w).mono (fun _ _ h => h)
      (fun _ h => h.2) False.elim

/-- What was made is put into the cache, or there is a failure. -/
theorem run_writeCache_ends (henv : env.Supplies sources) {t : Template} {made : World}
    (ht : env.Gains sources options locator w t made) {given : World → Prop} {deep : Prop} :
    (env.run patience depth (do
        ExceptT.mk (Program.request (.writeCache locator t.toTree))
        return t : Attempt Template).run made).Ends
      (env.Found sources options locator w) given deep := by
  have hwritten : (env.run patience depth
      (ExceptT.mk (Program.request (.writeCache locator t.toTree)) : Attempt Unit).run made).Ends
      (fun _ after => env.Gains sources options locator w t after) given deep := by
    have hanswer := env.answer_writeCache patience depth locator t.toTree made
    refine cast (congrArg _ ((env.run_request patience depth _ made).trans hanswer).symm) ?_
    cases hcache : env.cacheTree made.cache locator t.toTree with
    | error failure => exact ht
    | ok written =>
      refine { ht with cache := fun other hother => ?_ }
      exact (henv.cache _ written locator _ hcache other hother).trans (ht.cache other hother)
  exact ends_attempt_bind hwritten (fun _ _ h => .of_gains h) fun _ _ h => ⟨.inr ⟨t, h⟩, nofun⟩

/-- **What is not stored is found in the cache, or made of its source.**  It is stored then, though
not if that fails; and if the cache cannot take its tree, that is a failure behind it. -/
theorem run_locate_ends (henv : env.Supplies sources) (hmirrors : env.Mirrors sources w)
    (hnone : w.store.find? locator = none) :
    (env.run patience depth (Template.locate locator options).run w).Ends
      (env.Found sources options locator w)
      (fun after => after.withoutJournal = w.withoutJournal) (depth = 0) := by
  rw [run_locate_absent hnone]
  cases hcached : env.cachedTree w.cache locator with
  | error failure => exact .of_error rfl
  | ok tree? =>
    cases tree? with
    | some tree =>
      obtain ⟨source, hsource, htree⟩ := hmirrors locator tree hnone hcached
      exact run_make_ends hsource htree rfl
    | none =>
      refine ends_attempt_bind (run_load_ends henv) (fun source loaded hloaded => ?_)
        fun _ _ h => .of_error h.2
      exact ends_attempt_bind (run_compile_ends (hloaded.1 source rfl) hloaded.2)
        (fun t made ht => run_writeCache_ends henv (ht.2 t rfl)) fun _ _ h => h

/-- Nothing goes wrong with a source that is delivered and that can be compiled. -/
theorem run_locate_delivers (henv : env.Delivers sources) (hreadable : env.Readable w)
    (hnone : w.store.find? locator = none) {source : String}
    (hsource : sources.find? locator = some source) {nodes : List Node}
    (hnodes : Node.ofSource source = .ok nodes) :
    (env.run patience depth (Template.locate locator options).run w).Ends
      (fun r _ => ∃ t, r = .ok t) (fun _ => False) True := by
  rw [run_locate_absent hnone]
  obtain ⟨tree?, hcached⟩ := hreadable locator hnone
  rw [hcached]
  have hmake (tree : CompiledTree) (w' : World) :
      (env.run patience depth (Template.make options tree : Attempt Template).run w').Ends
        (fun r _ => ∃ t, r = .ok t) (fun _ => False) True := by
    rw [run_make]
    exact ⟨_, rfl⟩
  cases tree? with
  | some tree => exact hmake tree w
  | none =>
    have hload : (env.run patience depth
        (ExceptT.mk (Program.request (.load locator)) : Attempt String).run w).Ends
        (fun r _ => r = .ok source) (fun _ => False) True := by
      rw [run_load]
      cases depth with
      | zero => trivial
      | succ depth =>
        exact (env.run_journal patience depth (henv.load locator source hsource) w).mono
          (fun _ _ h => h.1) (fun _ h => h.1) False.elim
    refine ends_attempt_bind hload (fun text loaded htext => ?_) nofun
    obtain rfl := Except.ok.inj htext
    have hcompile : (env.run patience depth
        (Template.compile (some locator) text options).run loaded).Ends
        (fun r _ => ∃ t, r = .ok t) (fun _ => False) True := by
      rw [env.run_compile hnodes]
      exact hmake _ _
    refine ends_attempt_bind hcompile (fun t made _ => ?_) fun _ _ ⟨_, h⟩ => by cases h
    have hwritten : (env.run patience depth
        (ExceptT.mk (Program.request (.writeCache locator t.toTree)) : Attempt Unit).run made).Ends
        (fun r _ => r = .ok ()) (fun _ => False) True := by
      have hanswer := env.answer_writeCache patience depth locator t.toTree made
      obtain ⟨written, hwrite⟩ := henv.cache made.cache locator t.toTree
      rw [hwrite] at hanswer
      exact cast (congrArg _ ((env.run_request patience depth _ made).trans hanswer).symm) rfl
    refine ends_attempt_bind hwritten (fun _ after _ => ?_) nofun
    exact ⟨t, rfl⟩

/-- What a reference comes to: what is stored already, or what is found elsewhere. -/
def Sought (env : Environment) (sources : Dict String) (options : Options) (name : String)
    (base : Option String) (w : World) (r : Except Failure Template) (after : World) : Prop :=
  match options.stored? w.store name base with
  | some t => r = .ok t ∧ after = w
  | none =>
    w.store.find? (Locator.resolveString options.namespaces base name) = none ∧
      env.Found sources options (Locator.resolveString options.namespaces base name) w r after

theorem run_resolve_ends (henv : env.Supplies sources) (hmirrors : env.Mirrors sources w)
    (name : String) (base : Option String) :
    (env.run patience depth (Template.resolve name base options).run w).Ends
      (env.Sought sources options name base w)
      (fun after => after.withoutJournal = w.withoutJournal) (depth = 0) := by
  unfold Sought
  cases hstored : options.stored? w.store name base with
  | some t =>
    rw [env.run_resolve_stored hstored]
    exact ⟨rfl, rfl⟩
  | none =>
    obtain ⟨hname, hnone⟩ := Option.or_eq_none_iff.mp hstored
    rw [run_resolve, hname]
    exact (run_locate_ends henv hmirrors hnone).mono (fun _ _ h => ⟨hnone, h⟩) (fun _ h => h) id

end Environment

/-! ## Importing -/

/-- The blocks put among others, under the names that the `use` tag gives them. -/
def BlockImport.importInto (i : BlockImport) (d : Dict Block) (blocks : List (String × Block)) :
    Dict Block :=
  blocks.foldl (fun d entry => d.insert (i.rename entry.1) entry.2) d

/-- Nothing but the imports of the template is different behind. -/
structure World.Imports (t : Template) (w : World) (imported : Dict Block) (after : World) :
    Prop where
  next : after.next = w.next
  store : after.store = w.store
  cache : after.cache = w.cache
  imported : (after.linksOf t).imported = imported
  claimed : (after.linksOf t).claimed = (w.linksOf t).claimed
  others : ∀ u : Template, u.number ≠ t.number → after.linksOf u = w.linksOf u

namespace Environment
variable {env : Environment} {patience : Patience} {depth : Nat}

theorem run_importBlocks (t : Template) (i : BlockImport) (blocks : List (String × Block))
    (w : World) {given : World → Prop} {deep : Prop} :
    (env.run patience depth (t.importBlocks i blocks) w).Ends
      (fun _ after => w.Imports t (i.importInto (w.linksOf t).imported blocks) after)
      given deep := by
  induction blocks generalizing w with
  | nil => exact ⟨rfl, rfl, rfl, rfl, rfl, fun _ _ => rfl⟩
  | cons entry rest ih =>
    obtain ⟨name, b⟩ := entry
    let mid := w.modifyLinks t fun l =>
      { l with imported := l.imported.insert (i.rename name) b }
    have himport : (env.answer patience depth (.importBlock t (i.rename name) b) w).Ends
        (fun _ after => after = mid) given deep := by
      rw [env.answer_onTheSpot patience depth rfl]
      exact (rfl : mid = mid)
    refine ends_ask himport ?_
    rintro _ _ rfl
    have hmid : mid.linksOf t = { w.linksOf t with
        imported := (w.linksOf t).imported.insert (i.rename name) b } :=
      w.linksOf_modifyLinks_self t _
    refine (ih mid).mono (fun _ after h => ⟨h.next, h.store, h.cache, ?_, ?_, ?_⟩) (fun _ h => h) id
    · rw [h.imported, hmid]
      rfl
    · rw [h.claimed, hmid]
    · intro u hu
      rw [h.others u hu]
      exact w.linksOf_modifyLinks_of_ne (Ne.symm hu) _

/-- The blocks that a template has to offer are looked up and imported. -/
theorem run_importFrom (t source : Template) (i : BlockImport) (w : World) {given : World → Prop}
    {deep : Prop} : (env.run patience depth (do
      let links ← (Program.request (.links source) : Program Links)
      t.importBlocks i (links.imported.merge source.definedBlocks) : Attempt Unit).run w).Ends
      (fun r after => r = .ok () ∧ w.Imports t (i.importInto (w.linksOf t).imported
        ((w.linksOf source).imported.merge source.definedBlocks)) after) given deep := by
  let blocks := (w.linksOf source).imported.merge source.definedBlocks
  have hrun : env.run patience depth (do
      let links ← (Program.request (.links source) : Program Links)
      t.importBlocks i (links.imported.merge source.definedBlocks) : Attempt Unit).run w
      = env.run patience depth (t.importBlocks i blocks : Attempt Unit).run w :=
    env.run_ask_done patience depth (env.answer_links patience depth source w)
  rw [hrun]
  exact ends_bind (run_importBlocks t i blocks w) fun _ _ h => ⟨rfl, h⟩

end Environment

/-! ## One tag after the other -/

theorem Template.resultIn_mergeEach_cons (t : Template) (c : Context) {i : BlockImport}
    {name : String} (h : i.expression = [.string name]) (rest : List BlockImport) :
    Rendering.resultIn (Scope.start t c) (t.mergeEach (i :: rest)) = (do
      let source ← Template.resolve name t.base t.options
      ExceptT.mk (Program.request (.mergeImports source c))
      let links ← (Program.request (.links source) : Program Links)
      t.importBlocks i (links.imported.merge source.definedBlocks)
      Rendering.resultIn (Scope.start t c) (t.mergeEach rest)) := by
  have heval : Expr.evaluate i.expression = pure (Value.string name) := by
    rw [h]
    rfl
  have hfind (name : String) (s : Scope) : Rendering.findTemplate (.string name) s
      = (Template.resolve name s.template.base s.template.options).run >>= fun found =>
        .done (found, s) := Rendering.findTemplate_string name s
  refine ExceptT.ext ?_
  show (t.mergeEach (i :: rest) (Scope.start t c) >>= fun r => Program.done r.1) = _
  rw [mergeEach, heval, pure_bind, Rendering.bind_run, hfind, Program.bind_assoc,
    Program.bind_assoc, ExceptT.run_bind]
  congr 1
  funext found
  cases found with
  | error failure => rfl
  | ok source =>
    show Program.ask (.mergeImports source c) _ = Program.ask (.mergeImports source c) _
    congr 1
    funext merged
    cases merged with
    | error failure => rfl
    | ok _ =>
      show Program.ask (.links source) _ = Program.ask (.links source) _
      congr 1
      funext links
      let imported := t.importBlocks i (links.imported.merge source.definedBlocks)
      have hleft : (Rendering.lift imported >>= fun _ => t.mergeEach rest) (Scope.start t c)
          = imported >>= fun _ => t.mergeEach rest (Scope.start t c) := by
        rw [Rendering.bind_run]
        exact Program.bind_assoc _ _ _
      have hright : ((imported : Attempt Unit) >>= fun _ =>
          Rendering.resultIn (Scope.start t c) (t.mergeEach rest)).run
          = imported >>= fun _ => t.mergeEach rest (Scope.start t c) >>= fun r => .done r.1 :=
        Program.bind_assoc _ _ _
      refine Eq.trans ?_ hright.symm
      exact (congrArg (· >>= fun r => Program.done r.1) hleft).trans (Program.bind_assoc _ _ _)
end Stencil
