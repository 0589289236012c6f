import Stencil.Engine.Cache
import Stencil.Engine.Loader
import Stencil.Proofs.Engine.Depth
import Stencil.Proofs.Engine.Histories

/-!
# What is in a cache

Environments that share a cache and have the same sources write into it what they have made of a
source, and read what others have written.  An entry is the document of the compiled source of its
locator, or of an empty tree: one that does not rethrow takes a source that it cannot compile for
empty, reports the failure, and writes the empty tree all the same
(`Environment.cached_afterwards`).  So an environment that would fail to compile the source finds an
empty template instead, once another one has been there (`Environment.text_emptied`).
-/
namespace Stencil

/-- The tree is what is made of a source under the name of its locator: the compiled source, or
nothing, if it is reported that the source cannot be compiled. -/
structure CompiledTree.StandsFor (tree : CompiledTree) (locator source : String)
    (reported : Report → Prop) : Prop where
  id : tree.id = some locator
  nodes : Node.ofSource source = .ok tree.nodes ∨ ∃ failure,
    Node.ofSource source = .error failure ∧ tree.nodes = [] ∧
      reported (.compileFailed (some locator) failure)

/-- A source that cannot be compiled is represented by the empty tree. -/
theorem CompiledTree.StandsFor.eq_empty {tree : CompiledTree} {locator source : String}
    {reported : Report → Prop} (h : tree.StandsFor locator source reported) {failure : Failure}
    (hfailure : Node.ofSource source = .error failure) : tree = ⟨some locator, []⟩ := by
  obtain ⟨hid, hnodes | ⟨-, -, hempty, -⟩⟩ := h
  · cases hfailure.symm.trans hnodes
  · cases tree
    cases hid
    cases hempty
    rfl

/-- Each entry is the document of a tree that is made of the source of its locator. -/
def Cache.Stands (sources : String → Option String) (reported : Report → Prop)
    (entries : Dict Json) : Prop :=
  ∀ locator document, entries.find? locator = some document →
    ∃ (source : String) (tree : CompiledTree), sources locator = some source ∧
      document = tree.toJson ∧ tree.StandsFor locator source reported

/-- The contract to put nothing else into the cache. What is reported is so, and what is loaded is a
source. -/
def Contract.caching (sources : String → Option String) (reported : Report → Prop) : Contract where
  asks
    | .writeCache locator tree =>
      ∃ source, sources locator = some source ∧ tree.StandsFor locator source reported
    | _ => True
  answers
    | .report said, _ => reported said
    | .load locator, (r : Except Failure String) =>
      ∀ source, r = .ok source → sources locator = some source
    | _, _ => True
  scopes _ := True

namespace Contract
variable {sources : String → Option String} {reported : Report → Prop}

theorem caching_asks {r : Request} (h : ¬ r.Internal) : (caching sources reported).asks r := by
  cases r with
  | writeCache => exact (h trivial).elim
  | _ => trivial

/-- What is loaded and compiled is written as it should be. -/
theorem caching_loadAndCompile (locator : String) (options : Options) :
    Attempt.Meets (caching sources reported) (fun _ => True)
      (Template.loadAndCompile locator options) := by
  have hload : Attempt.Meets (caching sources reported)
      (fun source => sources locator = some source)
      (ExceptT.mk (Program.request (.load locator))) := ⟨trivial, fun _ hanswer => hanswer⟩
  refine hload.bind fun source hsource => ?_
  refine (Template.meets_compile (fun _ h => caching_asks h.ordinary.not_internal) (some locator)
    source options).bind fun t ht => ?_
  obtain ⟨-, hid, hnodes⟩ := ht
  have hwrite : Attempt.Meets (caching sources reported) (fun _ => True)
      (ExceptT.mk (Program.request (.writeCache locator t.toTree))) :=
    ⟨⟨source, hsource, hid, hnodes⟩, fun _ _ _ _ => trivial⟩
  exact hwrite.bind fun _ _ => Attempt.meets_pure trivial

theorem caching_permits (sources : String → Option String) (reported : Report → Prop) :
    (caching sources reported).Permits True True where
  storeless _ h := caching_asks h.ordinary.not_internal
  resolve name base options :=
    Template.meets_resolve_of (fun _ h => caching_asks h.ordinary.not_internal)
      (fun locator => (caching_loadAndCompile locator options).mono fun _ _ => trivial) name base
  claim _ := trivial
  merge _ _ := ⟨trivial, fun _ _ => trivial⟩
  context _ _ _ := trivial
  autoescape _ _ _ := trivial
  find _ _ _ _ := trivial
  found _ _ _ _ _ _ := trivial
  above _ _ _ _ _ _ := trivial
  foundAbove _ _ _ _ _ _ _ _ := trivial
  after _ _ _ _ _ _ := trivial
  inherit _ _ _ _ := trivial

end Contract

namespace Cache
variable {sources : String → Option String} {reported : Report → Prop} {entries : Dict Json}

theorem Stands.insert (h : Stands sources reported entries) {locator source : String}
    (hsource : sources locator = some source) {tree : CompiledTree}
    (htree : tree.StandsFor locator source reported) :
    Stands sources reported (entries.insert locator tree.toJson) := by
  intro other document hfound
  rw [Dict.find?_insert] at hfound
  split at hfound
  · next heq =>
    obtain rfl := Option.some.inj hfound
    exact ⟨source, tree, heq ▸ hsource, rfl, heq ▸ htree⟩
  · exact h other document hfound

end Cache

/-- A host with the sources, and with the cache in memory or none. It keeps away from what goes on
inside of renders. -/
structure Environment.Reads (env : Environment) (sources : String → Option String) : Prop where
  keepsAway : env.KeepsAway fun locator source => sources locator = some source
  cache : env.cache = none ∨ env.cache = some Cache.memory

namespace Environment
variable {sources : String → Option String}

/-- **Entries stand for sources** whatever templates do. -/
theorem upholds_caching {env : Environment} (henv : env.Reads sources) (reported : Report → Prop) :
    env.Upholds (.caching sources reported) (fun r => ∀ said, r = .report said → reported said)
      (fun w => Cache.Stands sources reported w.cache) where
  errand _ _ he _ := henv.keepsAway.errand (Contract.caching_permits sources reported)
    (fun _ => trivial) (fun _ => Contract.caching_asks) (fun _ _ h => h)
    (fun r _ hload he => by
      cases r with
      | report said => exact absurd rfl he
      | load locator => exact absurd trivial hload
      | _ => trivial) he
  onTheSpot patience r w he hasks hheed hw := by
    cases r with
    | writeCache locator tree =>
      obtain ⟨source, hsource, htree⟩ := hasks
      rw [answer, answerWith, cacheTree]
      rcases henv.cache with hcache | hcache
      · rw [hcache]
        exact ⟨trivial, hw⟩
      · rw [hcache]
        exact ⟨trivial, hw.insert hsource htree⟩
    | report said => exact ⟨hheed said rfl, hw⟩
    | load locator => cases he
    | _ =>
      refine .of_all ((env.answer_frame patience he w).mono fun after h => ?_) fun _ => trivial
      rw [h.2.2 id]
      exact hw

/-- What a history puts into a cache that was empty stands for sources. -/
theorem stands_afterwards {hosts : Environment → Prop}
    (hhosts : ∀ env, hosts env → env.Reads sources) {start last : World} {events : List Request}
    (hstart : start.cache = []) (h : History hosts Order World.cache start events last) :
    Cache.Stands sources (fun said => Request.report said ∈ events) last.cache := by
  let reported (said : Report) : Prop := Request.report said ∈ events
  refine h.leaves (fun w => Cache.Stands sources reported w.cache)
    (fun r => ∀ said, r = .report said → reported said) ?_ ?_ ?_ ?_
  · intro w w' hkept hw
    rwa [show w'.cache = w.cache from hkept]
  · intro env henv patience depth α p hp w hw hheed
    have hupholds := upholds_caching (hhosts env henv) reported
    have hmeets := hp.meets (Contract.caching_permits sources reported) (fun _ => trivial)
      fun _ h => Contract.caching_asks h.not_internal
    exact (run_leaves hupholds patience depth hmeets hw hheed).all
  · rintro _ hr said rfl
    exact hr
  · intro locator document hfound
    rw [hstart] at hfound
    cases hfound

/-! ## Reading an entry -/

section
variable (env : Environment) {patience : Patience} {depth : Nat} {options : Options}
  {locator : String} {document : Json} {w : World}

/-- A template that is cached but not stored is made of what its document reads as. -/
theorem run_locate_cached (hcache : env.cache = some Cache.memory)
    (hstored : w.store.find? locator = none) (hfound : w.cache.find? locator = some document) :
    env.run patience depth (Template.locate locator options).run w
      = match Cache.readDocument locator document with
        | .ok tree => env.run patience depth (Template.make options tree : Attempt Template).run w
        | .error failure => .done (.error failure) w := by
  have hread : env.cachedTree w.cache locator = some <$> Cache.readDocument locator document := by
    have hhas : w.cache.contains locator = true := by
      rw [Dict.contains, hfound]
      rfl
    simp only [cachedTree, hcache, Cache.memory, hhas, hfound, if_true]
  have hnone := env.answer_stored patience depth locator w
  have hcached := env.answer_cached patience depth locator w
  rw [hstored] at hnone
  rw [hread] at hcached
  refine (env.run_ask_done patience depth hnone).trans
    ((env.run_ask_done patience depth hcached).trans ?_)
  cases Cache.readDocument locator document with
  | ok tree => rfl
  | error failure => rfl

/-- A source that is compiled makes the same template as its tree. -/
theorem run_compile {id : Option String} {source : String} {nodes : List Node}
    (h : Node.ofSource source = .ok nodes) :
    env.run patience depth (Template.compile id source options).run w
      = env.run patience depth (Template.make options ⟨id, nodes⟩ : Attempt Template).run w := by
  rw [Template.compile, h]

end

/-- The document of an empty tree reads as that tree. -/
theorem readDocument_empty (locator : String) :
    Cache.readDocument locator (CompiledTree.toJson ⟨some locator, []⟩)
      = .ok ⟨some locator, []⟩ := by
  rfl

/-- **What is in a cache** after a history that has begun with an empty one.  An entry is the
document of the compiled source of its locator, or of an empty tree if it was reported that the
source cannot be compiled.  Whoever does not have the template in its store takes it from there: it
fails if the document cannot be read, a compiled source makes the template that compiling it would
make, and one that cannot be compiled makes an empty template under any settings, with nothing
reported. -/
theorem cached_afterwards {hosts : Environment → Prop} {sources : String → Option String}
    (hhosts : ∀ env, hosts env → env.Reads sources) {start last : World} {events : List Request}
    (hstart : start.cache = []) (h : History hosts Order World.cache start events last)
    {locator : String} {document : Json} (hfound : last.cache.find? locator = some document) :
    ∃ (source : String) (tree : CompiledTree), sources locator = some source ∧
      document = tree.toJson ∧
      tree.StandsFor locator source (fun said => Request.report said ∈ events) ∧
      ∀ (env : Environment) (patience : Patience) (depth : Nat) (options : Options),
        env.cache = some Cache.memory → last.store.find? locator = none →
        let outcome := env.run patience depth (Template.locate locator options).run last
        let made (tree : CompiledTree) :=
          env.run patience depth (Template.make options tree : Attempt Template).run last
        (∀ failure, Cache.readDocument locator document = .error failure →
          outcome = .done (.error failure) last) ∧
        (∀ nodes, Node.ofSource source = .ok nodes →
          Cache.readDocument locator document = .ok ⟨some locator, nodes⟩ →
          outcome
            = env.run patience depth (Template.compile (some locator) source options).run last) ∧
        (∀ failure, Node.ofSource source = .error failure →
          outcome = made ⟨some locator, []⟩) := by
  obtain ⟨source, tree, hsource, hdocument, htree⟩ :=
    stands_afterwards hhosts hstart h locator document hfound
  refine ⟨source, tree, hsource, hdocument, htree, ?_⟩
  intro env patience depth options hcache hstored
  dsimp only
  rw [env.run_locate_cached hcache hstored hfound]
  refine ⟨fun failure hread => ?_, fun nodes hnodes hread => ?_, fun failure hfailure => ?_⟩
  · rw [hread]
  · rw [hread, env.run_compile hnodes]
  · rw [hdocument, htree.eq_empty hfailure, readDocument_empty]

/-! A source that cannot be compiled, read by a host that does not rethrow and by one that does. -/

/-- A host with the cache and the sources. -/
def reader (table : Dict String) (options : Options) : Environment :=
  { standard options with loader := some (Loader.memory table), cache := some Cache.memory }

theorem reader_reads (table : Dict String) (options : Options) :
    (reader table options).Reads table.find? where
  keepsAway := by
    refine keepsAway_of_builtins rfl rfl rfl (fun _ _ _ => trivial) fun locator => ?_
    exact Loader.serves_memory table locator
  cache := .inr rfl

/-- The one source of the readers. -/
def Misread.table : Dict String := [("bad", "{% if %}")]

/-- The settings of a reader. -/
def Misread.settings (rethrow : Bool) : Options := { rethrow }

/-- A reader. -/
def Misread.host (rethrow : Bool) : Environment := reader table (settings rethrow)

/-- How a reader finds the template. -/
def Misread.finding (rethrow : Bool) : Program (Except Failure Template) :=
  (Template.resolve "bad" none (settings rethrow)).run

open Misread

/-- One that does not rethrow has left an empty tree to one that does. -/
theorem cached_afterwards_misread :
    ∃ events last, History (fun env => ∃ rethrow, env = host rethrow) Order World.cache {} events
        last ∧
      last.cache.find? "bad" = some (CompiledTree.toJson ⟨some "bad", []⟩) ∧
      last.store.find? "bad" = none ∧
      (host true).run .immediate 9 (Template.locate "bad" (settings true)).run last
        = (host true).run .immediate 9
          (Template.make (settings true) ⟨some "bad", []⟩ : Attempt Template).run last := by
  have hcached : (((host false).run .immediate 9 (finding false) {}).world?.bind
      fun after => after.cache.find? "bad").isSome := by decide +kernel
  obtain ⟨document, hsome⟩ := Option.isSome_iff_exists.mp hcached
  obtain ⟨after, hafter, hfound⟩ := Option.bind_eq_some_iff.mp hsome
  have h : History (fun env => ∃ rethrow, env = host rethrow) Order World.cache {}
      ((host false).events .immediate 9 (finding false) {}) after :=
    .single ⟨false, rfl⟩ (.find "bad" none (settings false)) hafter
  -- The other reader has a store of its own.
  have hown : History (fun env => ∃ rethrow, env = host rethrow) Order World.cache {}
      ((host false).events .immediate 9 (finding false) {}) { after with store := [] } :=
    h.change rfl
  have hhosts : ∀ env, (∃ rethrow, env = host rethrow) → env.Reads table.find? := by
    rintro _ ⟨rethrow, rfl⟩
    exact reader_reads table (settings rethrow)
  obtain ⟨source, tree, hsource, hdocument, htree, hreading⟩ :=
    cached_afterwards hhosts rfl hown hfound
  obtain rfl : "{% if %}" = source := Option.some.inj hsource
  obtain ⟨failure, hfailure⟩ : ∃ failure, Node.ofSource "{% if %}" = .error failure := ⟨_, rfl⟩
  obtain ⟨-, -, hmade⟩ := hreading (host true) .immediate 9 (settings true) rfl rfl
  rw [htree.eq_empty hfailure] at hdocument
  exact ⟨_, _, hown, hdocument ▸ hfound, rfl, hmade failure hfailure⟩

/-- One that rethrows fails to compile the source, but not behind one that does not. -/
theorem text_emptied :
    let text (rethrow : Bool) (w : World) := (host rethrow).run .immediate 9
      (do (← ExceptT.mk (finding rethrow)).text []).run w
    (text true {}).text? = none ∧
      (text false {}).world?.bind (fun after => (text true { after with store := [] }).text?)
        = some "" := by
  decide +kernel

end Environment
end Stencil
