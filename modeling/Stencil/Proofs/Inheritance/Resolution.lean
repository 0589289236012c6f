import Stencil.Proofs.Inheritance.Independence
import Stencil.Proofs.Settings.Own

/-!
# The outcome of resolving `use` tags

To resolve the `use` tags of a template comes to an end, in whatever graph the tags lead, and the
tags of each template are gone through once at most.  If they never lead back, the template is left
with the blocks that its tags bring from left to right, whatever templates have been found and
rendered before (`Environment.mergeImports_brings`).

Where templates are found by names as they are written as well, this needs that no such name is the
locator of another source: otherwise it depends on what is stored already which of them a tag leads
to (`Environment.not_merged_dotted`).
-/
namespace Stencil
namespace Environment
variable {env : Environment} {sources : Dict String}

/-- The locators of the sources and of what is stored. -/
def locators (sources : Dict String) (w : World) : Finset String :=
  (sources.keys ++ w.store.keys).toFinset

/-- **Resolving `use` tags comes to an end**, each template's at most once. -/
theorem frugal_of_named (henv : env.Supplies sources)
    (hnamed : ∀ locator source nodes, sources.find? locator = some source →
      Node.ofSource source = .ok nodes → Node.UsesByName nodes)
    {w : World} (hmirrors : env.Mirrors sources w)
    (hstored : ∀ locator u, w.store.find? locator = some u → Node.UsesByName u.nodes)
    {t : Template} (ht : Node.UsesByName t.nodes) (c : Context) (patience : Patience) {depth : Nat}
    (hdepth : sources.length + w.store.length < depth) :
    env.Frugal sources (locators sources w) patience depth (t.mergeImports c) (fun _ _ => True)
      w := by
  have hkey {α : Type} {d : Dict α} {locator : String} {a : α} (h : d.find? locator = some a) :
      locator ∈ d.keys := List.mem_map_of_mem (Dict.mem_of_find? h)
  have hfew : (locators sources w).card ≤ sources.length + w.store.length := by
    refine (List.toFinset_card_le _).trans (Nat.le_of_eq ?_)
    rw [List.length_append, Dict.keys, Dict.keys, List.length_map, List.length_map]
  refine frugal_mergeImports henv (fun locator source h => ?_) hnamed ⟨hmirrors, fun locator u h =>
    ⟨?_, hstored locator u h⟩⟩ ht c fun _ => ?_
  · exact List.mem_toFinset.mpr (List.mem_append_left _ (hkey h))
  · exact List.mem_toFinset.mpr (List.mem_append_right _ (hkey h))
  · exact (Finset.card_filter_le _ _).trans_lt (hfew.trans_lt hdepth)

/-- **Resolving `use` tags comes to an end, and what is borrowed does not depend on what was done
before.**  For sources whose tags name templates by texts, the tags of no template are gone through
twice, and as many levels of answers as there are sources and stored templates are enough.  If these
sources are all there, can be compiled and never come back to themselves, then behind any history
the tags are resolved without a failure, and each stored template with resolved tags has imported
the fold over its tags.  The extensions leave templates alone, and what is stored is made under the
settings of the environment, which is so for all hosts of `under_afterwards`. -/
theorem mergeImports_brings (henv : env.Supplies sources)
    (hnamed : ∀ locator source nodes, sources.find? locator = some source →
      Node.ofSource source = .ok nodes → Node.UsesByName nodes) (patience : Patience) :
    (∀ (w : World) (t : Template) (c : Context) (depth : Nat), env.Mirrors sources w →
      (∀ locator u, w.store.find? locator = some u → Node.UsesByName u.nodes) →
      Node.UsesByName t.nodes → sources.length + w.store.length < depth →
        env.run patience depth (t.mergeImports c).run w ≠ .tooDeep ∧
          ((env.grants patience depth (t.mergeImports c).run w).map Template.number).Nodup) ∧
    (env.Delivers sources → env.Coherent sources → env.Provides .aloof (fun _ _ => True) →
      ∀ (proper : Context → Prop) (start last : World) (events : List Request),
        env.Starts sources start →
        History (· = env) (env.Visit proper) World.withoutJournal start events last →
        (∀ r ∈ events, r.Under env.options) →
        ∀ (locator : String) (t : Template) (c : Context) (depth : Nat),
          last.store.find? locator = some t → sources.length + last.store.length < depth →
          ∃ after, env.run patience depth (t.mergeImports c).run last = .done (.ok ()) after ∧
            after.Merged t ∧ ∀ other u, after.store.find? other = some u →
              after.isUnresolved u = false → after.Merged u) := by
  refine ⟨fun w t c depth hmirrors hstored ht hdepth => ?_,
    fun hdelivers hcoherent hhost proper start last events hstart h hunder locator t c depth ht
      hdepth => ?_⟩
  · have hfrugal := frugal_of_named henv hnamed hmirrors hstored ht c patience hdepth
    exact ⟨hfrugal.ends, hfrugal.once⟩
  · have hsound := sound_afterwards henv hcoherent hdelivers hhost hstart h hunder
    have hstored (l : String) (u : Template) (hu : last.store.find? l = some u) :
        Node.UsesByName u.nodes := by
      obtain ⟨source, hsource, hnodes⟩ := (hsound.compiled l u hu).source
      exact hnamed l source u.nodes hsource hnodes
    have hfrugal := frugal_of_named henv hnamed hsound.mirrors hstored (hstored locator t ht) c
      patience hdepth
    have hends := hsound.run_mergeImports henv hdelivers hcoherent patience depth ht
      (fun _ => False.elim) c
    cases hrun : env.run patience depth (t.mergeImports c).run last with
    | tooDeep => exact absurd hrun hfrugal.ends
    | pending after =>
      rw [hrun] at hends
      exact hends.elim
    | done r after =>
      rw [hrun] at hends
      obtain ⟨rfl, ⟨hafter, hevolves⟩, hresolved, -⟩ := hends
      have hall (other : String) (u : Template) (hu : after.store.find? other = some u)
          (hresolved : after.isUnresolved u = false) : after.Merged u :=
        hafter.eq_usedBlocks hu hresolved
      exact ⟨after, rfl, hall locator t (hevolves.store locator t ht) hresolved, hall⟩

end Environment

/-! ## Sources in a table -/

/-- The names in `use` tags, each with the locator of the source that it stands in. -/
def Dict.usedNames (sources : Dict String) : List (String × String) :=
  sources.flatMap fun (locator, source) => match Node.ofSource source with
    | .ok nodes => ((Node.walkAll nodes).filterMap Node.blockImport?).filterMap fun i =>
      match i.expression with
      | [.string name] => some (locator, name)
      | _ => none
    | .error _ => []

/-- All sources can be compiled, and their `use` tags name templates by texts. -/
def Dict.isReadable (sources : Dict String) : Bool :=
  sources.all fun (_, source) => match Node.ofSource source with
    | .ok nodes => ((Node.walkAll nodes).filterMap Node.blockImport?).all fun i =>
      match i.expression with
      | [.string _] => true
      | _ => false
    | .error _ => false

section
variable {sources : Dict String} {locator name : String}

theorem Dict.NamesUse.mem (h : sources.NamesUse locator name) :
    (locator, name) ∈ sources.usedNames := by
  obtain ⟨source, nodes, i, hsource, hnodes, hi, hname⟩ := h
  refine List.mem_flatMap.mpr ⟨(locator, source), Dict.mem_of_find? hsource, ?_⟩
  dsimp only
  rw [hnodes]
  exact List.mem_filterMap.mpr ⟨i, hi, by rw [hname]⟩

theorem Dict.isReadable_find? (h : sources.isReadable = true) {source : String}
    (hsource : sources.find? locator = some source) :
    ∃ nodes, Node.ofSource source = .ok nodes ∧ Node.UsesByName nodes := by
  have hentry := List.all_eq_true.mp h _ (Dict.mem_of_find? hsource)
  dsimp only at hentry
  split at hentry
  · next nodes hnodes =>
    refine ⟨nodes, hnodes, fun i hi => ?_⟩
    have hname := List.all_eq_true.mp hentry i hi
    split at hname
    · next name heq => exact ⟨name, heq⟩
    · cases hname
  · cases hentry

/-- It is enough to give each locator a rank, so that `use` tags lead to lower ones. -/
theorem Environment.Connects.of_rank {env : Environment} (rank : String → Nat)
    (hreadable : sources.isReadable = true) (hranked : ∀ use ∈ sources.usedNames,
      let other := Locator.resolveString env.options.namespaces (some use.1) use.2
      (sources.find? other).isSome = true ∧ rank other < rank use.1) :
    env.Connects sources := by
  have huses {locator other : String} (h : sources.Uses env.options locator other) :
      (sources.find? other).isSome = true ∧ rank other < rank locator := by
    obtain ⟨name, hname, rfl⟩ := h
    exact hranked (locator, name) hname.mem
  refine ⟨fun locator source nodes hsource hnodes => ?_, fun locator source hsource => ?_,
    fun locator other h => Option.isSome_iff_exists.mp (huses h).1, fun locator hcycle => ?_⟩
  · obtain ⟨_, hread, hnamed⟩ := Dict.isReadable_find? hreadable hsource
    obtain rfl := Except.ok.inj (hread.symm.trans hnodes)
    exact hnamed
  · obtain ⟨nodes, hread, -⟩ := Dict.isReadable_find? hreadable hsource
    exact ⟨nodes, hread⟩
  · have hlower {l m : String} (h : Relation.TransGen (sources.Uses env.options) l m) :
        rank m < rank l := by
      induction h with
      | single h => exact (huses h).2
      | tail _ h ih => exact (huses h).2.trans ih
    exact Nat.lt_irrefl _ (hlower hcycle)

end

namespace Environment
variable (table : Dict String) (options : Options)

theorem reader_supplies : (reader table options).Supplies table where
  load locator := Loader.serves_memory table locator
  cache entries written locator tree h other hother := by
    obtain rfl := Except.ok.inj h
    simp only [cachedTree, reader, Cache.memory, Dict.contains, Dict.find?_insert,
      if_neg (Ne.symm hother)]

theorem reader_delivers : (reader table options).Delivers table where
  load locator source hsource := by
    show (Loader.memory table locator).run.Meets _ _
    rw [Loader.memory, hsource]
    rfl
  cache entries locator tree := ⟨_, rfl⟩

theorem reader_aloof : (reader table options).Provides .aloof fun _ _ => True :=
  provides_of_builtins (fun _ _ => trivial) trivial rfl rfl rfl (fun _ _ _ => trivial)
    fun locator => (Loader.serves_memory table locator).mono fun _ _ _ _ => trivial

theorem reader_starts : (reader table options).Starts table {} where
  links := rfl
  store := rfl
  mirrors _ _ _ hcached := by cases hcached
  readable _ _ := ⟨none, rfl⟩

end Environment

/-- The request stores nothing under other settings. -/
def Request.isUnder (options : Options) : Request → Bool
  | .store t => t.options = options
  | _ => true

theorem Request.under_of_isUnder {options : Options} {r : Request}
    (h : r.isUnder options = true) : r.Under options := by
  cases r with
  | store t =>
    have hoptions : t.options = options := of_decide_eq_true h
    exact hoptions
  | _ => trivial

/-! Two ways lead to the same source, and one of its users has been rendered before. -/

/-- The sources. -/
def Diamond.sources : Dict String := [
  ("a", "\x7b% use 'b' %\x7d\x7b% use 'c' with x as y %\x7d"),
  ("b", "\x7b% use 'd' %\x7d"),
  ("c", "\x7b% use 'd' %\x7d"),
  ("d", "\x7b% block x 1 %\x7d")]

/-- The host of the sources. -/
def Diamond.host : Environment := Environment.reader sources { allowInlineIncludes := true }

/-- How far the source is from the last one. -/
def Diamond.rank (locator : String) : Nat :=
  if locator = "a" then 2 else if locator = "d" then 0 else 1

namespace Environment
open Diamond

theorem coherent_diamond : host.Coherent sources := by
  have hsources : sources.isReadable = true ∧ ∀ use ∈ sources.usedNames,
      let other := Locator.resolveString host.options.namespaces (some use.1) use.2
      ((sources.find? other).isSome = true ∧ rank other < rank use.1) ∧ other = use.2 := by
    decide +kernel
  obtain ⟨hreadable, hused⟩ := hsources
  exact {
    toConnects := .of_rank rank hreadable fun use huse => (hused use huse).1
    inline := fun _ locator name h _ => (hused (locator, name) h.mem).2 }

theorem mergeImports_brings_diamond :
    let visits := do
      let w ← (host.run .immediate 9 (host.renderNamed "c" []).run {}).world?
      (host.run .immediate 9 (host.template "a").run w).world?
    ∃ t last after, visits = some last ∧ last.store.find? "a" = some t ∧
      host.run .patient 9 (t.mergeImports []).run last = .done (.ok ()) after ∧
      after.Merged t := by
  intro visits
  have hruns : ((host.run .immediate 9 (host.renderNamed "c" []).run {}).world?.any fun w =>
      (host.run .immediate 9 (host.template "a").run w).world?.any fun last =>
        (last.store.find? "a").isSome && decide (last.store.length < 5) &&
          (host.events .immediate 9 (host.renderNamed "c" []).run {} ++
            host.events .immediate 9 (host.template "a").run w).all (Request.isUnder host.options))
      = true := by decide +kernel
  simp only [Option.any_eq_true, Bool.and_eq_true, decide_eq_true_eq] at hruns
  obtain ⟨w, hw, last, hlast, ⟨hstored, hfew⟩, hunder⟩ := hruns
  obtain ⟨t, ht⟩ := Option.isSome_iff_exists.mp hstored
  have hfirst : History (· = host) (host.Visit fun _ => True) World.withoutJournal {}
      (host.events .immediate 9 (host.renderNamed "c" []).run {}) w := by
    refine .single ?_ (.render "c" trivial) hw
    exact rfl
  have h : History (· = host) (host.Visit fun _ => True) World.withoutJournal {}
      (host.events .immediate 9 (host.renderNamed "c" []).run {} ++
        host.events .immediate 9 (host.template "a").run w) last := by
    refine .run hfirst ?_ .immediate 9 (.find "a") hlast
    exact rfl
  have hcoherent := coherent_diamond
  obtain ⟨-, hbrings⟩ := mergeImports_brings (reader_supplies sources _) hcoherent.named .patient
  obtain ⟨after, hrun, hmerged, -⟩ := hbrings (reader_delivers sources _) hcoherent
    (reader_aloof sources _) _ _ last _ (reader_starts sources _) h
    (fun r hr => Request.under_of_isUnder (List.all_eq_true.mp hunder r hr)) "a" t [] 9 ht
    (Nat.add_lt_add_left hfew 4)
  refine ⟨t, last, after, ?_, ht, hrun, hmerged⟩
  show (do
    let w ← (host.run .immediate 9 (host.renderNamed "c" []).run {}).world?
    (host.run .immediate 9 (host.template "a").run w).world?) = some last
  rw [hw]
  exact hlast

end Environment

/-! A name as it is written is the locator of another template than the tag leads to. -/

/-- The sources. The page uses the one without a dot. -/
def Dotted.sources : Dict String := [
  ("./b", "\x7b% block x 1 %\x7d"),
  ("b", "\x7b% block x 2 %\x7d"),
  ("page", "\x7b% use './b' %\x7d\x7b\x7b block('x') \x7d\x7d"),
  ("other", "\x7b% include '@n/b' %\x7d\x7b% include 'b' %\x7d")]

/-- The host of the sources, whose namespace leads to the one with a dot. -/
def Dotted.host : Environment :=
  Environment.reader sources { allowInlineIncludes := true, namespaces := [("n", ".")] }

/-- The page has the highest rank. -/
def Dotted.rank (locator : String) : Nat := if locator = "page" then 1 else 0

namespace Environment
open Dotted

/-- **What is rendered before may change what is borrowed**, if templates are also found by names as
they are written.  The page comes to another text once the other template has been rendered, and the
block that it has imported is not the one that its `use` tag should bring. -/
theorem not_merged_dotted :
    let render (name : String) (w : World) := host.run .immediate 9 (host.renderNamed name []).run w
    let origin (d : Dict Block) := (d.find? "x").bind (·.template.id)
    host.Connects sources ∧ host.Supplies sources ∧ host.Delivers sources ∧
      (render "page" {}).text? = some "2" ∧
      ∃ between last events t, (render "other" {}).text? = some "12" ∧
        (render "other" {}).world? = some between ∧ (render "page" between).text? = some "1" ∧
        (render "page" between).world? = some last ∧
        History (· = host) (host.Visit fun _ => True) World.withoutJournal {} events last ∧
        last.store.find? "page" = some t ∧
        host.run .immediate 9 (t.mergeImports []).run last = .done (.ok ()) last ∧
        origin ((last.linksOf t).imported) = some "./b" ∧ origin (last.usedBlocks t) = some "b" ∧
        ¬ last.Merged t := by
  intro render origin
  have hsources : sources.isReadable = true ∧ ∀ use ∈ sources.usedNames,
      let other := Locator.resolveString host.options.namespaces (some use.1) use.2
      (sources.find? other).isSome = true ∧ rank other < rank use.1 := by
    decide +kernel
  have hfirst : (render "page" {}).text? = some "2" := by decide +kernel
  have hruns : ((render "other" {}).world?.any fun between =>
      (render "page" between).world?.any fun last => (last.store.find? "page").any fun t =>
        decide ((render "other" {}).text? = some "12") &&
          decide ((render "page" between).text? = some "1") && !last.isUnresolved t &&
          decide (origin ((last.linksOf t).imported) = some "./b") &&
          decide (origin (last.usedBlocks t) = some "b")) = true := by decide +kernel
  simp only [Option.any_eq_true, Bool.and_eq_true, decide_eq_true_eq, Bool.not_eq_true'] at hruns
  obtain ⟨between, hbetween, last, hlast, t, ht, hpages, hused⟩ := hruns
  obtain ⟨⟨⟨hother, hpage⟩, hresolved⟩, himported⟩ := hpages
  have hvisit : History (· = host) (host.Visit fun _ => True) World.withoutJournal {}
      (host.events .immediate 9 (host.renderNamed "other" []).run {}) between := by
    refine .single ?_ (.render "other" trivial) hbetween
    exact rfl
  have h : History (· = host) (host.Visit fun _ => True) World.withoutJournal {}
      (host.events .immediate 9 (host.renderNamed "other" []).run {} ++
        host.events .immediate 9 (host.renderNamed "page" []).run between) last := by
    refine .run hvisit ?_ .immediate 9 (.render "page" trivial) hlast
    exact rfl
  refine ⟨.of_rank rank hsources.1 hsources.2, reader_supplies sources _, reader_delivers sources _,
    hfirst, between, last, _, t, hother, hbetween, hpage, hlast, h, ht, ?_, himported, hused,
    fun hmerged => ?_⟩
  · exact host.run_mergeImports_resolved hresolved
  · have hsame : origin ((last.linksOf t).imported) = origin (last.usedBlocks t) :=
      congrArg origin hmerged.1
    rw [himported, hused] at hsame
    exact absurd hsame (by decide)

end Environment
end Stencil
