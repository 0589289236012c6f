import Stencil.Proofs.Settings.Texts
import Stencil.Proofs.Text.Escaped

/-!
# Markup comes from templates alone

Where all templates escape for pages and none of them marks what it has worked out as safe, whatever
is put out is either plain text of a template or escaped.  So a delimiter of markup that is in no
plain text of a template is in no text that is rendered, whatever the variables are
(`Environment.textOf_without`).  What carries the proof is that all markup that is ever made, be it
a block, a macro's result or a captured variable, is without the delimiter.
-/
namespace Stencil

/-- The value of a host has neither markup nor functions in it. -/
def Value.Plain (v : Value) : Prop :=
  v.Within ⟨fun _ => False, False, fun _ _ => False, fun _ => False⟩

/-- The nodes escape for pages and mark nothing as safe that they have worked out: there is no
filter `raw`, no tag `apply`, and no tag `autoescape` but for pages. The delimiter is in none of
their plain texts. -/
def Node.AllWithout (d : Char) (nodes : List Node) : Prop :=
  allGuarded (fun s => d ∉ s.toList) (· = some .html) nodes

/-- The source is that of such nodes, or of none. -/
def SourceWithout (d : Char) (source : String) : Prop :=
  ∀ nodes, Node.ofSource source = .ok nodes → Node.AllWithout d nodes

/-- One render that puts the delimiter out nowhere. -/
def Pairing.without {d : Char} (hd : d ∈ Strategy.delimiters) (cached : Dict Json → Prop) :
    Pairing where
  adjust o := o
  options o := o.autoescape = some .html
  text s := d ∉ s.toList
  escapes a := a = some .html
  cause _ := True
  report _ := True
  total := False
  parts := False
  lost _ _ := True
  hosts := False
  waits := True
  cache := cached
  adjust_autoescape _ := rfl
  adjust_allowInlineIncludes _ := rfl
  adjust_namespaces _ := rfl
  adjust_strictVariables _ _ := .inl rfl
  adjust_rethrow _ _ := .inl rfl
  escapes_autoescape _ ho := ho
  rethrow_of_parts h := h.elim
  rethrow_of_total h := h.elim
  report_of_not_rethrow _ _ _ _ := trivial
  report_deprecated _ _ := trivial
  cause_of_ne _ _ := trivial
  ne_of_total h := h.elim
  text_empty := List.not_mem_nil
  text_append s t hs ht := by
    rw [String.toList_append, List.mem_append]
    exact not_or_intro hs ht
  text_spaceless s hs := by
    rw [String.toList_ofList]
    exact fun hmem => hs (Text.mem_of_mem_spaceless hmem)
  text_escapeString strategy s := by
    rw [Strategy.escapeString, String.toList_ofList]
    exact strategy.not_mem_escape s.toList hd
  text_of_escapes_none h := nomatch h
  text_of_hosts h := h.elim
  lost_append _ _ _ _ := trivial

namespace Environment

/-- An environment that escapes for pages and has no extensions of its own. No source that can be
loaded has the delimiter in a plain text, and neither has a tree that is read from a cache that is
filled in this way. -/
structure Escaping (env : Environment) (d : Char) (cached : Dict Json → Prop) : Prop where
  autoescape : env.options.autoescape = some .html
  filters : env.filters = Filter.builtins
  tests : env.tests = Test.builtins
  functions : env.functions = []
  loader : ∀ locator, (env.load locator).run.Meets (.aside True)
    (Yields (fun _ => True) (SourceWithout d))
  read : ∀ entries locator tree, cached entries →
    env.cachedTree entries locator = .ok (some tree) → Node.AllWithout d tree.nodes
  written : ∀ entries locator tree entries', cached entries → Node.AllWithout d tree.nodes →
    env.cacheTree entries locator tree = .ok entries' → cached entries'

variable {env : Environment} {d : Char} {cached : Dict Json → Prop}

theorem Escaping.hosts (h : env.Escaping d cached) (hd : d ∈ Strategy.delimiters) :
    env.Hosts (.without hd cached) where
  extensions := extensions_of_builtins h.filters h.tests h.functions False.elim
  loader := h.loader
  cached entries locator hentries := by
    cases htree : env.cachedTree entries locator with
    | error failure => trivial
    | ok tree =>
      rintro found rfl
      exact h.read entries locator found hentries htree
  cacheTree entries locator tree hentries htree := by
    cases hwritten : env.cacheTree entries locator tree with
    | error failure => trivial
    | ok entries' => exact h.written entries locator tree entries' hentries htree hwritten

/-- **No markup but that of templates.**  In an environment that escapes for pages and has no
extensions of its own, let no template have a filter `raw`, a tag `apply` or a tag `autoescape`, and
let a delimiter of markup be in no plain text of a template.  Then it is in no text that is rendered
with plain variables, in the first render and in all that come after it. -/
theorem textOf_without (hd : d ∈ Strategy.delimiters) (henv : env.Escaping d cached) {entry : Entry}
    (hentry : entry.Fits (.without hd cached)) {c : Context} (hc : c.All Value.Plain) {w : World}
    (hw : w.Fits (.without hd cached)) (patience : Patience) (depth : Nat) :
    let outcome := env.run patience depth (env.textOf entry c).run w
    outcome.All (World.Fits (.without hd cached)) ∧
      ∀ text after, outcome = .done (.ok text) after → d ∉ text.toList := by
  intro outcome
  have hfits : (Pairing.without hd cached).Variables c := hc.mono fun v hv =>
    hv.mono (fun _ => False.elim) False.elim (fun _ _ => False.elim) fun _ => False.elim
  -- The settings are the same on both sides, so that the second run is of no interest.
  obtain ⟨events, other, hparallel⟩ : ∃ events other,
      Parallel (.without hd cached) _ _ _ outcome events other :=
    ⟨_, _, withOptions_parallel (henv.hosts hd) patience depth
      (tandem_textOf henv.autoescape hfits hentry) hw False.elim⟩
  clear_value outcome
  cases hparallel with
  | done hresult hafter =>
    refine ⟨hafter, ?_⟩
    rintro text _ ⟨⟩
    cases hresult with
    | ok htext => exact htext.1
  | pending _ hafter => exact ⟨hafter, by nofun⟩
  | tooDeep => exact ⟨trivial, by nofun⟩
  | part hparts => exact hparts.elim

/-! A greeting, and a name that would start markup. -/

/-- An environment that escapes for pages. -/
def pages : Environment := standard { autoescape := some .html }

/-- The variables of the greeting. -/
def named : Context := [("name", .string "<b>")]

theorem escaping_pages (d : Char) : pages.Escaping d (· = []) where
  autoescape := rfl
  filters := rfl
  tests := rfl
  functions := rfl
  loader _ := trivial
  read _ _ _ _ h := nomatch h
  written _ _ _ _ hentries _ h := by
    cases h
    exact hentries

theorem textOf_without_greeting :
    let entry := Entry.source "Dear {{ name }}"
    ∃ text after, pages.run .immediate 9 (pages.textOf entry named).run (.fresh 0 [])
      = .done (.ok text) after ∧ text = "Dear &lt;b&gt;" ∧ '<' ∉ text.toList := by
  intro entry
  have hread : Node.ofSource "Dear {{ name }}" = .ok [.raw "Dear ", .output [.variable "name"]] :=
    rfl
  have hdelimiter : '<' ∈ Strategy.delimiters := List.mem_cons_self
  have hentry : entry.Fits (.without hdelimiter (· = [])) := by
    intro nodes hnodes
    obtain rfl := Except.ok.inj (hread.symm.trans hnodes)
    have htext : '<' ∉ "Dear ".toList := by decide
    exact ⟨htext, ⟨trivial, trivial⟩, trivial⟩
  have hprogram : pages.textOf entry named = _ := pages.renderSource_of_ofSource hread named
  obtain ⟨after, hrun⟩ : ∃ after, pages.run .immediate 9 (pages.textOf entry named).run
      (.fresh 0 []) = .done (.ok "Dear &lt;b&gt;") after := by
    rw [hprogram]
    exact ⟨_, rfl⟩
  have hnamed : named.All Value.Plain := List.forall_mem_singleton.mpr trivial
  obtain ⟨-, hwithout⟩ := textOf_without hdelimiter (escaping_pages '<') hentry hnamed
    (World.fits_fresh 0 rfl) .immediate 9
  exact ⟨_, after, hrun, rfl, hwithout _ after hrun⟩

end Environment
end Stencil
