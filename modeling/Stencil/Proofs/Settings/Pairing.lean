import Stencil.Proofs.Render.Results
import Stencil.Proofs.Settings.Guarded
import Stencil.Proofs.Settings.State
import Stencil.Proofs.Settings.Within
import Stencil.Text.Spaceless

/-!
# Two renders that differ in their settings

A pairing tells how the settings of one render differ from those of another, and what is known of
all that the first one meets.  Settings that make no difference, or that make one only where the
first render fails, are lawful; that is all that has to be known of them to compare whole renders.
With the same settings on both sides a pairing is about one render, and tells what it keeps.
-/
namespace Stencil

/-- How two renders are paired, the first with the settings that are given, the second with settings
that are worked out from them. -/
structure Pairing where
  /-- The settings of the second render. -/
  adjust : Options → Options
  /-- The settings of the templates of the first. -/
  options : Options → Prop
  /-- The texts that are fit to be put out. -/
  text : String → Prop
  /-- The escapings under which templates are rendered. -/
  escapes : Autoescape → Prop
  /-- The causes for which renders fail. -/
  cause : Cause → Prop
  /-- What is reported. -/
  report : Report → Prop
  /-- A list of nodes never fails. -/
  total : Prop
  /-- The first render may fail where the second goes on. -/
  parts : Prop
  /-- What has been reported, the last report first, by a second render that has gone on where the
  first has failed for a cause. -/
  lost : Cause → List Report → Prop
  /-- The host may have functions of its own. -/
  hosts : Prop
  /-- The host may have values that are not there yet. -/
  waits : Prop
  /-- The documents that are cached. -/
  cache : Dict Json → Prop
  adjust_autoescape : ∀ o, (adjust o).autoescape = o.autoescape
  adjust_allowInlineIncludes : ∀ o, (adjust o).allowInlineIncludes = o.allowInlineIncludes
  adjust_namespaces : ∀ o, (adjust o).namespaces = o.namespaces
  adjust_strictVariables : ∀ o, options o →
    (adjust o).strictVariables = o.strictVariables ∨
      parts ∧ o.strictVariables = true ∧ (adjust o).strictVariables = false ∧
        ∀ c reports, lost c reports
  adjust_rethrow : ∀ o, options o →
    (adjust o).rethrow = o.rethrow ∨
      parts ∧ o.rethrow = true ∧ (adjust o).rethrow = false ∧
        ∀ said failure reports, said.failure? = some failure → (∀ r ∈ reports, report r) →
          lost failure.cause (said :: reports)
  escapes_autoescape : ∀ o, options o → escapes o.autoescape
  rethrow_of_parts : parts → ∀ o, options o → o.rethrow = true
  rethrow_of_total : total → ∀ o, options o → o.rethrow = false
  report_of_not_rethrow : ∀ o, options o → o.rethrow = false → ∀ r, report r
  report_deprecated : ∀ t s, report (.deprecated t s)
  cause_of_ne : ∀ c, c ≠ .pendingValue → cause c
  ne_of_total : total → ∀ c, cause c → c ≠ .pendingValue
  text_empty : text ""
  text_append : ∀ s t, text s → text t → text (s ++ t)
  text_spaceless : ∀ s, text s → text (String.ofList (Text.spaceless s.toList))
  text_escapeString : ∀ (strategy : Strategy) s, text (strategy.escapeString s)
  text_of_escapes_none : escapes none → ∀ s, text s
  text_of_hosts : hosts → ∀ s, text s
  lost_append : ∀ c reports more, lost c reports → lost c (more ++ reports)

section
variable (K : Pairing)

/-! ## What fits a pairing -/

/-- The nodes put out no text that is not fit. -/
def Pairing.Nodes (nodes : List Node) : Prop := Node.allGuarded K.text K.escapes nodes

/-- The tokens declare no text fit that may not be. -/
def Pairing.Tokens (e : Expr) : Prop := Expr.tokensGuarded (∀ s, K.text s) e

/-- The template has settings of the pairing and puts out no text that is not fit. -/
def Template.Fits (t : Template) : Prop := K.options t.options ∧ K.Nodes t.nodes

/-- The block has, and so has its template. -/
def Block.Fits (b : Block) : Prop := b.template.Fits K ∧ b.body.Guarded K.text K.escapes

/-- What values are made of in renders of the pairing. -/
def Pairing.vocabulary : Vocabulary :=
  ⟨K.text, K.hosts, fun body t => K.Tokens body ∧ t.Fits K, Template.Fits K⟩

/-- The value is made of what renders of the pairing make values of. -/
def Value.Fits (v : Value) : Prop := v.Within K.vocabulary

/-- All values are. -/
def Pairing.Args (args : List Value) : Prop := ∀ v ∈ args, v.Fits K

/-- All variables are. -/
def Pairing.Variables (c : Context) : Prop := c.All (Value.Fits K)

/-- Templates with blocks that fit. -/
def Pairing.Blocks (d : Dict Block) : Prop := d.All (Block.Fits K)

/-- The links lead to templates and blocks that fit. -/
structure Links.Fits (l : Links) : Prop where
  imported : K.Blocks l.imported
  parent : ∀ p ∈ l.parent, p.Fits K

/-- All that the scope holds fits. -/
structure Scope.Fits (s : Scope) : Prop where
  template : s.template.Fits K
  context : K.Variables s.context
  overrides : K.Blocks s.overrides
  parent : ∀ p ∈ s.parent, p.Fits K
  autoescape : K.escapes s.autoescape

/-- A result that fits, or a failure for a cause of the pairing. -/
abbrev Pairing.Result {α : Type} (fits : α → Prop) : Except Failure α → Prop := Yields K.cause fits

/-- The value is a text that is fit to be put out, marked as safe. -/
def Value.IsOutput (v : Value) : Prop := ∃ s, K.text s ∧ v = .safe s

/-- What a block changes outside fits, and its value is what it puts out. -/
structure BlockResult.Fits (r : BlockResult) : Prop where
  result : K.Result (Value.IsOutput K) r.result
  context : K.Variables r.context
  parent : ∀ p ∈ r.parent, p.Fits K

/-- The source is that of a guarded template, or of none. -/
def Pairing.Source (source : String) : Prop :=
  ∀ nodes, Node.ofSource source = .ok nodes → K.Nodes nodes

namespace Request

/-- All that the request holds fits. -/
def Fits : Request → Prop
  | .fresh | .note _ | .stored _ | .cached _ | .load _ => True
  | .wait => K.waits
  | .report said => K.report said
  | .links t | .claimImports t | .releaseImports t | .store t | .inheritedBlock t _ => t.Fits K
  | .setParent t parent => t.Fits K ∧ parent.Fits K
  | .importBlock t _ b => t.Fits K ∧ b.Fits K
  | .writeCache _ tree => K.Nodes tree.nodes
  | .filter name input args => (name = "raw" → ∀ s, K.text s) ∧ input.Fits K ∧ K.Args args
  | .test _ input args => input.Fits K ∧ K.Args args
  | .function _ args => K.Args args
  | .invoke callee receiver args =>
    callee.Fits K ∧ (∀ v ∈ receiver, v.Fits K) ∧ K.Args args
  | .findBlock t overrides _ => t.Fits K ∧ K.Blocks overrides
  | .renderBlock b scope => b.Fits K ∧ scope.Fits K
  | .render t parent c overrides =>
    t.Fits K ∧ (∀ p ∈ parent, p.Fits K) ∧ K.Variables c ∧ K.Blocks overrides
  | .mergeImports t c => t.Fits K ∧ K.Variables c

/-- All that the answer holds fits. -/
def Answered : (r : Request) → r.Answer → Prop
  | .fresh, _ | .wait, _ | .note _, _ | .report _, _ | .setParent .., _ | .claimImports _, _
  | .releaseImports _, _ | .importBlock .., _ | .store _, _ => True
  | .links _, l => l.Fits K
  | .stored _, (t : Option Template) => ∀ found ∈ t, found.Fits K
  | .cached _, (r : Except Failure (Option CompiledTree)) =>
    K.Result (fun tree => ∀ found ∈ tree, K.Nodes found.nodes) r
  | .writeCache .., r => K.Result (fun _ => True) r
  | .load _, r => K.Result K.Source r
  | .filter .., r | .invoke .., r => K.Result (Value.Fits K) r
  | .test .., r => K.Result (fun _ => True) r
  | .function .., (r : Option (Except Failure Value)) =>
    ∀ result ∈ r, K.Result (Value.Fits K) result
  | .findBlock .., (b : Option Block) | .inheritedBlock .., (b : Option Block) =>
    ∀ found ∈ b, found.Fits K
  | .renderBlock .., r => r.Fits K
  | .render .., r => K.Result K.text r ∧ (K.total → ∃ text, r = .ok text)
  | .mergeImports .., r => K.Result (fun _ => True) r

/-- The answer tells of a failure inside another program. -/
def FailsBy (c : Cause) : (r : Request) → r.Answer → Prop
  | .filter .., r | .invoke .., r | .test .., r | .render .., r | .mergeImports .., r =>
    ∃ failure, r = .error failure ∧ failure.cause = c
  | .function .., r => ∃ failure, r = some (.error failure) ∧ failure.cause = c
  | .renderBlock .., r => ∃ failure, r.result = .error failure ∧ failure.cause = c
  | _, _ => False

end Request

/-- All that the state holds fits. -/
structure World.Fits (w : World) : Prop where
  links : ∀ t, (w.linksOf t).Fits K
  store : w.store.All (Template.Fits K)
  cache : K.cache w.cache
  reports : ∀ said ∈ w.reports, K.report said

end

/-! ## Templates that fit -/

section
variable {K : Pairing}

theorem Template.Fits.block? {t : Template} (ht : t.Fits K) {name : String} {b : Block}
    (h : t.block? name = some b) : b.Fits K := by
  obtain ⟨body, hbody, rfl⟩ := Option.map_eq_some_iff.mp h
  exact ⟨ht, (Template.blocks_guarded ht.2).find? hbody⟩

theorem Template.Fits.definedBlocks {t : Template} (h : t.Fits K) : K.Blocks t.definedBlocks := by
  intro entry hentry
  obtain ⟨⟨name, body⟩, hbody, rfl⟩ := List.mem_map.mp hentry
  exact ⟨h, Template.blocks_guarded h.2 (name, body) hbody⟩

theorem Template.Fits.offeredBlocks {t : Template} (h : t.Fits K) {l : Links} (hl : l.Fits K)
    {overrides : Dict Block} (hoverrides : K.Blocks overrides) :
    K.Blocks (t.offeredBlocks l overrides) :=
  (hl.imported.merge h.definedBlocks).merge hoverrides

theorem Scope.fits_start {t : Template} (h : t.Fits K) {c : Context} (hc : K.Variables c) :
    (Scope.start t c).Fits K :=
  ⟨h, hc, Dict.all_nil, nofun, K.escapes_autoescape t.options h.1⟩

theorem Scope.start_adjust (t : Template) (c : Context) :
    Scope.start (t.adjust K.adjust) (Dict.mapValues (Value.adjust K.adjust) c)
      = (Scope.start t c).adjust K.adjust := by
  have h : (t.adjust K.adjust).options.autoescape = t.options.autoescape :=
    K.adjust_autoescape t.options
  rw [Scope.start, h]
  rfl

/-! ## Values that fit -/

theorem Value.IsOutput.fits {v : Value} (h : v.IsOutput K) : v.Fits K := by
  obtain ⟨s, hs, rfl⟩ := h
  exact hs

theorem Value.IsOutput.text {v : Value} (h : v.IsOutput K) : K.text v.text := by
  obtain ⟨s, hs, rfl⟩ := h
  have htext : (Value.safe s).text = s := String.empty_append
  rwa [htext]

theorem Value.Fits.object {entries : Dict Value} (h : K.Variables entries) (identity : Nat) :
    (Value.object identity entries).Fits K := within_object.mpr h

theorem Value.Fits.array {items : List Value} (h : K.Args items) (identity : Nat) :
    (Value.array identity items).Fits K := within_array.mpr h

theorem Value.Foreign.fits (hosts : K.hosts) {v : Value} (h : v.Foreign) : v.Fits K :=
  h.within (K.text_of_hosts hosts) hosts

/-- The entries of a value that fits, and the same with the other settings. -/
theorem Value.Fits.entries {v : Value} (h : v.Fits K) :
    (∀ entry ∈ v.entries?.getD [], entry.1.Fits K ∧ entry.2.Fits K)
      ∧ (v.adjust K.adjust).entries?.getD [] = (v.entries?.getD []).map (adjustPair K.adjust) := by
  constructor
  · cases hsome : v.entries? with
    | none => exact List.forall_mem_nil _
    | some entries => exact Within.entries? h hsome
  · rw [entries?_adjust]
    cases v.entries? <;> rfl

/-- What is put out for a value is fit: it is escaped, or it was marked as safe. -/
theorem Value.Fits.output {v : Value} (h : v.Fits K) {autoescape : Autoescape}
    (hescapes : K.escapes autoescape) : K.text (v.output autoescape) := by
  cases autoescape with
  | none => exact K.text_of_escapes_none hescapes v.text
  | some strategy =>
    rw [Value.output]
    split
    · next hsafe =>
      cases v with
      | markup s safe =>
        have htext : (Value.markup s safe).text = s := String.empty_append
        rw [htext]
        exact h
      | _ => cases hsafe
    · exact K.text_escapeString strategy v.text

theorem Value.Fits.escaped {v : Value} (h : v.Fits K) (strategy : Strategy) :
    (v.escaped strategy).Fits K :=
  Within.escaped h (K.text_escapeString strategy v.text)

end
end Stencil
