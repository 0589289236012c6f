import Stencil.Proofs.Dict
import Stencil.Proofs.Engine.Traces
import Stencil.Proofs.Render.Results
import Stencil.Proofs.Settings.Within

/-!
# The expressions that a state holds

Expressions are compiled when a template is read, and evaluated whenever it is rendered; in between
they are held by templates, by blocks, and by the functions that templates have made.  If all
expressions that a state holds have a property, rendering in that state should meet no other
expressions.  What holds them is gone through here: templates, values, scopes, what programs ask
for and are answered, and the state that renders share.
-/
namespace Stencil

/-- The cause is not that a literal ends which has not been started. -/
def Cause.Balanced (c : Cause) : Prop :=
  c ≠ .unparseableExpression "Unbalanced array literal" ∧
    c ≠ .unparseableExpression "Unbalanced object literal"

instance (c : Cause) : Decidable c.Balanced := inferInstanceAs (Decidable (_ ∧ _))

/-- A literal that has not been started is told of as a text that cannot be read. -/
theorem Cause.balanced_of_ne {c : Cause} (h : ∀ reason, c ≠ .unparseableExpression reason) :
    c.Balanced := ⟨h _, h _⟩

theorem Cause.balanced_reason {reason : String} (h : reason.toList.take 3 ≠ ['U', 'n', 'b']) :
    (unparseableExpression reason).Balanced := by
  constructor
  · rintro ⟨⟩
    exact h rfl
  · rintro ⟨⟩
    exact h rfl

/-! ## Templates -/

/-- The expressions of an inclusion. -/
def Inclusion.expressions (i : Inclusion) : List Expr := i.expression :: i.bindings.toList

/-- The expressions of a tag. -/
def Tag.expressions : Tag → List Expr
  | .branch e | .elseBranch e | .assign _ e | .inherits e | .uses e _ | .imports e _
  | .importsNames e _ | .apply e | .evaluate e | .deprecated e => [e]
  | .loop _ _ e guard => e :: guard.toList
  | .block _ e | .scoped e _ => e.toList
  | .includes i | .embeds i => i.expressions
  | .macroDef _ params => params.filterMap MacroParam.default
  | .otherwise | .capture _ | .spaceless | .autoescape _ => []

namespace Node

mutual

/-- The expressions of a node and of all nodes inside it. -/
def expressions : Node → List Expr
  | .raw _ => []
  | .output e => [e]
  | .logic tag nodes => tag.expressions ++ allExpressions nodes
termination_by structural n => n

/-- The expressions of all nodes of a list. -/
def allExpressions : List Node → List Expr
  | [] => []
  | n :: rest => expressions n ++ allExpressions rest
termination_by structural l => l

end

theorem mem_allExpressions {e : Expr} {nodes : List Node} :
    e ∈ allExpressions nodes ↔ ∃ n ∈ nodes, e ∈ n.expressions := by
  induction nodes with
  | nil => exact iff_of_false List.not_mem_nil nofun
  | cons n rest ih =>
    simp only [allExpressions, List.mem_append, ih, List.mem_cons, exists_eq_or_imp]

mutual

theorem expressions_walk (n : Node) : ∀ m ∈ n.walk, m.expressions ⊆ n.expressions := by
  cases n with
  | raw value => exact List.forall_mem_singleton.mpr (List.Subset.refl _)
  | output e => exact List.forall_mem_singleton.mpr (List.Subset.refl _)
  | logic tag nodes =>
    rw [walk, expressions]
    refine List.forall_mem_cons.mpr ⟨List.Subset.refl _, ?_⟩
    split
    · exact List.forall_mem_nil _
    · exact fun m hm => List.subset_append_of_subset_right _ (expressions_walkAll nodes m hm)
termination_by structural n

theorem expressions_walkAll (nodes : List Node) :
    ∀ m ∈ walkAll nodes, m.expressions ⊆ allExpressions nodes := by
  cases nodes with
  | nil => exact List.forall_mem_nil _
  | cons n rest =>
    rw [walkAll, allExpressions]
    exact List.forall_mem_append.mpr
      ⟨fun m hm => List.subset_append_of_subset_left _ (expressions_walk n m hm),
        fun m hm => List.subset_append_of_subset_right _ (expressions_walkAll rest m hm)⟩
termination_by structural nodes

end

end Node

section
variable (P : Expr → Prop)

/-- The nodes hold only such expressions. -/
def Node.AllHold (nodes : List Node) : Prop := ∀ e ∈ Node.allExpressions nodes, P e

/-- The template does. -/
def Template.Holds (t : Template) : Prop := Node.AllHold P t.nodes

/-- What a block renders does. -/
def BlockBody.Holds : BlockBody → Prop
  | .nodes body => Node.AllHold P body
  | .expression e => P e

/-- The block and its template do. -/
def Block.Holds (b : Block) : Prop := b.template.Holds P ∧ b.body.Holds P

/-- The parameters and the body of a macro do. -/
def MacroDefinition.Holds (m : MacroDefinition) : Prop :=
  (∀ p ∈ m.params, ∀ e ∈ p.default, P e) ∧ Node.AllHold P m.body

/-! ## Values and scopes -/

/-- Values whose functions and macros hold only such expressions. -/
def Vocabulary.holding : Vocabulary :=
  ⟨fun _ => True, True, fun body t => P body ∧ t.Holds P, Template.Holds P⟩

/-- The functions and macros in the value hold only such expressions. -/
def Value.Holds (v : Value) : Prop := v.Within (.holding P)

/-- The links lead only to templates and blocks that do. -/
structure Links.Holds (l : Links) : Prop where
  imported : l.imported.All (Block.Holds P)
  parent : ∀ p ∈ l.parent, p.Holds P

/-- All that the scope holds does. -/
structure Scope.Holds (s : Scope) : Prop where
  template : s.template.Holds P
  context : s.context.All (Value.Holds P)
  overrides : s.overrides.All (Block.Holds P)
  parent : ∀ p ∈ s.parent, p.Holds P

/-- What a block changes outside does, and its failure is for no literal. -/
structure BlockResult.Holds (r : BlockResult) : Prop where
  result : Yields Cause.Balanced (Value.Holds P) r.result
  context : r.context.All (Value.Holds P)
  parent : ∀ p ∈ r.parent, p.Holds P

/-! ## Requests and states -/

/-- The failure that the report is about is for no literal. -/
def Report.Balanced (said : Report) : Prop := ∀ failure ∈ said.failure?, failure.cause.Balanced

namespace Request

/-- All that the request holds does, and it tells of no failure for a literal. -/
def Holds : Request → Prop
  | .fresh | .wait | .note _ | .stored _ | .cached _ | .load _ => True
  | .report said => said.Balanced
  | .links t | .claimImports t | .releaseImports t | .store t | .inheritedBlock t _ => t.Holds P
  | .setParent t parent => t.Holds P ∧ parent.Holds P
  | .importBlock t _ b => t.Holds P ∧ b.Holds P
  | .writeCache _ tree => Node.AllHold P tree.nodes
  | .filter _ input args | .test _ input args => input.Holds P ∧ ∀ v ∈ args, v.Holds P
  | .function _ args => ∀ v ∈ args, v.Holds P
  | .invoke callee receiver args =>
    callee.Holds P ∧ (∀ v ∈ receiver, v.Holds P) ∧ ∀ v ∈ args, v.Holds P
  | .findBlock t overrides _ => t.Holds P ∧ overrides.All (Block.Holds P)
  | .renderBlock b scope => b.Holds P ∧ scope.Holds P
  | .render t parent c overrides =>
    t.Holds P ∧ (∀ p ∈ parent, p.Holds P) ∧ c.All (Value.Holds P) ∧
      overrides.All (Block.Holds P)
  | .mergeImports t c => t.Holds P ∧ c.All (Value.Holds P)

/-- All that the answer holds does, and its failure is for no literal. -/
def Returns : (r : Request) → r.Answer → Prop
  | .fresh, _ | .wait, _ | .note _, _ | .report _, _ | .setParent .., _ | .claimImports _, _
  | .releaseImports _, _ | .importBlock .., _ | .store _, _ => True
  | .links _, l => l.Holds P
  | .stored _, (t : Option Template) => ∀ found ∈ t, found.Holds P
  | .cached _, (r : Except Failure (Option CompiledTree)) =>
    Yields Cause.Balanced (fun tree => ∀ found ∈ tree, Node.AllHold P found.nodes) r
  | .writeCache .., r | .load _, r | .test .., r | .render .., r | .mergeImports .., r =>
    Yields Cause.Balanced (fun _ => True) r
  | .filter .., r | .invoke .., r => Yields Cause.Balanced (Value.Holds P) r
  | .function .., (r : Option (Except Failure Value)) =>
    ∀ result ∈ r, Yields Cause.Balanced (Value.Holds P) result
  | .findBlock .., (b : Option Block) | .inheritedBlock .., (b : Option Block) =>
    ∀ found ∈ b, found.Holds P
  | .renderBlock .., r => r.Holds P

end Request

/-- The contract to ask with what holds only such expressions, and to be answered with the like and
with no failure for a literal. -/
def Contract.holding : Contract := ⟨Request.Holds P, Request.Returns P, Scope.Holds P⟩

/-- The program keeps to the contract, and fails for no literal. -/
abbrev Attempt.Conserves {α : Type} (post : α → Prop) (p : Attempt α) : Prop :=
  Gives (.holding P) Cause.Balanced post p

/-- The rendering keeps to the contract, and fails for no literal. -/
abbrev Rendering.Conserves {α : Type} (post : α → Prop) (a : Rendering α) : Prop :=
  Gives (.holding P) Cause.Balanced post a

/-- All that the state holds holds only such expressions, the cached documents are among some, and
no failure for a literal was reported. -/
structure World.Holds (documents : Dict Json → Prop) (w : World) : Prop where
  links : ∀ t, (w.linksOf t).Holds P
  store : w.store.All (Template.Holds P)
  cache : documents w.cache
  reports : ∀ said ∈ w.reports, said.Balanced

end

section
variable {P : Expr → Prop}

theorem Node.allHold_cons {n : Node} {rest : List Node} :
    AllHold P (n :: rest) ↔ (∀ e ∈ n.expressions, P e) ∧ AllHold P rest := by
  rw [AllHold, allExpressions, List.forall_mem_append]
  rfl

theorem Node.allHold_nil : AllHold P [] := List.forall_mem_nil _

/-! ## What a template defines -/

namespace Template
variable {t : Template} (h : t.Holds P)
include h

/-- What is defined by the nodes of a template has what the nodes have. -/
theorem all_of_definition {α : Type} {define? : Node → Option (String × α)} {Q : α → Prop}
    (hdefine : ∀ n name a, (∀ e ∈ n.expressions, P e) → define? n = some (name, a) → Q a) :
    (Dict.ofFirst (t.definingNodes.filterMap define?)).All Q := by
  have hpairs : Dict.All Q (t.definingNodes.filterMap define?) := by
    rintro ⟨name, a⟩ hentry
    obtain ⟨n, hn, hdefined⟩ := List.mem_filterMap.mp hentry
    exact hdefine n name a (fun e he => h e (Node.expressions_walkAll _ n hn he)) hdefined
  exact hpairs.ofFirst

theorem Holds.blocks : t.blocks.All (BlockBody.Holds P) := by
  refine all_of_definition h fun n name body hn hbody => ?_
  unfold Node.block? at hbody
  split at hbody
  · cases hbody
    exact hn _ (List.mem_append_left _ (List.mem_singleton_self _))
  · cases hbody
    exact fun e he => hn e (List.mem_append_right _ he)
  · cases hbody

theorem Holds.macros : t.macros.All (MacroDefinition.Holds P) := by
  refine all_of_definition h fun n name m hn hm => ?_
  unfold Node.macro? at hm
  split at hm
  · cases hm
    refine ⟨fun p hp e he => hn e (List.mem_append_left _ ?_), fun e he =>
      hn e (List.mem_append_right _ he)⟩
    exact List.mem_filterMap.mpr ⟨p, hp, he⟩
  · cases hm

theorem Holds.blockImports {i : BlockImport} (hi : i ∈ t.blockImports) : P i.expression := by
  obtain ⟨n, hn, hdefined⟩ := List.mem_filterMap.mp hi
  have hexpressions := Node.expressions_walkAll _ n hn
  unfold Node.blockImport? at hdefined
  split at hdefined
  · cases hdefined
    exact h _ (hexpressions (List.mem_append_left _ (List.mem_singleton_self _)))
  · cases hdefined

theorem Holds.block? {name : String} {b : Block} (hb : t.block? name = some b) : b.Holds P := by
  obtain ⟨body, hbody, rfl⟩ := Option.map_eq_some_iff.mp hb
  exact ⟨h, h.blocks.find? hbody⟩

theorem Holds.definedBlocks : t.definedBlocks.All (Block.Holds P) := by
  intro entry hentry
  obtain ⟨⟨name, body⟩, hbody, rfl⟩ := List.mem_map.mp hentry
  exact ⟨h, h.blocks (name, body) hbody⟩

theorem Holds.offeredBlocks {l : Links} (hl : l.Holds P) {overrides : Dict Block}
    (hoverrides : overrides.All (Block.Holds P)) :
    (t.offeredBlocks l overrides).All (Block.Holds P) :=
  (hl.imported.merge h.definedBlocks).merge hoverrides

theorem Holds.start {c : Context} (hc : c.All (Value.Holds P)) : (Scope.start t c).Holds P :=
  ⟨h, hc, Dict.all_nil, nofun⟩

end Template

/-! ## Values -/

namespace Value

theorem holds_array (identity : Nat) {items : List Value} (h : ∀ v ∈ items, v.Holds P) :
    (Value.array identity items).Holds P := within_array.mpr h

theorem holds_object (identity : Nat) {entries : Dict Value} (h : entries.All (Value.Holds P)) :
    (Value.object identity entries).Holds P := within_object.mpr h

theorem Holds.entries {v : Value} (h : v.Holds P) :
    ∀ entry ∈ v.entries?.getD [], entry.1.Holds P ∧ entry.2.Holds P := by
  cases hsome : v.entries? with
  | none => exact List.forall_mem_nil _
  | some entries => exact Within.entries? h hsome

end Value

/-! ## Properties that all expressions have -/

section
variable (hP : ∀ e, P e)
include hP

theorem Template.holds_of (t : Template) : t.Holds P := fun e _ => hP e

theorem Block.holds_of (b : Block) : b.Holds P := by
  refine ⟨b.template.holds_of hP, ?_⟩
  cases b.body with
  | nodes body => exact fun e _ => hP e
  | expression e => exact hP e

theorem Value.holds_of (v : Value) : v.Holds P :=
  have hfull : (Vocabulary.holding P).Full :=
    ⟨fun _ => trivial, trivial, fun body t => ⟨hP body, t.holds_of hP⟩, fun t => t.holds_of hP⟩
  within_of_full hfull v

theorem Scope.holds_of (s : Scope) : s.Holds P :=
  ⟨s.template.holds_of hP, fun e _ => e.2.holds_of hP, fun e _ => e.2.holds_of hP,
    fun p _ => p.holds_of hP⟩

end

/-- The failure that an answer tells of is for no literal. -/
def Request.Balanced : (r : Request) → r.Answer → Prop
  | .cached _, (r : Except Failure (Option CompiledTree)) => Yields Cause.Balanced (fun _ => True) r
  | .writeCache .., r | .load _, r | .test .., r | .render .., r | .mergeImports .., r
  | .filter .., r | .invoke .., r => Yields Cause.Balanced (fun _ => True) r
  | .function .., (r : Option (Except Failure Value)) =>
    ∀ result ∈ r, Yields Cause.Balanced (fun _ => True) result
  | .renderBlock .., r => Yields Cause.Balanced (fun _ => True) r.result
  | _, _ => True

/-- An answer holds nothing but what all hold. -/
theorem Request.Balanced.returns (hP : ∀ e, P e) {r : Request} {a : r.Answer}
    (h : r.Balanced a) : r.Returns P a := by
  have hany {α : Type} {fits : α → Prop} (hfits : ∀ x, fits x) {r : Except Failure α}
      (h : Yields Cause.Balanced (fun _ => True) r) : Yields Cause.Balanced fits r :=
    h.mono (fun _ hc => hc) fun x _ => hfits x
  cases r with
  | links t => exact ⟨fun e _ => e.2.holds_of hP, fun p _ => p.holds_of hP⟩
  | stored name => exact fun found _ => found.holds_of hP
  | cached locator => exact hany (fun _ _ _ e _ => hP e) h
  | filter | invoke => exact hany (Value.holds_of hP) h
  | function name args => exact fun result hresult => hany (Value.holds_of hP) (h result hresult)
  | findBlock | inheritedBlock => exact fun found _ => found.holds_of hP
  | renderBlock b scope =>
    exact ⟨hany (Value.holds_of hP) h, fun e _ => e.2.holds_of hP, fun p _ => p.holds_of hP⟩
  | _ => exact h

/-- The contract to ask for anything, and to be answered with no failure for a literal. -/
def Contract.balanced : Contract := ⟨fun _ => True, Request.Balanced, fun _ => True⟩

end
end Stencil
