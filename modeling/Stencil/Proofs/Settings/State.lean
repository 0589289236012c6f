import Stencil.Engine.Run
import Stencil.Proofs.Inheritance.Chain
import Stencil.Proofs.Settings.Adjust

/-!
# Scopes, requests and states under other settings

To change the settings of all templates goes on from values to all that holds values or templates:
scopes, what a program asks for and what it is answered, and the state that renders share.
-/
namespace Stencil
variable (f : Options → Options)

/-! ## Templates and blocks -/

namespace Template

@[simp] theorem macros_adjust (t : Template) : (t.adjust f).macros = t.macros := rfl

theorem block?_adjust (t : Template) (name : String) :
    (t.adjust f).block? name = (t.block? name).map (Block.adjust f) := by
  rw [block?, block?, Option.map_map]
  rfl

theorem definedBlocks_adjust (t : Template) :
    (t.adjust f).definedBlocks = Dict.mapValues (Block.adjust f) t.definedBlocks := by
  rw [definedBlocks, definedBlocks, Dict.mapValues, List.map_map]
  rfl

end Template

/-- The links with other settings of the templates in them. -/
def Links.adjust (l : Links) : Links :=
  { l with
    imported := Dict.mapValues (Block.adjust f) l.imported
    parent := l.parent.map (Template.adjust f) }

theorem Template.offeredBlocks_adjust (t : Template) (l : Links) (overrides : Dict Block) :
    (t.adjust f).offeredBlocks (l.adjust f) (Dict.mapValues (Block.adjust f) overrides)
      = Dict.mapValues (Block.adjust f) (t.offeredBlocks l overrides) := by
  rw [offeredBlocks, offeredBlocks, definedBlocks_adjust, Dict.mapValues_merge,
    Dict.mapValues_merge]
  rfl

/-- The scope with other settings of the templates in it. -/
def Scope.adjust (s : Scope) : Scope :=
  { s with
    template := s.template.adjust f
    context := Dict.mapValues (Value.adjust f) s.context
    overrides := Dict.mapValues (Block.adjust f) s.overrides
    parent := s.parent.map (Template.adjust f) }

/-- What a block changes outside, with other settings of the templates in it. -/
def BlockResult.adjust (r : BlockResult) : BlockResult :=
  { result := r.result.map (Value.adjust f)
    context := Dict.mapValues (Value.adjust f) r.context
    parent := r.parent.map (Template.adjust f) }

/-! ## Requests -/

namespace Request

/-- The request with other settings of the templates in it. -/
def adjust : Request → Request
  | .fresh => .fresh
  | .wait => .wait
  | .note line => .note line
  | .report said => .report said
  | .links t => .links (t.adjust f)
  | .setParent t parent => .setParent (t.adjust f) (parent.adjust f)
  | .claimImports t => .claimImports (t.adjust f)
  | .releaseImports t => .releaseImports (t.adjust f)
  | .importBlock t name b => .importBlock (t.adjust f) name (b.adjust f)
  | .stored name => .stored name
  | .store t => .store (t.adjust f)
  | .cached locator => .cached locator
  | .writeCache locator tree => .writeCache locator tree
  | .load locator => .load locator
  | .filter name input args => .filter name (input.adjust f) (args.map (Value.adjust f))
  | .test name input args => .test name (input.adjust f) (args.map (Value.adjust f))
  | .function name args => .function name (args.map (Value.adjust f))
  | .invoke callee receiver args =>
    .invoke (callee.adjust f) (receiver.map (Value.adjust f)) (args.map (Value.adjust f))
  | .findBlock t overrides name =>
    .findBlock (t.adjust f) (Dict.mapValues (Block.adjust f) overrides) name
  | .inheritedBlock t name => .inheritedBlock (t.adjust f) name
  | .renderBlock b scope => .renderBlock (b.adjust f) (scope.adjust f)
  | .render t parent c overrides =>
    .render (t.adjust f) (parent.map (Template.adjust f)) (Dict.mapValues (Value.adjust f) c)
      (Dict.mapValues (Block.adjust f) overrides)
  | .mergeImports t c => .mergeImports (t.adjust f) (Dict.mapValues (Value.adjust f) c)

/-- The answer with other settings of the templates in it. -/
def adjustAnswer : (r : Request) → r.Answer → (r.adjust f).Answer
  | .fresh, n => n
  | .wait, u | .note _, u | .report _, u | .setParent .., u | .releaseImports _, u
  | .importBlock .., u | .store _, u => u
  | .links _, l => l.adjust f
  | .claimImports _, b => b
  | .stored _, t => t.map (Template.adjust f)
  | .cached _, tree => tree
  | .writeCache .., r | .mergeImports .., r => r
  | .load _, r | .render .., r => r
  | .test .., r => r
  | .filter .., r | .invoke .., r => r.map (Value.adjust f)
  | .function .., r => r.map (Except.map (Value.adjust f))
  | .findBlock .., b | .inheritedBlock .., b => b.map (Block.adjust f)
  | .renderBlock .., r => r.adjust f

end Request

/-! ## States -/

namespace World

/-- The state with other settings of the templates in it. -/
def adjust (w : World) : World :=
  { w with
    links := w.links.map fun (number, l) => (number, l.adjust f)
    store := Dict.mapValues (Template.adjust f) w.store }

theorem linksOf_adjust (w : World) (t : Template) :
    (w.adjust f).linksOf (t.adjust f) = (w.linksOf t).adjust f := by
  have hlookup : (w.adjust f).links.lookup t.number
      = (w.links.lookup t.number).map (Links.adjust f) := by
    rw [adjust]
    induction w.links with
    | nil => rfl
    | cons entry rest ih =>
      obtain ⟨number, l⟩ := entry
      rw [List.map_cons, List.lookup_cons, List.lookup_cons, ih]
      split <;> rfl
  show ((w.adjust f).links.lookup t.number).getD {} = _
  rw [hlookup, linksOf]
  cases w.links.lookup t.number <;> rfl

theorem replaceLinks_adjust (number : Nat) (l : Links) (links : List (Nat × Links)) :
    replaceLinks number (l.adjust f) (links.map fun (number, l) => (number, l.adjust f))
      = (replaceLinks number l links).map fun (number, l) => (number, l.adjust f) := by
  induction links with
  | nil => rfl
  | cons entry rest ih =>
    obtain ⟨n, old⟩ := entry
    rw [List.map_cons, replaceLinks, replaceLinks]
    split
    · rfl
    · rw [List.map_cons, ih]

theorem modifyLinks_adjust {change change' : Links → Links}
    (h : ∀ l, change' (l.adjust f) = (change l).adjust f) (w : World) (t : Template) :
    (w.adjust f).modifyLinks (t.adjust f) change' = (w.modifyLinks t change).adjust f := by
  rw [modifyLinks, linksOf_adjust, h]
  exact congrArg (fun links => { w.adjust f with links })
    (replaceLinks_adjust f t.number _ w.links)

theorem isUnresolved_adjust (w : World) (t : Template) :
    (w.adjust f).isUnresolved (t.adjust f) = w.isUnresolved t := by
  rw [isUnresolved, isUnresolved, linksOf_adjust]
  rfl

theorem storeTemplate_adjust (w : World) (t : Template) :
    (w.adjust f).storeTemplate (t.adjust f) = (w.storeTemplate t).adjust f := by
  have hid : (t.adjust f).id = t.id := rfl
  rw [storeTemplate, storeTemplate, hid]
  cases t.id with
  | none => rfl
  | some id =>
    exact congrArg (fun store => { w.adjust f with store })
      (Dict.mapValues_insert (Template.adjust f) w.store id t).symm

end World
end Stencil
