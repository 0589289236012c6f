import Stencil.Proofs.Dict

/-!
# Templates that guard their output

A template is guarded if its plain texts are fit to be put out, if it does not switch to an escaping
that lets other texts through, and if it nowhere declares a text fit that it has worked out: the
filter `raw` and the tag `apply` do so.  What guards a template is in all of its parts, those of its
macros, functions and embedded templates included.
-/
namespace Stencil

namespace Expr
variable (free : Prop)

mutual

/-- The token declares no text fit to be put out, unless all texts are. -/
def Token.Guarded : Token → Prop
  | .lambda _ body => tokensGuarded body
  | .function _ params | .test _ _ params => paramsGuarded params
  | .filter name params => (name = "raw" → free) ∧ paramsGuarded params
  | .computedKey tokens | .group tokens _ => tokensGuarded tokens
  | .keyBrackets tokens params => tokensGuarded tokens ∧ paramsGuarded params
  | _ => True
termination_by structural t => t

/-- No token of a list does. -/
def tokensGuarded : List Token → Prop
  | [] => True
  | t :: rest => t.Guarded ∧ tokensGuarded rest
termination_by structural l => l

/-- No token of optional arguments does. -/
def paramsGuarded : Option (List Token) → Prop
  | none => True
  | some tokens => tokensGuarded tokens
termination_by structural p => p

end

variable {free}

mutual

theorem Token.guarded_of (h : free) (t : Token) : t.Guarded free := by
  cases t with
  | lambda params body => exact tokensGuarded_of h body
  | function name params => exact paramsGuarded_of h params
  | filter name params => exact ⟨fun _ => h, paramsGuarded_of h params⟩
  | test name negated params => exact paramsGuarded_of h params
  | computedKey tokens => exact tokensGuarded_of h tokens
  | group tokens call => exact tokensGuarded_of h tokens
  | keyBrackets tokens params => exact ⟨tokensGuarded_of h tokens, paramsGuarded_of h params⟩
  | _ => trivial
termination_by structural t

theorem tokensGuarded_of (h : free) (ts : List Token) : tokensGuarded free ts := by
  cases ts with
  | nil => trivial
  | cons t rest => exact ⟨t.guarded_of h, tokensGuarded_of h rest⟩
termination_by structural ts

theorem paramsGuarded_of (h : free) (params : Option (List Token)) : paramsGuarded free params := by
  cases params with
  | none => trivial
  | some tokens => exact tokensGuarded_of h tokens
termination_by structural params

end

end Expr

section
variable (text : String → Prop) (escapes : Autoescape → Prop)

/-- The expressions of an inclusion are guarded. -/
def Inclusion.Guarded (free : Prop) (i : Inclusion) : Prop :=
  Expr.tokensGuarded free i.expression ∧ Expr.paramsGuarded free i.bindings

/-- The tag changes neither the escaping nor what is put out by the nodes inside it, but to what is
fit as well. -/
def Tag.Guarded : Tag → Prop
  | .branch e | .elseBranch e | .assign _ e | .inherits e | .uses e _ | .imports e _
  | .importsNames e _ | .evaluate e | .deprecated e => Expr.tokensGuarded (∀ s, text s) e
  | .loop _ _ e guard =>
    Expr.tokensGuarded (∀ s, text s) e ∧ Expr.paramsGuarded (∀ s, text s) guard
  | .block _ e | .scoped e _ => Expr.paramsGuarded (∀ s, text s) e
  | .includes i | .embeds i => i.Guarded (∀ s, text s)
  | .macroDef _ params => ∀ p ∈ params, Expr.paramsGuarded (∀ s, text s) p.default
  | .apply filters => (∀ s, text s) ∧ Expr.tokensGuarded (∀ s, text s) filters
  | .autoescape strategy => escapes strategy
  | .otherwise | .capture _ | .spaceless => True

namespace Node

mutual

/-- The node and all inside it put out no text that is not fit. -/
def Guarded : Node → Prop
  | .raw value => text value
  | .output e => Expr.tokensGuarded (∀ s, text s) e
  | .logic tag nodes => tag.Guarded text escapes ∧ allGuarded nodes
termination_by structural n => n

/-- All nodes of a list are guarded. -/
def allGuarded : List Node → Prop
  | [] => True
  | n :: rest => n.Guarded ∧ allGuarded rest
termination_by structural l => l

end

end Node

/-- What a block renders is guarded. -/
def BlockBody.Guarded : BlockBody → Prop
  | .nodes body => Node.allGuarded text escapes body
  | .expression e => Expr.tokensGuarded (∀ s, text s) e

/-- The parameters and the body of a macro are guarded. -/
def MacroDefinition.Guarded (m : MacroDefinition) : Prop :=
  (∀ p ∈ m.params, Expr.paramsGuarded (∀ s, text s) p.default)
    ∧ Node.allGuarded text escapes m.body

end

section
variable {text : String → Prop} {escapes : Autoescape → Prop}

/-! ## Where all texts are fit -/

theorem Tag.guarded_of (htext : ∀ s, text s) (hescapes : ∀ a, escapes a) (tag : Tag) :
    tag.Guarded text escapes := by
  have hexpr := Expr.tokensGuarded_of htext
  have hparams := Expr.paramsGuarded_of htext
  cases tag with
  | loop key value e guard => exact ⟨hexpr e, hparams guard⟩
  | block name e => exact hparams e
  | «scoped» e only => exact hparams e
  | includes i | embeds i => exact ⟨hexpr i.expression, hparams i.bindings⟩
  | macroDef name params => exact fun p _ => hparams p.default
  | apply filters => exact ⟨htext, hexpr filters⟩
  | autoescape strategy => exact hescapes strategy
  | otherwise | capture name | spaceless => trivial
  | branch e | elseBranch e | assign _ e | inherits e | uses e _ | imports e _ | importsNames e _
  | evaluate e | deprecated e => exact hexpr e

mutual

theorem Node.guarded_of (htext : ∀ s, text s) (hescapes : ∀ a, escapes a) (n : Node) :
    n.Guarded text escapes := by
  cases n with
  | raw value => exact htext value
  | output e => exact Expr.tokensGuarded_of htext e
  | logic tag nodes =>
    exact ⟨tag.guarded_of htext hescapes, Node.allGuarded_of htext hescapes nodes⟩
termination_by structural n

theorem Node.allGuarded_of (htext : ∀ s, text s) (hescapes : ∀ a, escapes a) (nodes : List Node) :
    Node.allGuarded text escapes nodes := by
  cases nodes with
  | nil => trivial
  | cons n rest => exact ⟨n.guarded_of htext hescapes, Node.allGuarded_of htext hescapes rest⟩
termination_by structural nodes

end

/-! ## What a guarded template defines -/

namespace Node

theorem allGuarded_append {a b : List Node} :
    allGuarded text escapes (a ++ b) ↔ allGuarded text escapes a ∧ allGuarded text escapes b := by
  induction a with
  | nil => exact (and_iff_right trivial).symm
  | cons n rest ih =>
    rw [List.cons_append, allGuarded, allGuarded, ih, and_assoc]

mutual

theorem Guarded.walk {n : Node} (h : n.Guarded text escapes) :
    allGuarded text escapes n.walk := by
  cases n with
  | raw value => exact ⟨h, trivial⟩
  | output e => exact ⟨h, trivial⟩
  | logic tag nodes =>
    rw [Node.walk]
    refine ⟨h, ?_⟩
    split
    · trivial
    · exact allGuarded.walkAll h.2
termination_by structural n

theorem allGuarded.walkAll {nodes : List Node} (h : allGuarded text escapes nodes) :
    allGuarded text escapes (walkAll nodes) := by
  cases nodes with
  | nil => trivial
  | cons n rest =>
    rw [Node.walkAll]
    exact allGuarded_append.mpr ⟨Guarded.walk h.1, allGuarded.walkAll h.2⟩
termination_by structural nodes

end

theorem allGuarded.of_mem {nodes : List Node} (h : allGuarded text escapes nodes) {n : Node}
    (hn : n ∈ nodes) : n.Guarded text escapes := by
  induction nodes with
  | nil => cases hn
  | cons first rest ih =>
    rcases List.mem_cons.mp hn with rfl | hrest
    · exact h.1
    · exact ih h.2 hrest

theorem Guarded.block? {n : Node} (h : n.Guarded text escapes) {name : String} {body : BlockBody}
    (hbody : n.block? = some (name, body)) : body.Guarded text escapes := by
  cases n with
  | logic tag nodes =>
    cases tag with
    | block other e =>
      cases e <;> cases hbody
      · exact h.2
      · exact h.1
    | _ => cases hbody
  | _ => cases hbody

theorem Guarded.macro? {n : Node} (h : n.Guarded text escapes) {name : String}
    {m : MacroDefinition} (hm : n.macro? = some (name, m)) : m.Guarded text escapes := by
  cases n with
  | logic tag nodes =>
    cases tag with
    | macroDef other params =>
      cases hm
      exact h
    | _ => cases hm
  | _ => cases hm

theorem Guarded.blockImport? {n : Node} (h : n.Guarded text escapes) {i : BlockImport}
    (hi : n.blockImport? = some i) : Expr.tokensGuarded (∀ s, text s) i.expression := by
  cases n with
  | logic tag nodes =>
    cases tag with
    | uses e renames =>
      cases hi
      exact h.1
    | _ => cases hi
  | _ => cases hi

end Node

namespace Template
variable {t : Template} (h : Node.allGuarded text escapes t.nodes)
include h

/-- What is defined in a guarded template under a name is guarded. -/
theorem guarded_of_definition {α : Type} {define? : Node → Option (String × α)} {P : α → Prop}
    (hdefine : ∀ n name a, n.Guarded text escapes → define? n = some (name, a) → P a) :
    (Dict.ofFirst (t.definingNodes.filterMap define?)).All P := by
  have hpairs : Dict.All P (t.definingNodes.filterMap define?) := by
    rintro ⟨name, a⟩ hentry
    obtain ⟨n, hn, hdefined⟩ := List.mem_filterMap.mp hentry
    exact hdefine n name a ((Node.allGuarded.walkAll h).of_mem hn) hdefined
  exact hpairs.ofFirst

theorem blocks_guarded : t.blocks.All (BlockBody.Guarded text escapes) :=
  guarded_of_definition h fun _ _ _ hn hbody => hn.block? hbody

theorem macros_guarded : t.macros.All (MacroDefinition.Guarded text escapes) :=
  guarded_of_definition h fun _ _ _ hn hm => hn.macro? hm

theorem blockImports_guarded {i : BlockImport} (hi : i ∈ t.blockImports) :
    Expr.tokensGuarded (∀ s, text s) i.expression := by
  obtain ⟨n, hn, hdefined⟩ := List.mem_filterMap.mp hi
  exact ((Node.allGuarded.walkAll h).of_mem hn).blockImport? hdefined

end Template
end
end Stencil
