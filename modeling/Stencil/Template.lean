import Stencil.Dict
import Stencil.Tree.Node

/-!
Templates: a tree that can be rendered, with its name and settings.  The blocks, macros and `use`
tags of a template are those of its tree; where a name is defined twice, the first definition
counts.  What stands inside a macro or an embedded template defines nothing.
-/

namespace Stencil

/-- What a block renders. -/
inductive BlockBody where
  | nodes (nodes : List Node)
  /-- The short form, whose body is one printed expression. -/
  | expression (expression : Expr)
  deriving Inhabited

/-- A macro: its parameters and what it renders. -/
structure MacroDefinition where
  params : List MacroParam
  body : List Node
  deriving Inhabited

/-- A `use` tag: the template to take blocks from, and the new names of some of them. -/
structure BlockImport where
  expression : Expr
  renames : List (String × String)
  deriving Inhabited

/-- The new name of a block. -/
def BlockImport.rename (i : BlockImport) (name : String) : String :=
  match i.renames.find? fun pair => pair.1 = name with
  | some pair => pair.2
  | none => name

/-- A template. -/
structure Template where
  /-- Tells the template from all others that were made, however alike they are. -/
  number : Nat
  /-- The name that it is stored under. -/
  id : Option String
  /-- The locator that its relative references start from. -/
  base : Option String
  nodes : List Node
  options : Options
  deriving Inhabited

/-- A block and the template that defines it. -/
structure Block where
  template : Template
  name : String
  body : BlockBody
  deriving Inhabited

namespace Node

/-- The block that the node defines. -/
def block? : Node → Option (String × BlockBody)
  | .logic (.block name (some expression)) _ => some (name, .expression expression)
  | .logic (.block name none) body => some (name, .nodes body)
  | _ => none

/-- The macro that the node defines. -/
def macro? : Node → Option (String × MacroDefinition)
  | .logic (.macroDef name params) body => some (name, ⟨params, body⟩)
  | _ => none

/-- The import of blocks that the node asks for. -/
def blockImport? : Node → Option BlockImport
  | .logic (.uses expression renames) _ => some ⟨expression, renames⟩
  | _ => none

end Node

namespace Dict

/-- The pairs bound one after the other, the first of each name. -/
def ofFirst {α : Type} (pairs : List (String × α)) : Dict α :=
  pairs.foldl (fun d pair => d.insertNew pair.1 pair.2) empty

end Dict

namespace Template

/-- The nodes that can define something, each before those inside it. -/
def definingNodes (t : Template) : List Node := Node.walkAll t.nodes

/-- The blocks that the template defines. -/
def blocks (t : Template) : Dict BlockBody := Dict.ofFirst (t.definingNodes.filterMap Node.block?)

/-- The macros that the template defines. -/
def macros (t : Template) : Dict MacroDefinition :=
  Dict.ofFirst (t.definingNodes.filterMap Node.macro?)

/-- The `use` tags of the template in order. -/
def blockImports (t : Template) : List BlockImport := t.definingNodes.filterMap Node.blockImport?

/-- The template's own block of a name. -/
def block? (t : Template) (name : String) : Option Block :=
  (t.blocks.find? name).map (Block.mk t name)

/-- The template's own blocks. -/
def definedBlocks (t : Template) : Dict Block :=
  t.blocks.map fun (name, body) => (name, ⟨t, name, body⟩)

/-- The template's name in messages. -/
def title (t : Template) : String := t.id.getD "anonymous"

/-- The part of the template that can be written down. -/
def toTree (t : Template) : CompiledTree := ⟨t.id, t.nodes⟩

/-- The template of a tree. -/
def ofTree (number : Nat) (options : Options) (tree : CompiledTree) : Template :=
  ⟨number, tree.id, tree.id, tree.nodes, options⟩

end Template
end Stencil
