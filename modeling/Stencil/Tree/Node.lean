import Stencil.Expr.Token
import Stencil.Options

/-!
The tree of a template: plain text, expressions that are printed, and tags with what stands between
them and their end.  A chain of branches is stored as one node after the other.
-/

namespace Stencil

/-- A parameter of a macro, with the expression that stands in for a missing argument. -/
structure MacroParam where
  name : String
  default : Option Expr
  deriving Inhabited

/-- What a tag says that puts another template in its place. -/
structure Inclusion where
  expression : Expr
  /-- An object whose entries are given to the other template. -/
  bindings : Option Expr
  /-- The other template sees nothing else. -/
  only : Bool
  /-- A template that is nowhere counts as empty. -/
  ignoreMissing : Bool
  deriving Inhabited

/-- A tag with all that its opening text says. -/
inductive Tag where
  | branch (condition : Expr)
  | elseBranch (condition : Expr)
  | otherwise
  | loop (key : Option String) (value : String) (expression : Expr) (condition : Option Expr)
  | assign (name : String) (expression : Expr)
  /-- Bind what the body renders to. -/
  | capture (name : String)
  | block (name : String) (expression : Option Expr)
  | inherits (expression : Expr)
  | uses (expression : Expr) (renames : List (String × String))
  | includes (inclusion : Inclusion)
  | embeds (inclusion : Inclusion)
  | imports (expression : Expr) (name : String)
  | importsNames (expression : Expr) (names : List (String × String))
  | macroDef (name : String) (params : List MacroParam)
  /-- Variables that only the body sees. -/
  | scoped (expression : Option Expr) (only : Bool)
  | spaceless
  /-- Filters that the body goes through, compiled without an input. -/
  | apply (filters : Expr)
  | autoescape (strategy : Autoescape)
  | evaluate (expression : Expr)
  | deprecated (message : Expr)
  deriving Inhabited

/-- A node of the tree of a template. -/
inductive Node where
  | raw (value : String)
  | output (expression : Expr)
  | logic (tag : Tag) (body : List Node)
  deriving Inhabited

namespace Tag

/-- The body belongs to another template or is not rendered in place. -/
def hasOwnScope : Tag → Bool
  | .embeds _ | .macroDef .. => true
  | _ => false

end Tag

namespace Node

mutual

/-- The node and all nodes inside it, each before those inside it, but not the insides of a macro or
of an embedded template. -/
def walk : Node → List Node
  | .raw value => [.raw value]
  | .output expression => [.output expression]
  | .logic tag body => .logic tag body :: (if tag.hasOwnScope then [] else walkAll body)
termination_by structural n => n

/-- The nodes of a list and all nodes inside them, in order. -/
def walkAll : List Node → List Node
  | [] => []
  | n :: rest => walk n ++ walkAll rest
termination_by structural l => l

end

end Node

/-- The part of a template that can be written down: its name and its tree. -/
structure CompiledTree where
  id : Option String
  nodes : List Node
  deriving Inhabited

end Stencil
