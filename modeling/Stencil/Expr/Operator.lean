/-!
The operators of expressions: how they are written, how tightly they bind, and how many operands
they take.  A smaller precedence binds more tightly.
-/

namespace Stencil.Expr

/-- Which of two neighbouring operators of one precedence takes the operand between them. -/
inductive Associativity where
  | leftToRight
  | rightToLeft
  deriving DecidableEq, Repr

/-- Operators in front of one operand. -/
inductive UnaryOp where
  | not
  | neg
  | pos
  deriving DecidableEq, Repr

/-- Operators between operands. `conditional` is the full `a ? b : c`; `shortConditional` is `a ? b`
before its colon has been seen, or without one. -/
inductive BinaryOp where
  | add
  | sub
  | mul
  | div
  | floorDiv
  | mod
  | pow
  | concat
  | range
  | eq
  | ne
  | strictEq
  | strictNe
  | lt
  | le
  | gt
  | ge
  | isIn
  | notIn
  | matches
  | startsWith
  | endsWith
  | and
  | or
  | bitAnd
  | bitOr
  | bitXor
  | nullCoalesce
  | elvis
  | conditional
  | shortConditional
  deriving DecidableEq, Repr

namespace UnaryOp

/-- All unary operators. -/
def all : List UnaryOp := [.not, .neg, .pos]

/-- How the operator is written. -/
def symbol : UnaryOp → String
  | .not => "not"
  | .neg => "-"
  | .pos => "+"

/-- The name of the operator in documents. -/
def name : UnaryOp → String
  | .not => "not"
  | .neg => "neg"
  | .pos => "pos"

/-- The name of the operator in listings. -/
def title : UnaryOp → String
  | .not => "Not"
  | .neg => "Neg"
  | .pos => "Pos"

/-- The operator that is written so. -/
def ofSymbol? (s : String) : Option UnaryOp := all.find? fun op => op.symbol = s

/-- The operator of that name. -/
def ofName? (s : String) : Option UnaryOp := all.find? fun op => op.name = s

/-- Unary operators bind more tightly than all others. -/
def precedence (_ : UnaryOp) : Nat := 30

/-- A unary operator takes what stands on its right. -/
def associativity (_ : UnaryOp) : Associativity := .rightToLeft

end UnaryOp

namespace BinaryOp

/-- All binary operators. -/
def all : List BinaryOp :=
  [.add, .sub, .mul, .div, .floorDiv, .mod, .pow, .concat, .range, .eq, .ne, .strictEq, .strictNe,
    .lt, .le, .gt, .ge, .isIn, .notIn, .matches, .startsWith, .endsWith, .and, .or, .bitAnd, .bitOr,
    .bitXor, .nullCoalesce, .elvis, .conditional, .shortConditional]

/-- How the operator is written; a full conditional has no symbol of its own. -/
def symbol? : BinaryOp → Option String
  | .add => some "+"
  | .sub => some "-"
  | .mul => some "*"
  | .div => some "/"
  | .floorDiv => some "//"
  | .mod => some "%"
  | .pow => some "**"
  | .concat => some "~"
  | .range => some ".."
  | .eq => some "=="
  | .ne => some "!="
  | .strictEq => some "==="
  | .strictNe => some "!=="
  | .lt => some "<"
  | .le => some "<="
  | .gt => some ">"
  | .ge => some ">="
  | .isIn => some "in"
  | .notIn => some "not in"
  | .matches => some "matches"
  | .startsWith => some "starts with"
  | .endsWith => some "ends with"
  | .and => some "and"
  | .or => some "or"
  | .bitAnd => some "b-and"
  | .bitOr => some "b-or"
  | .bitXor => some "b-xor"
  | .nullCoalesce => some "??"
  | .elvis => some "?:"
  | .conditional => none
  | .shortConditional => some "?"

/-- The name of the operator in documents. -/
def name : BinaryOp → String
  | .add => "add"
  | .sub => "sub"
  | .mul => "mul"
  | .div => "div"
  | .floorDiv => "floor_div"
  | .mod => "mod"
  | .pow => "pow"
  | .concat => "concat"
  | .range => "range"
  | .eq => "eq"
  | .ne => "ne"
  | .strictEq => "strict_eq"
  | .strictNe => "strict_ne"
  | .lt => "lt"
  | .le => "le"
  | .gt => "gt"
  | .ge => "ge"
  | .isIn => "in"
  | .notIn => "not_in"
  | .matches => "matches"
  | .startsWith => "starts_with"
  | .endsWith => "ends_with"
  | .and => "and"
  | .or => "or"
  | .bitAnd => "bit_and"
  | .bitOr => "bit_or"
  | .bitXor => "bit_xor"
  | .nullCoalesce => "null_coalesce"
  | .elvis => "elvis"
  | .conditional => "conditional"
  | .shortConditional => "short_conditional"

/-- The name of the operator in listings. -/
def title : BinaryOp → String
  | .add => "Add"
  | .sub => "Sub"
  | .mul => "Mul"
  | .div => "Div"
  | .floorDiv => "FloorDiv"
  | .mod => "Mod"
  | .pow => "Pow"
  | .concat => "Concat"
  | .range => "Range"
  | .eq => "Eq"
  | .ne => "Ne"
  | .strictEq => "StrictEq"
  | .strictNe => "StrictNe"
  | .lt => "Lt"
  | .le => "Le"
  | .gt => "Gt"
  | .ge => "Ge"
  | .isIn => "In"
  | .notIn => "NotIn"
  | .matches => "Matches"
  | .startsWith => "StartsWith"
  | .endsWith => "EndsWith"
  | .and => "And"
  | .or => "Or"
  | .bitAnd => "BitAnd"
  | .bitOr => "BitOr"
  | .bitXor => "BitXor"
  | .nullCoalesce => "NullCoalesce"
  | .elvis => "Elvis"
  | .conditional => "Conditional"
  | .shortConditional => "ShortConditional"

/-- The operator that is written so. -/
def ofSymbol? (s : String) : Option BinaryOp := all.find? fun op => op.symbol? = some s

/-- The operator of that name. -/
def ofName? (s : String) : Option BinaryOp := all.find? fun op => op.name = s

/-- How tightly the operator binds. -/
def precedence : BinaryOp → Nat
  | .pow => 40
  | .mul | .div | .floorDiv | .mod => 50
  | .add | .sub => 60
  | .concat => 70
  | .range => 75
  | .lt | .le | .gt | .ge | .isIn | .notIn | .matches | .startsWith | .endsWith => 80
  | .eq | .ne | .strictEq | .strictNe => 90
  | .bitAnd => 100
  | .bitXor => 110
  | .bitOr => 120
  | .and => 130
  | .or => 140
  | .nullCoalesce => 150
  | .elvis | .conditional | .shortConditional => 160

/-- Powers, fallbacks and conditionals nest to the right, all others to the left. -/
def associativity : BinaryOp → Associativity
  | .pow | .nullCoalesce | .elvis | .conditional | .shortConditional => .rightToLeft
  | _ => .leftToRight

/-- The number of operands. -/
def arity : BinaryOp → Nat
  | .conditional => 3
  | _ => 2

end BinaryOp
end Stencil.Expr
