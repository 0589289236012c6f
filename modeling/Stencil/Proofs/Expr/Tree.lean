import Stencil.Expr.Postfix

/-!
# Expressions as trees

A compiled expression is a flat list in which each operator follows its operands, and the lexemes
that it is compiled from are flat too.  A `Tree` is what both are listings of: `lexemes` lists it as
it is written, with each operator between or in front of its operands, and `tokens` as it is
compiled.

Only some trees can be written without parentheses that are not there: an operator that binds
loosely is no operand of one that binds tightly.  `WellFormed` says so in terms of `precedence` and
of the associativity of operators, and it says of texts that are compiled on their own (bodies of
functions, keys in brackets) which tree they write.  Parentheses are nodes of the tree, so every
expression has such a tree.
-/
namespace Stencil.Expr

/-- A key of an object literal that is written as one lexeme. -/
inductive PlainKey where
  | name (key : String)
  | string (key : String)
  | number (key : Float)
  deriving Inhabited

namespace PlainKey

/-- How the key is written. -/
def lexeme : PlainKey → Lexeme
  | .name key => .variable key
  | .string key => .string key
  | .number key => .number key

/-- The key itself. -/
def text : PlainKey → String
  | .name key | .string key => key
  | .number key => Number.text key

end PlainKey

mutual

/-- An expression. Lists of trees are what stands between brackets with commas. -/
inductive Tree where
  | number (value : Float)
  | string (value : String)
  | bool (value : Bool)
  | null
  | context
  | variable (name : String)
  /-- A function; `text` writes its body. -/
  | lambda (params : List String) (text : String) (body : Tree)
  | function (name : String) (args : List Tree)
  | filter (input : Tree) (name : String) (args : Option (List Tree))
  | test (input : Tree) (name : String) (negated : Bool) (args : Option (List Tree))
  | keyPeriod (container : Tree) (key : String)
  /-- A key in brackets, which `text` writes, and the parentheses right after it. -/
  | keyBrackets (container : Tree) (text : String) (key : List Tree) (args : Option (List Tree))
  | slice (whole : Tree) (start stop : Option Int)
  /-- Parentheses right after a value. -/
  | call (callee : Tree) (args : List Tree)
  | unary (op : UnaryOp) (operand : Tree)
  /-- Two operands; the full conditional is apart, since it has three. -/
  | binary (op : BinaryOp) (proper : op ≠ .conditional) (left right : Tree)
  /-- The full conditional, `condition ? yes : no`. -/
  | conditional (condition yes no : Tree)
  | group (items : List Tree)
  | array (items : List Tree)
  | object (entries : List Entry)

/-- An entry of an object literal. -/
inductive Entry where
  | plain (key : PlainKey) (value : Tree)
  | computed (key : List Tree) (value : Tree)

end

instance : Inhabited Tree := ⟨.null⟩

/-- The lexeme of a binary operator. -/
def BinaryOp.lexeme (op : BinaryOp) : Lexeme := .binary (op.symbol?.getD "")

/-! ## As written -/

/-- Lexemes in the parentheses of arguments. -/
def inParens (ls : List Lexeme) : List Lexeme := .paramStart :: (ls ++ [.paramEnd])

mutual

/-- The tree as it is written. -/
def Tree.lexemes : Tree → List Lexeme
  | .number value => [.number value]
  | .string value => [.string value]
  | .bool value => [.bool value]
  | .null => [.null]
  | .context => [.context]
  | .variable name => [.variable name]
  | .lambda params text _ => [.lambda params text]
  | .function name args => .function name :: inParens (itemLexemes args)
  | .filter input name args => input.lexemes ++ .filter name :: argLexemes args
  | .test input name negated args => input.lexemes ++ .test name negated :: argLexemes args
  | .keyPeriod container key => container.lexemes ++ [.keyPeriod key]
  | .keyBrackets container text _ args =>
    container.lexemes ++ .keyBrackets text :: argLexemes args
  | .slice whole start stop => whole.lexemes ++ [.slice start stop]
  | .call callee args => callee.lexemes ++ inParens (itemLexemes args)
  | .unary op operand => .unary op.symbol :: operand.lexemes
  | .binary op _ left right => left.lexemes ++ op.lexeme :: right.lexemes
  | .conditional condition yes no =>
    condition.lexemes ++ .binary "?" :: (yes.lexemes ++ .binary ":" :: no.lexemes)
  | .group items => .subexprStart :: (itemLexemes items ++ [.subexprEnd])
  | .array items => .arrayStart :: (itemLexemes items ++ [.arrayEnd])
  | .object entries => .objectStart :: (entryLexemes entries ++ [.objectEnd])
termination_by structural t => t

/-- Trees with a comma between each and the next. -/
def itemLexemes : List Tree → List Lexeme
  | [] => []
  | t :: rest => t.lexemes ++ moreLexemes rest
termination_by structural l => l

/-- Trees with a comma before each. -/
def moreLexemes : List Tree → List Lexeme
  | [] => []
  | t :: rest => .comma :: (t.lexemes ++ moreLexemes rest)
termination_by structural l => l

/-- Arguments in parentheses, if there are any. -/
def argLexemes : Option (List Tree) → List Lexeme
  | none => []
  | some args => inParens (itemLexemes args)
termination_by structural a => a

/-- Entries with a comma between each and the next. -/
def entryLexemes : List Entry → List Lexeme
  | [] => []
  | e :: rest => e.lexemes ++ moreEntryLexemes rest
termination_by structural l => l

/-- Entries with a comma before each. -/
def moreEntryLexemes : List Entry → List Lexeme
  | [] => []
  | e :: rest => .comma :: (e.lexemes ++ moreEntryLexemes rest)
termination_by structural l => l

/-- A key, a colon and a value. -/
def Entry.lexemes : Entry → List Lexeme
  | .plain key value => key.lexeme :: .binary ":" :: value.lexemes
  | .computed key value =>
    .subexprStart :: (itemLexemes key ++ .subexprEnd :: .binary ":" :: value.lexemes)
termination_by structural e => e

end

/-! ## As compiled -/

mutual

/-- The tree as it is compiled: operands in their order, and each operator after its own. -/
def Tree.tokens : Tree → List Token
  | .number value => [.number value]
  | .string value => [.string value]
  | .bool value => [.bool value]
  | .null => [.null]
  | .context => [.context]
  | .variable name => [.variable name]
  | .lambda params _ body => [.lambda params body.tokens]
  | .function name args => [.function name (some (itemTokens args))]
  | .filter input name args => input.tokens ++ [.filter name (argTokens args)]
  | .test input name negated args => input.tokens ++ [.test name negated (argTokens args)]
  | .keyPeriod container key => container.tokens ++ [.keyPeriod key]
  | .keyBrackets container _ key args =>
    container.tokens ++ [.keyBrackets (itemTokens key) (argTokens args)]
  | .slice whole start stop => whole.tokens ++ [.slice start stop]
  | .call callee args => callee.tokens ++ [.group (itemTokens args) true]
  | .unary op operand => operand.tokens ++ [.unary op]
  | .binary op _ left right => left.tokens ++ (right.tokens ++ [.binary op])
  | .conditional condition yes no =>
    condition.tokens ++ (yes.tokens ++ (no.tokens ++ [.binary .conditional]))
  | .group items => [.group (itemTokens items) false]
  | .array items => .arrayStart :: (itemTokens items ++ [.arrayEnd])
  | .object entries => .objectStart :: (entryTokens entries ++ [.objectEnd])
termination_by structural t => t

/-- Trees with a comma between each and the next. -/
def itemTokens : List Tree → List Token
  | [] => []
  | t :: rest => t.tokens ++ moreTokens rest
termination_by structural l => l

/-- Trees with a comma before each. -/
def moreTokens : List Tree → List Token
  | [] => []
  | t :: rest => .comma :: (t.tokens ++ moreTokens rest)
termination_by structural l => l

/-- Optional arguments. -/
def argTokens : Option (List Tree) → Option (List Token)
  | none => none
  | some args => some (itemTokens args)
termination_by structural a => a

/-- Entries with a comma between each and the next. -/
def entryTokens : List Entry → List Token
  | [] => []
  | e :: rest => e.tokens ++ moreEntryTokens rest
termination_by structural l => l

/-- Entries with a comma before each. -/
def moreEntryTokens : List Entry → List Token
  | [] => []
  | e :: rest => .comma :: (e.tokens ++ moreEntryTokens rest)
termination_by structural l => l

/-- A key and a value. -/
def Entry.tokens : Entry → List Token
  | .plain key value => .objectKey key.text :: value.tokens
  | .computed key value => .computedKey (itemTokens key) :: value.tokens
termination_by structural e => e

end

/-! ## Trees that can be written -/

namespace Tree

/-- How tightly the outermost operator binds; anything that is not an operator binds most tightly.
-/
def precedence : Tree → Nat
  | .unary op _ => op.precedence
  | .binary op .. => op.precedence
  | .conditional .. => BinaryOp.conditional.precedence
  | _ => 0

/-- The tree may stand on the left of an operator. -/
def FitsLeft (t : Tree) (op : BinaryOp) : Prop :=
  match op.associativity with
  | .leftToRight => t.precedence ≤ op.precedence
  | .rightToLeft => t.precedence < op.precedence

/-- The tree may stand on the right of an operator. -/
def FitsRight (t : Tree) (op : BinaryOp) : Prop :=
  match op.associativity with
  | .leftToRight => t.precedence < op.precedence
  | .rightToLeft => t.precedence ≤ op.precedence

/-- Parentheses right after the tree are the arguments of its last step. -/
def takesArguments : Tree → Bool
  | .filter _ _ none | .test _ _ _ none | .keyBrackets _ _ _ none => true
  | _ => false

/-- Outside brackets the tree has no `?:` and no `?` without a colon. -/
def NoOpenConditional : Tree → Prop
  | .filter input .. => input.NoOpenConditional
  | .test input .. => input.NoOpenConditional
  | .keyPeriod container _ => container.NoOpenConditional
  | .keyBrackets container .. => container.NoOpenConditional
  | .slice whole .. => whole.NoOpenConditional
  | .call callee _ => callee.NoOpenConditional
  | .unary _ operand => operand.NoOpenConditional
  | .binary op _ left right =>
    op ≠ .elvis ∧ op ≠ .shortConditional ∧ left.NoOpenConditional ∧ right.NoOpenConditional
  | .conditional condition yes no =>
    condition.NoOpenConditional ∧ yes.NoOpenConditional ∧ no.NoOpenConditional
  | _ => True

end Tree

mutual

/-- The tree can be written as its lexemes: no operand binds more loosely than its place allows, and
the texts inside it write the trees that they stand for. -/
def Tree.WellFormed : Tree → Prop
  | .lambda _ text body => Expr.lexemes text.toList = .ok body.lexemes ∧ body.WellFormed
  | .function _ args => itemsWellFormed args
  | .filter input _ args => input.precedence = 0 ∧ input.WellFormed ∧ argsWellFormed args
  | .test input _ _ args => input.precedence = 0 ∧ input.WellFormed ∧ argsWellFormed args
  | .keyPeriod container _ => container.precedence = 0 ∧ container.WellFormed
  | .keyBrackets container text key args =>
    container.precedence = 0 ∧ container.WellFormed ∧
      Expr.lexemes text.toList = .ok (itemLexemes key) ∧ itemsWellFormed key ∧ argsWellFormed args
  | .slice whole _ _ => whole.precedence = 0 ∧ whole.WellFormed
  | .call callee args =>
    callee.precedence = 0 ∧ callee.takesArguments = false ∧ callee.WellFormed ∧ itemsWellFormed args
  | .unary op operand => operand.precedence ≤ op.precedence ∧ operand.WellFormed
  | .binary op _ left right =>
    left.FitsLeft op ∧ right.FitsRight op ∧ left.WellFormed ∧ right.WellFormed
  | .conditional condition yes no =>
    condition.FitsLeft .conditional ∧ yes.NoOpenConditional ∧
      condition.WellFormed ∧ yes.WellFormed ∧ no.WellFormed
  | .group items | .array items => itemsWellFormed items
  | .object entries => entriesWellFormed entries
  | _ => True
termination_by structural t => t

/-- All trees of a list can be written. -/
def itemsWellFormed : List Tree → Prop
  | [] => True
  | t :: rest => t.WellFormed ∧ itemsWellFormed rest
termination_by structural l => l

/-- All optional arguments can be written. -/
def argsWellFormed : Option (List Tree) → Prop
  | none => True
  | some args => itemsWellFormed args
termination_by structural a => a

/-- All entries of a list can be written. -/
def entriesWellFormed : List Entry → Prop
  | [] => True
  | e :: rest => e.WellFormed ∧ entriesWellFormed rest
termination_by structural l => l

/-- The key and the value can be written. -/
def Entry.WellFormed : Entry → Prop
  | .plain _ value => value.WellFormed
  | .computed key value => itemsWellFormed key ∧ value.WellFormed
termination_by structural e => e

end

end Stencil.Expr
