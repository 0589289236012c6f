import Stencil.Expr.Operator

/-!
Lexemes: the smallest parts of an expression as it is written, before operators are put behind their
operands.  Each kind of lexeme says which kinds may come right after it.
-/

namespace Stencil.Expr

/-- The kinds of lexemes. -/
inductive Kind where
  | test
  | comma
  | number
  | binary
  | unary
  | string
  | lambda
  | subexprStart
  | subexprEnd
  | paramStart
  | paramEnd
  | slice
  | arrayStart
  | arrayEnd
  | objectStart
  | objectEnd
  | filter
  | function
  | variable
  | keyPeriod
  | keyBrackets
  | null
  | context
  | bool
  deriving DecidableEq, Repr

namespace Kind

/-- The kinds in the order in which they are tried at each place. -/
def all : List Kind :=
  [.test, .comma, .number, .binary, .unary, .string, .lambda, .subexprStart, .subexprEnd,
    .paramStart, .paramEnd, .slice, .arrayStart, .arrayEnd, .objectStart, .objectEnd, .filter,
    .function, .variable, .keyPeriod, .keyBrackets, .null, .context, .bool]

/-- The name of the kind in messages. -/
def name : Kind → String
  | .test => "test"
  | .comma => "comma"
  | .number => "number"
  | .binary => "binary operator"
  | .unary => "unary operator"
  | .string => "string"
  | .lambda => "lambda"
  | .subexprStart => "subexpression start"
  | .subexprEnd => "subexpression end"
  | .paramStart => "parameter start"
  | .paramEnd => "parameter end"
  | .slice => "slice"
  | .arrayStart => "array start"
  | .arrayEnd => "array end"
  | .objectStart => "object start"
  | .objectEnd => "object end"
  | .filter => "filter"
  | .function => "function"
  | .variable => "variable"
  | .keyPeriod => "key period"
  | .keyBrackets => "key brackets"
  | .null => "null"
  | .context => "context"
  | .bool => "bool"

/-- What may follow a complete value. -/
def afterValue : List Kind :=
  [.filter, .unary, .binary, .arrayEnd, .objectEnd, .paramEnd, .subexprEnd, .comma, .test]

/-- What may follow a value that can have keys. -/
def afterContainer : List Kind := afterValue ++ [.keyPeriod, .keyBrackets, .slice]

/-- What may follow a value that can have keys and can be called. -/
def afterCallable : List Kind := afterContainer ++ [.paramStart]

/-- What may start a value. -/
def valueStart : List Kind :=
  [.function, .bool, .string, .variable, .number, .null, .context, .paramStart, .arrayStart,
    .objectStart, .subexprStart, .unary, .lambda]

/-- The kinds that may come right after a lexeme of this kind. -/
def next : Kind → List Kind
  | .test => afterValue ++ [.paramStart]
  | .comma => valueStart ++ [.arrayEnd, .objectEnd]
  | .number | .null | .bool | .lambda => afterValue
  | .binary | .unary => valueStart
  | .string | .subexprEnd | .paramEnd | .slice | .arrayEnd | .objectEnd => afterContainer
  | .subexprStart => valueStart ++ [.subexprEnd]
  | .paramStart => valueStart ++ [.paramEnd]
  | .arrayStart => valueStart ++ [.arrayEnd]
  | .objectStart => valueStart ++ [.objectEnd]
  | .filter | .variable | .keyPeriod | .keyBrackets | .context => afterCallable
  | .function => [.paramStart]

end Kind

/-- A part of an expression as it is written. -/
inductive Lexeme where
  | test (name : String) (negated : Bool)
  | comma
  | number (value : Float)
  | binary (symbol : String)
  | unary (symbol : String)
  | string (value : String)
  /-- The body is the text after the arrow, compiled on its own. -/
  | lambda (params : List String) (body : String)
  | subexprStart
  | subexprEnd
  | paramStart
  | paramEnd
  | slice (start stop : Option Int)
  | arrayStart
  | arrayEnd
  | objectStart
  | objectEnd
  | filter (name : String)
  | function (name : String)
  | variable (name : String)
  | keyPeriod (key : String)
  /-- The text between the brackets, compiled on its own. -/
  | keyBrackets (text : String)
  | null
  | context
  | bool (value : Bool)
  deriving Inhabited

namespace Lexeme

/-- The kind of a lexeme. -/
def kind : Lexeme → Kind
  | .test .. => .test
  | .comma => .comma
  | .number _ => .number
  | .binary _ => .binary
  | .unary _ => .unary
  | .string _ => .string
  | .lambda .. => .lambda
  | .subexprStart => .subexprStart
  | .subexprEnd => .subexprEnd
  | .paramStart => .paramStart
  | .paramEnd => .paramEnd
  | .slice .. => .slice
  | .arrayStart => .arrayStart
  | .arrayEnd => .arrayEnd
  | .objectStart => .objectStart
  | .objectEnd => .objectEnd
  | .filter _ => .filter
  | .function _ => .function
  | .variable _ => .variable
  | .keyPeriod _ => .keyPeriod
  | .keyBrackets _ => .keyBrackets
  | .null => .null
  | .context => .context
  | .bool _ => .bool

/-- The word of a lexeme that could be a reserved word. -/
def word : Lexeme → String
  | .variable s | .function s | .binary s | .unary s => s
  | .bool true => "true"
  | .bool false => "false"
  | .null => "null"
  | .context => "_context"
  | _ => ""

end Lexeme

/-- Words that cannot name a variable or a function. -/
def reservedWords : List String :=
  ["true", "false", "null", "none", "TRUE", "FALSE", "NULL", "NONE", "_context", "and", "b-and",
    "or", "b-or", "b-xor", "in", "not in", "not", "if", "matches", "starts", "ends", "with"]

/-- The word is reserved. -/
def isReserved (word : String) : Bool := reservedWords.contains word

end Stencil.Expr
