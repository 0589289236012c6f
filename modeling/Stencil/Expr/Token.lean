import Stencil.Expr.Operator
import Stencil.Number.Layout
import Stencil.Text.Printable

/-!
Compiled expressions: a list of tokens in which each operator follows its operands.  Arrays and
objects stand between a start and an end token; what stood in parentheses is one token that holds a
list of its own.  The listing shows a token by its name and fields.
-/

namespace Stencil.Expr

/-- A step of a compiled expression. -/
inductive Token where
  | number (value : Float)
  | string (value : String)
  | bool (value : Bool)
  | null
  /-- All variables as one object. -/
  | context
  | variable (name : String)
  /-- A function written in the expression, `x => body`. -/
  | lambda (params : List String) (body : List Token)
  | function (name : String) (params : Option (List Token))
  | filter (name : String) (params : Option (List Token))
  | test (name : String) (negated : Bool) (params : Option (List Token))
  | unary (op : UnaryOp)
  | binary (op : BinaryOp)
  /-- A key of an object literal. -/
  | objectKey (key : String)
  /-- A key of an object literal that is worked out first. -/
  | computedKey (key : List Token)
  | arrayStart
  | arrayEnd
  | objectStart
  | objectEnd
  /-- What stood in parentheses. `call` marks parentheses right after a value, which are its
  arguments if it can be called. -/
  | group (tokens : List Token) (call : Bool)
  | keyPeriod (key : String)
  | keyBrackets (key : List Token) (params : Option (List Token))
  | slice (start stop : Option Int)
  | comma
  deriving Inhabited

end Stencil.Expr

namespace Stencil

/-- A compiled expression. -/
abbrev Expr := List Expr.Token

end Stencil

namespace Stencil.Expr.Token
open Text

/-- A listing of names: each quoted, between square brackets. -/
def listNames (names : List String) : String :=
  "[" ++ ", ".intercalate (names.map quoted) ++ "]"

/-- A listing of a truth value. -/
def listBool (b : Bool) : String := if b then "true" else "false"

/-- A listing of an optional integer. -/
def listBound : Option Int → String
  | some n => "Some(" ++ toString n ++ ")"
  | none => "None"

/-- A listing of a token with fields. -/
def listFields (name : String) (fields : List (String × String)) : String :=
  name ++ " \x7b " ++ ", ".intercalate (fields.map fun (k, v) => k ++ ": " ++ v) ++ " \x7d"

mutual

/-- The listing of a token: its name and, between braces, its fields. -/
def listing : Token → String
  | .number value => listFields "Number" [("value", Number.listing value)]
  | .string value => listFields "String" [("value", quoted value)]
  | .bool value => listFields "Bool" [("value", listBool value)]
  | .null => "Null"
  | .context => "Context"
  | .variable name => listFields "Variable" [("name", quoted name)]
  | .lambda params body =>
    listFields "Lambda" [("params", listNames params), ("body", "[" ++ listTokens body ++ "]")]
  | .function name params =>
    listFields "Function" [("name", quoted name), ("params", listParams params)]
  | .filter name params =>
    listFields "Filter" [("name", quoted name), ("params", listParams params)]
  | .test name negated params =>
    listFields "Test"
      [("name", quoted name), ("negated", listBool negated), ("params", listParams params)]
  | .unary op => listFields "Unary" [("op", op.title)]
  | .binary op => listFields "Binary" [("op", op.title)]
  | .objectKey key => listFields "ObjectKey" [("key", quoted key)]
  | .computedKey key => listFields "ComputedKey" [("key", "[" ++ listTokens key ++ "]")]
  | .arrayStart => "ArrayStart"
  | .arrayEnd => "ArrayEnd"
  | .objectStart => "ObjectStart"
  | .objectEnd => "ObjectEnd"
  | .group tokens call =>
    listFields "Group" [("tokens", "[" ++ listTokens tokens ++ "]"), ("call", listBool call)]
  | .keyPeriod key => listFields "KeyPeriod" [("key", quoted key)]
  | .keyBrackets key params =>
    listFields "KeyBrackets"
      [("key", "[" ++ listTokens key ++ "]"), ("params", listParams params)]
  | .slice start stop => listFields "Slice" [("start", listBound start), ("end", listBound stop)]
  | .comma => "Comma"
termination_by structural t => t

/-- The listings of tokens with a comma between each and the next. -/
def listTokens : List Token → String
  | [] => ""
  | t :: rest => listing t ++ listMore rest
termination_by structural l => l

/-- The listings of the tokens after the first, each after a comma. -/
def listMore : List Token → String
  | [] => ""
  | t :: rest => ", " ++ listing t ++ listMore rest
termination_by structural l => l

/-- The listing of optional arguments. -/
def listParams : Option (List Token) → String
  | none => "None"
  | some tokens => "Some([" ++ listTokens tokens ++ "])"
termination_by structural p => p

end

end Stencil.Expr.Token
