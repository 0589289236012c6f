import Stencil.Json.Record
import Stencil.Number.Binary
import Stencil.Options.Format
import Stencil.Tree.Node

/-!
Compiled trees as documents.  A token, a tag or a node is an object whose member `type` or `tag`
names the variant, next to one member for each field; a missing part is null.  A number that is not
finite has no written form and becomes null, so that reading it back is refused.
-/

namespace Stencil

/-- An integer of 64 bits. -/
def Json.word? : Json → Option Int
  | .int n => if Number.minWord ≤ n && n ≤ Number.maxWord then some n else none
  | _ => none

/-- The document of a number. -/
def Json.ofFloat (x : Float) : Json := if Number.isFinite x then .float x else .null

/-- The document of a part that may be missing. -/
def Json.ofOption {α : Type} (f : α → Json) : Option α → Json
  | some a => f a
  | none => .null

/-- The document of pairs of strings. -/
def Json.ofStringPairs (pairs : List (String × String)) : Json :=
  .arr (pairs.map fun (a, b) => .arr [.str a, .str b])

namespace Expr.Token

/-- The document of a variant with its fields. -/
def variantJson (name : String) (fields : List (String × Json)) : Json :=
  .obj (("type", .str name) :: fields)

mutual

/-- The document of a token. -/
def toJson : Token → Json
  | .number value => variantJson "number" [("value", .ofFloat value)]
  | .string value => variantJson "string" [("value", .str value)]
  | .bool value => variantJson "bool" [("value", .bool value)]
  | .null => variantJson "null" []
  | .context => variantJson "context" []
  | .variable name => variantJson "variable" [("name", .str name)]
  | .lambda params body =>
    variantJson "lambda" [("params", .arr (params.map .str)), ("body", .arr (listToJson body))]
  | .function name params =>
    variantJson "function" [("name", .str name), ("params", paramsToJson params)]
  | .filter name params =>
    variantJson "filter" [("name", .str name), ("params", paramsToJson params)]
  | .test name negated params =>
    variantJson "test"
      [("name", .str name), ("negated", .bool negated), ("params", paramsToJson params)]
  | .unary op => variantJson "unary" [("op", .str op.name)]
  | .binary op => variantJson "binary" [("op", .str op.name)]
  | .objectKey key => variantJson "object_key" [("key", .str key)]
  | .computedKey key => variantJson "computed_key" [("key", .arr (listToJson key))]
  | .arrayStart => variantJson "array_start" []
  | .arrayEnd => variantJson "array_end" []
  | .objectStart => variantJson "object_start" []
  | .objectEnd => variantJson "object_end" []
  | .group tokens call =>
    variantJson "group" [("tokens", .arr (listToJson tokens)), ("call", .bool call)]
  | .keyPeriod key => variantJson "key_period" [("key", .str key)]
  | .keyBrackets key params =>
    variantJson "key_brackets" [("key", .arr (listToJson key)), ("params", paramsToJson params)]
  | .slice start stop =>
    variantJson "slice" [("start", .ofOption .int start), ("end", .ofOption .int stop)]
  | .comma => variantJson "comma" []
termination_by structural t => t

/-- The documents of tokens. -/
def listToJson : List Token → List Json
  | [] => []
  | t :: rest => toJson t :: listToJson rest
termination_by structural l => l

/-- The document of optional arguments. -/
def paramsToJson : Option (List Token) → Json
  | none => .null
  | some tokens => .arr (listToJson tokens)
termination_by structural p => p

end

/-- The token that a document writes; `fuel` bounds how deep tokens are nested. -/
def ofJsonWith? : Nat → Json → Option Token
  | 0, _ => none
  | fuel + 1, j => do
    let (variant, rest) ← Json.variant? "type" j
    let expr := Json.list? (ofJsonWith? fuel)
    let record (names : List String) := Json.fields? names rest
    match variant with
    | "number" => do
      let f ← record ["value"]
      some (.number (← f.required? "value" 0 Json.float?))
    | "string" => do
      let f ← record ["value"]
      some (.string (← f.required? "value" 0 Json.str?))
    | "bool" => do
      let f ← record ["value"]
      some (.bool (← f.required? "value" 0 Json.bool?))
    | "null" => some .null
    | "context" => some .context
    | "variable" => do
      let f ← record ["name"]
      some (.variable (← f.required? "name" 0 Json.str?))
    | "lambda" => do
      let f ← record ["params", "body"]
      let params ← f.required? "params" 0 (Json.list? Json.str?)
      some (.lambda params (← f.required? "body" 1 expr))
    | "function" => do
      let f ← record ["name", "params"]
      let name ← f.required? "name" 0 Json.str?
      some (.function name (← f.optional? "params" 1 expr))
    | "filter" => do
      let f ← record ["name", "params"]
      let name ← f.required? "name" 0 Json.str?
      some (.filter name (← f.optional? "params" 1 expr))
    | "test" => do
      let f ← record ["name", "negated", "params"]
      let name ← f.required? "name" 0 Json.str?
      let negated ← f.required? "negated" 1 Json.bool?
      some (.test name negated (← f.optional? "params" 2 expr))
    | "unary" => do
      let f ← record ["op"]
      let name ← f.required? "op" 0 Json.bareVariant?
      some (.unary (← UnaryOp.ofName? name))
    | "binary" => do
      let f ← record ["op"]
      let name ← f.required? "op" 0 Json.bareVariant?
      some (.binary (← BinaryOp.ofName? name))
    | "object_key" => do
      let f ← record ["key"]
      some (.objectKey (← f.required? "key" 0 Json.str?))
    | "computed_key" => do
      let f ← record ["key"]
      some (.computedKey (← f.required? "key" 0 expr))
    | "array_start" => some .arrayStart
    | "array_end" => some .arrayEnd
    | "object_start" => some .objectStart
    | "object_end" => some .objectEnd
    | "group" => do
      let f ← record ["tokens", "call"]
      let tokens ← f.required? "tokens" 0 expr
      some (.group tokens (← f.required? "call" 1 Json.bool?))
    | "key_period" => do
      let f ← record ["key"]
      some (.keyPeriod (← f.required? "key" 0 Json.str?))
    | "key_brackets" => do
      let f ← record ["key", "params"]
      let key ← f.required? "key" 0 expr
      some (.keyBrackets key (← f.optional? "params" 1 expr))
    | "slice" => do
      let f ← record ["start", "end"]
      let start ← f.optional? "start" 0 Json.word?
      some (.slice start (← f.optional? "end" 1 Json.word?))
    | "comma" => some .comma
    | _ => none

end Expr.Token

namespace Expr

/-- The document of an expression. -/
def toJson (e : Expr) : Json := .arr (Token.listToJson e)

/-- The expression that a document writes. -/
def ofJson? (j : Json) : Option Expr := Json.list? (Token.ofJsonWith? (Json.maxDepth + 1)) j

end Expr

namespace MacroParam

/-- The document of a parameter. -/
def toJson (p : MacroParam) : Json :=
  .obj [("name", .str p.name), ("default", .ofOption Expr.toJson p.default)]

/-- The parameter that a document writes. -/
def ofJson? (j : Json) : Option MacroParam := do
  let f ← Json.fields? ["name", "default"] j
  let name ← f.required? "name" 0 Json.str?
  some ⟨name, ← f.optional? "default" 1 Expr.ofJson?⟩

end MacroParam

namespace Inclusion

/-- The fields of an inclusion in their order. -/
def fields (i : Inclusion) : List (String × Json) :=
  [("expression", i.expression.toJson), ("with", .ofOption Expr.toJson i.bindings),
    ("only", .bool i.only), ("ignore_missing", .bool i.ignoreMissing)]

/-- The inclusion that a document writes. -/
def ofJson? (j : Json) : Option Inclusion := do
  let f ← Json.fields? ["expression", "with", "only", "ignore_missing"] j
  let expression ← f.required? "expression" 0 Expr.ofJson?
  let bindings ← f.optional? "with" 1 Expr.ofJson?
  let only ← f.required? "only" 2 Json.bool?
  some ⟨expression, bindings, only, ← f.required? "ignore_missing" 3 Json.bool?⟩

end Inclusion

namespace Tag

/-- The document of a variant with its fields. -/
def variantJson (name : String) (fields : List (String × Json)) : Json :=
  .obj (("tag", .str name) :: fields)

/-- The document of a tag. -/
def toJson : Tag → Json
  | .branch condition => variantJson "if" [("condition", condition.toJson)]
  | .elseBranch condition => variantJson "else_if" [("condition", condition.toJson)]
  | .otherwise => variantJson "else" []
  | .loop key value expression condition =>
    variantJson "for"
      [("key", .ofOption .str key), ("value", .str value), ("expression", expression.toJson),
        ("condition", .ofOption Expr.toJson condition)]
  | .assign name expression =>
    variantJson "set" [("key", .str name), ("expression", expression.toJson)]
  | .capture name => variantJson "set_capture" [("key", .str name)]
  | .block name expression =>
    variantJson "block" [("name", .str name), ("expression", .ofOption Expr.toJson expression)]
  | .inherits expression => variantJson "extends" [("expression", expression.toJson)]
  | .uses expression renames =>
    variantJson "use" [("expression", expression.toJson), ("renames", .ofStringPairs renames)]
  | .includes i => variantJson "include" i.fields
  | .embeds i => variantJson "embed" i.fields
  | .imports expression name =>
    variantJson "import" [("expression", expression.toJson), ("alias", .str name)]
  | .importsNames expression names =>
    variantJson "from" [("expression", expression.toJson), ("imports", .ofStringPairs names)]
  | .macroDef name params =>
    variantJson "macro" [("name", .str name), ("params", .arr (params.map MacroParam.toJson))]
  | .scoped expression only =>
    variantJson "with" [("expression", .ofOption Expr.toJson expression), ("only", .bool only)]
  | .spaceless => variantJson "spaceless" []
  | .apply filters => variantJson "apply" [("filters", filters.toJson)]
  | .autoescape strategy => variantJson "autoescape" [("strategy", strategy.toJson)]
  | .evaluate expression => variantJson "do" [("expression", expression.toJson)]
  | .deprecated message => variantJson "deprecated" [("message", message.toJson)]

/-- The tag that a document writes. -/
def ofJson? (j : Json) : Option Tag := do
  let (variant, rest) ← Json.variant? "tag" j
  let record (names : List String) := Json.fields? names rest
  match variant with
  | "if" => do
    let f ← record ["condition"]
    some (.branch (← f.required? "condition" 0 Expr.ofJson?))
  | "else_if" => do
    let f ← record ["condition"]
    some (.elseBranch (← f.required? "condition" 0 Expr.ofJson?))
  | "else" => some .otherwise
  | "for" => do
    let f ← record ["key", "value", "expression", "condition"]
    let key ← f.optional? "key" 0 Json.str?
    let value ← f.required? "value" 1 Json.str?
    let expression ← f.required? "expression" 2 Expr.ofJson?
    some (.loop key value expression (← f.optional? "condition" 3 Expr.ofJson?))
  | "set" => do
    let f ← record ["key", "expression"]
    let key ← f.required? "key" 0 Json.str?
    some (.assign key (← f.required? "expression" 1 Expr.ofJson?))
  | "set_capture" => do
    let f ← record ["key"]
    some (.capture (← f.required? "key" 0 Json.str?))
  | "block" => do
    let f ← record ["name", "expression"]
    let name ← f.required? "name" 0 Json.str?
    some (.block name (← f.optional? "expression" 1 Expr.ofJson?))
  | "extends" => do
    let f ← record ["expression"]
    some (.inherits (← f.required? "expression" 0 Expr.ofJson?))
  | "use" => do
    let f ← record ["expression", "renames"]
    let expression ← f.required? "expression" 0 Expr.ofJson?
    some (.uses expression (← f.required? "renames" 1 (Json.list? Json.stringPair?)))
  | "include" => (Inclusion.ofJson? rest).map .includes
  | "embed" => (Inclusion.ofJson? rest).map .embeds
  | "import" => do
    let f ← record ["expression", "alias"]
    let expression ← f.required? "expression" 0 Expr.ofJson?
    some (.imports expression (← f.required? "alias" 1 Json.str?))
  | "from" => do
    let f ← record ["expression", "imports"]
    let expression ← f.required? "expression" 0 Expr.ofJson?
    some (.importsNames expression (← f.required? "imports" 1 (Json.list? Json.stringPair?)))
  | "macro" => do
    let f ← record ["name", "params"]
    let name ← f.required? "name" 0 Json.str?
    some (.macroDef name (← f.required? "params" 1 (Json.list? MacroParam.ofJson?)))
  | "with" => do
    let f ← record ["expression", "only"]
    let expression ← f.optional? "expression" 0 Expr.ofJson?
    some (.scoped expression (← f.required? "only" 1 Json.bool?))
  | "spaceless" => some .spaceless
  | "apply" => do
    let f ← record ["filters"]
    some (.apply (← f.required? "filters" 0 Expr.ofJson?))
  | "autoescape" => do
    let f ← record ["strategy"]
    some (.autoescape (← f.required? "strategy" 0 Autoescape.ofJson?))
  | "do" => do
    let f ← record ["expression"]
    some (.evaluate (← f.required? "expression" 0 Expr.ofJson?))
  | "deprecated" => do
    let f ← record ["message"]
    some (.deprecated (← f.required? "message" 0 Expr.ofJson?))
  | _ => none

end Tag

namespace Node

/-- The document of a variant with its fields. -/
def variantJson (name : String) (fields : List (String × Json)) : Json :=
  .obj (("type", .str name) :: fields)

mutual

/-- The document of a node. -/
def toJson : Node → Json
  | .raw value => variantJson "raw" [("value", .str value)]
  | .output expression => variantJson "output" [("expression", expression.toJson)]
  | .logic tag body => variantJson "logic" [("tag", tag.toJson), ("body", .arr (listToJson body))]
termination_by structural n => n

/-- The documents of nodes. -/
def listToJson : List Node → List Json
  | [] => []
  | n :: rest => toJson n :: listToJson rest
termination_by structural l => l

end

/-- The node that a document writes; `fuel` bounds how deep nodes are nested. -/
def ofJsonWith? : Nat → Json → Option Node
  | 0, _ => none
  | fuel + 1, j => do
    let (variant, rest) ← Json.variant? "type" j
    match variant with
    | "raw" => do
      let f ← Json.fields? ["value"] rest
      some (.raw (← f.required? "value" 0 Json.str?))
    | "output" => do
      let f ← Json.fields? ["expression"] rest
      some (.output (← f.required? "expression" 0 Expr.ofJson?))
    | "logic" => do
      let f ← Json.fields? ["tag", "body"] rest
      let tag ← f.required? "tag" 0 Tag.ofJson?
      some (.logic tag (← f.required? "body" 1 (Json.list? (ofJsonWith? fuel))))
    | _ => none

/-- The node that a document writes. -/
def ofJson? (j : Json) : Option Node := ofJsonWith? (Json.maxDepth + 1) j

end Node

namespace CompiledTree

/-- The document of a compiled template. -/
def toJson (t : CompiledTree) : Json :=
  .obj [("id", .ofOption .str t.id), ("tokens", .arr (Node.listToJson t.nodes))]

/-- The compiled template that a document writes, if it is not nested too deeply. -/
def ofJson? (j : Json) : Option CompiledTree := do
  if Json.maxDepth < j.depth then none
  else
    let f ← Json.fields? ["id", "tokens"] j
    let id ← f.optional? "id" 0 Json.str?
    some ⟨id, ← f.required? "tokens" 1 (Json.list? Node.ofJson?)⟩

end CompiledTree
end Stencil
