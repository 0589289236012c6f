import Stencil.Expr.Lexer
import Stencil.Expr.Token

/-!
From lexemes to compiled expressions: operators are put behind their operands.  Lexemes go one by
one into a yard, which holds the tokens put out so far and the operators and brackets that wait for
something on their right.
-/

namespace Stencil.Expr

/-- A place in the output: a token, or the mark of a parenthesis that is still open. -/
inductive Slot where
  | token (t : Token)
  | paramMark
  | subMark
  deriving Inhabited

/-- What waits on the stack: an operator, or an open bracket. -/
inductive Pending where
  | binary (op : BinaryOp)
  | unary (op : UnaryOp)
  | arrayStart
  | objectStart
  | paramStart
  | subStart
  deriving DecidableEq, Repr

namespace Pending

/-- The token that an operator becomes; a bracket becomes none. -/
def token? : Pending → Option Token
  | .binary op => some (.binary op)
  | .unary op => some (.unary op)
  | .arrayStart | .objectStart | .paramStart | .subStart => none

/-- The precedence of an operator; a bracket has none. -/
def precedence? : Pending → Option Nat
  | .binary op => some op.precedence
  | .unary op => some op.precedence
  | .arrayStart | .objectStart | .paramStart | .subStart => none

/-- The name in messages. -/
def title : Pending → String
  | .binary op => "Binary(" ++ op.title ++ ")"
  | .unary op => "Unary(" ++ op.title ++ ")"
  | .arrayStart => "ArrayStart"
  | .objectStart => "ObjectStart"
  | .paramStart => "ParamStart"
  | .subStart => "SubStart"

end Pending

/-- Output and stack, the last of each first. -/
structure Yard where
  output : List Slot := []
  stack : List Pending := []
  deriving Inhabited

/-- A failure to read an expression. -/
def unparseable (message : String) : Failure := ⟨.unparseableExpression message, none⟩

namespace Yard

/-- Put out a token. -/
def push (y : Yard) (t : Token) : Yard := { y with output := .token t :: y.output }

/-- Put an operator or a bracket on the stack. -/
def wait (y : Yard) (p : Pending) : Yard := { y with stack := p :: y.stack }

/-- Put out the operators on top of the stack as long as `keep` holds for their precedence. -/
def popWhile (keep : Nat → Bool) (output : List Slot) : List Pending → Yard
  | [] => ⟨output, []⟩
  | p :: stack =>
    match p.token?, p.precedence? with
    | some t, some precedence =>
      if keep precedence then popWhile keep (.token t :: output) stack else ⟨output, p :: stack⟩
    | _, _ => ⟨output, p :: stack⟩

/-- Put out the waiting operators that bind more tightly than one that comes in, or as tightly if
that one takes its operand from the left. -/
def flush (y : Yard) (precedence : Nat) (associativity : Associativity) : Yard :=
  popWhile (fun top => match associativity with
    | .leftToRight => top ≤ precedence
    | .rightToLeft => top < precedence) y.output y.stack

/-- Put out all operators down to the bracket that is closed, and take the bracket off. -/
def drainTo (opener : Pending) (output : List Slot) : List Pending → Except Failure Yard
  | [] => .error (unparseable ("Closing bracket without a matching " ++ opener.title))
  | p :: stack =>
    if p = opener then .ok ⟨output, stack⟩
    else match p.token? with
      | some t => drainTo opener (.token t :: output) stack
      | none =>
        .error (unparseable
          ("Mismatched brackets: expected to close " ++ opener.title ++ ", found " ++ p.title))

/-- Take the tokens since the last mark out of the output, and the mark with them. -/
def takeGroup (tokens : List Token) : List Slot → Except Failure (List Token × List Slot)
  | [] => .error (unparseable "Closing parenthesis without an opening one")
  | .token t :: output => takeGroup (t :: tokens) output
  | _ :: output => .ok (tokens, output)

/-- Close a parenthesis: its tokens and the yard without them. -/
def close (y : Yard) (opener : Pending) : Except Failure (List Token × Yard) := do
  let drained ← drainTo opener y.output y.stack
  let (tokens, output) ← takeGroup [] drained.output
  .ok (tokens, { drained with output := output })

/-- Give arguments to the token right before them, if it takes some and has none yet; otherwise they
become a group that calls the value before it. -/
def attach (y : Yard) (tokens : List Token) : Yard :=
  match y.output with
  | .token (.function name none) :: output =>
    { y with output := .token (.function name (some tokens)) :: output }
  | .token (.filter name none) :: output =>
    { y with output := .token (.filter name (some tokens)) :: output }
  | .token (.test name negated none) :: output =>
    { y with output := .token (.test name negated (some tokens)) :: output }
  | .token (.keyBrackets key none) :: output =>
    { y with output := .token (.keyBrackets key (some tokens)) :: output }
  | _ => y.push (.group tokens true)

/-- Put out the full conditionals on top of the stack. -/
def popConditionals (output : List Slot) : List Pending → Yard
  | .binary .conditional :: stack =>
    popConditionals (.token (.binary .conditional) :: output) stack
  | stack => ⟨output, stack⟩

/-- The key that the last token of the output becomes before a colon. -/
def takeKey : List Slot → Except Failure (List Slot)
  | .token (.string value) :: output => .ok (.token (.objectKey value) :: output)
  | .token (.variable name) :: output => .ok (.token (.objectKey name) :: output)
  | .token (.number value) :: output => .ok (.token (.objectKey (Number.text value)) :: output)
  | .token (.group tokens _) :: output => .ok (.token (.computedKey tokens) :: output)
  | .token t :: _ => .error ⟨.invalidObjectKey t.listing, none⟩
  | _ => .error ⟨.invalidObjectKey "nothing", none⟩

/-- A colon completes the conditional that waits for it, or else ends a key. -/
def colon (y : Yard) : Except Failure Yard :=
  let flushed := y.flush BinaryOp.conditional.precedence BinaryOp.conditional.associativity
  let popped := popConditionals flushed.output flushed.stack
  match popped.stack with
  | .binary .shortConditional :: stack => .ok { popped with stack := .binary .conditional :: stack }
  | stack => do
    let output ← takeKey popped.output
    .ok ⟨output, stack⟩

/-- The operator of a symbol, or a failure that names the symbol. -/
def operator {α : Type} (ofSymbol? : String → Option α) (symbol : String) : Except Failure α :=
  match ofSymbol? symbol with
  | some op => .ok op
  | none => .error (unparseable ("Unknown operator '" ++ symbol ++ "'"))

/-- Take in a lexeme. `nested` compiles the text of a function body or of a key in brackets. -/
def step (nested : String → Except Failure Expr) (y : Yard) : Lexeme → Except Failure Yard
  | .test name negated => .ok (y.push (.test name negated none))
  | .comma => .ok ((popWhile (fun _ => true) y.output y.stack).push .comma)
  | .number value => .ok (y.push (.number value))
  | .string value => .ok (y.push (.string value))
  | .bool value => .ok (y.push (.bool value))
  | .null => .ok (y.push .null)
  | .context => .ok (y.push .context)
  | .variable name => .ok (y.push (.variable name))
  | .lambda params body => do
    let body ← nested body
    .ok (y.push (.lambda params body))
  | .binary symbol =>
    if symbol = ":" then y.colon
    else do
      let op ← operator BinaryOp.ofSymbol? symbol
      .ok ((y.flush op.precedence op.associativity).wait (.binary op))
  | .unary symbol => do
    let op ← operator UnaryOp.ofSymbol? symbol
    .ok ((y.flush op.precedence op.associativity).wait (.unary op))
  | .subexprStart => .ok ({ y with output := .subMark :: y.output }.wait .subStart)
  | .subexprEnd => do
    let (tokens, y) ← y.close .subStart
    .ok (y.push (.group tokens false))
  | .paramStart => .ok ({ y with output := .paramMark :: y.output }.wait .paramStart)
  | .paramEnd => do
    let (tokens, y) ← y.close .paramStart
    .ok (y.attach tokens)
  | .slice start stop => .ok (y.push (.slice start stop))
  | .arrayStart => .ok ((y.push .arrayStart).wait .arrayStart)
  | .arrayEnd => do
    let y ← drainTo .arrayStart y.output y.stack
    .ok (y.push .arrayEnd)
  | .objectStart => .ok ((y.push .objectStart).wait .objectStart)
  | .objectEnd => do
    let y ← drainTo .objectStart y.output y.stack
    .ok (y.push .objectEnd)
  | .filter name => .ok (y.push (.filter name none))
  | .function name => .ok (y.push (.function name none))
  | .keyPeriod key => .ok (y.push (.keyPeriod key))
  | .keyBrackets text => do
    let key ← nested text
    .ok (y.push (.keyBrackets key none))

/-- The tokens of an output without marks, in order. -/
def tokens? (tokens : List Token) : List Slot → Option (List Token)
  | [] => some tokens
  | .token t :: output => tokens? (t :: tokens) output
  | _ :: _ => none

/-- The compiled expression of a yard that has taken in all of `text`. -/
def finish (y : Yard) (text : String) : Except Failure Expr :=
  let drained := popWhile (fun _ => true) y.output y.stack
  match drained.stack, tokens? [] drained.output with
  | [], some tokens => .ok tokens
  | _, _ => .error (unparseable ("Unclosed bracket in expression '" ++ text ++ "'"))

end Yard

/-- Compile lexemes that were read from `text`. -/
def ofLexemes (nested : String → Except Failure Expr) (text : String) (ls : List Lexeme) :
    Except Failure Expr := do
  let y ← ls.foldlM (Yard.step nested) {}
  y.finish text

/-- Compile an expression. Texts inside it are shorter than itself, so `fuel` need not exceed its
length. -/
def compileWith : Nat → String → Except Failure Expr
  | 0, _ => .ok []
  | fuel + 1, text => do
    let ls ← lexemes text.toList
    ofLexemes (compileWith fuel) text ls

/-- Compile an expression. -/
def compile (text : String) : Except Failure Expr := compileWith (text.length + 1) text

end Stencil.Expr
