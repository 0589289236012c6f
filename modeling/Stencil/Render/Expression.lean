import Stencil.Render.Function
import Stencil.Value.Operators

/-!
Evaluating compiled expressions.  Values wait on a stack; an operator takes its operands off it and
puts its result back.  The start of a literal and the keys of an object wait on the stack too, until
the end of the literal collects what lies above the start.
-/

namespace Stencil.Expr
open Rendering

/-- What can lie on the stack. -/
inductive Item where
  | value (v : Value)
  | arrayStart
  | objectStart
  | key (name : String)
  deriving Inhabited

/-- The stack of an evaluation, the last item first. -/
abbrev Stack := List Item

/-- A compiled expression that no source text has. -/
def malformed (reason : String) : Failure := ⟨.unparseableExpression reason, none⟩

namespace Stack

/-- The topmost value and what lies below it. -/
def pop : Stack → Except Failure (Value × Stack)
  | .value v :: rest => .ok (v, rest)
  | _ => .error (malformed "Expression is missing an operand")

/-- The values on the stack, the lowest first. -/
def values (stack : Stack) : List Value :=
  stack.reverse.filterMap fun
    | .value v => some v
    | _ => none

/-- The items of the array that ends here, put in front of `items`, and what lies below its start.
-/
def collectArray (items : List Value) : Stack → Except Failure (List Value × Stack)
  | .value v :: rest => collectArray (v :: items) rest
  | .arrayStart :: rest => .ok (items, rest)
  | .key name :: _ => .error (malformed ("Unexpected key '" ++ name ++ "' in array"))
  | .objectStart :: _ | [] => .error (malformed "Unbalanced array literal")

/-- What the object that ends here consists of, put in front of `items`, and what lies below its
start. -/
def collectObject (items : Stack) : Stack → Except Failure (Stack × Stack)
  | .objectStart :: rest => .ok (items, rest)
  | .arrayStart :: _ | [] => .error (malformed "Unbalanced object literal")
  | item :: rest => collectObject (item :: items) rest

/-- The entries that keys and values in turn write. -/
def entries : Stack → Except Failure (Dict Value)
  | [] => .ok []
  | .key name :: .value v :: rest => do
    let more ← entries rest
    return (name, v) :: more
  | .key name :: _ => .error ⟨.missingObjectValue name, none⟩
  | _ => .error (malformed "Object value without a key")

end Stack

/-- Put a value on the stack. -/
def push (stack : Stack) (v : Value) : Stack := .value v :: stack

/-- The value of a token whose operands lie on the stack and that evaluates nothing else. -/
def applyToStack (stack : Stack) (f : Value → Rendering Value) : Rendering Stack := do
  let (v, rest) ← settle stack.pop
  return push rest (← f v)

/-- The full conditional. -/
def choose (stack : Stack) : Except Failure Stack := do
  let (otherwise, stack) ← stack.pop
  let (then_, stack) ← stack.pop
  let (condition, stack) ← stack.pop
  return push stack (if condition.isTruthy then then_ else otherwise)

/-- An operator with two operands. -/
def applyBinary (op : BinaryOp) (stack : Stack) : Rendering Stack := do
  let (b, stack) ← settle stack.pop
  let (a, stack) ← settle stack.pop
  let identity ← fresh
  return push stack (← settle (op.apply identity a b))

/-- The array that ends here. -/
def endArray (stack : Stack) : Rendering Stack := do
  let (items, stack) ← settle (Stack.collectArray [] stack)
  return push stack (.array (← fresh) items)

/-- The object that ends here. -/
def endObject (stack : Stack) : Rendering Stack := do
  let (items, stack) ← settle (Stack.collectObject [] stack)
  let entries ← settle items.entries
  return push stack (.object (← fresh) (Dict.ofPairs entries))

mutual

/-- Evaluate the tokens one after the other. Parentheses right after a variable or a key hold its
arguments: they are evaluated if there is something to call, and after a key they are passed over
otherwise. -/
def run : List Token → Stack → Rendering Stack
  | [], stack => pure stack
  | .variable name :: .group args true :: rest, stack => do
    let v ← lookUpVariable name (.group args true :: rest)
    if v.isCallable then
      let args ← run args []
      run rest (push stack (← invoke v none (Stack.values args)))
    else run (.group args true :: rest) (push stack v)
  | .keyPeriod name :: .group args true :: rest, stack => do
    let (object, stack) ← settle (Stack.pop stack)
    let v ← lookUpKey object name .object (testedForDefinition rest)
    if v.isCallable then
      let args ← run args []
      run rest (push stack (← invoke v (some object) (Stack.values args)))
    else run rest (push stack v)
  | t :: rest, stack => do
    let stack ← step t rest stack
    run rest stack
termination_by structural l => l

/-- Evaluate one token; `rest` is what follows it. -/
def step : Token → List Token → Stack → Rendering Stack
  | .number x, _, stack => pure (push stack (.number x))
  | .string s, _, stack => pure (push stack (.string s))
  | .bool b, _, stack => pure (push stack (.bool b))
  | .null, _, stack => pure (push stack .null)
  | .context, _, stack => do return push stack (.object (← fresh) (← context))
  | .variable name, rest, stack => do
    let v ← lookUpVariable name rest
    if v.isCallable && !testComesNext rest then return push stack (← invoke v none [])
    else return push stack v
  | .lambda params body, _, stack => do
    return push stack (.lambda (← fresh) params body (← template) (← context))
  | .function name params, _, stack => do
    let args ← arguments params
    return push stack (← callFunction name args)
  | .filter name params, _, stack => do
    let (input, stack) ← settle (Stack.pop stack)
    let args ← arguments params
    return push stack (← settle (← ask (.filter name input args)))
  | .test name negated params, _, stack => do
    let (input, stack) ← settle (Stack.pop stack)
    let args ← arguments params
    let hit ← settle (← ask (.test name input args))
    return push stack (.bool (hit != negated))
  | .unary op, _, stack => applyToStack stack fun v => return op.apply v
  | .binary .conditional, _, stack => settle (choose stack)
  | .binary op, _, stack => applyBinary op stack
  | .objectKey name, _, stack => pure (.key name :: stack)
  | .computedKey tokens, _, stack => do
    let key ← run tokens []
    return .key ((Stack.values key).getLast?.elim "" Value.text) :: stack
  | .arrayStart, _, stack => pure (.arrayStart :: stack)
  | .objectStart, _, stack => pure (.objectStart :: stack)
  | .arrayEnd, _, stack => endArray stack
  | .objectEnd, _, stack => endObject stack
  | .group tokens false, _, stack => do
    let inner ← run tokens []
    return push stack ((Stack.values inner).getLast?.getD .undefined)
  | .group tokens true, _, stack => do
    let (callee, stack) ← settle (Stack.pop stack)
    let args ← run tokens []
    return push stack (← invoke callee none (Stack.values args))
  | .keyPeriod name, rest, stack => applyToStack stack fun object => do
    let v ← lookUpKey object name .object (testedForDefinition rest)
    if v.isCallable then invoke v (some object) [] else return v
  | .keyBrackets tokens params, rest, stack => do
    let (object, stack) ← settle (Stack.pop stack)
    let key ← run tokens []
    let name := (Stack.values key).getLast?.elim "" Value.text
    let v ← lookUpKey object name .array (testedForDefinition rest)
    if v.isCallable then
      let args ← arguments params
      return push stack (← invoke v (some object) args)
    else return push stack v
  | .slice start stop, _, stack => applyToStack stack fun v => do
    return v.slice (← fresh) start stop
  | .comma, _, stack => pure stack
termination_by structural t => t

/-- The values of optional arguments. -/
def arguments : Option (List Token) → Rendering (List Value)
  | none => pure []
  | some tokens => do
    let stack ← run tokens []
    return Stack.values stack
termination_by structural p => p

end

/-- The values that an expression leaves, the first first. -/
def evaluateList (e : Expr) : Rendering (List Value) := do return Stack.values (← run e [])

/-- The value of an expression, evaluated behind the values in `seed`: the last one it leaves. -/
def evaluateWith (seed : List Value) (e : Expr) : Rendering Value := do
  return (Stack.values (← run e (seed.reverse.map .value))).getLast?.getD .undefined

/-- The value of an expression. -/
def evaluate (e : Expr) : Rendering Value := evaluateWith [] e

end Stencil.Expr
