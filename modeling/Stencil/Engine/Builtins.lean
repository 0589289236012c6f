import Stencil.Engine.Environment
import Stencil.Engine.Sequence
import Stencil.Value.Equality

/-!
The filters and tests that every environment has: those that deal with escaping, those that take a
function written in the template, and the basic questions about values.
-/

namespace Stencil

namespace Filter

/-- Markup that is safe everywhere; markup stays what it is. -/
def raw : Filter := fun input _ =>
  match input with
  | .markup .. => return input
  | v => return .safe v.text

/-- Markup escaped for the place that the first argument names, a page by default. -/
def escape : Filter := fun input args =>
  match args with
  | [] => return input.escaped .html
  | v :: _ =>
    match Strategy.ofName? v.text with
    | some strategy => return input.escaped strategy
    | none => throw (.runtime ("Invalid escaping strategy \"" ++ v.text ++ "\""))

/-- The function that a filter goes by: its first argument. -/
def arrow (name : String) (args : List Value) : Except Failure Value :=
  match args.head? with
  | some (.hostFunction identity) => .ok (.hostFunction identity)
  | some (.lambda identity params body t c) => .ok (.lambda identity params body t c)
  | _ => .error (.runtime ("The \"" ++ name ++ "\" filter expects an arrow function"))

/-- The results of a function on each value and its key, in order. -/
def applyArrow (f : Value) (entries : List (Value × Value)) : Attempt (List Value) :=
  Attempt.sequence
    (fun entry => ExceptT.mk (Program.request (.invoke f none [entry.2, entry.1]))) entries

/-- A container of the same kind as `v`: an object for an object, an array for all else. -/
def collect (v : Value) (entries : List (Value × Value)) : Attempt Value := do
  let identity ← Program.request .fresh
  match v with
  | .object .. => return .object identity (Dict.ofPairs (entries.map fun e => (e.1.text, e.2)))
  | _ => return .array identity (entries.map Prod.snd)

/-- The container with each value replaced by what a function makes of it and its key. -/
def map : Filter := fun input args => do
  let f ← arrow "map" args
  let entries := input.entries?.getD []
  let results ← applyArrow f entries
  collect input ((entries.map Prod.fst).zip results)

/-- The entries for which a function gives something true. -/
def select : Filter := fun input args => do
  let f ← arrow "filter" args
  let entries := input.entries?.getD []
  let verdicts ← applyArrow f entries
  collect input ((entries.zip verdicts).filterMap fun (entry, verdict) =>
    if verdict.isTruthy then some entry else none)

/-- The filters that every environment has. -/
def builtins : Dict Filter :=
  [("raw", raw), ("escape", escape), ("e", escape), ("map", map), ("filter", select)]

end Filter

namespace Test

/-- A test that looks at the value and its arguments alone. -/
def ofPredicate (p : Value → List Value → Bool) : Test := fun v args => return p v args

/-- The remainder on division by two is one, whatever the sign. -/
def isOdd (x : Float) : Bool :=
  let r := Number.remainder x 2.0
  r == 1.0 || r == -1.0

/-- Nothing remains on division by the first argument. -/
def isDivisible (v : Value) (args : List Value) : Bool :=
  Number.remainder v.toNumber (args.head?.elim (0.0 / 0.0) Value.toNumber) == 0.0

/-- The tests that every environment has. -/
def builtins : Dict Test :=
  [("defined", ofPredicate fun v _ => !v.isUndefined),
    ("null", ofPredicate fun v _ => v.isNone),
    ("none", ofPredicate fun v _ => v.isNone),
    ("empty", ofPredicate fun v _ => v.isEmpty),
    ("iterable", ofPredicate fun v _ => v.isContainer),
    ("even", ofPredicate fun v _ => Number.remainder v.toNumber 2.0 == 0.0),
    ("odd", ofPredicate fun v _ => isOdd v.toNumber),
    ("divisible by", ofPredicate isDivisible),
    ("same as", ofPredicate fun v args => v.strictEq (args.head?.getD .undefined))]

end Test

namespace Environment

/-- An environment with nothing but the extensions that all have. -/
def standard (options : Options) : Environment :=
  { options, filters := Filter.builtins, tests := Test.builtins }

end Environment
end Stencil
