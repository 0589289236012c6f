import Stencil.Render.Program
import Stencil.Text.Letter

/-!
Looking things up while an expression is evaluated: variables, keys and slices.  Under strict
variables a lookup that finds nothing is a failure, unless a test that asks whether the value exists
waits at the end of the path.
-/

namespace Stencil

namespace Expr

/-- What follows a lookup leads to a test whether the value is defined. -/
def testedForDefinition : List Token → Bool
  | .keyPeriod _ :: rest | .keyBrackets .. :: rest | .slice .. :: rest | .group _ true :: rest =>
    testedForDefinition rest
  | .test name .. :: _ => name = "defined"
  | _ => false

/-- A test comes next. -/
def testComesNext : List Token → Bool
  | .test .. :: _ => true
  | _ => false

end Expr

namespace Value

/-- The name with its first letter in upper case. -/
def capitalized (name : String) : Option String :=
  match name.toList with
  | [] => none
  | c :: cs => some (String.ofList (Text.upperChars c ++ cs))

/-- The value of a key, or the function that gets it: for `name` a callable `getName` or `isName`.
-/
def lookup? (v : Value) (key : String) : Option Value :=
  match v.get? key with
  | some found => some found
  | none =>
    (capitalized key).bind fun name =>
      ["get", "is"].findSome? fun verb => (v.get? (verb ++ name)).filter isCallable

/-- The failure of a lookup. -/
def missingKey (v : Value) (key : String) (container : Container) : Failure :=
  match v.keys with
  | [] => ⟨.emptyContainerKey key container, none⟩
  | keys => ⟨.missingKey key container (", ".intercalate keys), none⟩

/-- Where a bound of a slice lies among `length` places; a negative one counts from the end. -/
def slicePlace (length : Nat) (bound : Int) : Nat :=
  min (if bound < 0 then length + bound else bound).toNat length

/-- The items between two bounds. -/
def sliceOf {α : Type} (items : List α) (start stop : Option Int) : List α :=
  let low := start.elim 0 (slicePlace items.length)
  let high := stop.elim items.length (slicePlace items.length)
  (items.take high).drop low

/-- The part of an array or a text between two bounds. An array gets `identity`. -/
def slice (v : Value) (identity : Nat) (start stop : Option Int) : Value :=
  match v with
  | .array _ items => .array identity (sliceOf items start stop)
  | .string s | .markup s _ => .string (String.ofList (sliceOf s.toList start stop))
  | _ => .undefined

/-- The macros of a template as an object. -/
def macrosOf (t : Template) (identity : Nat) : Value :=
  .object identity (t.macros.map fun (name, _) => (name, .templateMacro t name))

end Value

namespace Rendering

/-- Unknown variables and keys are failures here. -/
def isStrict : Rendering Bool := do return (← template).options.strictVariables

/-- The value of a variable; `rest` is what follows it in the expression. -/
def lookUpVariable (name : String) (rest : List Expr.Token) : Rendering Value := do
  match (← context).find? name with
  | some v => return v
  | none =>
    if name = "_self" then return Value.macrosOf (← template) (← fresh)
    else if (← isStrict) && !Expr.testedForDefinition rest then
      throw ⟨.undefinedVariable name, none⟩
    else return .undefined

/-- The value of a key; `tested` tells that the lookup must not fail. -/
def lookUpKey (v : Value) (name : String) (container : Container) (tested : Bool) :
    Rendering Value := do
  match v.lookup? name with
  | some found => return found
  | none =>
    if (← isStrict) && !tested then throw (v.missingKey name container) else return .undefined

/-- Call a value. One that cannot be called is its own result. -/
def invoke (callee : Value) (receiver : Option Value) (args : List Value) : Rendering Value := do
  settle (← ask (.invoke callee receiver args))

end Rendering
end Stencil
