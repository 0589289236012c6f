import Stencil.Dict
import Stencil.Template
import Stencil.Number.Layout
import Stencil.Number.Reading
import Stencil.Text.Blank

/-!
Values: what variables hold and what expressions give.  Arrays, objects and functions have an
identity, a number given when they are made; two of them are the same only if they were made at
once, however alike they look.
-/

namespace Stencil

/-- The places that a piece of markup is safe for. -/
inductive SafeFor where
  | all
  | strategy (s : Strategy)
  deriving DecidableEq, Repr

/-- A value. -/
inductive Value where
  /-- A variable or key that does not exist. -/
  | undefined
  | null
  | bool (b : Bool)
  | number (x : Float)
  | string (s : String)
  /-- Text that is escaped already. -/
  | markup (text : String) (safe : SafeFor)
  | array (identity : Nat) (items : List Value)
  | object (identity : Nat) (entries : List (String × Value))
  /-- A function of the program that renders the template. -/
  | hostFunction (identity : Nat)
  /-- A function written in a template, with the variables that were there when it was made. -/
  | lambda (identity : Nat) (params : List String) (body : Expr) (template : Template)
    (context : List (String × Value))
  /-- A macro of a template. -/
  | templateMacro (template : Template) (name : String)
  deriving Inhabited

/-- The variables that a template sees. -/
abbrev Context := Dict Value

namespace Value

/-- Text that is safe everywhere. -/
def safe (text : String) : Value := .markup text .all

/-- A number that is an integer. -/
def ofNat (n : Nat) : Value := .number (Float.ofNat n)

/-- The value does not exist. -/
def isUndefined : Value → Bool
  | .undefined => true
  | _ => false

/-- The value is null or does not exist. -/
def isNone : Value → Bool
  | .undefined | .null => true
  | _ => false

/-- The identity of a function, be it of the program or of a template. -/
def functionIdentity? : Value → Option Nat
  | .hostFunction identity | .lambda identity .. => some identity
  | _ => none

/-- Functions and macros can be called. -/
def isCallable : Value → Bool
  | .hostFunction _ | .lambda .. | .templateMacro .. => true
  | _ => false

/-- Arrays and objects. -/
def isContainer : Value → Bool
  | .array .. | .object .. => true
  | _ => false

/-- The value counts as true. -/
def isTruthy : Value → Bool
  | .undefined | .null => false
  | .bool b => b
  | .number x => !(x == 0.0) && !Number.isNaN x
  | .string s | .markup s _ => s != "" && s != "0"
  | .array _ items => !items.isEmpty
  | .object _ entries => !entries.isEmpty
  | .hostFunction _ | .lambda .. | .templateMacro .. => true

/-- Nothing is in the value: no characters, no entries, or no value at all. -/
def isEmpty : Value → Bool
  | .undefined | .null => true
  | .bool b => !b
  | .string s | .markup s _ => s == ""
  | .array _ items => items.isEmpty
  | .object _ entries => entries.isEmpty
  | .number _ | .hostFunction _ | .lambda .. | .templateMacro .. => false

/-- The name of the value's type. -/
def typeName : Value → String
  | .undefined => "undefined"
  | .null => "null"
  | .bool _ => "bool"
  | .number _ => "number"
  | .string _ => "string"
  | .markup .. => "markup"
  | .array .. => "array"
  | .object .. => "object"
  | .hostFunction _ | .lambda .. => "function"
  | .templateMacro .. => "macro"

/-- The text of a string or of markup. -/
def string? : Value → Option String
  | .string s | .markup s _ => some s
  | _ => none

/-- A number. -/
def number? : Value → Option Float
  | .number x => some x
  | _ => none

/-- The number that a text stands for: zero if it is blank. -/
def numberOfString (s : String) : Float :=
  let cs := Text.trim s.toList
  if cs.isEmpty then 0.0 else (Number.read? cs).getD (0.0 / 0.0)

/-- The number that arithmetic takes for the value. -/
def toNumber : Value → Float
  | .undefined | .null => 0.0
  | .bool b => if b then 1.0 else 0.0
  | .number x => x
  | .string s | .markup s _ => numberOfString s
  | .array .. | .object .. | .hostFunction _ | .lambda .. | .templateMacro .. => 0.0 / 0.0

/-- The index that a key of an array writes. -/
def index? (key : String) : Option Nat := Number.readIndex? (Number.twoTo 64) key.toList

/-- The value at a key of a container. -/
def get? (v : Value) (key : String) : Option Value :=
  match v with
  | .object _ entries => Dict.find? entries key
  | .array _ items => (index? key).bind fun i => items[i]?
  | _ => none

/-- A container has the key. -/
def hasKey (v : Value) (key : String) : Bool :=
  match v with
  | .object _ entries => Dict.contains entries key
  | .array _ items => (index? key).any (· < items.length)
  | _ => false

/-- The keys of a container, as strings. -/
def keys : Value → List String
  | .object _ entries => Dict.keys entries
  | .array _ items => (List.range items.length).map toString
  | _ => []

/-- The keys and values of a container. -/
def entries? : Value → Option (List (Value × Value))
  | .array _ items => some (items.zipIdx.map fun (v, i) => (ofNat i, v))
  | .object _ entries => some (entries.map fun (k, v) => (.string k, v))
  | _ => none

/-- The number of characters or of entries. -/
def length? : Value → Option Nat
  | .string s | .markup s _ => some s.length
  | .array _ items => some items.length
  | .object _ entries => some entries.length
  | _ => none

mutual

/-- Put the text of the value behind `done`. Functions and missing values have no text; the values
of a container have commas between them. -/
def writeTo (done : String) : Value → String
  | .undefined | .null | .hostFunction _ | .lambda .. | .templateMacro .. => done
  | .bool b => done ++ (if b then "true" else "false")
  | .number x => done ++ Number.text x
  | .string s | .markup s _ => done ++ s
  | .array _ items => writeItemsTo done true items
  | .object _ entries => writeEntriesTo done true entries
termination_by structural v => v

/-- Put the texts of items behind `done`, each but the first after a comma. -/
def writeItemsTo (done : String) (first : Bool) : List Value → String
  | [] => done
  | v :: rest => writeItemsTo (writeTo (if first then done else done ++ ",") v) false rest
termination_by structural l => l

/-- Put the texts of the values of entries behind `done`, each but the first after a comma. -/
def writeEntriesTo (done : String) (first : Bool) : List (String × Value) → String
  | [] => done
  | e :: rest => writeEntriesTo (writeEntryTo (if first then done else done ++ ",") e) false rest
termination_by structural l => l

/-- Put the text of the value of one entry behind `done`. -/
def writeEntryTo (done : String) : String × Value → String
  | (_, v) => writeTo done v
termination_by structural e => e

end

/-- The text that a template prints for the value. -/
def text (v : Value) : String := writeTo "" v

/-- The markup may be put in that place as it is. Markup for an attribute is safe for a page too. -/
def isSafeFor (v : Value) (strategy : Strategy) : Bool :=
  match v with
  | .markup _ .all => true
  | .markup _ (.strategy s) => s = strategy || (strategy = .html && s = .htmlAttr)
  | _ => false

/-- The value as markup for that place: escaped, unless it is safe already. -/
def escaped (v : Value) (strategy : Strategy) : Value :=
  if v.isSafeFor strategy then v
  else .markup (strategy.escapeString v.text) (.strategy strategy)

/-- The text that is put out for the value under an escaping. -/
def output (autoescape : Autoescape) (v : Value) : String :=
  match autoescape with
  | some strategy => if v.isSafeFor strategy then v.text else strategy.escapeString v.text
  | none => v.text

end Value
end Stencil
