/-!
What can go wrong while a template is read or rendered.  A failure is a cause together with the
template that it came from, once that is known; the wording of each cause is in one place.
-/

namespace Stencil

/-- The kind of container that a key was looked for in. -/
inductive Container where
  | object
  | array
  deriving DecidableEq, Repr

/-- The name of the container in messages. -/
def Container.name : Container → String
  | .object => "object"
  | .array => "array"

/-- Why reading or rendering stopped. -/
inductive Cause where
  /-- A tag was opened and never closed. -/
  | unclosedDelimiter (close : String) (offset : Nat)
  /-- A quote inside a tag was never closed. -/
  | unclosedString
  /-- An expression cannot be read, or its compiled form cannot be evaluated. -/
  | unparseableExpression (reason : String)
  /-- A tag stands where the enclosing tag does not allow it. -/
  | unexpectedTag (tag previous : String)
  /-- A tag lacks its end tag. -/
  | unterminatedTag (tag expected : String)
  /-- The text of a tag fits no known tag. -/
  | malformedTag (text : String)
  /-- The token before a colon cannot be a key. -/
  | invalidObjectKey (token : String)
  /-- A key of an object literal has no value. -/
  | missingObjectValue (key : String)
  | undefinedVariable (name : String)
  /-- A container that is not empty lacks the key. -/
  | missingKey (key : String) (container : Container) (keys : String)
  | emptyContainerKey (key : String) (container : Container)
  | unknownFilter (name : String)
  | unknownFunction (name : String)
  | unknownTest (name : String)
  /-- The right side of `matches` is no regular expression. -/
  | invalidPattern (source : String)
  /-- Any other failure of a render, in its own words. -/
  | runtime (message : String)
  | templateNotFound (locator : String)
  | load (locator message : String)
  | cache (locator message : String)
  /-- A document does not have the expected form. -/
  | data
  /-- A render that may not wait met a value that is not there yet. -/
  | pendingValue
  deriving DecidableEq, Repr

/-- The wording of a cause. -/
def Cause.message : Cause → String
  | .unclosedDelimiter close offset =>
    "Unable to find closing bracket '" ++ close ++ "' opened near template position "
      ++ toString offset
  | .unclosedString => "Unclosed string in template"
  | .unparseableExpression reason => reason
  | .unexpectedTag tag previous => tag ++ " not expected after a " ++ previous
  | .unterminatedTag tag expected =>
    "Unable to find an end tag for " ++ tag ++ ", expecting one of " ++ expected
  | .malformedTag text => "Unable to parse logic tag '" ++ text ++ "'"
  | .invalidObjectKey token => "Unexpected value before ':' of " ++ token
  | .missingObjectValue key => "Missing value for key '" ++ key ++ "' in object definition."
  | .undefinedVariable name => "Variable \"" ++ name ++ "\" does not exist."
  | .missingKey key container keys =>
    "Key \"" ++ key ++ "\" for " ++ container.name ++ " with keys \"" ++ keys
      ++ "\" does not exist."
  | .emptyContainerKey key container =>
    "Key \"" ++ key ++ "\" does not exist as the " ++ container.name ++ " is empty."
  | .unknownFilter name => "Unable to find filter " ++ name
  | .unknownFunction name =>
    name ++ " function does not exist and is not defined in the context"
  | .unknownTest name => "Test " ++ name ++ " is not defined."
  | .invalidPattern source => "Invalid regular expression " ++ source
  | .runtime message => message
  | .templateNotFound locator => "Unable to find template \"" ++ locator ++ "\""
  | .load locator message => "Unable to load template \"" ++ locator ++ "\": " ++ message
  | .cache locator message => "Unable to use cached template \"" ++ locator ++ "\": " ++ message
  | .data => "Invalid data"
  | .pendingValue =>
    "You are using the engine in sync mode in combination with async extensions."

/-- A cause and the template it came from, if that is known. -/
structure Failure where
  cause : Cause
  template : Option String := none
  deriving DecidableEq, Repr

namespace Failure

/-- A failure of its own words. -/
def runtime (message : String) : Failure := ⟨.runtime message, none⟩

/-- Name the template, unless an inner one is named already. -/
def inTemplate (f : Failure) (id : Option String) : Failure :=
  match f.template with
  | some _ => f
  | none => { f with template := id }

/-- Some template was looked for and is nowhere. -/
def isNotFound (f : Failure) : Bool :=
  match f.cause with
  | .templateNotFound _ => true
  | _ => false

/-- The render met a value that is not there yet, which no handler may pass over. -/
def isPending (f : Failure) : Bool :=
  match f.cause with
  | .pendingValue => true
  | _ => false

/-- The wording of the cause, followed by the template if one is named. -/
def message (f : Failure) : String :=
  match f.template with
  | some id => f.cause.message ++ " (in template \"" ++ id ++ "\")"
  | none => f.cause.message

end Failure

/-- Two steps that come to a result: the first came to one, and the second from there. -/
theorem exists_of_bind {α β : Type} {r : Except Failure α} {f : α → Except Failure β} {b : β}
    (h : (r >>= f) = .ok b) : ∃ a, r = .ok a ∧ f a = .ok b := by
  cases r with
  | error failure => cases h
  | ok a => exact ⟨a, rfl, h⟩

end Stencil
