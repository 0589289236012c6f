import Stencil.Failure
import Stencil.Regex.Reading
import Stencil.Regex.Search
import Stencil.Text.Search
import Stencil.Value.Equality

/-!
What the operators of expressions do to values.  Arithmetic takes every value as a number, joining
takes it as a text, and a comparison takes two texts as texts and all else as numbers.
-/

namespace Stencil

namespace Value

/-- The integer of 64 bits that bit operators take for the value. -/
def toWord (v : Value) : Int :=
  let x := v.toNumber
  if Number.isFinite x then Number.toWord x else 0

/-- The value as one character that is not an ASCII digit. -/
def singleChar? (v : Value) : Option Char :=
  match v.string?.map String.toList with
  | some [c] => if c.isDigit then none else some c
  | _ => none

/-- The most items of a range. -/
def maxRangeLength : Nat := Number.twoTo 20

/-- The integers from `a` to `b`, both included, upwards or downwards. -/
def integersBetween (a b : Int) : List Int :=
  let up := (List.range ((a - b).natAbs + 1)).map fun (i : Nat) => min a b + i
  if a ≤ b then up else up.reverse

/-- The characters from `a` to `b`, both included, in the order of their code points. -/
def charsBetween (a b : Char) : List Char :=
  (integersBetween a.toNat b.toNat).filterMap fun n => Text.charOf? n.toNat

/-- The items of the range from `a` to `b`: characters if both are single characters, integers
otherwise. -/
def rangeItems (a b : Value) : Except Failure (List Value) :=
  let tooLong : Failure :=
    .runtime ("Range from " ++ a.text ++ " to " ++ b.text ++ " exceeds " ++ toString maxRangeLength
      ++ " items")
  match a.singleChar?, b.singleChar? with
  | some c, some d =>
    if maxRangeLength ≤ ((c.toNat : Int) - d.toNat).natAbs then .error tooLong
    else .ok ((charsBetween c d).map fun e => .string e.toString)
  | _, _ =>
    let x := a.toNumber
    let y := b.toNumber
    if !(Number.isFinite x && Number.isFinite y) then
      .error (.runtime ("Unable to build a range from " ++ a.text ++ " to " ++ b.text))
    else
      let i := Number.toWord x
      let j := Number.toWord y
      if maxRangeLength ≤ (i - j).natAbs then .error tooLong
      else .ok ((integersBetween i j).map fun n => .number (Float.ofInt n))

/-- The haystack holds the needle: as a piece of its text, or as one of its values. -/
def holds (haystack needle : Value) : Bool :=
  match haystack with
  | .string s | .markup s _ => Text.occursIn needle.text s
  | .array _ items => items.any fun item => item.looseEq needle
  | .object _ entries => entries.any fun entry => entry.2.looseEq needle
  | _ => false

/-- An expression as templates write it: between slashes with flags behind the last one, or bare. -/
def splitPattern (source : List Char) : List Char × List Char :=
  match source with
  | '/' :: rest => (Text.splitLast? '/' rest).getD (source, [])
  | _ => (source, [])

/-- A regular expression matches somewhere in the text of a value. -/
def matchesPattern (subject pattern : Value) : Except Failure Bool :=
  let source := pattern.text
  let (body, flags) := splitPattern source.toList
  let set : Regex.Flags :=
    { ignoreCase := flags.contains 'i', multiLine := flags.contains 'm',
      dotAll := flags.contains 's', extended := flags.contains 'x' }
  match Regex.read? set body with
  | some r => .ok (r.occursIn subject.text.toList)
  | none => .error ⟨.invalidPattern source, none⟩

/-- Neither missing nor an empty container. -/
def isPresent (v : Value) : Bool := !(v.isNone || (v.isContainer && v.isEmpty))

end Value

namespace Expr
open Value

/-- The value of a unary operator. -/
def UnaryOp.apply (op : UnaryOp) (v : Value) : Value :=
  match op with
  | .not => .bool !v.isTruthy
  | .neg => .number (-v.toNumber)
  | .pos => .number v.toNumber

/-- The value of an operator with two operands. A range gets `identity`; the conditional operator
takes three operands and has no value here. -/
def BinaryOp.apply (op : BinaryOp) (identity : Nat) (a b : Value) : Except Failure Value :=
  match op with
  | .add => .ok (.number (a.toNumber + b.toNumber))
  | .sub => .ok (.number (a.toNumber - b.toNumber))
  | .mul => .ok (.number (a.toNumber * b.toNumber))
  | .div => .ok (.number (a.toNumber / b.toNumber))
  | .floorDiv => .ok (.number (Number.floor (a.toNumber / b.toNumber)))
  | .mod => .ok (.number (Number.remainder a.toNumber b.toNumber))
  | .pow => .ok (.number (Float.pow a.toNumber b.toNumber))
  | .concat => .ok (.string (a.text ++ b.text))
  | .range => do
    let items ← rangeItems a b
    return .array identity items
  | .eq => .ok (.bool (a.looseEq b))
  | .ne => .ok (.bool !(a.looseEq b))
  | .strictEq => .ok (.bool (a.strictEq b))
  | .strictNe => .ok (.bool !(a.strictEq b))
  | .lt => .ok (.bool (compare? a b == some .lt))
  | .le => .ok (.bool ((compare? a b).any (· != .gt)))
  | .gt => .ok (.bool (compare? a b == some .gt))
  | .ge => .ok (.bool ((compare? a b).any (· != .lt)))
  | .isIn => .ok (.bool (b.holds a))
  | .notIn => .ok (.bool !(b.holds a))
  | .matches => do
    let found ← matchesPattern a b
    return .bool found
  | .startsWith => .ok (.bool (b.text.toList.isPrefixOf a.text.toList))
  | .endsWith => .ok (.bool (b.text.toList.isSuffixOf a.text.toList))
  | .and => .ok (.bool (a.isTruthy && b.isTruthy))
  | .or => .ok (.bool (a.isTruthy || b.isTruthy))
  | .bitAnd => .ok (.number (Float.ofInt (Int64.ofInt a.toWord &&& Int64.ofInt b.toWord).toInt))
  | .bitOr => .ok (.number (Float.ofInt (Int64.ofInt a.toWord ||| Int64.ofInt b.toWord).toInt))
  | .bitXor => .ok (.number (Float.ofInt (Int64.ofInt a.toWord ^^^ Int64.ofInt b.toWord).toInt))
  | .nullCoalesce => .ok (if a.isPresent then a else b)
  | .elvis => .ok (if a.isTruthy then a else b)
  | .shortConditional => .ok (if a.isTruthy then b else .string "")
  | .conditional => .error (.runtime "The conditional operator takes three operands")

end Expr
end Stencil
