import Stencil.Number.Binary

/-!
Reading a number from decimal text.  The text is read as a mantissa and a power of ten, and the
float nearest to that value is taken.
-/

namespace Stencil.Number

/-- The value of a run of ASCII digits. -/
def digitsValue (ds : List Char) : Nat :=
  ds.foldl (fun n c => 10 * n + (c.toNat - '0'.toNat)) 0

/-- The float nearest to `mantissa * 10 ^ exponent`. A value beyond all floats is infinite; powers
that decide the answer by themselves are not worked out. -/
def ofDecimal (mantissa : Nat) (exponent : Int) : Float :=
  let places : Int := (Nat.toDigits 10 mantissa).length
  if mantissa = 0 || exponent + places < -330 then 0.0
  else if 320 < exponent + places then 1.0 / 0.0
  else Float.ofScientific mantissa (exponent < 0) exponent.natAbs

/-- The power of ten written after the mantissa: nothing, or `e` with an optional sign and at least
one digit. -/
def exponent? (cs : List Char) : Option Int :=
  let value (ds : List Char) : Option Nat :=
    if !ds.isEmpty && ds.all Char.isDigit then some (digitsValue ds) else none
  match cs with
  | [] => some 0
  | c :: rest =>
    if c = 'e' || c = 'E' then
      match rest with
      | '+' :: ds => (value ds).map fun n => (n : Int)
      | '-' :: ds => (value ds).map fun n => -(n : Int)
      | ds => (value ds).map fun n => (n : Int)
    else none

/-- A number without its sign: digits with at most one point among or around them, then an optional
power of ten; or the name of an infinity or of the NaN in any case. -/
def unsigned? (cs : List Char) : Option Float :=
  let name := cs.map Char.toLower
  if name = "inf".toList || name = "infinity".toList then some (1.0 / 0.0)
  else if name = "nan".toList then some (0.0 / 0.0)
  else
    let whole := cs.takeWhile Char.isDigit
    let afterWhole := cs.dropWhile Char.isDigit
    let (fraction, rest) := match afterWhole with
      | '.' :: tail => (tail.takeWhile Char.isDigit, tail.dropWhile Char.isDigit)
      | tail => ([], tail)
    if whole.isEmpty && fraction.isEmpty then none
    else (exponent? rest).map fun e =>
      ofDecimal (digitsValue (whole ++ fraction)) (e - fraction.length)

/-- The number that the text writes, if all of it is one. -/
def read? (cs : List Char) : Option Float :=
  match cs with
  | '+' :: rest => unsigned? rest
  | '-' :: rest => (unsigned? rest).map Float.neg
  | rest => unsigned? rest

/-- A natural number below `limit`: ASCII digits, at least one, after an optional `+`. -/
def readIndex? (limit : Nat) (cs : List Char) : Option Nat :=
  let ds := match cs with
    | '+' :: rest => rest
    | rest => rest
  if !ds.isEmpty && ds.all Char.isDigit && digitsValue ds < limit then some (digitsValue ds)
  else none

/-- An integer of 64 bits: ASCII digits, at least one, after an optional sign. -/
def readWord? (cs : List Char) : Option Int :=
  match cs with
  | '-' :: ds =>
    if !ds.isEmpty && ds.all Char.isDigit && digitsValue ds ≤ twoTo 63 then
      some (-(digitsValue ds : Int))
    else none
  | ds => (readIndex? (twoTo 63) ds).map fun n => (n : Int)

end Stencil.Number
