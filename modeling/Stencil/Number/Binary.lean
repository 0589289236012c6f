import Stencil.Number.Power

/-!
Exact arithmetic on 64-bit floats.  A finite float is an integer times a power of two; what cannot
be read off the processor's own operations (rounding to an integer, the remainder of a truncated
division) is computed here on those integers, without any rounding.
-/

namespace Stencil.Number

/-- The float's sign bit is set. -/
def isNegative (x : Float) : Bool := twoTo 63 ≤ x.toBits.toNat

/-- The eleven exponent bits. -/
def exponentBits (x : Float) : Nat := x.toBits.toNat / twoTo 52 % twoTo 11

/-- The fifty-two fraction bits. -/
def fractionBits (x : Float) : Nat := x.toBits.toNat % twoTo 52

/-- Neither infinite nor a NaN. -/
def isFinite (x : Float) : Bool := exponentBits x < 2047

/-- Not a number. -/
def isNaN (x : Float) : Bool := exponentBits x == 2047 && fractionBits x != 0

/-- The magnitude of a finite float as `m * 2 ^ e`: the pair `(m, e)`. -/
def magnitude (x : Float) : Nat × Int :=
  if exponentBits x = 0 then (fractionBits x, -1074)
  else (twoTo 52 + fractionBits x, (exponentBits x : Int) - 1075)

/-- The float `± m * 2 ^ e`, for a value that has one; larger values give an infinity. -/
def ofMagnitude (negative : Bool) (m : Nat) (e : Int) : Float :=
  let low : Int := max (e + m.log2 - 52) (-1074)
  let shift := e - low
  let scaled := if 0 ≤ shift then m * twoTo shift.toNat else m / twoTo (-shift).toNat
  let bits :=
    if scaled < twoTo 52 then scaled
    else min (scaled - twoTo 52 + (low + 1075).toNat * twoTo 52) (2047 * twoTo 52)
  Float.ofBits (UInt64.ofNat (if negative then twoTo 63 + bits else bits))

/-- The integer part of a finite float: the fraction is cut off. -/
def truncate (x : Float) : Int :=
  let (m, e) := magnitude x
  let n : Nat := if 0 ≤ e then m * twoTo e.toNat else m / twoTo (-e).toNat
  if isNegative x then -n else n

/-- A finite float with no fraction. -/
def isIntegral (x : Float) : Bool :=
  let (m, e) := magnitude x
  isFinite x && (0 ≤ e || m % twoTo (-e).toNat == 0)

/-- Least and greatest integer of 64 bits. -/
def minWord : Int := -(twoTo 63)

@[inherit_doc minWord] def maxWord : Int := twoTo 63 - 1

/-- The integer of 64 bits that a float is cast to: truncated, then brought into range; a NaN
becomes zero. -/
def toWord (x : Float) : Int :=
  if isNaN x then 0
  else if isFinite x then max minWord (min maxWord (truncate x))
  else if isNegative x then minWord else maxWord

/-- The greatest integral float that is not above `x`. -/
def floor (x : Float) : Float :=
  if isIntegral x || !isFinite x then x
  else if isNegative x then ofMagnitude true ((truncate x).natAbs + 1) 0
  else ofMagnitude false (truncate x).natAbs 0

/-- The remainder of dividing `x` by `y` with the quotient truncated; it has the sign of `x`. -/
def remainder (x y : Float) : Float :=
  if !isFinite x || isNaN y || y == 0.0 then 0.0 / 0.0
  else if !isFinite y then x
  else
    let (m, e) := magnitude x
    let (n, f) := magnitude y
    let low := min e f
    ofMagnitude (isNegative x) (m * twoTo (e - low).toNat % (n * twoTo (f - low).toNat)) low

/-- The order of two floats, unless one is a NaN. -/
def compare? (x y : Float) : Option Ordering :=
  if x < y then some .lt else if y < x then some .gt else if x == y then some .eq else none

end Stencil.Number
