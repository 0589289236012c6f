import Stencil.Number.Shortest

/-!
Numbers as text.  A template prints an integral number below 10^15 as an integer and every other one
by its shortest decimal, always in positional notation.  Listings of compiled expressions mark each
number as a float instead: a fraction is always there, and very large or small numbers have an
exponent.
-/

namespace Stencil.Number

/-- The digits of `n` in base ten. -/
def digitsOf (n : Nat) : List Char := Nat.toDigits 10 n

/-- The decimal `d * 10 ^ k` in positional notation. -/
def positional (d : Nat) (k : Int) : List Char :=
  let ds := digitsOf d
  if 0 ≤ k then (if d = 0 then ds else ds ++ List.replicate k.toNat '0')
  else
    let places := (-k).toNat
    if places < ds.length then ds.take (ds.length - places) ++ '.' :: ds.drop (ds.length - places)
    else '0' :: '.' :: (List.replicate (places - ds.length) '0' ++ ds)

/-- A minus sign for a negative number. -/
def withSign (negative : Bool) (cs : List Char) : List Char := if negative then '-' :: cs else cs

/-- The shortest decimal in positional notation; `NaN`, `inf` and `-inf` for the others. -/
def plainText (x : Float) : List Char :=
  if isNaN x then "NaN".toList
  else
    let body := if isFinite x then (let (d, k) := shortest x; positional d k) else "inf".toList
    withSign (isNegative x) body

/-- Numbers as templates print them. -/
def text (x : Float) : String :=
  String.ofList <|
    if isNaN x then "NaN".toList
    else if !isFinite x then withSign (isNegative x) "Infinity".toList
    else if isIntegral x && (truncate x).natAbs < tenTo 15 then
      withSign (truncate x < 0) (digitsOf (truncate x).natAbs)
    else plainText x

/-- A number in a listing: positional between 10^-4 and 10^16 with at least one place after the
point, and with an exponent outside. -/
def listing (x : Float) : String :=
  String.ofList <|
    if !isFinite x then plainText x
    else
      let (d, k) := shortest x
      let ds := digitsOf d
      let exponent := k + ds.length - 1
      withSign (isNegative x) <|
        if d = 0 || (-4 ≤ exponent && exponent < 16) then
          positional d k ++ (if 0 ≤ k then ['.', '0'] else [])
        else
          let (head, tail) := ds.splitAt 1
          head ++ (if tail.isEmpty then [] else '.' :: tail) ++
            'e' :: withSign (exponent < 0) (digitsOf exponent.natAbs)

end Stencil.Number
