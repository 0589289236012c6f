import Stencil.Number.Binary

/-!
The shortest decimal that reads back as a given float.  The reals that are nearer to a float than to
any other form an interval, whose ends belong to it when the float's integer is even.  The shortest
decimal is the point of that interval on the coarsest decimal grid that has one; of two such points
the nearer counts, and the upper one if both are equally near.
-/

namespace Stencil.Number

/-- Four times the distance from `m` to the lower end of its interval: the gap below the first
integer of an exponent is half as wide. -/
def lowerGap (m : Nat) (e : Int) : Nat := if m = twoTo 52 && e != -1074 then 1 else 2

/-- The interval of `m * 2 ^ e` holds the decimal `d * 10 ^ k`. All quantities are taken four times
and multiplied by the denominators `5 ^ -k` and powers of two. -/
def rounds (m : Nat) (e : Int) (d : Nat) (k : Int) : Bool :=
  let two (n : Int) : Nat := twoTo n.toNat
  let ten (n : Int) : Nat := tenTo n.toNat
  let point := 4 * d * ten k * two (-e)
  let scale := two e * ten (-k)
  let low := (4 * m - lowerGap m e) * scale
  let high := (4 * m + 2) * scale
  if m % 2 = 0 then low ≤ point && point ≤ high else low < point && point < high

/-- The point of the grid of multiples of `10 ^ k` that stands for `m * 2 ^ e`, if the interval
holds one: the nearer of the two neighbours, the upper at equal distance. -/
def gridPoint? (m : Nat) (e k : Int) : Option Nat :=
  let num := m * twoTo e.toNat * tenTo (-k).toNat
  let den := twoTo (-e).toNat * tenTo k.toNat
  let below := num / den
  let upperNearer := den ≤ 2 * (num % den)
  let first := if upperNearer then below + 1 else below
  let second := if upperNearer then below else below + 1
  [first, second].find? fun d => 0 < d && rounds m e d k

/-- The first grid with a point, of `fuel` grids from that of `10 ^ k` downwards. -/
def firstPoint (m : Nat) (e : Int) : Nat → Int → Nat × Int
  | 0, k => (0, k)
  | fuel + 1, k =>
    match gridPoint? m e k with
    | some d => (d, k)
    | none => firstPoint m e fuel (k - 1)

/-- The shortest decimal `d * 10 ^ k` of a finite float's magnitude, as `(d, k)`. Seventeen digits
always suffice, and the first grid tried is above the value itself. -/
def shortest (x : Float) : Nat × Int :=
  let (m, e) := magnitude x
  if m = 0 then (0, 0)
  else firstPoint m e 24 ((e + m.log2 + 1) * 30103 / 100000 + 1)

end Stencil.Number
