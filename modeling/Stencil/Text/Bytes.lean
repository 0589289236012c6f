import Stencil.Number.Power

/-!
The bytes of characters in UTF-8.  The encodings of an interval of code points are given by a few
sequences of ranges: one range for each byte, and every choice from them is an encoding.
-/

namespace Stencil.Text

/-- A range of bytes. -/
abbrev ByteRange := Nat × Nat

/-- The sequences of byte ranges for the code points from `low` to `high`, which take `more` bytes
after the first and agree in their length. `lead` is added to the first byte. -/
def byteRanges : Nat → Nat → Nat → Nat → List (List ByteRange)
  | 0, lead, low, high => [[(lead + low, lead + high)]]
  | more + 1, lead, low, high =>
    let block := Number.twoTo (6 * (more + 1))
    let (first, last) := (low / block, high / block)
    let under (a b : Nat) (inner : List (List ByteRange)) : List (List ByteRange) :=
      inner.map ((lead + a, lead + b) :: ·)
    if first = last then under first first (byteRanges more 0x80 (low % block) (high % block))
    else
      let fromStart := low % block = 0
      let toEnd := high % block = block - 1
      let (a, b) := (if fromStart then first else first + 1, if toEnd then last else last - 1)
      (if fromStart then [] else under first first (byteRanges more 0x80 (low % block) (block - 1)))
        ++ (if a ≤ b then under a b (byteRanges more 0x80 0 (block - 1)) else [])
        ++ (if toEnd then [] else under last last (byteRanges more 0x80 0 (high % block)))

/-- The code points whose encodings have the same length, without surrogates: the first, the last,
the number of bytes after the first byte, and what is added to that. -/
def encodedAlike : List (Nat × Nat × Nat × Nat) :=
  [(0x00, 0x7F, 0, 0x00), (0x80, 0x7FF, 1, 0xC0), (0x800, 0xD7FF, 2, 0xE0),
    (0xE000, 0xFFFF, 2, 0xE0), (0x10000, 0x10FFFF, 3, 0xF0)]

/-- The sequences of byte ranges for an interval of code points. -/
def encodings (interval : Nat × Nat) : List (List ByteRange) :=
  encodedAlike.flatMap fun (low, high, more, lead) =>
    let (low, high) := (max low interval.1, min high interval.2)
    if low ≤ high then byteRanges more lead low high else []

end Stencil.Text
