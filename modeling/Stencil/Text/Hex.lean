/-!
Numbers in base sixteen, as escapes write them: with the fewest digits or with a fixed number; and
the values of the digits.
-/

namespace Stencil.Text

/-- The digits of `n` in base sixteen, with letters in lower case. -/
def hex (n : Nat) : List Char := Nat.toDigits 16 n

/-- The digits of `n` in base sixteen, with letters in upper case. -/
def upperHex (n : Nat) : List Char := (hex n).map Char.toUpper

/-- `upperHex` with zeros in front up to `width` digits. -/
def paddedHex (width n : Nat) : List Char := (upperHex n).leftpad width '0'

/-- The value of a hexadecimal digit. -/
def hexValue? (c : Char) : Option Nat :=
  if c.isDigit then some (c.toNat - '0'.toNat)
  else if 'a' ≤ c && c ≤ 'f' then some (c.toNat - 'a'.toNat + 10)
  else if 'A' ≤ c && c ≤ 'F' then some (c.toNat - 'A'.toNat + 10)
  else none

/-- The character of a code point. -/
def charOf? (n : Nat) : Option Char := if n.isValidChar then some (Char.ofNat n) else none

theorem charOf?_toNat (c : Char) : charOf? c.toNat = some c := by
  rw [charOf?, if_pos (show c.toNat.isValidChar from c.valid), Char.ofNat_toNat]

theorem charOf?_eq_some_iff {n : Nat} {c : Char} : charOf? n = some c ↔ c.toNat = n := by
  constructor
  · intro h
    rw [charOf?] at h
    split at h
    · next hvalid =>
      rw [← Option.some.inj h, Char.ofNat, dif_pos hvalid]
      rfl
    · cases h
  · rintro rfl
    exact charOf?_toNat c

end Stencil.Text
