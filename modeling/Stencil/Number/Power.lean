/-!
Powers of the two bases that numbers are written in.
-/

namespace Stencil.Number

/-- Two to the power `n`. -/
abbrev twoTo (n : Nat) : Nat := Nat.pow 2 n

/-- Ten to the power `n`. -/
abbrev tenTo (n : Nat) : Nat := Nat.pow 10 n

end Stencil.Number
