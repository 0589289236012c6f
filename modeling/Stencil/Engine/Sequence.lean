import Stencil.Render.Program

/-!
Doing something for each item of a list, strictly in order: an item is turned to only after the one
before it has come to its end, and the first failure is that of the whole.
-/

namespace Stencil.Attempt
variable {α β : Type}

/-- The results of `f` on the items, in order, behind those that `done` holds, the last first. -/
def sequenceFrom (f : α → Attempt β) (done : List β) : List α → Attempt (List β)
  | [] => return done.reverse
  | a :: rest => do
    let b ← f a
    sequenceFrom f (b :: done) rest

/-- The results of `f` on the items, in order. -/
def sequence (f : α → Attempt β) (items : List α) : Attempt (List β) := sequenceFrom f [] items

end Stencil.Attempt
