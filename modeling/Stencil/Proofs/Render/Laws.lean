import Stencil.Render.Program

/-!
# The laws of programs

Programs are trees, so that one program after another is associative by induction on the first, and
with it renderings are.  All that is proved of renderings by rewriting rests on these laws.
-/
namespace Stencil

namespace Program
variable {α β γ : Type}

@[simp] theorem done_bind (a : α) (f : α → Program β) : Program.done a >>= f = f a := rfl

@[simp] theorem ask_bind (r : Request) (next : r.Answer → Program α) (f : α → Program β) :
    Program.ask r next >>= f = .ask r fun answer => next answer >>= f := rfl

protected theorem bind_pure (p : Program α) : p >>= Program.done = p := by
  induction p with
  | done a => rfl
  | ask r next ih =>
    rw [ask_bind]
    exact congrArg (Program.ask r) (funext ih)

protected theorem bind_assoc (p : Program α) (f : α → Program β) (g : β → Program γ) :
    p >>= f >>= g = p >>= fun a => f a >>= g := by
  induction p with
  | done a => rfl
  | ask r next ih =>
    rw [ask_bind, ask_bind, ask_bind]
    exact congrArg (Program.ask r) (funext ih)

instance : LawfulMonad Program :=
  LawfulMonad.mk' Program Program.bind_pure (fun _ _ => rfl) Program.bind_assoc

end Program

namespace Rendering
variable {α β : Type}

@[simp] theorem settle_ok (a : α) : settle (.ok a) = pure a := rfl

@[simp] theorem settle_error (failure : Failure) :
    (settle (.error failure) : Rendering α) = throw failure := rfl

/-- What comes behind an attempt goes on from how it ended. -/
theorem attempt_bind (a : Rendering α) (f : Except Failure α → Rendering β) (s : Scope) :
    (attempt a >>= f) s = a s >>= fun ended => f ended.1 ended.2 := Program.bind_assoc (a s) _ _

end Rendering
end Stencil
