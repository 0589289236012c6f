import Stencil.Proofs.Render.Laws
import Stencil.Render.Program

/-!
# Contracts of programs

A contract says what a program may ask for, what it may take for granted of the answers, and in
which scopes a rendering may find and leave itself.  Programs that meet a contract can be put
together; what runs them has to give the answers that are taken for granted, and can rely on being
asked for nothing else.
-/
namespace Stencil

/-- What a program may ask for and what it may rely on. -/
structure Contract where
  asks : Request → Prop
  answers : (r : Request) → r.Answer → Prop
  /-- The scopes in which a rendering may find itself. -/
  scopes : Scope → Prop

namespace Program
variable {C : Contract} {α β : Type}

/-- All that the program asks for is in the contract, and what it ends in is in `post`. -/
def Meets (C : Contract) (post : α → Prop) : Program α → Prop
  | .done a => post a
  | .ask r next => C.asks r ∧ ∀ answer, C.answers r answer → Meets C post (next answer)

theorem Meets.mono {post post' : α → Prop} {p : Program α} (h : p.Meets C post)
    (himp : ∀ a, post a → post' a) : p.Meets C post' := by
  induction p with
  | done a => exact himp a h
  | ask r next ih => exact ⟨h.1, fun answer hanswer => ih answer (h.2 answer hanswer)⟩

/-- A program of one contract meets another that permits more and promises more. -/
theorem Meets.weaken {C' : Contract} {post : α → Prop} {p : Program α} (h : p.Meets C post)
    (hasks : ∀ r, C.asks r → C'.asks r) (hanswers : ∀ r a, C'.answers r a → C.answers r a) :
    p.Meets C' post := by
  induction p with
  | done a => exact h
  | ask r next ih =>
    exact ⟨hasks r h.1, fun answer hanswer => ih answer (h.2 answer (hanswers r answer hanswer))⟩

theorem Meets.bind {mid : α → Prop} {post : β → Prop} {p : Program α} {f : α → Program β}
    (h : p.Meets C mid) (hf : ∀ a, mid a → (f a).Meets C post) : (p >>= f).Meets C post := by
  induction p with
  | done a => exact hf a h
  | ask r next ih => exact ⟨h.1, fun answer hanswer => ih answer (h.2 answer hanswer)⟩

end Program

namespace Rendering
variable {C : Contract} {α β : Type}

/-- Started in a scope of the contract, the rendering asks for what is in the contract and ends in
such a scope, be it with a failure. -/
def Meets (C : Contract) (a : Rendering α) : Prop :=
  ∀ scope, C.scopes scope → Program.Meets C (fun r => C.scopes r.2) (a scope)

theorem meets_pure (a : α) : Meets C (pure a) := fun _ h => h

theorem meets_throw (failure : Failure) : Meets C (throw failure : Rendering α) := fun _ h => h

/-- In one scope: what comes after may rely on the contract again. -/
theorem meets_bind_at {a : Rendering α} {f : α → Rendering β} {scope : Scope}
    (h : Program.Meets C (fun r => C.scopes r.2) (a scope)) (hf : ∀ v, Meets C (f v)) :
    Program.Meets C (fun r => C.scopes r.2) ((a >>= f) scope) := by
  refine Program.Meets.bind h ?_
  rintro ⟨r, after⟩ hafter
  cases r with
  | ok v => exact hf v after hafter
  | error failure => exact hafter

theorem Meets.bind {a : Rendering α} {f : α → Rendering β} (h : Meets C a)
    (hf : ∀ v, Meets C (f v)) : Meets C (a >>= f) := fun scope hscope =>
  meets_bind_at (h scope hscope) hf

/-- A rendering that first looks at its scope. -/
theorem meets_get_bind {f : Scope → Rendering β}
    (h : ∀ scope, C.scopes scope → Program.Meets C (fun r => C.scopes r.2) (f scope scope)) :
    Meets C (get >>= f) := h

theorem meets_get : Meets C get := fun _ h => h

theorem meets_modify {f : Scope → Scope} (h : ∀ scope, C.scopes scope → C.scopes (f scope)) :
    Meets C (modify f) := h

theorem meets_settle (r : Except Failure α) : Meets C (settle r) := fun _ h => h

theorem meets_ask {r : Request} (h : C.asks r) : Meets C (ask r) := fun _ hscope =>
  ⟨h, fun _ _ => hscope⟩

theorem meets_lift {p : Program α} (h : p.Meets C fun _ => True) : Meets C (lift p) :=
  fun _ hscope => h.bind fun _ _ => hscope

theorem meets_ofAttempt {p : Attempt α} (h : p.run.Meets C fun _ => True) :
    Meets C (ofAttempt p) := fun _ hscope => h.bind fun _ _ => hscope

theorem Meets.attempt {a : Rendering α} (h : Meets C a) : Meets C (attempt a) := fun scope hscope =>
  (h scope hscope).bind fun _ hafter => hafter

end Rendering

namespace Program
variable {C : Contract} {α β : Type}

/-- A program that may fail, after another. -/
theorem Meets.bind_attempt {p : Attempt α} {f : α → Attempt β}
    (h : p.run.Meets C fun _ => True) (hf : ∀ a, (f a).run.Meets C fun _ => True) :
    (p >>= f).run.Meets C fun _ => True := by
  refine Meets.bind h ?_
  rintro (failure | a) _
  · trivial
  · exact hf a

theorem Meets.tryCatch {p : Attempt α} {f : Failure → Attempt α}
    (h : p.run.Meets C fun _ => True) (hf : ∀ failure, (f failure).run.Meets C fun _ => True) :
    (tryCatch p f).run.Meets C fun _ => True := by
  refine Meets.bind h ?_
  rintro (failure | a) _
  · exact hf failure
  · trivial

end Program

namespace Attempt
variable {C : Contract} {α β : Type}

/-- The program meets the contract, and what it comes to is in `post` unless it fails. -/
def Meets (C : Contract) (post : α → Prop) (p : Attempt α) : Prop :=
  p.run.Meets C fun r => ∀ a, r = .ok a → post a

theorem Meets.bind {mid : α → Prop} {post : β → Prop} {p : Attempt α} {f : α → Attempt β}
    (h : Meets C mid p) (hf : ∀ a, mid a → Meets C post (f a)) : Meets C post (p >>= f) := by
  refine Program.Meets.bind h ?_
  rintro (failure | a) hmid
  · exact (nofun : ∀ b, Except.error failure = Except.ok b → post b)
  · exact hf a (hmid a rfl)

theorem meets_pure {post : α → Prop} {a : α} (h : post a) : Meets C post (pure a) := by
  rintro _ ⟨⟩
  exact h

theorem meets_throw {post : α → Prop} (failure : Failure) : Meets C post (throw failure) :=
  (nofun : ∀ a, Except.error failure = Except.ok a → post a)

/-- What a program that does not fail comes to. -/
theorem meets_lift {post : α → Prop} {p : Program α} (h : p.Meets C post) :
    Meets C post (liftM p) := by
  refine Program.Meets.bind h fun a ha => ?_
  rintro _ ⟨⟩
  exact ha

end Attempt
end Stencil
