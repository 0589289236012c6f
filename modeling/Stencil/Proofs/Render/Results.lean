import Stencil.Proofs.Render.Contract
import Stencil.Render.Template

/-!
# Results of contracts

What a contract says of answers and scopes may serve to tell what a program comes to: results of a
kind, or else failures for some causes only (`Yields`).  Renderings that give such results can be
put together as those that merely meet a contract; each way to do so has one lemma.
-/
namespace Stencil

/-- A result of a kind, or a failure for one of the causes. -/
def Yields {α : Type} (causes : Cause → Prop) (fits : α → Prop) : Except Failure α → Prop
  | .ok a => fits a
  | .error failure => causes failure.cause

namespace Yields
variable {α β : Type} {causes : Cause → Prop}

theorem mono {causes' : Cause → Prop} {fits fits' : α → Prop} {r : Except Failure α}
    (h : Yields causes fits r) (hcauses : ∀ c, causes c → causes' c)
    (hfits : ∀ a, fits a → fits' a) : Yields causes' fits' r := by
  cases r with
  | ok a => exact hfits a h
  | error failure => exact hcauses _ h

theorem bind {mid : α → Prop} {fits : β → Prop} {r : Except Failure α} {f : α → Except Failure β}
    (h : Yields causes mid r) (hf : ∀ a, mid a → Yields causes fits (f a)) :
    Yields causes fits (r >>= f) := by
  cases r with
  | ok a => exact hf a h
  | error failure => exact h

theorem map {mid : α → Prop} {fits : β → Prop} {r : Except Failure α} {f : α → β}
    (h : Yields causes mid r) (hf : ∀ a, mid a → fits (f a)) : Yields causes fits (r.map f) := by
  cases r with
  | ok a => exact hf a h
  | error failure => exact h

theorem mapM {fits : β → Prop} {f : α → Except Failure β} (hf : ∀ a, Yields causes fits (f a))
    (items : List α) : Yields causes (fun results => ∀ b ∈ results, fits b) (items.mapM f) := by
  induction items with
  | nil =>
    rw [List.mapM_nil]
    exact List.forall_mem_nil _
  | cons a rest ih =>
    rw [List.mapM_cons]
    exact (hf a).bind fun b hb => ih.bind fun results hresults =>
      List.forall_mem_cons.mpr ⟨hb, hresults⟩

theorem foldlM {fits : β → Prop} {f : β → α → Except Failure β}
    (hf : ∀ b a, fits b → Yields causes fits (f b a)) (items : List α) {first : β}
    (hfirst : fits first) : Yields causes fits (items.foldlM f first) := by
  induction items generalizing first with
  | nil => exact hfirst
  | cons a rest ih =>
    rw [List.foldlM_cons]
    exact (hf first a hfirst).bind fun b hb => ih hb

end Yields

variable {C : Contract} {causes : Cause → Prop} {α β : Type}

namespace Attempt

/-- The program meets the contract and comes to such a result. -/
def Gives (C : Contract) (causes : Cause → Prop) (post : α → Prop) (p : Attempt α) : Prop :=
  p.run.Meets C (Yields causes post)

theorem gives_pure {post : α → Prop} {a : α} (h : post a) : Gives C causes post (pure a) := h

theorem gives_throw {post : α → Prop} {failure : Failure} (h : causes failure.cause) :
    Gives C causes post (throw failure : Attempt α) := h

theorem Gives.bind {mid : α → Prop} {post : β → Prop} {p : Attempt α} {f : α → Attempt β}
    (h : Gives C causes mid p) (hf : ∀ a, mid a → Gives C causes post (f a)) :
    Gives C causes post (p >>= f) := by
  refine Program.Meets.bind h ?_
  rintro (failure | a) hr
  · exact hr
  · exact hf a hr

/-- A handler sees the causes for which there are failures. -/
theorem Gives.tryCatch {post : α → Prop} {p : Attempt α} {f : Failure → Attempt α}
    (h : Gives C causes post p)
    (hf : ∀ failure, causes failure.cause → Gives C causes post (f failure)) :
    Gives C causes post (tryCatch p f) := by
  refine Program.Meets.bind h ?_
  rintro (failure | a) hr
  · exact hf failure hr
  · exact hr

/-- A program that does not fail. -/
theorem gives_lift {post : α → Prop} {p : Program α} (h : p.Meets C post) :
    Gives C causes post (liftM p) := Program.Meets.bind h fun _ ha => ha

end Attempt

namespace Rendering

/-- Started in a scope of the contract, the rendering meets the contract, ends in such a scope and
comes to such a result. -/
def Gives (C : Contract) (causes : Cause → Prop) (post : α → Prop) (a : Rendering α) : Prop :=
  ∀ scope, C.scopes scope → (a scope).Meets C fun r => C.scopes r.2 ∧ Yields causes post r.1

theorem gives_pure {post : α → Prop} {a : α} (h : post a) : Gives C causes post (pure a) :=
  fun _ hscope => ⟨hscope, h⟩

theorem gives_throw {post : α → Prop} {failure : Failure} (h : causes failure.cause) :
    Gives C causes post (throw failure : Rendering α) := fun _ hscope => ⟨hscope, h⟩

theorem gives_settle {post : α → Prop} {r : Except Failure α} (h : Yields causes post r) :
    Gives C causes post (settle r) := fun _ hscope => ⟨hscope, h⟩

/-- In one scope: what comes after goes on from any. -/
theorem gives_bind_at {mid : α → Prop} {post : β → Prop} {a : Rendering α} {f : α → Rendering β}
    {scope : Scope} (h : (a scope).Meets C fun r => C.scopes r.2 ∧ Yields causes mid r.1)
    (hf : ∀ v, mid v → Gives C causes post (f v)) :
    ((a >>= f) scope).Meets C fun r => C.scopes r.2 ∧ Yields causes post r.1 := by
  refine Program.Meets.bind h ?_
  rintro ⟨failure | v, after⟩ ⟨hafter, hr⟩
  · exact ⟨hafter, hr⟩
  · exact hf v hr after hafter

theorem Gives.bind {mid : α → Prop} {post : β → Prop} {a : Rendering α} {f : α → Rendering β}
    (h : Gives C causes mid a) (hf : ∀ v, mid v → Gives C causes post (f v)) :
    Gives C causes post (a >>= f) := fun scope hscope => gives_bind_at (h scope hscope) hf

theorem Gives.map {mid : α → Prop} {post : β → Prop} {a : Rendering α} (h : Gives C causes mid a)
    {f : α → β} (hf : ∀ v, mid v → post (f v)) : Gives C causes post (f <$> a) :=
  h.bind fun v hv => gives_pure (hf v hv)

theorem gives_get : Gives C causes C.scopes get := fun _ hscope => ⟨hscope, hscope⟩

theorem gives_modify {f : Scope → Scope} (h : ∀ scope, C.scopes scope → C.scopes (f scope)) :
    Gives C causes (fun _ => True) (modify f) := fun scope hscope => ⟨h scope hscope, trivial⟩

theorem gives_ask {r : Request} (h : C.asks r) : Gives C causes (C.answers r) (ask r) :=
  fun _ hscope => ⟨h, fun _ ha => ⟨hscope, ha⟩⟩

/-- To ask, and to fail as the answer does. -/
theorem gives_call {r : Request} {post : α → Prop} {f : r.Answer → Except Failure α}
    (hr : C.asks r) (hf : ∀ a, C.answers r a → Yields causes post (f a)) :
    Gives C causes post (do settle (f (← ask r))) :=
  (gives_ask hr).bind fun a ha => gives_settle (hf a ha)

theorem gives_ofAttempt {post : α → Prop} {p : Attempt α} (h : Attempt.Gives C causes post p) :
    Gives C causes post (ofAttempt p) := fun _ hscope =>
  Program.Meets.bind h fun _ hr => ⟨hscope, hr⟩

theorem gives_lift {post : α → Prop} {p : Program α} (h : p.Meets C post) :
    Gives C causes post (lift p) := fun _ hscope => h.bind fun _ ha => ⟨hscope, ha⟩

/-- An attempt does not fail itself. -/
theorem Gives.attempt {post : α → Prop} {a : Rendering α} (h : Gives C causes post a) :
    Gives C causes (Yields causes post) (attempt a) := fun scope hscope =>
  (h scope hscope).bind fun _ hr => hr

/-- The result of a rendering that starts in a scope of the contract. -/
theorem gives_resultIn {post : α → Prop} {a : Rendering α} (h : Gives C causes post a)
    {scope : Scope} (hscope : C.scopes scope) : Attempt.Gives C causes post (resultIn scope a) :=
  Program.Meets.bind (h scope hscope) fun _ hr => hr.2

end Rendering
end Stencil
