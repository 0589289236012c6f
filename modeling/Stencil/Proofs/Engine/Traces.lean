import Stencil.Proofs.Engine.Events

/-!
# What runs leave

The state that a run leaves is made by what is answered on the spot on the way.  So what every such
answer keeps is kept by all runs (`Environment.run_keeps`), and a part of the state that the
requests determine can be read off the events (`Environment.run_reads`).
-/
namespace Stencil

namespace Outcome
variable {α β : Type}

/-- Something holds of the state that the run leaves, if it does not go too deep. -/
def All (P : World → Prop) : Outcome α → Prop
  | .done _ w | .pending w => P w
  | .tooDeep => True

theorem All.mono {P Q : World → Prop} {o : Outcome α} (h : o.All P) (himp : ∀ w, P w → Q w) :
    o.All Q := by
  cases o with
  | done a w | pending w => exact himp w h
  | tooDeep => trivial

theorem All.map {P : World → Prop} {o : Outcome α} (h : o.All P) (f : α → β) : (o.map f).All P := by
  cases o with
  | done a w | pending w => exact h
  | tooDeep => trivial

end Outcome

namespace Environment
variable (env : Environment) (patience : Patience)

theorem run_keeps_of_answer {α : Type} {R : World → World → Prop} (hrefl : ∀ w, R w w)
    (htrans : ∀ w₁ w₂ w₃, R w₁ w₂ → R w₂ w₃ → R w₁ w₃) {depth : Nat}
    (h : ∀ r w, (env.answer patience depth r w).All (R w)) (p : Program α) (w : World) :
    (env.run patience depth p w).All (R w) := by
  induction p generalizing w with
  | done a => exact hrefl w
  | ask r next ih =>
    have hr := h r w
    cases ha : env.answer patience depth r w with
    | done a after =>
      rw [ha] at hr
      rw [env.run_ask_done patience depth ha]
      exact (ih a after).mono fun last => htrans w after last hr
    | pending after =>
      rw [ha] at hr
      rw [env.run_ask_pending patience depth ha]
      exact hr
    | tooDeep =>
      rw [env.run_ask_tooDeep patience depth ha]
      trivial

/-- What holds from before to behind every answer on the spot holds from before to behind every
run. -/
theorem run_keeps {α : Type} {R : World → World → Prop} (hrefl : ∀ w, R w w)
    (htrans : ∀ w₁ w₂ w₃, R w₁ w₂ → R w₂ w₃ → R w₁ w₃)
    (h : ∀ r w, env.errand? r = none → (env.answer patience 0 r w).All (R w)) (depth : Nat)
    (p : Program α) (w : World) : (env.run patience depth p w).All (R w) := by
  refine env.run_keeps_of_answer patience hrefl htrans (fun r w => ?_) p w
  -- Answers are made on the spot, or by a run that is one level less deep.
  induction depth generalizing r w with
  | zero =>
    cases he : env.errand? r with
    | none => exact h r w he
    | some e =>
      rw [env.answer_errand_zero patience he]
      trivial
  | succ depth ih =>
    cases he : env.errand? r with
    | none =>
      rw [env.answer_onTheSpot patience (depth + 1) he]
      exact h r w he
    | some e =>
      rw [env.answer_errand_succ patience depth he]
      exact (env.run_keeps_of_answer patience hrefl htrans ih e.program w).map e.answer

/-- What was reported stays reported. -/
theorem run_reports {α : Type} (depth : Nat) (p : Program α) (w : World) :
    (env.run patience depth p w).All fun after => w.reports <:+ after.reports := by
  refine env.run_keeps patience (R := fun w after => w.reports <:+ after.reports)
    (fun w => List.suffix_rfl) (fun _ _ _ => List.IsSuffix.trans) (fun r w he => ?_) depth p w
  cases r with
  | report said => exact List.suffix_cons said w.reports
  | wait => cases patience <;> exact List.suffix_rfl
  | claimImports t =>
    rw [answer, answerWith]
    split <;> exact List.suffix_rfl
  | store t =>
    show w.reports <:+ (w.storeTemplate t).reports
    unfold World.storeTemplate
    split <;> exact List.suffix_rfl
  | writeCache locator tree =>
    rw [answer, answerWith]
    split <;> exact List.suffix_rfl
  | function name args =>
    have hf : env.functions.find? name = none := Option.map_eq_none_iff.mp he
    rw [answer, answerWith, hf]
    exact List.suffix_rfl
  | load | filter | test | invoke | findBlock | inheritedBlock | renderBlock | render
  | mergeImports => cases he
  | fresh | note | links | setParent | releaseImports | importBlock | stored | cached =>
    exact List.suffix_rfl

/-! ## What answers leave alone -/

end Environment

/-- The request changes the links of a template. -/
def Request.Relinks : Request → Prop
  | .setParent .. | .claimImports _ | .releaseImports _ | .importBlock .. => True
  | _ => False

/-- The request stores a template. -/
def Request.Stores : Request → Prop
  | .store _ => True
  | _ => False

/-- The request puts a tree into the cache. -/
def Request.Caches : Request → Prop
  | .writeCache .. => True
  | _ => False

namespace Environment
variable (env : Environment) (patience : Patience)

/-- An answer on the spot changes links, the store or the cache only where it is asked to. -/
theorem answer_frame {r : Request} (he : env.errand? r = none) (w : World) :
    (env.answer patience 0 r w).All fun after =>
      (¬ r.Relinks → after.links = w.links) ∧
        (¬ r.Stores → after.store = w.store) ∧ (¬ r.Caches → after.cache = w.cache) := by
  cases r with
  | wait => cases patience <;> exact ⟨fun _ => rfl, fun _ => rfl, fun _ => rfl⟩
  | claimImports t =>
    rw [answer, answerWith]
    split <;> exact ⟨fun h => absurd trivial h, fun _ => rfl, fun _ => rfl⟩
  | setParent | releaseImports | importBlock =>
    exact ⟨fun h => absurd trivial h, fun _ => rfl, fun _ => rfl⟩
  | store t =>
    refine ⟨fun _ => ?_, fun h => absurd trivial h, fun _ => ?_⟩ <;>
      (unfold World.storeTemplate; split <;> rfl)
  | writeCache locator tree =>
    rw [answer, answerWith]
    split <;> exact ⟨fun _ => rfl, fun _ => rfl, fun h => absurd trivial h⟩
  | function name args =>
    have hf : env.functions.find? name = none := Option.map_eq_none_iff.mp he
    rw [answer, answerWith, hf]
    exact ⟨fun _ => rfl, fun _ => rfl, fun _ => rfl⟩
  | load | filter | test | invoke | findBlock | inheritedBlock | renderBlock | render
  | mergeImports => cases he
  | fresh | note | report | links | stored | cached =>
    exact ⟨fun _ => rfl, fun _ => rfl, fun _ => rfl⟩

/-! ## What can be read off the events -/

section
variable {σ : Type}

theorem run_reads_of_answer {view : World → σ} {step : σ → Request → σ} {α : Type} {depth : Nat}
    (h : ∀ r w, (env.answer patience depth r w).All fun after =>
      view after = (env.inside patience depth r w).foldl step (step (view w) r))
    (p : Program α) (w : World) :
    (env.run patience depth p w).All fun after =>
      view after = (env.events patience depth p w).foldl step (view w) := by
  induction p generalizing w with
  | done a => exact (rfl : view w = view w)
  | ask r next ih =>
    have hr := h r w
    cases ha : env.answer patience depth r w with
    | done a after =>
      rw [ha] at hr
      rw [env.run_ask_done patience depth ha, env.events_ask_done patience depth ha,
        List.foldl_cons, List.foldl_append, ← show view after = _ from hr]
      exact ih a after
    | pending after =>
      rw [ha] at hr
      rw [env.run_ask_pending patience depth ha, env.events_ask_pending patience depth ha]
      exact hr
    | tooDeep =>
      rw [env.run_ask_tooDeep patience depth ha]
      trivial

/-- **What requests do to a part of the state is what runs do to it**, one event after the other.
Only what is answered on the spot does anything. -/
theorem run_reads (view : World → σ) (step : σ → Request → σ)
    (hspot : ∀ r w, env.errand? r = none →
      (env.answer patience 0 r w).All fun after => view after = step (view w) r)
    (herrand : ∀ r e s, env.errand? r = some e → step s r = s) (depth : Nat) {α : Type}
    (p : Program α) (w : World) :
    (env.run patience depth p w).All fun after =>
      view after = (env.events patience depth p w).foldl step (view w) := by
  refine env.run_reads_of_answer patience (fun r w => ?_) p w
  induction depth generalizing r w with
  | zero =>
    cases he : env.errand? r with
    | none => exact hspot r w he
    | some e =>
      rw [env.answer_errand_zero patience he]
      trivial
  | succ depth ih =>
    cases he : env.errand? r with
    | none =>
      rw [env.answer_onTheSpot patience (depth + 1) he,
        env.inside_onTheSpot patience (depth + 1) he]
      exact hspot r w he
    | some e =>
      rw [env.answer_errand_succ patience depth he, env.inside_errand patience depth he,
        herrand r e _ he]
      exact (env.run_reads_of_answer patience ih e.program w).map e.answer

end
end Environment
end Stencil
