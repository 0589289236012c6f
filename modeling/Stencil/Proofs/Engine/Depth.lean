import Stencil.Proofs.Engine.Events
import Stencil.Proofs.Render.Contract

/-!
# Runs that agree

Two ways of answering requests give a program the same end if they agree on all that the program
asks for on its way (`Program.runWith_agrees`).  What it asks for is known from its contract, from
what is known of the state, and from the events of the run (`Program.Meets.along`,
`Environment.along_of_events`).

The first use is that the number of levels is nothing but a bound: a run that does not go too deep
is not changed by more levels (`Environment.run_deeper`).
-/
namespace Stencil

namespace Outcome
variable {α β : Type}

/-- Go on behind a run that came to its end. -/
def bind (o : Outcome α) (f : α → World → Outcome β) : Outcome β :=
  match o with
  | .done a w => f a w
  | .pending w => .pending w
  | .tooDeep => .tooDeep

/-- Go on behind a run that came to a value, or fail as it does. -/
def andThen (o : Outcome (Except Failure α)) (f : α → World → Outcome (Except Failure β)) :
    Outcome (Except Failure β) :=
  o.bind fun r after => match r with
    | .ok a => f a after
    | .error failure => .done (.error failure) after

/-- The outcome is the other one, unless that one went too deep. -/
def Agrees (o other : Outcome α) : Prop := other ≠ .tooDeep → o = other

theorem Agrees.refl (o : Outcome α) : o.Agrees o := fun _ => rfl

theorem Agrees.done {o : Outcome α} {a : α} {w : World} (h : o.Agrees (.done a w)) :
    o = .done a w := h nofun

theorem map_eq_done {o : Outcome α} {f : α → β} {b : β} {w : World} (h : o.map f = .done b w) :
    ∃ a, o = .done a w ∧ f a = b := by
  cases o with
  | done a after =>
    cases h
    exact ⟨a, rfl, rfl⟩
  | pending after | tooDeep => cases h

theorem bind_eq_done {o : Outcome α} {f : α → World → Outcome β} {b : β} {w : World} :
    o.bind f = .done b w ↔ ∃ a mid, o = .done a mid ∧ f a mid = .done b w := by
  constructor
  · intro h
    cases o with
    | done a mid => exact ⟨a, mid, rfl, h⟩
    | pending mid | tooDeep => cases h
  · rintro ⟨a, mid, rfl, h⟩
    exact h

theorem Agrees.map {o o' : Outcome α} (h : o.Agrees o') (f : α → β) :
    (o.map f).Agrees (o'.map f) := by
  intro hdeep
  have hdeep' : o' ≠ .tooDeep := by
    rintro rfl
    exact hdeep rfl
  rw [h hdeep']

theorem Agrees.andThen {o o' : Outcome (Except Failure α)} (h : o.Agrees o')
    {f g : α → World → Outcome (Except Failure β)}
    (hf : ∀ a w, o = .done (.ok a) w → o' = .done (.ok a) w → (f a w).Agrees (g a w)) :
    (o.andThen f).Agrees (o'.andThen g) := by
  cases o' with
  | done r w =>
    have heq := h.done
    cases r with
    | ok a =>
      have hnext := hf a w heq rfl
      rw [heq]
      exact hnext
    | error failure =>
      rw [heq]
      exact .refl _
  | pending w =>
    rw [h nofun]
    exact .refl _
  | tooDeep => exact fun hdeep => absurd rfl hdeep

end Outcome

namespace Program
variable {α β : Type} {answer answer' : (r : Request) → World → Outcome r.Answer}
  {ok : Request → World → Prop}

theorem runWith_bind (p : Program α) (f : α → Program β) (w : World) :
    (p >>= f).runWith answer w
      = (p.runWith answer w).bind fun a after => (f a).runWith answer after := by
  induction p generalizing w with
  | done a => rfl
  | ask r next ih =>
    rw [ask_bind, runWith, runWith]
    cases answer r w with
    | done a after => exact ih a after
    | pending after => rfl
    | tooDeep => rfl

/-- A program behind another one comes to its end if both do. -/
theorem runWith_bind_eq_done {p : Program α} {f : α → Program β} {w after : World} {b : β} :
    (p >>= f).runWith answer w = .done b after ↔
      ∃ a mid, p.runWith answer w = .done a mid ∧ (f a).runWith answer mid = .done b after := by
  rw [runWith_bind, Outcome.bind_eq_done]

/-- Whatever the program asks for on its way: `ok` holds of the request and the state then. -/
def Along (answer : (r : Request) → World → Outcome r.Answer) (ok : Request → World → Prop) :
    Program α → World → Prop
  | .done _, _ => True
  | .ask r next, w =>
    ok r w ∧ ∀ a after, answer r w = .done a after → Along answer ok (next a) after

theorem along_of_forall (h : ∀ r w, ok r w) (p : Program α) (w : World) :
    p.Along answer ok w := by
  induction p generalizing w with
  | done a => trivial
  | ask r next ih => exact ⟨h r w, fun a after _ => ih a after⟩

theorem along_bind {p : Program α} {f : α → Program β} {w : World} :
    (p >>= f).Along answer ok w ↔ p.Along answer ok w ∧
      ∀ a after, p.runWith answer w = .done a after → (f a).Along answer ok after := by
  induction p generalizing w with
  | done a =>
    constructor
    · intro h
      refine ⟨trivial, ?_⟩
      rintro _ _ ⟨⟩
      exact h
    · rintro ⟨-, h⟩
      exact h a w rfl
  | ask r next ih =>
    rw [ask_bind, Along, Along, runWith]
    constructor
    · rintro ⟨hr, hnext⟩
      refine ⟨⟨hr, fun a after ha => ((ih a).mp (hnext a after ha)).1⟩, fun b last hrun => ?_⟩
      cases ha : answer r w with
      | done a after =>
        rw [ha] at hrun
        exact ((ih a).mp (hnext a after ha)).2 b last hrun
      | pending after | tooDeep =>
        rw [ha] at hrun
        cases hrun
    · rintro ⟨⟨hr, hnext⟩, hlast⟩
      refine ⟨hr, fun a after ha => (ih a).mpr ⟨hnext a after ha, fun b last hrun => ?_⟩⟩
      rw [ha] at hlast
      exact hlast b last hrun

theorem runWith_attempt_bind (p : Attempt α) (f : α → Attempt β) (w : World) :
    (p >>= f).run.runWith answer w
      = (p.run.runWith answer w).andThen fun a after => (f a).run.runWith answer after := by
  rw [ExceptT.run_bind, runWith_bind, Outcome.andThen]
  congr 1
  funext r after
  cases r with
  | ok a => rfl
  | error failure => rfl

theorem runWith_tryCatch (p : Attempt α) (handle : Failure → Attempt α) (w : World) :
    (tryCatch p handle).run.runWith answer w
      = (p.run.runWith answer w).bind fun r after => match r with
        | .ok a => .done (.ok a) after
        | .error failure => (handle failure).run.runWith answer after := by
  refine (runWith_bind p.run _ w).trans ?_
  congr 1
  funext r after
  cases r with
  | ok a => rfl
  | error failure => rfl

theorem along_attempt_bind {p : Attempt α} {f : α → Attempt β} {w : World}
    (h : (p >>= f).run.Along answer ok w) : p.run.Along answer ok w ∧
      ∀ a after, p.run.runWith answer w = .done (.ok a) after →
        (f a).run.Along answer ok after := by
  rw [ExceptT.run_bind, along_bind] at h
  exact ⟨h.1, fun a after hrun => h.2 (.ok a) after hrun⟩

/-- **Answers that agree make runs that agree.**  Only the requests on the way matter, be it that of
the first run or that of the second: the runs part where the second one goes too deep. -/
theorem runWith_agrees {p : Program α} {w : World}
    (halong : p.Along answer ok w ∨ p.Along answer' ok w)
    (hok : ∀ r w, ok r w → (answer r w).Agrees (answer' r w)) :
    (p.runWith answer w).Agrees (p.runWith answer' w) := by
  induction p generalizing w with
  | done a => exact .refl _
  | ask r next ih =>
    have hagrees := hok r w (halong.elim (·.1) (·.1))
    rw [runWith, runWith]
    cases ha : answer' r w with
    | done a after =>
      rw [ha] at hagrees
      rw [hagrees.done]
      exact ih a (halong.imp (·.2 a after hagrees.done) (·.2 a after ha))
    | pending after =>
      rw [ha] at hagrees
      rw [hagrees (by rintro ⟨⟩)]
      exact .refl _
    | tooDeep => exact fun hdeep => absurd rfl hdeep

/-- The run of a program that meets a contract, where the answers are those that the contract takes
for granted as long as the state is as it should be: then the state stays so, and the program ends
in what it promises. -/
theorem Meets.along {C : Contract} {post : α → Prop} {good : World → Prop} {p : Program α}
    {w : World} (h : p.Meets C post) (hw : good w) (halong : p.Along answer ok w)
    (hstep : ∀ r w, C.asks r → good w → ok r w → ∀ a after, answer r w = .done a after →
      C.answers r a ∧ good after) :
    p.Along answer (fun r w => C.asks r ∧ good w ∧ ok r w) w ∧
      ∀ a after, p.runWith answer w = .done a after → post a ∧ good after := by
  induction p generalizing w with
  | done a =>
    refine ⟨trivial, ?_⟩
    rintro _ _ ⟨⟩
    exact ⟨h, hw⟩
  | ask r next ih =>
    obtain ⟨hasks, hanswers⟩ := h
    obtain ⟨hr, hnext⟩ := halong
    have hlater (a : r.Answer) (after : World) (ha : answer r w = .done a after) :=
      have hgood := hstep r w hasks hw hr a after ha
      ih a (hanswers a hgood.1) hgood.2 (hnext a after ha)
    refine ⟨⟨⟨hasks, hw, hr⟩, fun a after ha => (hlater a after ha).1⟩, fun b last hrun => ?_⟩
    rw [runWith] at hrun
    cases ha : answer r w with
    | done a after =>
      rw [ha] at hrun
      exact (hlater a after ha).2 b last hrun
    | pending after | tooDeep =>
      rw [ha] at hrun
      cases hrun

/-- A program ends in what its contract promises, if the contract takes nothing for granted. -/
theorem Meets.ends {C : Contract} {post : α → Prop} {p : Program α} (h : p.Meets C post)
    (hanswers : ∀ r a, C.answers r a) {w : World} {a : α} {after : World}
    (hrun : p.runWith answer w = .done a after) : post a := by
  have hgood : ∀ r w, C.asks r → True → True → ∀ a after, answer r w = .done a after →
      C.answers r a ∧ True := fun r _ _ _ _ a _ _ => ⟨hanswers r a, trivial⟩
  have halong : p.Along answer (fun _ _ => True) w := along_of_forall (fun _ _ => trivial) p w
  exact ((h.along trivial halong hgood).2 a after hrun).1

/-- Answers that are the same for all that a program may ask for make the same run. -/
theorem Meets.runWith_congr {C : Contract} {post : α → Prop} {p : Program α} (h : p.Meets C post)
    (hanswers : ∀ r a, C.answers r a) (hasks : ∀ r w, C.asks r → answer r w = answer' r w)
    (w : World) : p.runWith answer w = p.runWith answer' w := by
  induction p generalizing w with
  | done a => rfl
  | ask r next ih =>
    rw [runWith, runWith, hasks r w h.1]
    cases answer' r w with
    | done a after => exact ih a (h.2 a (hanswers r a)) after
    | pending after => rfl
    | tooDeep => rfl

end Program

/-- The contract that binds nobody. -/
def Contract.any : Contract := ⟨fun _ => True, fun _ _ => True, fun _ => True⟩

theorem Program.meets_any {α : Type} (p : Program α) : p.Meets .any fun _ => True := by
  induction p with
  | done a => trivial
  | ask r next ih => exact ⟨trivial, fun answer _ => ih answer⟩

namespace Environment
variable (env : Environment) (patience : Patience)

/-- What holds of all events of a run holds on its way, of each request and of what is inside its
answer. -/
theorem along_of_events {α : Type} {heed : Request → Prop} {depth : Nat} {p : Program α} {w : World}
    (h : ∀ r ∈ env.events patience depth p w, heed r) :
    p.Along (env.answer patience depth)
      (fun r w => heed r ∧ ∀ r' ∈ env.inside patience depth r w, heed r') w := by
  induction p generalizing w with
  | done a => trivial
  | ask r next ih =>
    obtain ⟨more, hmore⟩ := env.events_ask patience depth next w
    rw [hmore] at h
    refine ⟨⟨h r List.mem_cons_self, fun r' hr' => ?_⟩, fun a after ha => ih a fun r' hr' => ?_⟩
    · exact h r' (List.mem_cons_of_mem r (List.mem_append_left more hr'))
    · rw [← hmore, env.events_ask_done patience depth ha] at h
      exact h r' (List.mem_cons_of_mem r (List.mem_append_right _ hr'))

theorem events_bind {α β : Type} (depth : Nat) (p : Program α) (f : α → Program β) (w : World) :
    env.events patience depth (p >>= f) w
      = env.events patience depth p w ++ match env.run patience depth p w with
        | .done a after => env.events patience depth (f a) after
        | .pending _ | .tooDeep => [] := by
  induction p generalizing w with
  | done a => rfl
  | ask r next ih =>
    rw [Program.ask_bind]
    cases ha : env.answer patience depth r w with
    | done a after =>
      rw [env.events_ask_done patience depth ha, env.events_ask_done patience depth ha,
        env.run_ask_done patience depth ha, ih a after, List.cons_append, List.append_assoc]
    | pending after =>
      rw [env.events_ask_pending patience depth ha, env.events_ask_pending patience depth ha,
        env.run_ask_pending patience depth ha, List.append_nil]
    | tooDeep =>
      rw [env.events_ask_tooDeep patience depth ha, env.events_ask_tooDeep patience depth ha,
        env.run_ask_tooDeep patience depth ha, List.append_nil]

section
variable {env : Environment} {patience : Patience} {depth : Nat} {α β : Type} {p : Program α}
  {f : α → Program β} {a : α} {w after : World}

/-- What comes behind a program that is done. -/
theorem run_bind_done (h : env.run patience depth p w = .done a after) :
    env.run patience depth (p >>= f) w = env.run patience depth (f a) after := by
  rw [run, Program.runWith_bind, ← run, h]
  rfl

theorem events_bind_done (h : env.run patience depth p w = .done a after) :
    env.events patience depth (p >>= f) w
      = env.events patience depth p w ++ env.events patience depth (f a) after := by
  rw [events_bind, h]

end

theorem run_request (depth : Nat) (r : Request) (w : World) :
    env.run patience depth (Program.request r) w = env.answer patience depth r w := by
  rw [run, Program.request, Program.runWith]
  cases env.answer patience depth r w with
  | done a after => rfl
  | pending after => rfl
  | tooDeep => rfl

theorem answer_deeper {depth deeper : Nat} (h : depth ≤ deeper) (r : Request) (w : World) :
    (env.answer patience deeper r w).Agrees (env.answer patience depth r w) := by
  induction depth generalizing deeper r w with
  | zero =>
    cases he : env.errand? r with
    | none =>
      rw [env.answer_onTheSpot patience deeper he]
      exact .refl _
    | some e =>
      rw [env.answer_errand_zero patience he]
      exact fun hdeep => absurd rfl hdeep
  | succ depth ih =>
    cases deeper with
    | zero => exact absurd h (Nat.not_succ_le_zero depth)
    | succ deeper =>
      cases he : env.errand? r with
      | none =>
        rw [env.answer_onTheSpot patience (deeper + 1) he,
          env.answer_onTheSpot patience (depth + 1) he]
        exact .refl _
      | some e =>
        rw [env.answer_errand_succ patience deeper he, env.answer_errand_succ patience depth he]
        refine (Program.runWith_agrees (.inl (Program.along_of_forall (fun _ _ => trivial) _ w))
          fun r w _ => ih (Nat.le_of_succ_le_succ h) r w).map e.answer

/-- **More levels change nothing** about a run that does not go too deep. -/
theorem run_deeper {α : Type} {depth deeper : Nat} (h : depth ≤ deeper) (p : Program α)
    (w : World) :
    (env.run patience deeper p w).Agrees (env.run patience depth p w) :=
  Program.runWith_agrees (.inl (Program.along_of_forall (fun _ _ => trivial) p w))
    fun r w _ => env.answer_deeper patience h r w

end Environment
end Stencil
