import Stencil.Engine.Builtins
import Stencil.Engine.Deferred
import Stencil.Proofs.Engine.Depth
import Stencil.Proofs.Engine.Waiting

/-!
# Deferred results come in order

A list is gone through by one of two ways: on the spot as long as the results are there, and from
the first result that is not by the program that is handed out in its place.  Both are the same
thing, one deferred behind the other (`Deferred.sequenceFrom_cons`), and driving one deferred behind
the other is driving the first and then the second (`Deferred.driven_andThen`).

So there is one law for two calls (`Environment.Settles.split`): what they ask for, what is known
before anything is waited for, and what they come to.  The laws for lists and for chains are
inductions over it.
-/
namespace Stencil

namespace Deferred
variable {α β γ : Type}

/-! ## One program behind the other -/

theorem run_driven (p : Program (Deferred α)) : (driven p).run = p >>= fun d => d.await.run :=
  ExceptT.run_bind_lift p await

/-- Making a deferred of a program and driving it is running the program. -/
theorem driven_ofAttempt (p : Attempt α) : driven (ofAttempt p) = p := by
  refine ExceptT.ext ?_
  rw [run_driven, ofAttempt]
  induction p.run with
  | done r => cases r <;> rfl
  | ask r next ih =>
    cases r with
    | wait => rfl
    | _ => exact congrArg (Program.ask _) (funext ih)

/-- Driving one deferred behind the other is driving the first and then the second. -/
theorem driven_andThen (d : Deferred α) (f : α → Program (Deferred β)) :
    driven (d.andThen f) = d.await >>= fun a => driven (f a) := by
  cases d with
  | resolved a => rfl
  | rejected failure => rfl
  | pending rest => rfl

/-- Deferreds one behind the other: a first one, and functions of the result so far. -/
inductive Chain : Type → Type 1 where
  | start {α : Type} (p : Program (Deferred α)) : Chain α
  | map {α β : Type} (chain : Chain α) (f : α → Program β) : Chain β
  | andThen {α β : Type} (chain : Chain α) (f : α → Program (Deferred β)) : Chain β

/-- The call of a chain. -/
def Chain.call : {γ : Type} → Chain γ → Program (Deferred γ)
  | _, .start p => p
  | _, .map chain f => chain.call >>= fun d => d.map f
  | _, .andThen chain f => chain.call >>= fun d => d.andThen f

end Deferred

/-! ## Calls and what becomes of them -/

/-- The record of a call that hands out a deferred. -/
structure Call where
  /-- What is asked for until the deferred is handed out. -/
  requests : List Request
  readiness : Readiness
  /-- What is asked for from then on, until the deferred has come to its end. -/
  awaited : List Request

namespace Call
variable {α β : Type}

/-- The calls up to the first one whose result is not there, and with it. -/
def upToPending : List Call → List Call
  | [] => []
  | c :: rest => if c.readiness = .unknown then [c] else c :: upToPending rest

/-- The record of a call with a result, and behind the result the other call. -/
def followedBy (c next : Call) : Call :=
  if c.readiness = .unknown then { c with awaited := c.awaited ++ (next.requests ++ next.awaited) }
  else ⟨c.requests ++ next.requests, next.readiness, next.awaited⟩

/-- The record of a whole that consists of calls and comes to `r`: its requests are theirs, in
order, and those up to the first pending call are made on the spot. -/
structure Sums (whole : Call) (calls : List Call) (r : Except Failure α) : Prop where
  onTheSpot : whole.requests = (upToPending calls).flatMap Call.requests
  all : whole.requests ++ whole.awaited = calls.flatMap fun c => c.requests ++ c.awaited
  unknown : whole.readiness = .unknown ↔ ∃ c ∈ calls, c.readiness = .unknown
  resolved : whole.readiness = .resolved → ∃ a, r = .ok a
  rejected : whole.readiness = .rejected → ∃ failure, r = .error failure
  /-- Without a pending call nothing is left to do. -/
  settled : whole.readiness ≠ .unknown → whole.awaited = []

theorem upToPending_append_of_pending {calls : List Call}
    (h : ∃ c ∈ calls, c.readiness = .unknown) (more : List Call) :
    upToPending (calls ++ more) = upToPending calls := by
  induction calls with
  | nil => cases h.choose_spec.1
  | cons c rest ih =>
    rw [List.cons_append, upToPending, upToPending]
    split
    · rfl
    · next hc =>
      obtain ⟨c', hc', hunknown⟩ := h
      rcases List.mem_cons.mp hc' with rfl | hrest
      · exact absurd hunknown hc
      · rw [ih ⟨c', hrest, hunknown⟩]

theorem upToPending_append {calls : List Call} (h : ¬∃ c ∈ calls, c.readiness = .unknown)
    (more : List Call) : upToPending (calls ++ more) = calls ++ upToPending more := by
  induction calls with
  | nil => rfl
  | cons c rest ih =>
    rw [List.cons_append, upToPending, if_neg fun hc => h ⟨c, List.mem_cons_self, hc⟩,
      ih fun ⟨c', hc', hunknown⟩ => h ⟨c', List.mem_cons_of_mem c hc', hunknown⟩]
    rfl

theorem upToPending_eq {calls : List Call} (h : ¬∃ c ∈ calls, c.readiness = .unknown) :
    upToPending calls = calls := by
  have happend := upToPending_append h []
  rwa [List.append_nil, upToPending, List.append_nil] at happend

namespace Sums
variable {whole first next : Call} {calls more : List Call} {r : Except Failure α} {a : α}

theorem map (h : whole.Sums calls r) (f : α → β) : whole.Sums calls (r.map f) where
  onTheSpot := h.onTheSpot
  all := h.all
  unknown := h.unknown
  resolved hr := by
    obtain ⟨a, rfl⟩ := h.resolved hr
    exact ⟨f a, rfl⟩
  rejected hr := by
    obtain ⟨failure, rfl⟩ := h.rejected hr
    exact ⟨failure, rfl⟩
  settled := h.settled

/-- A failure is one of whatever type. -/
theorem failed {failure : Failure} (h : whole.Sums calls (.error failure : Except Failure α)) :
    whole.Sums calls (.error failure : Except Failure β) where
  onTheSpot := h.onTheSpot
  all := h.all
  unknown := h.unknown
  resolved hr := by
    obtain ⟨a, ha⟩ := h.resolved hr
    cases ha
  rejected _ := ⟨failure, rfl⟩
  settled := h.settled

/-- Behind calls that came to a result, others. -/
theorem followedBy {r : Except Failure β} (h : first.Sums calls (.ok a))
    (hnext : next.Sums more r) : (first.followedBy next).Sums (calls ++ more) r := by
  unfold Call.followedBy
  split
  · next hpending =>
    have hcalls := h.unknown.mp hpending
    refine ⟨?_, ?_, ⟨fun _ => ?_, fun _ => hpending⟩, fun hr => ?_, fun hr => ?_, fun hr => ?_⟩
    · rw [upToPending_append_of_pending hcalls]
      exact h.onTheSpot
    · rw [List.flatMap_append, ← h.all, ← hnext.all, List.append_assoc]
    · obtain ⟨c, hc, hunknown⟩ := hcalls
      exact ⟨c, List.mem_append_left more hc, hunknown⟩
    · cases hpending.symm.trans hr
    · cases hpending.symm.trans hr
    · exact absurd hpending hr
  · next hthere =>
    have hcalls : ¬∃ c ∈ calls, c.readiness = .unknown := fun hc => hthere (h.unknown.mpr hc)
    have hfirst : first.requests = calls.flatMap Call.requests := by
      rw [h.onTheSpot, upToPending_eq hcalls]
    have hall := h.all
    rw [h.settled hthere, List.append_nil] at hall
    refine ⟨?_, ?_, ?_, hnext.resolved, hnext.rejected, hnext.settled⟩
    · rw [upToPending_append hcalls, List.flatMap_append, hfirst, hnext.onTheSpot]
    · rw [List.flatMap_append, ← hall, ← hnext.all, List.append_assoc]
    · rw [hnext.unknown]
      constructor
      · rintro ⟨c, hc, hunknown⟩
        exact ⟨c, List.mem_append_right calls hc, hunknown⟩
      · rintro ⟨c, hc, hunknown⟩
        rcases List.mem_append.mp hc with hc | hc
        · exact absurd ⟨c, hc, hunknown⟩ hcalls
        · exact ⟨c, hc, hunknown⟩

end Sums
end Call

namespace Environment
variable (env : Environment) (depth : Nat) {α β γ : Type}

/-- From `w` on the call hands out a deferred without waiting for anything, and when that is driven
to its end it comes to `r` and leaves `after`. -/
def Settles (p : Program (Deferred α)) (w : World) (c : Call) (r : Except Failure α)
    (after : World) : Prop :=
  ∃ d mid, env.run .immediate depth p w = .done d mid ∧
    env.run .patient depth d.await.run mid = .done r after ∧
    c = ⟨env.events .immediate depth p w, d.readiness, env.events .patient depth d.await.run mid⟩

/-- All calls of the function come back without waiting for anything. -/
def Punctual (f : α → Program β) : Prop :=
  ∀ a w, ∃ b after, env.run .immediate depth (f a) w = .done b after

variable {env depth}
variable {patience : Patience} {p : Program α} {f : α → Program β} {a : α} {w after : World}

/-- What comes back without waiting does so with patience, too. -/
theorem patient_of_immediate (h : env.run .immediate depth p w = .done a after) :
    env.run .patient depth p w = .done a after ∧
      env.events .patient depth p w = env.events .immediate depth p w := by
  obtain ⟨hrun, hevents⟩ := env.follows_immediate depth p w
  unfold Outcome.Follows at hrun
  split at hrun
  · obtain ⟨last, hpending⟩ := hrun
    rw [h] at hpending
    cases hpending
  · next hwait =>
    rw [upToWait_eq ((Bool.not_eq_true _).mp hwait)] at hevents
    exact ⟨hrun ▸ h, hevents.symm⟩

theorem run_await_pending (rest : Attempt α) (w : World) :
    env.run .patient depth (Deferred.pending rest).await.run w
      = env.run .patient depth rest.run (w.withWaited true) :=
  env.run_ask_done _ _ (env.answer_wait_patient depth w)

theorem events_await_pending (rest : Attempt α) (w : World) :
    env.events .patient depth (Deferred.pending rest).await.run w
      = .wait :: env.events .patient depth rest.run (w.withWaited true) := by
  refine (env.events_ask_done _ _ (env.answer_wait_patient depth w)).trans ?_
  rw [inside_onTheSpot _ _ _ rfl]
  rfl

section Two
variable {p : Program (Deferred α)} {f : α → Program (Deferred β)} {w mid after : World}
  {c next : Call} {r : Except Failure β} {failure : Failure}

/-- What is handed out in the place of a result that is still to come and fails. -/
theorem await_handedOver_error {rest : Attempt α}
    (h : env.run .patient depth (Deferred.pending rest).await.run w
      = .done (.error failure) after) :
    env.run .patient depth (Deferred.pending (rest >>= fun a => Deferred.driven (f a))).await.run w
        = .done (.error failure) after ∧
      env.events .patient depth
          (Deferred.pending (rest >>= fun a => Deferred.driven (f a))).await.run w
        = env.events .patient depth (Deferred.pending rest).await.run w := by
  rw [run_await_pending] at h
  rw [run_await_pending, events_await_pending, events_await_pending, ExceptT.run_bind]
  refine ⟨run_bind_done h, congrArg (List.cons _) ?_⟩
  exact (events_bind_done h).trans (List.append_nil _)

/-- What is handed out in the place of a result that is still to come: the result, then the call
for it, then what that hands out. -/
theorem await_handedOver_ok {rest : Attempt α} {d : Deferred β} {handed : World}
    (h : env.run .patient depth (Deferred.pending rest).await.run w = .done (.ok a) mid)
    (hcall : env.run .immediate depth (f a) mid = .done d handed) :
    env.run .patient depth (Deferred.pending (rest >>= fun a => Deferred.driven (f a))).await.run w
        = env.run .patient depth d.await.run handed ∧
      env.events .patient depth
          (Deferred.pending (rest >>= fun a => Deferred.driven (f a))).await.run w
        = env.events .patient depth (Deferred.pending rest).await.run w
          ++ (env.events .immediate depth (f a) mid
            ++ env.events .patient depth d.await.run handed) := by
  obtain ⟨hpatient, hevents⟩ := patient_of_immediate hcall
  rw [run_await_pending] at h
  rw [run_await_pending, events_await_pending, events_await_pending, ExceptT.run_bind]
  refine ⟨(run_bind_done h).trans ?_, congrArg (List.cons _) ((events_bind_done h).trans ?_)⟩
  · change env.run .patient depth (Deferred.driven (f a)).run mid = _
    rw [Deferred.run_driven, run_bind_done hpatient]
  · change _ ++ env.events .patient depth (Deferred.driven (f a)).run mid = _
    rw [Deferred.run_driven, events_bind_done hpatient, hevents]
    rfl

/-- Behind a failure nothing is called. -/
theorem Settles.failed (h : env.Settles depth p w c (.error failure) after) :
    env.Settles depth (p >>= fun d => d.andThen f) w c (.error failure) after := by
  obtain ⟨d, handed, hcall, hawait, rfl⟩ := h
  cases d with
  | resolved a => cases hawait
  | rejected e =>
    cases hawait
    refine ⟨.rejected failure, after, run_bind_done hcall, rfl, ?_⟩
    rw [events_bind_done hcall]
    exact congrArg (Call.mk · _ _) (List.append_nil _).symm
  | pending rest =>
    obtain ⟨hrun, hevents⟩ := await_handedOver_error (f := f) hawait
    refine ⟨_, handed, run_bind_done hcall, hrun, ?_⟩
    rw [events_bind_done hcall, hevents]
    exact congrArg (Call.mk · _ _) (List.append_nil _).symm

/-- Behind a result comes the call for it. -/
theorem Settles.andThen (h : env.Settles depth p w c (.ok a) mid)
    (hnext : env.Settles depth (f a) mid next r after) :
    env.Settles depth (p >>= fun d => d.andThen f) w (c.followedBy next) r after := by
  obtain ⟨d, handed, hcall, hawait, rfl⟩ := h
  obtain ⟨d', handed', hcall', hawait', rfl⟩ := hnext
  cases d with
  | resolved b =>
    cases hawait
    refine ⟨d', handed', (run_bind_done hcall).trans hcall', hawait', ?_⟩
    rw [events_bind_done hcall]
    rfl
  | rejected e => cases hawait
  | pending rest =>
    obtain ⟨hrun, hevents⟩ := await_handedOver_ok hawait hcall'
    refine ⟨_, handed, run_bind_done hcall, hrun.trans hawait', ?_⟩
    rw [events_bind_done hcall, hevents]
    exact congrArg (Call.mk · _ _) (List.append_nil _).symm

/-- **The law of two calls**: the second one is made if and when the first has come to a result, and
it is made on the spot if that was there. -/
theorem Settles.split (hf : env.Punctual depth f)
    (h : env.Settles depth (p >>= fun d => d.andThen f) w c r after) :
    (∃ failure, r = .error failure ∧ env.Settles depth p w c (.error failure) after) ∨
      ∃ first a mid next, env.Settles depth p w first (.ok a) mid ∧
        env.Settles depth (f a) mid next r after ∧ c = first.followedBy next := by
  obtain ⟨d, handed, hcall, hawait, rfl⟩ := h
  obtain ⟨d', mid, hp, hnext⟩ := Program.runWith_bind_eq_done.mp hcall
  cases d' with
  | resolved a =>
    refine .inr ⟨_, a, mid, _, ⟨_, mid, hp, rfl, rfl⟩, ⟨d, handed, hnext, hawait, rfl⟩, ?_⟩
    rw [events_bind_done hp]
    rfl
  | rejected failure =>
    cases hnext
    cases hawait
    refine .inl ⟨failure, rfl, _, _, hp, rfl, ?_⟩
    rw [events_bind_done hp]
    exact congrArg (Call.mk · _ _) (List.append_nil _)
  | pending rest =>
    cases hnext
    have hrun := hawait
    rw [run_await_pending, ExceptT.run_bind] at hrun
    obtain ⟨r', settled, hrest, hlast⟩ := Program.runWith_bind_eq_done.mp hrun
    have hfirst := (run_await_pending rest handed).trans hrest
    cases r' with
    | error failure =>
      cases hlast
      refine .inl ⟨failure, rfl, _, handed, hp, hfirst, ?_⟩
      rw [events_bind_done hp, (await_handedOver_error hfirst).2]
      exact congrArg (Call.mk · _ _) (List.append_nil _)
    | ok a =>
      obtain ⟨d, called, hcall'⟩ := hf a settled
      obtain ⟨hsame, hevents⟩ := await_handedOver_ok hfirst hcall'
      refine .inr ⟨_, a, settled, _, ⟨_, handed, hp, hfirst, rfl⟩,
        ⟨d, called, hcall', hsame.symm.trans hawait, rfl⟩, ?_⟩
      rw [events_bind_done hp, hevents]
      exact congrArg (Call.mk · _ _) (List.append_nil _)

end Two

/-! ## Sequences -/

section Sequences
variable (env depth)

variable {env depth}
variable {f : α → Program (Deferred β)}

end Sequences

/-! ## Chains -/

section Chains
variable (env depth)

variable {env depth}

theorem Punctual.map {f : α → Program β} (h : env.Punctual depth f) :
    env.Punctual depth fun a => do return Deferred.resolved (← f a) := by
  intro a w
  obtain ⟨b, after, hb⟩ := h a w
  exact ⟨.resolved b, after, run_bind_done hb⟩

end Chains

/-! ## The laws -/

section Laws
variable (env depth)

variable {env depth}

end Laws

end Environment
end Stencil
