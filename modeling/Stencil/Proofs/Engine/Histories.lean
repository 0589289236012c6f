import Stencil.Engine.Host
import Stencil.Proofs.Engine.Keeping

/-!
# Histories

Templates, their links, the store and the cache outlive the runs that have made them, and all later
runs see them.  A history is all that has happened to this state: runs of some environments, one
after the other, each from the state that the one before it has left, at its end or where it was
given up, and what the host has changed by itself between them.

A part of the state that can be read off the events of each run can be read off those of the whole
history (`History.reads`), and what each run keeps good is good at the end (`History.leaves`).
-/
namespace Stencil

namespace Outcome
variable {α : Type}

/-- The state that a run leaves, be it at its end or where it is given up. -/
def world? : Outcome α → Option World
  | .done _ w | .pending w => some w
  | .tooDeep => none

/-- The text that a render comes to. -/
def text? : Outcome (Except Failure String) → Option String
  | .done (.ok text) _ => some text
  | _ => none

/-- What a run without a failure comes to, and the state behind it. -/
def ok? : Outcome (Except Failure α) → Option (α × World)
  | .done (.ok a) w => some (a, w)
  | _ => none

theorem ok?_eq_some {o : Outcome (Except Failure α)} {found : α × World} :
    o.ok? = some found ↔ o = .done (.ok found.1) found.2 := by
  refine ⟨fun h => ?_, fun h => h ▸ rfl⟩
  unfold ok? at h
  split at h
  · cases h
    rfl
  · cases h

theorem All.of_world? {P : World → Prop} {o : Outcome α} (h : o.All P) {w : World}
    (hw : o.world? = some w) : P w := by
  cases o with
  | done a after | pending after =>
    obtain rfl := Option.some.inj hw
    exact h
  | tooDeep => cases hw

end Outcome

/-- What a host has its environments do, under any settings: compile a source, find the template of
a name, or render a template. -/
inductive Order : (α : Type) → Program α → Prop
  | compile (id : Option String) (source : String) (options : Options) :
    Order _ (Template.compile id source options).run
  | find (name : String) (base : Option String) (options : Options) :
    Order _ (Template.resolve name base options).run
  | render (t : Template) (c : Context) : Order _ (t.text c).run

theorem Order.meets {C : Contract} (P : C.Permits True True) (hscopes : ∀ scope, C.scopes scope)
    (hordinary : ∀ r : Request, r.Ordinary → C.asks r) {α : Type} {p : Program α}
    (h : Order α p) : p.Meets C fun _ => True := by
  cases h with
  | compile id source options =>
    exact (Template.meets_compile (fun r h => hordinary r h.ordinary) id source options).mono
      fun _ _ => trivial
  | find name base options => exact P.resolve name base options
  | render t c => exact Template.meets_render P hscopes t none c []

/-- The state `last` is left by runs of programs of a kind in environments of a kind, one after the
other, the first one from the state `start`, with the events that are listed.  Between two runs the
host may change everything but the part of the state that is `kept`. -/
inductive History {κ : Type} (hosts : Environment → Prop)
    (programs : (α : Type) → Program α → Prop) (kept : World → κ) (start : World) :
    List Request → World → Prop
  | nil : History hosts programs kept start [] start
  | change {events : List Request} {w last : World}
    (h : History hosts programs kept start events w) (hkept : kept last = kept w) :
    History hosts programs kept start events last
  | run {events : List Request} {w last : World}
    (h : History hosts programs kept start events w) {env : Environment} (henv : hosts env)
    (patience : Patience) (depth : Nat) {α : Type} {p : Program α} (hp : programs α p)
    (hlast : (env.run patience depth p w).world? = some last) :
    History hosts programs kept start (events ++ env.events patience depth p w) last

namespace History
variable {κ : Type} {hosts : Environment → Prop} {programs : (α : Type) → Program α → Prop}
  {kept : World → κ} {start last : World} {events : List Request}

/-- One run from the start. -/
theorem single {env : Environment} (henv : hosts env) {patience : Patience} {depth : Nat} {α : Type}
    {p : Program α} (hp : programs α p)
    (hlast : (env.run patience depth p start).world? = some last) :
    History hosts programs kept start (env.events patience depth p start) last := by
  have h : History hosts programs kept start ([] ++ env.events patience depth p start) last :=
    .run .nil henv patience depth hp hlast
  rwa [List.nil_append] at h

/-- **A history does to a part of the state what its events do to it**, one after the other, if each
run does. -/
theorem reads {σ : Type} (view : World → σ) (step : σ → Request → σ)
    (hkept : ∀ w w', kept w' = kept w → view w' = view w)
    (hrun : ∀ (env : Environment) (patience : Patience) (depth : Nat) (α : Type) (p : Program α)
      (w : World), (env.run patience depth p w).All fun after =>
        view after = (env.events patience depth p w).foldl step (view w))
    (h : History hosts programs kept start events last) :
    view last = events.foldl step (view start) := by
  induction h with
  | nil => rfl
  | change h hchange ih => exact (hkept _ _ hchange).trans ih
  | run h henv patience depth hp hlast ih =>
    rw [List.foldl_append, ← ih]
    exact (hrun _ patience depth _ _ _).of_world? hlast

/-- **A history leaves a good state** if each run does and no change of the host spoils it, as long
as everything that happens is heeded. -/
theorem leaves (good : World → Prop) (heed : Request → Prop)
    (hkept : ∀ w w', kept w' = kept w → good w → good w')
    (hrun : ∀ env, hosts env → ∀ patience depth α p, programs α p → ∀ w, good w →
      (∀ r ∈ env.events patience depth p w, heed r) → (env.run patience depth p w).All good)
    (h : History hosts programs kept start events last) (hheed : ∀ r ∈ events, heed r)
    (hstart : good start) : good last := by
  induction h with
  | nil => exact hstart
  | change h hchange ih => exact hkept _ _ hchange (ih hheed)
  | run h henv patience depth hp hlast ih =>
    obtain ⟨hbefore, hevents⟩ := List.forall_mem_append.mp hheed
    exact (hrun _ henv patience depth _ _ hp _ (ih hbefore) hevents).of_world? hlast

end History
end Stencil
