import Stencil.Engine.Run

/-!
# The events of a run

The events of a run are all requests that are made on the way, in the order in which they are made,
those of the programs one level deeper included: the calls of extensions and of the loader, what is
reported and noted, what is stored.  A request is either answered on the spot or by a program, its
*errand*, and both the answer and the events of an answer are read off the errand.
-/
namespace Stencil

namespace Outcome
variable {α β : Type}

@[simp] theorem map_id (o : Outcome α) : o.map id = o := by
  cases o <;> rfl

end Outcome

/-- A program that is run to answer a request, and the answer that its result stands for. -/
structure Errand (r : Request) where
  {Result : Type}
  program : Program Result
  answer : Result → r.Answer

namespace Program
variable {α : Type}

/-- The events of a program, given the answers to its requests and what happens inside them. -/
def eventsWith (answer : (r : Request) → World → Outcome r.Answer)
    (inside : Request → World → List Request) : Program α → World → List Request
  | .done _, _ => []
  | .ask r next, w =>
    r :: (inside r w ++ match answer r w with
      | .done a after => eventsWith answer inside (next a) after
      | .pending _ | .tooDeep => [])

end Program

namespace Environment
variable (env : Environment) (patience : Patience)

/-- The program that answers a request, unless it is answered on the spot. -/
def errand? : (r : Request) → Option (Errand r)
  | .load locator => some ⟨(env.load locator).run, id⟩
  | .filter name input args => some ⟨(env.filter name input args).run, id⟩
  | .test name input args => some ⟨(env.test name input args).run, id⟩
  | .function name args => (env.functions.find? name).map fun f => ⟨(f args).run, some⟩
  | .invoke callee receiver args => some ⟨(env.invoke callee receiver args).run, id⟩
  | .findBlock t overrides name => some ⟨t.findBlock overrides name, id⟩
  | .inheritedBlock t name => some ⟨t.inheritedBlock name, id⟩
  | .renderBlock b scope => some ⟨b.render scope, id⟩
  | .render t parent c overrides => some ⟨(t.render parent c overrides).run, id⟩
  | .mergeImports t c => some ⟨(t.mergeImports c).run, id⟩
  | _ => none

theorem answerWith_errand {r : Request} {e : Errand r} (h : env.errand? r = some e)
    (deeper : Runner) (w : World) :
    env.answerWith patience deeper r w = (deeper e.program w).map e.answer := by
  cases r with
  | function name args =>
    obtain ⟨f, hf, rfl⟩ := Option.map_eq_some_iff.mp h
    rw [answerWith, hf]
  | load | filter | test | invoke | findBlock | inheritedBlock | renderBlock | render
  | mergeImports =>
    obtain rfl := Option.some.inj h
    exact (Outcome.map_id _).symm
  | _ => cases h

theorem answerWith_onTheSpot {r : Request} (h : env.errand? r = none) (deeper deeper' : Runner)
    (w : World) :
    env.answerWith patience deeper r w = env.answerWith patience deeper' r w := by
  cases r with
  | function name args =>
    have hf : env.functions.find? name = none := Option.map_eq_none_iff.mp h
    rw [answerWith, answerWith, hf]
  | load | filter | test | invoke | findBlock | inheritedBlock | renderBlock | render
  | mergeImports => cases h
  | _ => rfl

variable (depth : Nat)

theorem answer_errand_zero {r : Request} {e : Errand r} (h : env.errand? r = some e) (w : World) :
    env.answer patience 0 r w = .tooDeep := by
  rw [answer, env.answerWith_errand patience h]
  rfl

/-- A request with an errand is answered by running that one level deeper. -/
theorem answer_errand_succ {r : Request} {e : Errand r} (h : env.errand? r = some e) (w : World) :
    env.answer patience (depth + 1) r w = (env.run patience depth e.program w).map e.answer := by
  rw [answer, env.answerWith_errand patience h]
  rfl

/-- What is answered on the spot is answered the same at all levels. -/
theorem answer_onTheSpot {r : Request} (h : env.errand? r = none) (w : World) :
    env.answer patience depth r w = env.answer patience 0 r w := by
  cases depth with
  | zero => rfl
  | succ depth => exact env.answerWith_onTheSpot patience h _ _ w

theorem answer_stored (name : String) (w : World) :
    env.answer patience depth (.stored name) w = .done (w.store.find? name) w :=
  env.answer_onTheSpot patience depth rfl w

theorem answer_cached (locator : String) (w : World) :
    env.answer patience depth (.cached locator) w = .done (env.cachedTree w.cache locator) w :=
  env.answer_onTheSpot patience depth rfl w

theorem answer_links (t : Template) (w : World) :
    env.answer patience depth (.links t) w = .done (w.linksOf t) w :=
  env.answer_onTheSpot patience depth rfl w

theorem answer_claimImports (t : Template) (w : World) :
    env.answer patience depth (.claimImports t) w
      = if w.isUnresolved t then .done true (w.modifyLinks t fun l => { l with claimed := true })
        else .done false w :=
  env.answer_onTheSpot patience depth rfl w

theorem answer_writeCache (locator : String) (tree : CompiledTree) (w : World) :
    env.answer patience depth (.writeCache locator tree) w
      = match env.cacheTree w.cache locator tree with
        | .ok cache => .done (.ok ()) { w with cache }
        | .error failure => .done (.error failure) w :=
  env.answer_onTheSpot patience depth rfl w

theorem answer_function_none {name : String} (h : env.functions.find? name = none)
    (args : List Value) (w : World) :
    env.answer patience depth (.function name args) w = .done none w := by
  have hspot : env.errand? (.function name args) = none := Option.map_eq_none_iff.mpr h
  rw [env.answer_onTheSpot patience depth hspot, answer, answerWith, h]

/-- The events inside the answer to a request. -/
def inside : Nat → Request → World → List Request
  | 0, _, _ => []
  | depth + 1, r, w =>
    match env.errand? r with
    | some e => e.program.eventsWith (env.answer patience depth) (inside depth) w
    | none => []

/-- The events of a program that may go `depth` levels deep. -/
def events {α : Type} (p : Program α) (w : World) : List Request :=
  p.eventsWith (env.answer patience depth) (env.inside patience depth) w

theorem inside_errand {r : Request} {e : Errand r} (h : env.errand? r = some e) (w : World) :
    env.inside patience (depth + 1) r w = env.events patience depth e.program w := by
  rw [inside, h]
  rfl

theorem inside_onTheSpot {r : Request} (h : env.errand? r = none) (w : World) :
    env.inside patience depth r w = [] := by
  cases depth with
  | zero => rfl
  | succ depth => rw [inside, h]

variable {α : Type} {r : Request} {next : r.Answer → Program α} {w after : World} {a : r.Answer}

theorem run_ask_done (h : env.answer patience depth r w = .done a after) :
    env.run patience depth (.ask r next) w = env.run patience depth (next a) after := by
  rw [run, Program.runWith, h]
  rfl

theorem run_ask_pending (h : env.answer patience depth r w = .pending after) :
    env.run patience depth (.ask r next) w = .pending after := by
  rw [run, Program.runWith, h]

theorem run_ask_tooDeep (h : env.answer patience depth r w = .tooDeep) :
    env.run patience depth (.ask r next) w = .tooDeep := by
  rw [run, Program.runWith, h]

/-- First the request, then what is inside its answer. -/
theorem events_ask (next : r.Answer → Program α) (w : World) :
    ∃ more, env.events patience depth (.ask r next) w
      = r :: (env.inside patience depth r w ++ more) := by
  rw [events, Program.eventsWith]
  exact ⟨_, rfl⟩

theorem events_ask_done (h : env.answer patience depth r w = .done a after) :
    env.events patience depth (.ask r next) w
      = r :: (env.inside patience depth r w ++ env.events patience depth (next a) after) := by
  rw [events, Program.eventsWith, h]
  rfl

theorem events_ask_pending (h : env.answer patience depth r w = .pending after) :
    env.events patience depth (.ask r next) w = r :: env.inside patience depth r w := by
  rw [events, Program.eventsWith, h, List.append_nil]

theorem events_ask_tooDeep (h : env.answer patience depth r w = .tooDeep) :
    env.events patience depth (.ask r next) w = r :: env.inside patience depth r w := by
  rw [events, Program.eventsWith, h, List.append_nil]

end Environment
end Stencil
