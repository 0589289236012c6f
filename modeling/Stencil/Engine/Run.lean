import Stencil.Engine.Environment
import Stencil.Render.Template

/-!
Running programs: answering what they ask, with an environment and the state that all renders
share.  A request for another render, a call or a look-up along a chain of templates is a run of
its own, one level deeper; the number of levels is bounded.  A run that may not wait ends where it
is asked to, and the state keeps what happened until then.
-/

namespace Stencil

/-- Whether a run may wait for values that are not there yet. -/
inductive Patience where
  | immediate
  | patient
  deriving DecidableEq, Repr

/-- How a run ends. -/
inductive Outcome (α : Type) where
  | done (a : α) (after : World)
  /-- It had to wait and may not. -/
  | pending (after : World)
  /-- It went deeper than it may. -/
  | tooDeep
  deriving Inhabited

namespace Outcome
variable {α β : Type}

/-- Change the end of a run that came to one. -/
def map (f : α → β) : Outcome α → Outcome β
  | .done a w => .done (f a) w
  | .pending w => .pending w
  | .tooDeep => .tooDeep

end Outcome

namespace Program
variable {α : Type}

/-- Run a program with given answers to its requests. -/
def runWith (answer : (r : Request) → World → Outcome r.Answer) : Program α → World → Outcome α
  | .done a, w => .done a w
  | .ask r next, w =>
    match answer r w with
    | .done a w => runWith answer (next a) w
    | .pending w => .pending w
    | .tooDeep => .tooDeep

end Program

/-- The way in which programs one level deeper are run. -/
abbrev Runner := {α : Type} → Program α → World → Outcome α

namespace Environment

/-- The program of a filter. -/
def filter (env : Environment) (name : String) (input : Value) (args : List Value) :
    Attempt Value :=
  match env.filters.find? name with
  | some f => f input args
  | none => throw ⟨.unknownFilter name, none⟩

/-- The program of a test. -/
def test (env : Environment) (name : String) (input : Value) (args : List Value) : Attempt Bool :=
  match env.tests.find? name with
  | some f => f input args
  | none => throw ⟨.unknownTest name, none⟩

/-- The program of a call. -/
def invoke (env : Environment) (callee : Value) (receiver : Option Value) (args : List Value) :
    Attempt Value :=
  match callee with
  | .hostFunction identity => env.callables identity receiver args
  | v => v.call args

/-- The program that loads a source. Without a loader there are no sources. -/
def load (env : Environment) (locator : String) : Attempt String :=
  match env.loader with
  | some load => load locator
  | none => throw ⟨.templateNotFound locator, none⟩

/-- Answer a request. Requests for other programs go to `deeper`. -/
def answerWith (env : Environment) (patience : Patience) (deeper : Runner) :
    (r : Request) → World → Outcome r.Answer
  | .fresh, w => .done w.next { w with next := w.next + 1 }
  | .wait, w =>
    match patience with
    | .immediate => .pending { w with waited := true }
    | .patient => .done () { w with waited := true }
  | .note line, w => .done () { w with notes := line :: w.notes }
  | .report report, w => .done () { w with reports := report :: w.reports }
  | .links t, w => .done (w.linksOf t) w
  | .setParent t parent, w => .done () (w.modifyLinks t fun l => { l with parent := some parent })
  | .claimImports t, w =>
    if w.isUnresolved t then .done true (w.modifyLinks t fun l => { l with claimed := true })
    else .done false w
  | .releaseImports t, w => .done () (w.modifyLinks t fun l => { l with claimed := false })
  | .importBlock t name b, w =>
    .done () (w.modifyLinks t fun l => { l with imported := l.imported.insert name b })
  | .stored name, w => .done (w.store.find? name) w
  | .store t, w => .done () (w.storeTemplate t)
  | .cached locator, w => .done (env.cachedTree w.cache locator) w
  | .writeCache locator tree, w =>
    match env.cacheTree w.cache locator tree with
    | .ok cache => .done (.ok ()) { w with cache }
    | .error failure => .done (.error failure) w
  | .load locator, w => deeper (env.load locator).run w
  | .filter name input args, w => deeper (env.filter name input args).run w
  | .test name input args, w => deeper (env.test name input args).run w
  | .function name args, w =>
    match env.functions.find? name with
    | some f => (deeper (f args).run w).map some
    | none => .done none w
  | .invoke callee receiver args, w => deeper (env.invoke callee receiver args).run w
  | .findBlock t overrides name, w => deeper (t.findBlock overrides name) w
  | .inheritedBlock t name, w => deeper (t.inheritedBlock name) w
  | .renderBlock b scope, w => deeper (b.render scope) w
  | .render t parent c overrides, w => deeper (t.render parent c overrides).run w
  | .mergeImports t c, w => deeper (t.mergeImports c).run w

/-- Answer a request by programs that go at most `depth` levels deep. -/
def answer (env : Environment) (patience : Patience) : (depth : Nat) →
    (r : Request) → World → Outcome r.Answer
  | 0 => env.answerWith patience fun _ _ => .tooDeep
  | depth + 1 => env.answerWith patience fun p w => p.runWith (answer env patience depth) w

/-- Run a program that may go `depth` levels deep. -/
def run {α : Type} (env : Environment) (patience : Patience) (depth : Nat) (p : Program α)
    (w : World) : Outcome α :=
  p.runWith (env.answer patience depth) w

end Environment
end Stencil
