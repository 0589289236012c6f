import Stencil.Engine.Host
import Stencil.Engine.Sequence

/-!
What an extension of the host hands out: a result that is there, or one that is still to come.
Results that are there are gone on with in place, so that a render that meets no others is over
before anything was waited for.
-/

namespace Stencil

/-- A result that is there already, or what is left to do until it is. -/
inductive Deferred (α : Type) where
  | resolved (a : α)
  | rejected (failure : Failure)
  /-- Something has to be waited for. The rest comes behind it and may wait again. -/
  | pending (rest : Attempt α)

namespace Deferred
variable {α β : Type}

/-- What is known before anything is waited for. -/
def readiness : Deferred α → Readiness
  | .resolved _ => .resolved
  | .rejected _ => .rejected
  | .pending _ => .unknown

/-- The result, once it is there. -/
def await : Deferred α → Attempt α
  | .resolved a => return a
  | .rejected failure => throw failure
  | .pending rest => do
    Program.request .wait
    rest

/-- A call that hands out a deferred, and then the result of that. -/
def driven (call : Program (Deferred α)) : Attempt α := do
  let d ← call
  d.await

/-- The deferred of a program: the program is run until it has to wait. -/
def ofProgram : Program (Except Failure α) → Program (Deferred α)
  | .done (.ok a) => .done (.resolved a)
  | .done (.error failure) => .done (.rejected failure)
  | .ask .wait next => .done (.pending (ExceptT.mk (next ())))
  | .ask r next => .ask r fun answer => ofProgram (next answer)

/-- The deferred of a program that may fail. -/
def ofAttempt (p : Attempt α) : Program (Deferred α) := ofProgram p.run

/-- What `f` makes of the result, as soon as that is there. -/
def map (d : Deferred α) (f : α → Program β) : Program (Deferred β) :=
  match d with
  | .resolved a => return .resolved (← f a)
  | .rejected failure => return .rejected failure
  | .pending rest => return .pending do
    let a ← rest
    f a

/-- The deferred that `f` hands out for the result, called as soon as that is there. -/
def andThen (d : Deferred α) (f : α → Program (Deferred β)) : Program (Deferred β) :=
  match d with
  | .resolved a => f a
  | .rejected failure => return .rejected failure
  | .pending rest => return .pending do
    let a ← rest
    driven (f a)

/-- The results of `f` on the items, in order, behind those that `done` holds, the last first. The
items are gone through on the spot as long as their results are there. The first one whose result
is not hands over: the items behind it are left to what is handed out. -/
def sequenceFrom (f : α → Program (Deferred β)) (done : List β) :
    List α → Program (Deferred (List β))
  | [] => return .resolved done.reverse
  | a :: rest => do
    match ← f a with
    | .resolved b => sequenceFrom f (b :: done) rest
    | .rejected failure => return .rejected failure
    | .pending later => return .pending do
      let b ← later
      Attempt.sequenceFrom (fun a => driven (f a)) (b :: done) rest

/-- The results of `f` on the items, in order. -/
def sequence (f : α → Program (Deferred β)) (items : List α) : Program (Deferred (List β)) :=
  sequenceFrom f [] items

end Deferred
end Stencil
