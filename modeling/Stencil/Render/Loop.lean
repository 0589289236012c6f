import Stencil.Render.Expression

/-!
Loops.  The body sees the value, the key if the loop names one, and `loop`, which tells where the
loop stands.  A guard decides, before `loop` is renewed, whether the body runs for an entry;
because of it the number of runs is not known beforehand, so `loop` then says nothing about the
end.
-/

namespace Stencil

/-- How a loop names what it runs over. -/
structure LoopNames where
  key : Option String
  value : String
  deriving DecidableEq, Repr

namespace LoopNames

/-- The name is bound by the loop and only inside it. -/
def binds (names : LoopNames) (name : String) : Bool :=
  name = "loop" || name = names.value || some name = names.key

/-- Bind the value and the key of an entry. -/
def bindEntry (names : LoopNames) (entry : Value × Value) (c : Context) : Context :=
  let c := c.insert names.value entry.2
  match names.key with
  | some key => c.insert key entry.1
  | none => c

/-- The variables after the loop: those from before it, with the values that the loop gave them,
but for the names that the loop binds. -/
def leave (names : LoopNames) (outer inner : Context) : Context :=
  inner.foldl
    (fun c (name, v) => if names.binds name || !c.contains name then c else c.insert name v)
    outer

end LoopNames

/-- What `loop` holds in run number `index`, the first being number zero, of a loop over `length`
entries. -/
def loopEntries (index length : Nat) (guarded : Bool) (parent : Value) : Dict Value :=
  [("index", .ofNat (index + 1)), ("index0", .ofNat index), ("first", .bool (index == 0))]
    ++ (if guarded then [] else
      [("revindex", .ofNat (length - index)), ("revindex0", .ofNat (length - index - 1)),
        ("last", .bool (index + 1 == length)), ("length", .ofNat length)])
    ++ [("parent", parent)]

/-- A loop in progress. -/
structure Loop where
  names : LoopNames
  guard? : Option Expr
  /-- The number of entries. -/
  length : Nat
  /-- The variables from before the loop. -/
  parent : Value

namespace Loop
open Rendering

/-- The guard lets the current entry pass. -/
def passes (l : Loop) : Rendering Bool :=
  match l.guard? with
  | some condition => return (← Expr.evaluate condition).isTruthy
  | none => return true

/-- Run the body for each entry that passes. Gives the output and the number of runs; `index` and
`done` are those of the entries before. -/
def runs (l : Loop) (body : Rendering String) :
    List (Value × Value) → Nat → String → Rendering (String × Nat)
  | [], index, done => return (done, index)
  | entry :: rest, index, done => do
    modifyContext (l.names.bindEntry entry)
    if ← l.passes then
      let identity ← fresh
      setVariable "loop" (.object identity (loopEntries index l.length l.guard?.isSome l.parent))
      let text ← body
      l.runs body rest (index + 1) (done ++ text)
    else l.runs body rest index done

/-- Render a loop. Gives the output and the number of runs. -/
def render (names : LoopNames) (expression : Expr) (guard? : Option Expr)
    (body : Rendering String) : Rendering (String × Nat) := do
  let v ← Expr.evaluate expression
  let entries := v.entries?.getD []
  let outer ← context
  let parent := Value.object (← fresh) outer
  let r ← runs ⟨names, guard?, entries.length, parent⟩ body entries 0 ""
  modifyContext fun inner => names.leave outer inner
  return r

end Loop
end Stencil
