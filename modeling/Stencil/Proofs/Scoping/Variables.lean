import Mathlib.Order.Defs.Unbundled
import Stencil.Proofs.Scoping.Visits
import Stencil.Proofs.Scoping.Withs

/-!
# What renders do to their variables

What the steps of a render do to the scope adds up: if each of them leads only to scopes that a
reflexive and transitive relation holds of, so does the render (`Rendering.Moves`).  Expressions
have no steps of their own that change the scope; only a block that they call for does.  So they
leave the scope as it is if they call for none (`Expr.untouched_evaluate`).

Tags bind variables by name, and loops and `with` tags put back what was there before.  Either way
no name comes to be bound twice: if the variables have distinct names before a render, they have so
behind it (`Node.moves_render`, `Environment.distinguishes`).
-/
namespace Stencil
open Rendering

section
variable {answer : (r : Request) → World → Outcome r.Answer} {R : Scope → Scope → Prop}
variable {α β : Type}

/-! ## Steps that add up -/

namespace Rendering

/-- However the action ends, it leads from a scope only to scopes that are related to it. -/
def Moves (answer : (r : Request) → World → Outcome r.Answer) (R : Scope → Scope → Prop)
    (a : Rendering α) : Prop :=
  ∀ s w r s' after, (a s).runWith answer w = .done (r, s') after → R s s'

theorem moves_modify {f : Scope → Scope} (h : ∀ s, R s (f s)) :
    Moves answer R (modify f : Rendering Unit) := by
  rintro s w r s' after ⟨⟩
  exact h s

/-- A program that does not see the scope leaves it as it is. -/
theorem run_beside_done {p : Program α} {f : α → Except Failure β} {s s' : Scope}
    {w after : World} {r : Except Failure β}
    (h : (p >>= fun a => .done (f a, s)).runWith answer w = .done (r, s') after) : s' = s := by
  obtain ⟨_, _, -, ⟨⟩⟩ := Program.runWith_bind_eq_done.mp h
  rfl

section
variable [Std.Refl R]

theorem moves_settle (r : Except Failure α) : Moves answer R (settle r) := by
  rintro s w r s' after ⟨⟩
  exact refl_of R s

theorem moves_get : Moves answer R (get : Rendering Scope) := by
  rintro s w r s' after ⟨⟩
  exact refl_of R s

theorem moves_ofAttempt (p : Attempt α) : Moves answer R (ofAttempt p) := by
  intro s w r s' after hrun
  obtain rfl := run_beside_done (p := p.run) (f := id) hrun
  exact refl_of R _

theorem moves_ask (r : Request) : Moves answer R (ask r) := by
  intro s w result s' after hrun
  obtain rfl := run_beside_done (p := Program.request r) (f := .ok) hrun
  exact refl_of R _

end

section
variable [IsTrans Scope R]

theorem Moves.bind {a : Rendering α} {f : α → Rendering β} (h : Moves answer R a)
    (hf : ∀ v, Moves answer R (f v)) : Moves answer R (a >>= f) := by
  intro s w r s' after hrun
  rcases run_bind_iff.mp hrun with ⟨failure, hfirst, -⟩ | ⟨x, mid, between, hfirst, hnext⟩
  · exact h s w _ s' after hfirst
  · exact trans_of R (h s w _ mid between hfirst) (hf x mid between r s' after hnext)

end

theorem Moves.attempt {a : Rendering α} (h : Moves answer R a) :
    Moves answer R (Rendering.attempt a) := by
  intro s w r s' after hrun
  have hattempt : Rendering.attempt a s = a s >>= fun ended => .done (.ok ended.1, ended.2) := rfl
  rw [hattempt, Program.runWith_bind_eq_done] at hrun
  obtain ⟨⟨ended, mid⟩, _, hfirst, ⟨⟩⟩ := hrun
  exact h s w ended mid _ hfirst

/-! ## Steps of an expression -/

section
variable [Std.Refl R] [IsTrans Scope R]

theorem moves_template : Moves answer R template := moves_get.bind fun _ => moves_settle (.ok _)

theorem moves_context : Moves answer R context := moves_get.bind fun _ => moves_settle (.ok _)

mutual

theorem moves_findTemplate (v : Value) : Moves answer R (findTemplate v) := by
  cases v with
  | array identity candidates =>
    rw [findTemplate]
    exact moves_firstTemplate _ candidates
  | _ => exact moves_template.bind fun t => moves_ofAttempt _
termination_by structural v

theorem moves_firstTemplate (named : Value) (candidates : List Value) :
    Moves answer R (firstTemplate named candidates) := by
  cases candidates with
  | nil => exact moves_settle (.error _)
  | cons v rest =>
    rw [firstTemplate]
    refine (moves_findTemplate v).attempt.bind fun found => ?_
    split
    · exact moves_settle (.ok _)
    · split
      · exact moves_firstTemplate named rest
      · exact moves_settle (.error _)
termination_by structural candidates

end

theorem moves_renderTemplate (t : Template) (parent : Option Template) (c : Context) :
    Moves answer R (renderTemplate t parent c) := (moves_ask _).bind fun r => moves_settle r

theorem moves_includeFunction (args : List Value) : Moves answer R (includeFunction args) := by
  refine (moves_findTemplate _).attempt.bind fun found => ?_
  split
  · split
    · exact moves_settle (.ok _)
    · exact moves_settle (.error _)
  · next t =>
    have hrender (c : Context) :
        Moves answer R (do return Value.safe (← renderTemplate t none c)) :=
      (moves_renderTemplate t none c).bind fun _ => moves_settle (.ok _)
    have hbindings (bindings : Value) (start : Context) : Moves answer R (do
        let c ← if bindings.isNone then pure start else settle (mergeObject start bindings)
        return Value.safe (← renderTemplate t none c)) := by
      dsimp only
      split
      · exact (moves_settle (.ok _)).bind hrender
      · exact (moves_settle _).bind hrender
    dsimp only
    split
    · exact moves_context.bind (hbindings _)
    · exact (moves_settle (.ok _)).bind (hbindings _)

theorem moves_renderParent (h : ∀ b, Moves answer R (renderBlock b)) :
    Moves answer R renderParent := by
  refine moves_get.bind fun scope => ?_
  split
  · exact moves_settle (.error _)
  · refine (moves_ask _).bind fun found => ?_
    split
    · exact h _
    · exact moves_settle (.error _)

theorem moves_findBlock (name : String) : Moves answer R (findBlock name) :=
  moves_get.bind fun _ => moves_ask _

theorem moves_renderNamedBlock (h : ∀ b, Moves answer R (renderBlock b)) (name : String) :
    Moves answer R (renderNamedBlock name) := by
  refine (moves_findBlock name).bind fun found => ?_
  split
  · exact h _
  · exact moves_settle (.ok _)

/-- Where an expression leads is where the blocks lead that it calls for. -/
def movesRules {calls : Prop} (h : calls → ∀ b, Moves answer R (renderBlock b)) : Rules calls where
  Holds a := Moves answer R a
  settle := moves_settle
  bind := Moves.bind
  attempt := Moves.attempt
  get := moves_get
  ask r _ := moves_ask r
  renderParent hcalls := moves_renderParent (h hcalls)
  renderNamedBlock hcalls := moves_renderNamedBlock (h hcalls)
  includeFunction := moves_includeFunction

end
end Rendering

/-- An expression that calls for no blocks leaves the scope as it is. -/
theorem Expr.untouched_evaluate {e : Expr} (h : Expr.tokensWithin False e) {s s' : Scope}
    {w after : World} {r : Except Failure Value}
    (hrun : (Expr.evaluate e s).runWith answer w = .done (r, s') after) : s' = s :=
  (Expr.holds_evaluate (R := movesRules (R := Eq) False.elim) h s w r s' after hrun).symm

/-! ## Distinct names -/

/-- If the names of the variables were distinct, they still are. -/
def Scope.StaysDistinct (s after : Scope) : Prop := s.context.Distinct → after.context.Distinct

namespace Scope.StaysDistinct

instance : Std.Refl StaysDistinct := ⟨fun _ h => h⟩

instance : IsTrans Scope StaysDistinct := ⟨fun _ _ _ h h' hs => h' (h hs)⟩

end Scope.StaysDistinct

open Scope (StaysDistinct)

/-- A block that is rendered keeps names distinct. -/
def Distinguishes (answer : (r : Request) → World → Outcome r.Answer) : Prop :=
  ∀ (b : Block) (s : Scope) (w : World) (r : BlockResult) (after : World), s.context.Distinct →
    answer (.renderBlock b s) w = .done r after → r.context.Distinct

namespace LoopNames

theorem distinct_bindEntry (names : LoopNames) (entry : Value × Value) {c : Context}
    (h : c.Distinct) : (names.bindEntry entry c).Distinct := by
  unfold bindEntry
  split
  · exact (h.insert _ _).insert _ _
  · exact h.insert _ _

theorem distinct_leave (names : LoopNames) {outer : Context} (h : outer.Distinct)
    (inner : Context) : (names.leave outer inner).Distinct := by
  unfold leave
  induction inner generalizing outer with
  | nil => exact h
  | cons entry rest ih =>
    obtain ⟨name, v⟩ := entry
    rw [List.foldl_cons]
    refine ih ?_
    dsimp only
    split
    · exact h
    · exact h.insert name v

end LoopNames

namespace Rendering

theorem moves_modifyContext {f : Context → Context} (h : ∀ c, c.Distinct → (f c).Distinct) :
    Moves answer StaysDistinct (modifyContext f) := moves_modify fun s hs => h s.context hs

theorem moves_setVariable (name : String) (v : Value) :
    Moves answer StaysDistinct (setVariable name v) :=
  moves_modifyContext fun _ h => h.insert name v

theorem moves_outputText (v : Value) : Moves answer StaysDistinct (outputText v) :=
  moves_get.bind fun _ => moves_settle (.ok _)

theorem moves_importMacros (source : Template) (names : List (String × String)) :
    Moves answer StaysDistinct (importMacros source names) := by
  induction names with
  | nil => exact moves_settle (.ok _)
  | cons entry rest ih =>
    rw [importMacros]
    split
    · exact (moves_setVariable _ _).bind fun _ => ih
    · exact moves_settle (.error _)

theorem moves_endList (done : String) (failure : Failure) :
    Moves answer StaysDistinct (endList done failure) := by
  refine moves_template.bind fun t => ?_
  split
  · exact moves_settle (.error _)
  · exact (moves_ask _).bind fun _ => moves_settle (.ok _)

theorem moves_withAutoescape (strategy : Autoescape) {body : Rendering String}
    (h : Moves answer StaysDistinct body) :
    Moves answer StaysDistinct (withAutoescape strategy body) := by
  intro s w r s' after hrun
  obtain ⟨mid, hbody, rfl⟩ := run_restoring_done (s := { s with autoescape := strategy }) hrun
  exact h { s with autoescape := strategy } w r mid after hbody

variable (hdistinct : Distinguishes answer)
include hdistinct

theorem moves_renderBlock (b : Block) : Moves answer StaysDistinct (renderBlock b) := by
  intro s w r s' after hrun hs
  have hask : renderBlock b s = .ask (.renderBlock b s) fun r =>
      .done (r.result, { s with context := r.context, parent := r.parent }) := rfl
  rw [hask, Program.runWith] at hrun
  split at hrun
  · next result between hanswer =>
    cases hrun
    exact hdistinct b s w result _ hs hanswer
  · cases hrun
  · cases hrun

theorem moves_evaluateWith (seed : List Value) (e : Expr) :
    Moves answer StaysDistinct (Expr.evaluateWith seed e) :=
  Expr.holds_evaluateWith (R := movesRules fun _ : True => moves_renderBlock hdistinct)
    (Expr.tokensWithin_of trivial e) seed

theorem moves_evaluate (e : Expr) : Moves answer StaysDistinct (Expr.evaluate e) :=
  moves_evaluateWith hdistinct [] e

theorem moves_inclusionTemplate (i : Inclusion) :
    Moves answer StaysDistinct (inclusionTemplate i) := by
  refine (moves_evaluate hdistinct _).bind fun target =>
    (moves_findTemplate target).attempt.bind fun found => ?_
  split
  · exact moves_settle (.ok _)
  · split
    · exact moves_settle (.ok _)
    · exact moves_settle (.error _)

theorem moves_inclusionContext (i : Inclusion) :
    Moves answer StaysDistinct (inclusionContext i) :=
  holds_inclusionContext (R := movesRules fun _ : True => moves_renderBlock hdistinct)
    ⟨Expr.tokensWithin_of trivial _, optionWithin_of trivial _⟩

theorem moves_includeTemplate (i : Inclusion) :
    Moves answer StaysDistinct (includeTemplate i) := by
  refine (moves_inclusionTemplate hdistinct i).bind fun found => ?_
  split
  · exact (moves_inclusionContext hdistinct i).bind fun c => moves_renderTemplate _ _ c
  · exact moves_settle (.ok _)

theorem moves_embedTemplate (i : Inclusion) (nodes : List Node) :
    Moves answer StaysDistinct (embedTemplate i nodes) := by
  refine (moves_inclusionTemplate hdistinct i).bind fun found => ?_
  split
  · exact moves_template.bind fun outer => (moves_ask _).bind fun _ =>
      (moves_inclusionContext hdistinct i).bind fun c => moves_renderTemplate _ _ c
  · exact moves_settle (.ok _)

theorem moves_macroSource (e : Expr) : Moves answer StaysDistinct (macroSource e) := by
  unfold macroSource
  split
  · exact moves_template
  · exact (moves_evaluate hdistinct e).bind fun v => moves_findTemplate v

theorem moves_blockInPlace (name : String) :
    Moves answer StaysDistinct (blockInPlace name) := by
  refine moves_get.bind fun scope => ?_
  split
  · exact moves_settle (.ok _)
  · refine (moves_findBlock name).bind fun found => ?_
    split
    · exact (moves_renderBlock hdistinct _).bind fun _ => moves_settle (.ok _)
    · exact moves_settle (.ok _)

theorem moves_bindings (e : Option Expr) : Moves answer StaysDistinct (bindings e) := by
  cases e with
  | none => exact moves_settle (.ok none)
  | some e => exact (moves_evaluate hdistinct e).bind fun v => moves_settle (.ok (some v))

/-- The variables from before the body come back behind it, or those that it was to begin with. -/
theorem moves_withVariables (e : Option Expr) (only : Bool) (body : Rendering String) :
    Moves answer StaysDistinct (withVariables e only body) := by
  intro s w r s' after hrun hs
  rcases run_withVariables_done hrun with
    ⟨failure, hfailed, -⟩ | ⟨v, before, between, hvalue, hrest⟩
  · exact moves_bindings hdistinct e s w _ s' after hfailed hs
  have hbefore := moves_bindings hdistinct e s w _ before between hvalue hs
  rcases hrest with ⟨failure, -, -, rfl, -⟩ | ⟨c, mid, -, -, rfl⟩
  · show (keptContext only before.context).Distinct
    unfold keptContext
    split
    · exact Dict.distinct_nil
    · exact hbefore
  · exact hbefore

end Rendering

namespace Loop
variable (hdistinct : Distinguishes answer) {body : Rendering String}
  (h : Moves answer StaysDistinct body)
include hdistinct

theorem moves_passes (l : Loop) : Moves answer StaysDistinct l.passes :=
  holds_passes (R := movesRules fun _ : True => moves_renderBlock hdistinct)
    (optionWithin_of trivial _)

include h

theorem moves_runs (l : Loop) (entries : List (Value × Value)) (index : Nat) (done : String) :
    Moves answer StaysDistinct (l.runs body entries index done) := by
  induction entries generalizing index done with
  | nil => exact moves_settle (.ok _)
  | cons entry rest ih =>
    rw [runs]
    refine (moves_modifyContext fun c => l.names.distinct_bindEntry entry).bind fun _ =>
      (moves_passes hdistinct l).bind fun passed => ?_
    split
    · exact (moves_ask .fresh).bind fun _ => (moves_setVariable _ _).bind fun _ =>
        h.bind fun _ => ih _ _
    · exact ih _ _

/-- The variables from before the loop come back behind it. -/
theorem moves_render (names : LoopNames) (e : Expr) (guard? : Option Expr) :
    Moves answer StaysDistinct (render names e guard? body) := by
  intro s w r s' after hrun hs
  rcases run_render_done hrun with
    ⟨failure, hfailed, -⟩ | ⟨v, before, between, identity, start, hvalue, -, hrest⟩
  · exact moves_evaluate hdistinct e s w _ s' after hfailed hs
  have hbefore := moves_evaluate hdistinct e s w _ before between hvalue hs
  rcases hrest with ⟨failure, hruns, -⟩ | ⟨result, inner, -, -, rfl⟩
  · exact moves_runs hdistinct h _ _ _ _ before start _ s' after hruns hbefore
  · exact names.distinct_leave hbefore inner.context

end Loop

namespace Tag
variable (hdistinct : Distinguishes answer) {body : Rendering String}
  (h : Moves answer StaysDistinct body)
include hdistinct h

omit hdistinct in
theorem moves_closed : Moves answer StaysDistinct (render.closed body) :=
  h.bind fun _ => moves_settle (.ok _)

theorem moves_branchOn (e : Expr) : Moves answer StaysDistinct (render.branchOn body e) := by
  refine (moves_evaluate hdistinct e).bind fun v => ?_
  split
  · exact h.bind fun _ => moves_settle (.ok _)
  · exact moves_settle (.ok _)

theorem moves_render (active : Bool) (nodes : List Node) (tag : Tag) :
    Moves answer StaysDistinct (tag.render active nodes body) := by
  have hvalue := moves_evaluate hdistinct
  cases tag with
  | branch condition => exact moves_branchOn hdistinct h condition
  | elseBranch condition =>
    cases active with
    | true => exact moves_branchOn hdistinct h condition
    | false => exact moves_settle (.ok _)
  | otherwise =>
    cases active with
    | true => exact moves_closed h
    | false => exact moves_settle (.ok _)
  | loop key value expression guard? =>
    exact (Loop.moves_render hdistinct h _ expression guard?).bind fun _ => moves_settle (.ok _)
  | assign name expression =>
    exact moves_closed ((hvalue expression).bind fun v =>
      (moves_setVariable name v).bind fun _ => moves_settle (.ok _))
  | capture name =>
    exact moves_closed (h.bind fun text => (moves_setVariable name (.safe text)).bind fun _ =>
      moves_settle (.ok _))
  | block name expression => exact moves_closed (moves_blockInPlace hdistinct name)
  | inherits expression =>
    exact moves_closed ((hvalue expression).bind fun v => (moves_findTemplate v).bind fun t =>
      (moves_modify fun s hs => hs).bind fun _ => moves_settle (.ok _))
  | uses expression renames | macroDef name params => exact moves_settle (.ok _)
  | includes inclusion => exact moves_closed (moves_includeTemplate hdistinct inclusion)
  | embeds inclusion => exact moves_closed (moves_embedTemplate hdistinct inclusion nodes)
  | imports expression name =>
    exact moves_closed ((moves_macroSource hdistinct expression).bind fun source =>
      (moves_ask .fresh).bind fun _ => (moves_setVariable name _).bind fun _ =>
        moves_settle (.ok _))
  | importsNames expression names =>
    exact moves_closed ((moves_macroSource hdistinct expression).bind fun source =>
      (moves_importMacros source names).bind fun _ => moves_settle (.ok _))
  | «scoped» expression only =>
    exact moves_closed (moves_withVariables hdistinct expression only body)
  | spaceless => exact moves_closed (h.bind fun _ => moves_settle (.ok _))
  | apply filters =>
    exact moves_closed (h.bind fun text =>
      (moves_evaluateWith hdistinct [.safe text] filters).bind fun _ => moves_settle (.ok _))
  | autoescape strategy => exact moves_closed (moves_withAutoescape strategy h)
  | evaluate expression =>
    exact moves_closed ((hvalue expression).bind fun _ => moves_settle (.ok _))
  | deprecated message =>
    exact moves_closed ((hvalue message).bind fun v => moves_template.bind fun t =>
      (moves_ask _).bind fun _ => moves_settle (.ok _))

end Tag

namespace Node

mutual

theorem moves_render (hdistinct : Distinguishes answer) (n : Node) (active : Bool) :
    Moves answer StaysDistinct (render active n) := by
  cases n with
  | raw value => exact moves_settle (.ok _)
  | output e =>
    exact (moves_evaluate hdistinct e).bind fun v => (moves_outputText v).bind fun _ =>
      moves_settle (.ok _)
  | logic tag nodes =>
    exact Tag.moves_render hdistinct (moves_renderAll hdistinct nodes false "") active nodes tag
termination_by structural n

theorem moves_renderAll (hdistinct : Distinguishes answer) (nodes : List Node) (active : Bool)
    (done : String) : Moves answer StaysDistinct (renderAll active done nodes) := by
  cases nodes with
  | nil => exact moves_settle (.ok _)
  | cons n rest =>
    rw [renderAll]
    refine (moves_render hdistinct n active).attempt.bind fun ended => ?_
    split
    · exact moves_renderAll hdistinct rest _ _
    · exact moves_endList _ _
termination_by structural nodes

end

end Node

theorem Block.moves_renderBody (hdistinct : Distinguishes answer) (b : Block) :
    Moves answer StaysDistinct b.renderBody := by
  unfold renderBody
  split
  · exact (Node.moves_renderAll hdistinct _ _ _).bind fun _ => moves_settle (.ok _)
  · exact (moves_evaluate hdistinct _).bind fun v => (moves_outputText v).bind fun _ =>
      moves_settle (.ok _)

theorem Block.moves_inPlace (hdistinct : Distinguishes answer) (b : Block) :
    Moves answer StaysDistinct b.inPlace := by
  intro s w r s' after hrun
  obtain ⟨mid, hbody, rfl⟩ := Block.run_inPlace_done hrun
  exact Block.moves_renderBody hdistinct b (s.enter b) w r mid after hbody

end

namespace Environment
variable (env : Environment) (patience : Patience)

/-- Blocks keep names distinct: each is rendered in a run of one level less. -/
theorem distinguishes (depth : Nat) : Distinguishes (env.answer patience depth) := by
  induction depth with
  | zero =>
    intro b s w r after _ hanswer
    cases hanswer
  | succ depth ih =>
    intro b s w r after hs hanswer
    rw [answer_renderBlock] at hanswer
    obtain ⟨⟨result, s'⟩, hrun, rfl⟩ := Outcome.map_eq_done hanswer
    exact Block.moves_inPlace ih b s w result s' after hrun hs

end Environment
end Stencil
