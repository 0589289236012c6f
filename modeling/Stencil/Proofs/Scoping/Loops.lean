import Stencil.Proofs.Engine.Histories
import Stencil.Proofs.Scoping.Variables

/-!
# Loops and their variables

A loop that ends well goes through all entries, tells the body in each run where it stands, and puts
back what it has bound (`Environment.visits_of_loop`).  It puts back nothing when it fails.  Where
failures are reported a body does not fail, being a list of nodes, but a guard may, and then the
value, the key and `loop` stay bound behind the loop (`Environment.context_behind_failed_loop`,
`Environment.text_leaking`).  If that happens to a loop inside another one, the body of the outer
loop sees the `loop` of the inner one from there on (`Environment.text_telling`).
-/
namespace Stencil
open Rendering

/-! ## Behind a loop -/

namespace LoopNames
variable (names : LoopNames)

theorem leave_cons (outer rest : Context) (name : String) (v : Value) :
    names.leave outer ((name, v) :: rest)
      = names.leave (if names.binds name || !outer.contains name then outer
          else outer.insert name v) rest := rfl

/-- The names behind a loop are those before it, in the same order. -/
theorem keys_leave (outer inner : Context) : (names.leave outer inner).keys = outer.keys := by
  induction inner generalizing outer with
  | nil => rfl
  | cons entry rest ih =>
    obtain ⟨name, v⟩ := entry
    rw [leave_cons, ih]
    split
    · rfl
    · next hkept =>
      simp only [Bool.or_eq_true, Bool.not_eq_true', not_or, Bool.not_eq_false] at hkept
      exact Dict.keys_insert hkept.2 v

/-- The values behind a loop: of the names that it binds and of those that it found, the old ones,
and of the others the ones that it gave them. -/
theorem find?_leave {inner : Context} (h : inner.Distinct) (outer : Context) (name : String) :
    (names.leave outer inner).find? name
      = if names.binds name || !outer.contains name then outer.find? name
        else (inner.find? name).or (outer.find? name) := by
  induction inner generalizing outer with
  | nil =>
    rw [Dict.find?, Option.none_or, ite_self]
    rfl
  | cons entry rest ih =>
    obtain ⟨key, v⟩ := entry
    obtain ⟨hnew, hrest⟩ := List.nodup_cons.mp h
    rw [leave_cons, ih hrest, Dict.find?]
    by_cases hkept : (names.binds key || !outer.contains key) = true
    · rw [if_pos hkept]
      by_cases hname : key = name
      · subst hname
        rw [if_pos hkept, if_pos hkept]
      · rw [if_neg hname]
    · have hcontains : outer.contains key = true := by
        simp only [Bool.or_eq_true, Bool.not_eq_true', not_or, Bool.not_eq_false] at hkept
        exact hkept.2
      rw [if_neg hkept, Dict.contains_insert hcontains, Dict.find?_insert]
      by_cases hname : key = name
      · subst hname
        rw [if_neg hkept, if_neg hkept, if_pos rfl, if_pos rfl, Dict.find?_eq_none hnew,
          Option.none_or, Option.some_or]
      · rw [if_neg hname, if_neg hname]

end LoopNames

/-! ## What the body sees of the loop -/

namespace Loop

/-- What `loop` tells in run number `k`, the first being number zero, of a loop over `n` entries.
Under a guard it tells nothing about the end. -/
structure Shows (loop : Dict Value) (k n : Nat) (guarded : Bool) (parent : Value) : Prop where
  index0 : loop.find? "index0" = some (.ofNat k)
  index : loop.find? "index" = some (.ofNat (k + 1))
  first : loop.find? "first" = some (.bool (k == 0))
  parent : loop.find? "parent" = some parent
  length : loop.find? "length" = if guarded then none else some (.ofNat n)
  revindex : loop.find? "revindex" = if guarded then none else some (.ofNat (n - k))
  revindex0 : loop.find? "revindex0" = if guarded then none else some (.ofNat (n - k - 1))
  last : loop.find? "last" = if guarded then none else some (.bool (k + 1 == n))

theorem shows_loopEntries (k n : Nat) (guarded : Bool) (parent : Value) :
    Shows (loopEntries k n guarded parent) k n guarded parent := by
  cases guarded <;> exact ⟨rfl, rfl, rfl, rfl, rfl, rfl, rfl, rfl⟩

end Loop

/-! ## What comes behind a loop -/

namespace Node
variable {answer : (r : Request) → World → Outcome r.Answer}

/-- An `else` right behind an open chain is rendered. -/
theorem renderAll_otherwise_open (done : String) (orElse rest : List Node) :
    renderAll true done (.logic .otherwise orElse :: rest) = (do
      match ← attempt (renderAll false "" orElse) with
      | .ok text => renderAll false (done ++ text) rest
      | .error failure => endList done failure) := by
  funext s
  have hnode : render true (.logic .otherwise orElse)
      = Tag.render.closed (renderAll false "" orElse) := rfl
  rw [renderAll, hnode, attempt_bind, attempt_bind]
  refine (Program.bind_assoc (renderAll false "" orElse s) _ _).trans (congrArg _ (funext ?_))
  rintro ⟨failure | text, mid⟩ <;> rfl

/-- An `else` behind a closed chain is passed over. -/
theorem renderAll_otherwise_closed (done : String) (orElse rest : List Node) :
    renderAll false done (.logic .otherwise orElse :: rest) = renderAll false done rest := by
  have hnode : renderAll false done (.logic .otherwise orElse :: rest)
      = renderAll false (done ++ "") rest := rfl
  rw [hnode, String.append_empty]

theorem rethrow_of_endList {done : String} {failure failure' : Failure} {s s' : Scope}
    {w after : World}
    (h : (endList done failure s).runWith answer w = .done (.error failure', s') after) :
    s.template.options.rethrow = true ∨ failure'.isPending = true := by
  change ((if s.template.options.rethrow || failure.isPending then
      throw (failure.inTemplate s.template.id)
    else do
      let _ ← ask (.report (.renderFailed s.template.id failure))
      return done : Rendering String) s).runWith answer w = _ at h
  split at h
  · next hpass =>
    cases h
    have hpending : (failure.inTemplate s.template.id).isPending = failure.isPending := by
      unfold Failure.inTemplate
      split <;> rfl
    rwa [hpending, ← Bool.or_eq_true]
  · rcases run_bind_iff.mp h with ⟨_, hask, -⟩ | ⟨_, _, _, _, hdone⟩
    · rw [show ask _ s = .ask (.report (.renderFailed s.template.id failure))
        fun a => .done (Except.ok a, s) from rfl, Program.runWith] at hask
      split at hask <;> cases hask
    · cases hdone

/-- A list of nodes fails only where failures are passed on, or for a value that may not be waited
for. -/
theorem rethrow_of_error {inBlock : Block → Listing} (hlisted : Listed answer inBlock)
    {nodes : List Node} {active : Bool} {done : String} {s s' : Scope} {w after : World}
    {failure : Failure}
    (h : (renderAll active done nodes s).runWith answer w = .done (.error failure, s') after) :
    s.template.options.rethrow = true ∨ failure.isPending = true := by
  induction nodes generalizing active done s w with
  | nil => cases h
  | cons n rest ih =>
    rw [renderAll] at h
    obtain ⟨ended, mid, between, hrun, hnext⟩ := run_bind_attempt_iff.mp h
    have htemplate := (frames_render hlisted n active s w _ _ _ hrun).template
    rw [← htemplate]
    cases ended with
    | error => exact rethrow_of_endList hnext
    | ok => exact ih hnext

end Node

namespace Loop
variable {answer : (r : Request) → World → Outcome r.Answer}

/-- Only a guard can keep a visit from being decided. -/
theorem passes_error {l : Loop} {s s' : Scope} {w after : World} {failure : Failure}
    (h : (l.passes s).runWith answer w = .done (.error failure, s') after) :
    ∃ condition, l.guard? = some condition ∧
      (Expr.evaluate condition s).runWith answer w = .done (.error failure, s') after := by
  cases hguard : l.guard? with
  | none =>
    simp only [passes, hguard] at h
    cases h
  | some condition =>
    simp only [passes, hguard] at h
    rcases run_bind_iff.mp h with ⟨_, hfailed, hfailure⟩ | ⟨_, _, _, -, hend⟩
    · obtain rfl := Except.error.inj hfailure
      exact ⟨condition, rfl, hfailed⟩
    · cases hend

theorem frames_passes {inBlock : Block → Listing} (hlisted : Listed answer inBlock) (l : Loop) :
    Frames answer l.passes (l.passes.extended answer inBlock) :=
  frames_of_meets hlisted fun _ P => meets_passes P (optionWithin_of trivial _)

/-- The visits of a loop leave the template as it is. -/
theorem Visits.template_eq {inBlock : Block → Listing} (hlisted : Listed answer inBlock)
    {nodes : List Node} {l : Loop}
    {entries : List (Value × Value)} {index : Nat} {s after : Scope} {w last : World}
    {visits : List Visit}
    (h : Visits answer (Node.renderAll false "" nodes) l entries index s w visits after last) :
    after.template = s.template := by
  have hpasses := frames_passes hlisted l
  induction h with
  | done => rfl
  | passedOver hguard _ ih => exact ih.trans (hpasses _ _ _ _ _ hguard).template
  | kept hguard _ hbody _ ih =>
    have hnodes := Node.frames_renderAll hlisted nodes false "" _ _ _ _ _ hbody
    exact ih.trans (hnodes.template.trans (hpasses _ _ _ _ _ hguard).template)

end Loop

theorem LoopNames.find?_bindEntry (names : LoopNames) (entry : Value × Value) (c : Context)
    (name : String) :
    (names.bindEntry entry c).find? name
      = if some name = names.key then some entry.1
        else if name = names.value then some entry.2 else c.find? name := by
  unfold bindEntry
  cases names.key with
  | none =>
    rw [if_neg nofun, Dict.find?_insert]
    simp only [eq_comm]
  | some key =>
    rw [Dict.find?_insert, Dict.find?_insert]
    simp only [Option.some.injEq, eq_comm]

namespace Environment
variable (env : Environment) (patience : Patience) (depth : Nat)

theorem answer_fresh {w after : World} {identity : Nat}
    (h : env.answer patience depth .fresh w = .done identity after) :
    identity = w.next ∧ after = { w with next := w.next + 1 } := by
  cases depth with
  | zero | succ depth =>
    cases h
    exact ⟨rfl, rfl⟩

/-- **What a loop does.**  If a loop ends well, it has visited the entries of its value once each
and in their order.  The guard of each saw the variables of the entry over what the visit before had
left; the text is that of the runs of the body, one after the other, and in each run the body began
with a `loop` that tells its number, and without a guard also how many there are to come.  An `else`
right behind is rendered if there was no run.  The names behind the loop are those behind its
expression, in the same order.  Those that the loop binds have the values that they had there; the
others have the values that the last visit has left, or those from before if they got lost in one.
-/
theorem visits_of_loop (active : Bool) (key : Option String) (value : String) (e : Expr)
    (guard? : Option Expr) (nodes : List Node) {s s' : Scope} {w after : World} {text : String}
    {isOpen : Bool} (hdistinct : s.context.Distinct)
    (h : env.run patience depth (Node.render active (.logic (.loop key value e guard?) nodes) s) w
      = .done (.ok (text, isOpen), s') after) :
    ∃ v before between visits inner,
      env.run patience depth (Expr.evaluate e s) w = .done (.ok v, before) between ∧
      Loop.Visits (env.answer patience depth) (Node.renderAll false "" nodes)
        (.ofValue ⟨key, value⟩ guard? v between.next before.context) (v.entries?.getD []) 0 before
        { between with next := between.next + 1 } visits inner after ∧
      visits.map Loop.Visit.entry = v.entries?.getD [] ∧
      (∀ visit ∈ visits, ∃ c : Context, ∀ name, visit.asked.context.find? name
        = if some name = key then some visit.entry.1
          else if name = value then some visit.entry.2 else c.find? name) ∧
      text = Loop.text visits ∧
      (∀ k start out, (Loop.kept visits)[k]? = some (start, out) →
        k < (v.entries?.getD []).length ∧ ∃ identity loop,
          start.context.find? "loop" = some (.object identity loop) ∧
          Loop.Shows loop k (v.entries?.getD []).length guard?.isSome
            (.object between.next before.context)) ∧
      (isOpen = true ↔ Loop.kept visits = []) ∧
      (∀ done orElse rest,
        env.run patience depth (Node.renderAll active done
            (.logic (.loop key value e guard?) nodes :: .logic .otherwise orElse :: rest) s) w
          = env.run patience depth (if (Loop.kept visits).isEmpty then (do
                match ← attempt (Node.renderAll false "" orElse) with
                | .ok more => Node.renderAll false (done ++ text ++ more) rest
                | .error failure => endList (done ++ text) failure) s'
              else Node.renderAll false (done ++ text) rest s') after) ∧
      s'.context.keys = before.context.keys ∧
      ∀ name, s'.context.find? name
        = if (⟨key, value⟩ : LoopNames).binds name || !before.context.contains name
          then before.context.find? name
          else (inner.context.find? name).or (before.context.find? name) := by
  have hrun := h
  rcases run_bind_iff.mp h with ⟨_, -, ⟨⟩⟩ | ⟨⟨output, runs⟩, mid, _, hloop, hend⟩
  cases hend
  rcases Loop.run_render_done hloop with
    ⟨_, -, ⟨⟩⟩ | ⟨v, before, between, identity, start, hvalue, hfresh, hruns⟩
  rcases hruns with ⟨_, -, ⟨⟩⟩ | ⟨result, inner, hruns, hresult, rfl⟩
  obtain rfl := Except.ok.inj hresult
  obtain ⟨rfl, rfl⟩ := env.answer_fresh patience depth hfresh
  obtain ⟨visits, hvisits, hresult⟩ := Loop.runs_ok_iff.mp hruns
  rw [String.empty_append, Nat.zero_add] at hresult
  obtain ⟨rfl, rfl⟩ := Prod.mk.inj hresult
  have hnames := env.distinguishes patience depth
  have hinner : inner.context.Distinct :=
    Loop.moves_runs hnames (Node.moves_renderAll hnames nodes false "") _ _ _ _ before _ _ inner _
      hruns (moves_evaluate hnames e s w _ before between hvalue hdistinct)
  refine ⟨v, before, between, visits, inner, hvalue, hvisits, hvisits.entries_eq, ?_, rfl, ?_, ?_,
    ?_, LoopNames.keys_leave _ _ _, LoopNames.find?_leave _ hinner _⟩
  · intro visit hvisit
    obtain ⟨c, hasked⟩ := hvisits.asked_eq visit hvisit
    refine ⟨c, fun name => ?_⟩
    rw [hasked]
    exact LoopNames.find?_bindEntry _ visit.entry c name
  · intro k start out hk
    obtain ⟨hlt, -⟩ := List.getElem?_eq_some_iff.mp hk
    obtain ⟨identity, hfound⟩ := hvisits.start_eq hk
    rw [Nat.zero_add] at hfound
    exact ⟨Nat.lt_of_lt_of_le hlt hvisits.length_kept_le, identity, _, hfound,
      Loop.shows_loopEntries _ _ _ _⟩
  · rw [beq_iff_eq, List.length_eq_zero_iff]
  · intro done orElse rest
    rw [Node.renderAll, run, run_bind_attempt hrun, run]
    dsimp only
    cases hkept : Loop.kept visits with
    | nil =>
      exact congrArg (fun a : Rendering String => (a _).runWith (env.answer patience depth) after)
        (Node.renderAll_otherwise_open _ _ _)
    | cons run more =>
      exact congrArg (fun a : Rendering String => (a _).runWith (env.answer patience depth) after)
        (Node.renderAll_otherwise_closed _ _ _)

/-! A page that shows whether a loop is in its first run, behind a loop inside it whose guard fails
in the end. -/

/-- The loop, over objects of which the last lacks the key that the guard asks for. -/
def interrupted : Node :=
  .logic (.loop none "j" ([.arrayStart, .objectStart, .objectKey "k", .string "y", .objectEnd,
    .comma, .objectStart, .objectKey "k", .string "y", .objectEnd, .comma, .objectStart, .objectEnd,
    .arrayEnd]) (some [.variable "j", .keyPeriod "k"])) []

/-- Whether the loop is in its first run. -/
def tellsFirst : Node :=
  .output [.variable "loop", .keyPeriod "first", .string "first", .string "later",
    .binary .conditional]

/-- The page. The inner loop stands in a list of its own. -/
def telling : Template where
  number := 0
  id := none
  base := none
  nodes := [.logic (.loop none "i" [.arrayStart, .string "x", .arrayEnd] none)
    [.logic (.branch [.bool true]) [interrupted], tellsFirst]]
  options := { strictVariables := true }

/-- In its first and only run the loop is told to be in a later one. -/
theorem text_telling :
    (({} : Environment).run .patient 3 (telling.text []).run { next := 1 }).text?
      = some "later" := by
  decide +kernel

/-- A loop that notes its last letter: the names and `i` are the old ones behind it. -/
theorem visits_of_loop_letters :
    let env : Environment := {}
    let s := Scope.start telling [("i", .string "old"), ("last", .null)]
    let letters : Expr := [.arrayStart, .string "a", .comma, .string "b", .arrayEnd]
    let noting : Node := .logic (.assign "last" [.variable "i"]) []
    ∃ s' after visits,
      env.run .patient 3 (Node.render false (.logic (.loop none "i" letters none) [noting]) s) {}
        = .done (.ok ("", false), s') after ∧
      visits.map Loop.Visit.entry = [(.ofNat 0, .string "a"), (.ofNat 1, .string "b")] ∧
      Loop.text visits = "" ∧ s'.context.keys = ["i", "last"] ∧
      s'.context.find? "i" = some (.string "old") := by
  intro env s letters noting
  have hends : ((env.run .patient 3
      (Node.render false (.logic (.loop none "i" letters none) [noting]) s) {}).map
        Prod.fst).ok?.map Prod.fst = some ("", false) := by
    decide +kernel
  obtain ⟨⟨_, after⟩, hok, rfl⟩ := Option.map_eq_some_iff.mp hends
  obtain ⟨⟨_, s'⟩, hrun, rfl⟩ := Outcome.map_eq_done (Outcome.ok?_eq_some.mp hok)
  have hdistinct : s.context.Distinct := by
    show ["i", "last"].Nodup
    decide
  obtain ⟨v, before, between, visits, inner, hvalue, -, hentries, -, htext, -, -, -, hkeys,
      hfind⟩ :=
    env.visits_of_loop .patient 3 false none "i" letters none [noting] hdistinct hrun
  have hletters : env.run .patient 3 (Expr.evaluate letters s) {}
      = .done (.ok (.array 0 [.string "a", .string "b"]), s) { next := 1 } := rfl
  rw [hletters] at hvalue
  cases hvalue
  exact ⟨s', after, visits, hrun, hentries, htext.symm, hkeys, hfind "i"⟩

/-- **What a failed loop leaves of the variables.**  Where failures are reported, the list that the
loop stands in ends in front of it, and what comes behind the list sees what the loop has left.
Either its expression has failed, and the loop has bound nothing.  Or the guard has failed for an
entry, and the value and the key are still bound to that entry, over what the visits before it have
left, which is also what `loop` is bound to.
-/
theorem context_behind_failed_loop (active : Bool) (key : Option String) (value : String)
    (e : Expr) (guard? : Option Expr) (nodes : List Node) {s s' : Scope} {w after : World}
    {failure : Failure}
    (h : env.run patience depth (Node.render active (.logic (.loop key value e guard?) nodes) s) w
      = .done (.error failure, s') after)
    (hlenient : s.template.options.rethrow = false) (hpending : failure.isPending = false) :
    (∀ done rest,
      env.run patience depth
          (Node.renderAll active done (.logic (.loop key value e guard?) nodes :: rest) s) w
        = .done (.ok done, s')
            { after with reports := .renderFailed s.template.id failure :: after.reports }) ∧
    ((env.run patience depth (Expr.evaluate e s) w = .done (.error failure, s') after ∧
        (Expr.tokensWithin False e → s' = s)) ∨
      ∃ v before between earlier entry later visits mid world condition,
        env.run patience depth (Expr.evaluate e s) w = .done (.ok v, before) between ∧
        v.entries?.getD [] = earlier ++ entry :: later ∧
        Loop.Visits (env.answer patience depth) (Node.renderAll false "" nodes)
          (.ofValue ⟨key, value⟩ guard? v between.next before.context) earlier 0 before
          { between with next := between.next + 1 } visits mid world ∧
        guard? = some condition ∧
        env.run patience depth (Expr.evaluate condition
          { mid with context := (⟨key, value⟩ : LoopNames).bindEntry entry mid.context }) world
            = .done (.error failure, s') after ∧
        (Expr.tokensWithin False condition → ∀ name, s'.context.find? name
          = if some name = key then some entry.1
            else if name = value then some entry.2 else mid.context.find? name)) := by
  refine ⟨env.run_renderAll_failed patience depth h hlenient hpending, ?_⟩
  have hlisted := env.listed_extendedIn patience depth
  rcases run_bind_iff.mp h with ⟨_, hloop, hfailure⟩ | ⟨_, _, _, -, hend⟩
  · obtain rfl := Except.error.inj hfailure
    rcases Loop.run_render_done hloop with
      ⟨_, hfailed, hfailure⟩ | ⟨v, before, between, identity, start, hvalue, hfresh, hruns⟩
    · obtain rfl := Except.error.inj hfailure
      exact .inl ⟨hfailed, fun hwithin => Expr.untouched_evaluate hwithin hfailed⟩
    rcases hruns with ⟨_, hruns, hfailure⟩ | ⟨_, _, -, ⟨⟩, -⟩
    obtain rfl := Except.error.inj hfailure
    obtain ⟨rfl, rfl⟩ := env.answer_fresh patience depth hfresh
    obtain ⟨earlier, entry, later, visits, mid, world, hentries, hvisits, hfails⟩ :=
      Loop.runs_error_iff.mp hruns
    cases hfails with
    | guard hpasses =>
      obtain ⟨condition, hguard, hfailed⟩ := Loop.passes_error hpasses
      refine .inr ⟨v, before, between, earlier, entry, later, visits, mid, world, condition, hvalue,
        hentries, hvisits, hguard, hfailed, fun hwithin name => ?_⟩
      obtain rfl := Expr.untouched_evaluate hwithin hfailed
      exact LoopNames.find?_bindEntry _ entry mid.context name
    | @body _ _ _ _ hpasses _ hbody =>
      -- the body is a list of nodes in the same template, and ends well where failures are reported
      have hvalueFrame := frames_evaluate hlisted e s w _ _ _ hvalue
      have hguardFrame := Loop.frames_passes hlisted _ _ _ _ _ _ hpasses
      have htemplate := hguardFrame.template.trans
        ((hvisits.template_eq hlisted).trans hvalueFrame.template)
      rcases Node.rethrow_of_error hlisted hbody with hrethrow | hfailed
      · rw [show (Loop.started _ _ _ _).template = s.template from htemplate, hlenient] at hrethrow
        cases hrethrow
      · rw [hpending] at hfailed
        cases hfailed
  · cases hend

/-! A page that shows the variable of a loop whose guard calls a function that there is not. -/

/-- The loop. -/
def unguarded : Node :=
  .logic (.loop none "i" [.arrayStart, .string "a", .arrayEnd] (some [.function "nope" (some [])]))
    []

/-- The page. The loop stands in a list of its own. -/
def leaking : Template where
  number := 0
  id := none
  base := none
  nodes := [.logic (.branch [.bool true]) [unguarded], .raw "[", .output [.variable "i"], .raw "]"]
  options := {}

theorem context_behind_failed_loop_nope :
    let env : Environment := {}
    let s := Scope.start leaking []
    let failure : Failure := ⟨.unknownFunction "nope", none⟩
    env.run .patient 3 (Node.render false unguarded s) {}
        = .done (.error failure, { s with context := [("i", .string "a")] }) { next := 2 } ∧
      env.run .patient 3 (Node.renderAll false "" [unguarded] s) {}
        = .done (.ok "", { s with context := [("i", .string "a")] })
            { next := 2, reports := [.renderFailed none failure] } := by
  intro env s failure
  have h : env.run .patient 3 (Node.render false unguarded s) {}
      = .done (.error failure, { s with context := [("i", .string "a")] }) { next := 2 } := rfl
  have hbehind := env.context_behind_failed_loop .patient 3 false none "i" _ _ [] h rfl rfl
  exact ⟨h, hbehind.1 "" []⟩

/-- The variable is bound behind the loop, although it was not before. -/
theorem text_leaking :
    ((({} : Environment).run .patient 3 (leaking.text []).run { next := 1 })).text?
      = some "[a]" := by
  decide +kernel

end Environment
end Stencil
