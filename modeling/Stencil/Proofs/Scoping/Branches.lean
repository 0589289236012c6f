import Stencil.Proofs.Scoping.Loops
import Stencil.Proofs.Tree.Sections

/-!
# One branch of a chain

A chain of branches is stored as one node behind the other, and what holds it together when it is
rendered is the mark of an open chain that goes along the list.  In the tree of a source each level
falls into segments (`Node.exists_segments`), among them whole chains, and rendering the level is
rendering its segments one after the other, without a mark (`Segment.renderAll_eq`): a chain is the
choice of its first section whose condition holds (`Branches.render`).
-/
namespace Stencil
open Rendering

namespace Rendering
variable {α β γ : Type}

/-- What comes behind an attempt at two actions, one behind the other. -/
theorem attempt_bind_bind (a : Rendering α) (k : α → Rendering β)
    (f : Except Failure β → Rendering γ) :
    attempt (a >>= k) >>= f = attempt a >>= fun r => match r with
      | .ok x => attempt (k x) >>= f
      | .error failure => f (.error failure) := by
  funext s
  rw [attempt_bind, attempt_bind]
  refine (Program.bind_assoc (a s) _ _).trans (congrArg _ (funext ?_))
  rintro ⟨failure | x, mid⟩
  · rfl
  · exact (attempt_bind (k x) f mid).symm

theorem attempt_pure_bind (x : α) (f : Except Failure α → Rendering β) :
    attempt (pure x) >>= f = f (.ok x) := rfl

end Rendering

/-! ## Chains -/

/-- A chain of branches. -/
structure Branches where
  condition : Expr
  body : List Node
  /-- The `elseif` sections. -/
  more : List (Expr × List Node)
  /-- The body of the `else` section. -/
  otherwise : Option (List Node)

namespace Branches

/-- The nodes of the sections behind the first one. -/
def sectionNodes (more : List (Expr × List Node)) (otherwise : Option (List Node)) : List Node :=
  more.map (fun (condition, body) => .logic (.elseBranch condition) body)
    ++ (otherwise.map (.logic .otherwise)).toList

/-- The chain as it is stored. -/
def nodes (b : Branches) : List Node :=
  .logic (.branch b.condition) b.body :: sectionNodes b.more b.otherwise

/-- The conditions with their bodies, in order. -/
def sections (b : Branches) : List (Expr × List Node) := (b.condition, b.body) :: b.more

/-- The text of the first section whose condition holds, or else of `otherwise`. -/
def choose (otherwise : Option (List Node)) : List (Expr × List Node) → Rendering String
  | [] =>
    match otherwise with
    | some body => Node.renderAll false "" body
    | none => return ""
  | (condition, body) :: rest => do
    if (← Expr.evaluate condition).isTruthy then Node.renderAll false "" body
    else choose otherwise rest

/-- The text of a chain. -/
def render (b : Branches) : Rendering String := choose b.otherwise b.sections

end Branches

/-! ## Rendering along a list -/

namespace Node
open Branches

/-- The rest of a list behind a part of it, which came to a text or failed. -/
def behind (done : String) (rest : List Node) : Except Failure String → Rendering String
  | .ok text => renderAll false (done ++ text) rest
  | .error failure => endList done failure

/-- Only sections see whether a chain is open. -/
theorem render_of_not_section {n : Node} (h : n.isSection = false) (active : Bool) :
    n.render active = n.render false := by
  cases n with
  | raw value => rfl
  | output e => rfl
  | logic tag body => cases tag <;> first | rfl | cases h

theorem renderAll_of_not_section {rest : List Node} (h : startWithSection false rest = false)
    (active : Bool) (done : String) : renderAll active done rest = renderAll false done rest := by
  cases rest with
  | nil => rfl
  | cons n rest => rw [renderAll, renderAll, render_of_not_section h]

/-- A node whose body is rendered if a condition holds, and which leaves its chain open if not. -/
theorem renderAll_branchOn {n : Node} {active : Bool} {condition : Expr} {body : List Node}
    (hn : n.render active = Tag.render.branchOn (renderAll false "" body) condition)
    (done : String) (rest : List Node) :
    renderAll active done (n :: rest)
      = attempt (Expr.evaluate condition) >>= fun r => match r with
        | .ok v =>
          if v.isTruthy then attempt (renderAll false "" body) >>= behind done rest
          else renderAll true done rest
        | .error failure => endList done failure := by
  rw [renderAll, hn, Tag.render.branchOn, attempt_bind_bind]
  refine congrArg _ (funext fun r => ?_)
  cases r with
  | error failure => rfl
  | ok v =>
    dsimp only
    split
    · rw [attempt_bind_bind]
      refine congrArg _ (funext fun r => ?_)
      cases r <;> rfl
    · rw [attempt_pure_bind]
      dsimp only
      rw [String.append_empty]

/-- Behind a chain that is decided its other sections are passed over. -/
theorem renderAll_closed (more : List (Expr × List Node)) (otherwise : Option (List Node))
    (done : String) (rest : List Node) :
    renderAll false done (sectionNodes more otherwise ++ rest) = renderAll false done rest := by
  induction more with
  | nil =>
    cases otherwise with
    | none => rfl
    | some body => exact renderAll_otherwise_closed done body rest
  | cons entry more ih =>
    obtain ⟨condition, body⟩ := entry
    have hnode : renderAll false done (sectionNodes ((condition, body) :: more) otherwise ++ rest)
        = renderAll false (done ++ "") (sectionNodes more otherwise ++ rest) := rfl
    rw [hnode, String.append_empty, ih]

/-- A chain from one of its sections on, if none was chosen before it. -/
theorem renderAll_chosen {n : Node} {active : Bool} {condition : Expr} {body : List Node}
    (hn : n.render active = Tag.render.branchOn (renderAll false "" body) condition)
    {more : List (Expr × List Node)} {otherwise : Option (List Node)} {done : String}
    {rest : List Node}
    (hmore : renderAll true done (sectionNodes more otherwise ++ rest)
      = attempt (choose otherwise more) >>= behind done rest) :
    renderAll active done (n :: (sectionNodes more otherwise ++ rest))
      = attempt (choose otherwise ((condition, body) :: more)) >>= behind done rest := by
  rw [renderAll_branchOn hn, choose, attempt_bind_bind]
  refine congrArg _ (funext fun r => ?_)
  cases r with
  | error failure => rfl
  | ok v =>
    dsimp only
    split
    · refine congrArg _ (funext fun r => ?_)
      cases r with
      | ok text => exact renderAll_closed more otherwise (done ++ text) rest
      | error failure => rfl
    · exact hmore

theorem renderAll_open (more : List (Expr × List Node)) (otherwise : Option (List Node))
    (done : String) {rest : List Node} (hrest : startWithSection false rest = false) :
    renderAll true done (sectionNodes more otherwise ++ rest)
      = attempt (choose otherwise more) >>= behind done rest := by
  induction more with
  | nil =>
    cases otherwise with
    | none =>
      have hchoose : attempt (choose none []) >>= behind done rest
          = renderAll false (done ++ "") rest := rfl
      rw [hchoose, String.append_empty]
      exact renderAll_of_not_section hrest true done
    | some body =>
      refine (renderAll_otherwise_open done body rest).trans (congrArg _ (funext fun r => ?_))
      cases r <;> rfl
  | cons entry more ih => exact renderAll_chosen rfl ih

/-- **A chain is a choice**, whatever stands before it and behind it. -/
theorem renderAll_branches (b : Branches) (active : Bool) (done : String) {rest : List Node}
    (hrest : startWithSection false rest = false) :
    renderAll active done (b.nodes ++ rest) = attempt b.render >>= behind done rest :=
  renderAll_chosen rfl (renderAll_open b.more b.otherwise done hrest)

end Node

/-! ## Loops with an `else` -/

namespace Loop

/-- A loop whose body did not run has put nothing out. -/
theorem runs_quiet (l : Loop) (body : Rendering String) (entries : List (Value × Value))
    (index : Nat) {done : String} (hdone : index = 0 → done = "") :
    (l.runs body entries index done >>= fun r => pure (if r.2 = 0 then "" else r.1, r.2))
      = l.runs body entries index done := by
  induction entries generalizing index done with
  | nil =>
    rw [runs, pure_bind]
    split
    · next hindex => rw [hdone hindex]
    · rfl
  | cons entry rest ih =>
    rw [runs_cons, bind_assoc]
    refine congrArg _ (funext fun passed => ?_)
    cases passed with
    | false => exact ih index hdone
    | true =>
      simp only [if_true, bind_assoc]
      refine congrArg _ (funext fun identity => congrArg _ (funext fun _ => ?_))
      exact congrArg _ (funext fun text =>
        ih (index + 1) fun hzero => absurd hzero (Nat.succ_ne_zero index))

theorem render_quiet (names : LoopNames) (expression : Expr) (guard? : Option Expr)
    (body : Rendering String) :
    (render names expression guard? body >>= fun r => pure (if r.2 = 0 then "" else r.1, r.2))
      = render names expression guard? body := by
  rw [render_eq, bind_assoc]
  refine congrArg _ (funext fun ⟨entries, identity, outer⟩ => ?_)
  dsimp only
  have hquiet := runs_quiet ⟨names, guard?, entries.length, .object identity outer⟩ body entries 0
    (fun _ => rfl)
  refine Eq.trans ?_ (congrArg
    (· >>= fun r => modifyContext (names.leave outer) >>= fun _ => pure r) hquiet)
  simp only [bind_assoc, pure_bind]

end Loop
/-! ## Segments -/

/-- The node is the first one of a chain. -/
def Node.isBranch : Node → Bool
  | .logic tag _ => tag.kind = .branch
  | _ => false

/-- A part of a list of nodes that belongs together. -/
inductive Segment where
  /-- A node on its own: no section and no branch. -/
  | node (n : Node) (h : n.isSection = false ∧ n.isBranch = false)
  | branches (b : Branches)
  /-- A loop with what is rendered in its place if its body never runs. -/
  | loop (names : LoopNames) (expression : Expr) (guard? : Option Expr)
    (body otherwise : List Node)

namespace Segment

/-- The nodes of a segment. -/
def nodes : Segment → List Node
  | .node n _ => [n]
  | .branches b => b.nodes
  | .loop names e guard? body otherwise =>
    [.logic (.loop names.key names.value e guard?) body, .logic .otherwise otherwise]

/-- The text of a segment. -/
def render : Segment → Rendering String
  | .node n _ => do return (← n.render false).1
  | .branches b => b.render
  | .loop names e guard? body otherwise => do
    let (text, runs) ← Loop.render names e guard? (Node.renderAll false "" body)
    if runs = 0 then Node.renderAll false "" otherwise else return text

/-- The text of segments behind `done`. A segment that fails ends the list. -/
def renderAll (done : String) : List Segment → Rendering String
  | [] => return done
  | segment :: rest => do
    match ← attempt segment.render with
    | .ok text => renderAll (done ++ text) rest
    | .error failure => endList done failure

theorem startWithSection_nodes (segments : List Segment) :
    Node.startWithSection false (segments.flatMap nodes) = false := by
  cases segments with
  | nil => rfl
  | cons segment rest =>
    cases segment with
    | node n h => exact h.1
    | branches b => rfl
    | loop => rfl

/-- A segment in front of others, in a list. -/
theorem renderAll_nodes (segment : Segment) (active : Bool) (done : String) {rest : List Node}
    (hrest : Node.startWithSection false rest = false) :
    Node.renderAll active done (segment.nodes ++ rest)
      = attempt segment.render >>= Node.behind done rest := by
  cases segment with
  | node n h =>
    change Node.renderAll active done (n :: rest) = attempt (n.render false >>= _) >>= _
    rw [Node.renderAll, Node.render_of_not_section h.1, attempt_bind_bind]
    refine congrArg _ (funext fun r => ?_)
    cases r with
    | error failure => rfl
    | ok ended => exact Node.renderAll_of_not_section hrest ended.2 _
  | branches b => exact Node.renderAll_branches b active done hrest
  | loop names e guard? body otherwise =>
    have hloop : (Node.logic (.loop names.key names.value e guard?) body).render active
        = Loop.render names e guard? (Node.renderAll false "" body) >>= fun r =>
          pure (r.1, r.2 == 0) := rfl
    rw [nodes, List.cons_append, List.singleton_append, Node.renderAll, hloop, ← Loop.render_quiet,
      bind_assoc, attempt_bind_bind, render, attempt_bind_bind]
    refine congrArg _ (funext fun r => ?_)
    rcases r with failure | ⟨text, runs⟩
    · rfl
    · dsimp only
      rw [pure_bind, attempt_pure_bind]
      dsimp only
      cases runs with
      | zero =>
        rw [if_pos rfl, if_pos rfl, String.append_empty]
        refine (Node.renderAll_otherwise_open done otherwise rest).trans ?_
        refine congrArg _ (funext fun r => ?_)
        cases r <;> rfl
      | succ runs => exact Node.renderAll_otherwise_closed (done ++ text) otherwise rest

/-- Rendering a list is rendering its segments, and no mark goes along it. -/
theorem renderAll_eq (segments : List Segment) (active : Bool) (done : String) :
    Node.renderAll active done (segments.flatMap nodes) = renderAll done segments := by
  induction segments generalizing active done with
  | nil => rfl
  | cons segment rest ih =>
    rw [List.flatMap_cons, renderAll_nodes segment active done (startWithSection_nodes rest),
      renderAll]
    refine congrArg _ (funext fun r => ?_)
    cases r with
    | error failure => rfl
    | ok text => exact ih false (done ++ text)

end Segment

/-! ## The segments of a level -/

namespace Node
open Branches

/-- No section stands behind what it cannot continue. -/
theorem sections_eq_nil {before : Option Node} {more : List (Expr × List Node)}
    {otherwise : Option (List Node)} {rest : List Node}
    (h : allJoined before (sectionNodes more otherwise ++ rest))
    (hbefore : ∀ tag body, before = some (.logic tag body) →
      .elseBranch ∉ tag.kind.next ∧ .otherwise ∉ tag.kind.next) :
    more = [] ∧ otherwise = none := by
  cases more with
  | cons entry more =>
    obtain ⟨tag, body, hnode, hnext⟩ := h.1 rfl
    exact absurd hnext (hbefore tag body hnode).1
  | nil =>
    cases otherwise with
    | none => exact ⟨rfl, rfl⟩
    | some orElse =>
      obtain ⟨tag, body, hnode, hnext⟩ := h.1 rfl
      exact absurd hnext (hbefore tag body hnode).2

/-- Joined nodes are sections that continue what is before them, and behind these segments. -/
theorem exists_sections {before : Option Node} {nodes : List Node} (h : allJoined before nodes) :
    ∃ (more : List (Expr × List Node)) (otherwise : Option (List Node)) (segments : List Segment),
      nodes = sectionNodes more otherwise ++ segments.flatMap Segment.nodes := by
  induction nodes generalizing before with
  | nil => exact ⟨[], none, [], rfl⟩
  | cons n rest ih =>
    obtain ⟨-, -, hrest⟩ := h
    obtain ⟨more, otherwise, segments, rfl⟩ := ih hrest
    cases n with
    | raw value =>
      obtain ⟨rfl, rfl⟩ := sections_eq_nil hrest (by rintro _ _ ⟨⟩)
      exact ⟨[], none, .node (.raw value) ⟨rfl, rfl⟩ :: segments, rfl⟩
    | output e =>
      obtain ⟨rfl, rfl⟩ := sections_eq_nil hrest (by rintro _ _ ⟨⟩)
      exact ⟨[], none, .node (.output e) ⟨rfl, rfl⟩ :: segments, rfl⟩
    | logic tag body =>
      -- a branch and a loop take in the sections behind them, and a section is one of them
      cases tag with
      | branch e =>
        refine ⟨[], none, .branches ⟨e, body, more, otherwise⟩ :: segments, ?_⟩
        rw [List.flatMap_cons, Segment.nodes, Branches.nodes, List.cons_append]
        rfl
      | elseBranch e => exact ⟨(e, body) :: more, otherwise, segments, rfl⟩
      | otherwise =>
        obtain ⟨rfl, rfl⟩ := sections_eq_nil hrest (by rintro _ _ ⟨⟩; decide)
        exact ⟨[], some body, segments, rfl⟩
      | loop key value e guard? =>
        cases more with
        | cons entry more =>
          obtain ⟨_, _, ⟨⟩, hnext⟩ := hrest.1 rfl
          simp [Tag.kind, TagKind.next] at hnext
        | nil =>
          cases otherwise with
          | none =>
            refine ⟨[], none, .node (.logic (.loop key value e guard?) body) ?_ :: segments, rfl⟩
            exact ⟨rfl, rfl⟩
          | some orElse =>
            exact ⟨[], none, .loop ⟨key, value⟩ e guard? body orElse :: segments, rfl⟩
      | _ =>
        obtain ⟨rfl, rfl⟩ := sections_eq_nil hrest (by
          rintro _ _ ⟨⟩
          simp [Tag.kind, TagKind.next])
        refine ⟨[], none, .node (.logic _ body) ?_ :: segments, rfl⟩
        exact ⟨rfl, rfl⟩

theorem exists_segments {nodes : List Node} (h : allJoined none nodes) :
    ∃ segments : List Segment, nodes = segments.flatMap Segment.nodes := by
  obtain ⟨more, otherwise, segments, rfl⟩ := exists_sections h
  obtain ⟨rfl, rfl⟩ := sections_eq_nil h (by rintro _ _ ⟨⟩)
  exact ⟨segments, rfl⟩

end Node

/-! ## What a chain comes to -/

namespace Environment
variable (env : Environment) (patience : Patience) (depth : Nat)

/-- The choice among the sections of a chain, with all that is asked for: the conditions are
evaluated one after the other, up to the first that holds, and the text is that of its body; if none
holds, it is that of `otherwise`. -/
inductive Chooses (otherwise : Option (List Node)) :
    List (Expr × List Node) → Scope → World → List Request → String → Scope → World → Prop
  | holds {condition body rest s w v mid between text after last}
    (hcondition : env.run patience depth (Expr.evaluate condition s) w = .done (.ok v, mid) between)
    (hholds : v.isTruthy = true)
    (hbody : env.run patience depth (Node.renderAll false "" body mid) between
      = .done (.ok text, after) last) :
    Chooses otherwise ((condition, body) :: rest) s w
      (env.events patience depth (Expr.evaluate condition s) w
        ++ env.events patience depth (Node.renderAll false "" body mid) between) text after last
  | fails {condition body rest s w v mid between events text after last}
    (hcondition : env.run patience depth (Expr.evaluate condition s) w = .done (.ok v, mid) between)
    (hfails : v.isTruthy = false)
    (hrest : Chooses otherwise rest mid between events text after last) :
    Chooses otherwise ((condition, body) :: rest) s w
      (env.events patience depth (Expr.evaluate condition s) w ++ events) text after last
  | otherwise {body s w text after last} (hotherwise : otherwise = some body)
    (hbody : env.run patience depth (Node.renderAll false "" body s) w
      = .done (.ok text, after) last) :
    Chooses otherwise [] s w (env.events patience depth (Node.renderAll false "" body s) w) text
      after last
  | none {s w} (hotherwise : otherwise = none) : Chooses otherwise [] s w [] "" s w

variable {env patience depth}

/-- A choice behind its first condition. -/
theorem run_choose {otherwise : Option (List Node)} {condition : Expr} {body : List Node}
    {rest : List (Expr × List Node)} {s mid : Scope} {w between : World} {v : Value}
    (h : env.run patience depth (Expr.evaluate condition s) w = .done (.ok v, mid) between) :
    let next := if v.isTruthy then Node.renderAll false "" body else Branches.choose otherwise rest
    env.run patience depth (Branches.choose otherwise ((condition, body) :: rest) s) w
        = env.run patience depth (next mid) between ∧
      env.events patience depth (Branches.choose otherwise ((condition, body) :: rest) s) w
        = env.events patience depth (Expr.evaluate condition s) w
          ++ env.events patience depth (next mid) between :=
  ⟨run_bind_done h, events_bind_done h⟩

theorem chooses_iff {otherwise : Option (List Node)} {sections : List (Expr × List Node)}
    {s after : Scope} {w last : World} {events : List Request} {text : String} :
    env.run patience depth (Branches.choose otherwise sections s) w = .done (.ok text, after) last ∧
        env.events patience depth (Branches.choose otherwise sections s) w = events ↔
      env.Chooses patience depth otherwise sections s w events text after last := by
  constructor
  · rintro ⟨hrun, rfl⟩
    induction sections generalizing s w with
    | nil =>
      cases hotherwise : otherwise with
      | none =>
        subst hotherwise
        cases hrun
        exact .none rfl
      | some body =>
        subst hotherwise
        exact .otherwise rfl hrun
    | cons entry rest ih =>
      obtain ⟨condition, body⟩ := entry
      rcases run_bind_iff.mp hrun with ⟨_, -, ⟨⟩⟩ | ⟨v, mid, between, hcondition, -⟩
      rw [(run_choose hcondition).1] at hrun
      rw [(run_choose hcondition).2]
      cases hv : v.isTruthy with
      | true =>
        rw [hv] at hrun
        exact .holds hcondition hv hrun
      | false =>
        rw [hv] at hrun
        exact .fails hcondition hv (ih hrun)
  · intro h
    induction h with
    | holds hcondition hholds hbody =>
      rw [(run_choose hcondition).1, (run_choose hcondition).2, hholds]
      exact ⟨hbody, rfl⟩
    | fails hcondition hfails _ ih =>
      rw [(run_choose hcondition).1, (run_choose hcondition).2, hfails]
      exact ⟨ih.1, congrArg _ ih.2⟩
    | otherwise hotherwise hbody =>
      subst hotherwise
      exact ⟨hbody, rfl⟩
    | none hotherwise =>
      subst hotherwise
      exact ⟨rfl, rfl⟩

end Environment

namespace Node

/-- **One branch of a chain.**  On each level of the tree of a source, the nodes fall into segments,
among them all chains of branches with all their sections, and the level is rendered segment by
segment, whatever comes before: no mark goes along it.  A chain that comes to a text has evaluated
its conditions in order up to the first that holds, and none behind that; its text is that of the
section's body, or of the `else` section if none holds, or empty. -/
theorem one_branch {source : String} {nodes level : List Node}
    (hsource : ofSource source = .ok nodes) (hlevel : Level nodes level) :
    ∃ segments : List Segment, level = segments.flatMap Segment.nodes ∧
      (∀ active done, renderAll active done level = Segment.renderAll done segments) ∧
      ∀ b : Branches, .branches b ∈ segments →
        ∀ (env : Environment) (patience : Patience) (depth : Nat) (s : Scope) (w : World)
          (events : List Request) (text : String) (after : Scope) (last : World),
          env.run patience depth (b.render s) w = .done (.ok text, after) last ∧
              env.events patience depth (b.render s) w = events ↔
            env.Chooses patience depth b.otherwise b.sections s w events text after last := by
  obtain ⟨segments, rfl⟩ := exists_segments (allJoined_ofSource hsource hlevel)
  refine ⟨segments, rfl, Segment.renderAll_eq segments, ?_⟩
  intro b _ env patience depth s w events text after last
  exact Environment.chooses_iff

set_option maxRecDepth 10000 in
/-- A chain inside a loop that has an `else` as well. -/
theorem one_branch_nested :
    let b : Branches := ⟨[.variable "a"], [.raw "A"], [], some [.raw "B"]⟩
    let nodes := [.logic (.loop none "x" [.variable "xs"] none) b.nodes,
      .logic .otherwise [.raw "C"]]
    ofSource "{% for x in xs %}{% if a %}A{% else %}B{% endif %}{% else %}C{% endfor %}"
        = .ok nodes ∧
      Level nodes b.nodes ∧ ∃ segments : List Segment, b.nodes = segments.flatMap Segment.nodes ∧
        (∀ active done, renderAll active done b.nodes = Segment.renderAll done segments) ∧
        ∃ chain : Branches, .branches chain ∈ segments ∧
          ∀ (env : Environment) (patience : Patience) (depth : Nat) (s : Scope) (w : World)
            (events : List Request) (text : String) (after : Scope) (last : World),
            env.run patience depth (chain.render s) w = .done (.ok text, after) last ∧
                env.events patience depth (chain.render s) w = events ↔
              env.Chooses patience depth chain.otherwise chain.sections s w events text after
                last := by
  intro b nodes
  have hsource :
      ofSource "{% for x in xs %}{% if a %}A{% else %}B{% endif %}{% else %}C{% endfor %}"
        = .ok nodes := rfl
  have hlevel : Level nodes b.nodes := .body .top List.mem_cons_self
  obtain ⟨segments, hsegments, hrender, hchains⟩ := one_branch hsource hlevel
  refine ⟨hsource, hlevel, segments, hsegments, hrender, ?_⟩
  cases segments with
  | nil => cases hsegments
  | cons segment rest =>
    cases segment with
    | branches chain => exact ⟨chain, List.mem_cons_self, hchains chain List.mem_cons_self⟩
    | node n h =>
      obtain rfl := (List.cons.inj hsegments).1
      cases h.2
    | loop => cases (List.cons.inj hsegments).1

end Node
end Stencil
