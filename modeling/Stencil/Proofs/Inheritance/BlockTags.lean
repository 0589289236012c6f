import Stencil.Proofs.Engine.Histories
import Stencil.Proofs.Inheritance.Frame

/-!
# The block tags inside of a block

A block tag shows its block where it stands, unless a template is extended by then: that is noted in
the scope, and it holds for whatever is rendered from there on.  So a block that is asked for by its
name shows the blocks inside it where nothing has been extended, and leaves them out where something
has (`Environment.block_by_name`, `Environment.text_asked_early`).

Here one list of nodes is compared with another one in which the block tags are replaced.  Both are
rendered in the same way as long as the extended template is such that each tag and what replaces
it are (`Rendering.Alike`).
-/
namespace Stencil

/-! ## Replacing tags -/

/-- The name of the block that the tag defines. -/
def Tag.block? : Tag → Option String
  | .block name _ => some name
  | _ => none

namespace Node

mutual

/-- The node with its block tags replaced by what a function gives for their names, but not those
in a macro or in an embedded template. -/
def replaceBlocks (f : String → Node) : Node → Node
  | .raw value => .raw value
  | .output expression => .output expression
  | .logic tag nodes =>
    match tag.block? with
    | some name => f name
    | none => .logic tag (if tag.hasOwnScope then nodes else replaceAllBlocks f nodes)
termination_by structural n => n

/-- The nodes of a list with their block tags replaced. -/
def replaceAllBlocks (f : String → Node) : List Node → List Node
  | [] => []
  | n :: rest => replaceBlocks f n :: replaceAllBlocks f rest
termination_by structural l => l

end

/-- Nothing, in the place of a block tag. -/
def omitted (_ : String) : Node := .raw ""

/-- The call of a block, in the place of its tag. -/
def called (name : String) : Node := .output [.function "block" (some [.string name])]

end Node

theorem Tag.eq_of_block? {tag : Tag} {name : String} (h : tag.block? = some name) :
    ∃ e, tag = .block name e := by
  cases tag with
  | block _ e =>
    cases h
    exact ⟨e, rfl⟩
  | _ => cases h

/-- The block with the block tags in its body replaced. -/
def Block.replaceBlocks (f : String → Node) (b : Block) : Block :=
  match b.body with
  | .nodes nodes => { b with body := .nodes (Node.replaceAllBlocks f nodes) }
  | .expression _ => b

theorem Scope.enter_replaceBlocks (s : Scope) (f : String → Node) (b : Block) :
    s.enter (b.replaceBlocks f) = s.enter b := by
  unfold Block.replaceBlocks
  split <;> rfl

section
variable {answer : (r : Request) → World → Outcome r.Answer} {inBlock : Block → Listing}
variable {α β : Type} {P : Option Template → Prop}

namespace Rendering

/-- Two actions come to the same, as long as the extended template satisfies something: where they
start, and wherever one is named on the way. -/
def Alike (answer : (r : Request) → World → Outcome r.Answer) (P : Option Template → Prop)
    (l : Listing) (a a' : Rendering α) : Prop :=
  ∀ s w, P s.parent → (∀ t ∈ l s w, P (some t)) →
    (a s).runWith answer w = (a' s).runWith answer w

theorem Alike.mono {a a' : Rendering α} {l m : Listing} (h : Alike answer P l a a')
    (hsub : ∀ s w, ∀ t ∈ l s w, t ∈ m s w) : Alike answer P m a a' := fun s w hs hm =>
  h s w hs fun t ht => hm t (hsub s w t ht)

theorem alike_refl (l : Listing) (a : Rendering α) : Alike answer P l a a := fun _ _ _ _ => rfl

theorem run_bind (a : Rendering α) (f : α → Rendering β) (s : Scope) (w : World) :
    ((a >>= f) s).runWith answer w = ((a s).runWith answer w).bind fun ended between =>
      match ended.1 with
      | .ok x => (f x ended.2).runWith answer between
      | .error failure => .done (.error failure, ended.2) between := by
  refine (Program.runWith_bind _ _ w).trans ?_
  congr 1
  funext ended between
  obtain ⟨failure | x, mid⟩ := ended <;> rfl

theorem run_attempt_bind (a : Rendering α) (f : Except Failure α → Rendering β) (s : Scope)
    (w : World) :
    ((Rendering.attempt a >>= f) s).runWith answer w
      = ((a s).runWith answer w).bind fun ended between =>
        (f ended.1 ended.2).runWith answer between := by
  rw [Rendering.attempt_bind, Program.runWith_bind]

/-- What comes behind is the same. -/
theorem Alike.bind_same {a a' : Rendering α} {l : Listing} (h : Alike answer P l a a')
    (f : α → Rendering β) : Alike answer P l (a >>= f) (a' >>= f) := by
  intro s w hs hl
  rw [run_bind, run_bind, h s w hs hl]

/-- Behind an action the extended template still satisfies what it did. -/
theorem Frames.parent {a : Rendering α} {l : Listing} (h : Frames answer a l) {s mid : Scope}
    {w between : World} {r : Except Failure α} (hs : P s.parent) (hl : ∀ t ∈ l s w, P (some t))
    (hrun : (a s).runWith answer w = .done (r, mid) between) : P mid.parent := by
  rcases (h s w r mid between hrun).parent with hsame | ⟨t, ht, hparent⟩
  · rwa [hsame]
  · rw [hparent]
    exact hl t ht

/-- What comes behind an action that has succeeded is alike in its own listing. -/
theorem Alike.behind {a : Rendering α} {b b' : Rendering β} {l : Listing} {m : α → Listing} {x : α}
    (h : Alike answer P (m x) b b') (hframes : Frames answer a l) {s mid : Scope}
    {w between : World} (hs : P s.parent)
    (hl : ∀ t ∈ a.followed answer l m s w, P (some t))
    (hrun : (a s).runWith answer w = .done (.ok x, mid) between) :
    (b mid).runWith answer between = (b' mid).runWith answer between := by
  have hfirst : ∀ t ∈ l s w, P (some t) := fun t ht => hl t (List.mem_append_left _ ht)
  refine h mid between (hframes.parent hs hfirst hrun) fun t ht => hl t ?_
  refine List.mem_append_right _ ?_
  rw [hrun]
  exact ht

theorem Alike.bind {a a' : Rendering α} {f f' : α → Rendering β} {l : Listing} {m : α → Listing}
    (hframes : Frames answer a l) (h : Alike answer P l a a')
    (hf : ∀ x, Alike answer P (m x) (f x) (f' x)) :
    Alike answer P (a.followed answer l m) (a >>= f) (a' >>= f') := by
  intro s w hs hl
  have hfirst : ∀ t ∈ l s w, P (some t) := fun t ht => hl t (List.mem_append_left _ ht)
  rw [run_bind, run_bind, ← h s w hs hfirst]
  cases hrun : (a s).runWith answer w with
  | pending | tooDeep => rfl
  | done ended between =>
    obtain ⟨failure | x, mid⟩ := ended
    · rfl
    · exact (hf x).behind hframes hs hl hrun

/-- An action that is told how another one ended. -/
theorem Alike.attempt_bind {a a' : Rendering α} {f f' : Except Failure α → Rendering β}
    {l : Listing} {m : α → Listing} (hframes : Frames answer a l) (h : Alike answer P l a a')
    (hok : ∀ x, Alike answer P (m x) (f (.ok x)) (f' (.ok x)))
    (hfailed : ∀ failure, f (.error failure) = f' (.error failure)) :
    Alike answer P (a.followed answer l m) (Rendering.attempt a >>= f)
      (Rendering.attempt a' >>= f') := by
  intro s w hs hl
  have hfirst : ∀ t ∈ l s w, P (some t) := fun t ht => hl t (List.mem_append_left _ ht)
  rw [run_attempt_bind, run_attempt_bind, ← h s w hs hfirst]
  cases hrun : (a s).runWith answer w with
  | pending | tooDeep => rfl
  | done ended between =>
    obtain ⟨failure | x, mid⟩ := ended
    · exact congrArg (fun g => (g mid).runWith answer between) (hfailed failure)
    · exact (hok x).behind hframes hs hl hrun

theorem Alike.restoring {a a' : Rendering α} {l : Listing} (h : Alike answer P l a a')
    (restore : Scope → Scope) :
    Alike answer P l (Rendering.restoring restore a) (Rendering.restoring restore a') := by
  intro s w hs hl
  have hrun (a : Rendering α) : (Rendering.restoring restore a s).runWith answer w
      = ((a s).runWith answer w).bind fun ended between =>
        .done (ended.1, restore ended.2) between := by
    have hbody : Rendering.restoring restore a s =
        a s >>= fun ended => .done (ended.1, restore ended.2) := Program.bind_assoc (a s) _ _
    rw [hbody, Program.runWith_bind]
    rfl
  rw [hrun, hrun, h s w hs hl]

/-- Behind an action that both begin with, which has no body of nodes. -/
theorem Alike.next (hlisted : Listed answer inBlock) {a : Rendering α} {f f' : α → Rendering β}
    {m : α → Listing} (hmeets : ∀ C : Contract, C.Evaluates True → Meets C a)
    (hf : ∀ x, Alike answer P (m x) (f x) (f' x)) :
    Alike answer P (before answer inBlock a m) (a >>= f) (a >>= f') :=
  Alike.bind (frames_of_meets hlisted hmeets) (alike_refl _ a) hf

end Rendering

open Rendering

section
variable (hlisted : Listed answer inBlock)
include hlisted

/-! ## Loops and tags -/

namespace Loop
variable {body body' : Rendering String} {inBody : Listing}

theorem alike_runs (l : Loop) (hframes : Frames answer body inBody)
    (h : Alike answer P inBody body body') (entries : List (Value × Value)) (index : Nat)
    (done : String) :
    Alike answer P (extendedRuns answer inBlock body inBody l entries index done)
      (l.runs body entries index done) (l.runs body' entries index done) := by
  induction entries generalizing index done with
  | nil => exact alike_refl _ _
  | cons entry rest ih =>
    rw [runs_cons, runs_cons, extendedRuns]
    refine Alike.next hlisted (fun C P => ?_) fun passed => ?_
    · exact (meets_modifyContext P _).bind fun _ => meets_passes P (optionWithin_of trivial _)
    · split
      · refine Alike.next hlisted (fun C P => ?_) fun _ => ?_
        · exact (meets_fresh P).bind fun _ => meets_setVariable P _ _
        · exact Alike.bind hframes h fun text => ih _ _
      · exact ih _ _

theorem alike_render (names : LoopNames) (expression : Expr) (guard? : Option Expr)
    (hframes : Frames answer body inBody) (h : Alike answer P inBody body body') :
    Alike answer P (Loop.extended answer inBlock body inBody names expression guard?)
      (render names expression guard? body) (render names expression guard? body') := by
  rw [render_eq, render_eq]
  refine Alike.next hlisted (fun C P => ?_) fun entries => ?_
  · exact (Expr.meets_evaluate P (Expr.tokensWithin_of trivial _)).bind fun _ =>
      meets_context.bind fun _ => (meets_fresh P).bind fun _ => meets_pure _
  · exact (alike_runs hlisted _ hframes h _ _ _).bind_same _

end Loop

namespace Tag
variable {body body' : Rendering String} {inBody : Listing}

theorem alike_branchOn (h : Alike answer P inBody body body') (e : Expr) :
    Alike answer P (extended.branch answer inBlock inBody e) (render.branchOn body e)
      (render.branchOn body' e) := by
  refine Alike.next hlisted (fun C P => ?_) fun v => ?_
  · exact Expr.meets_evaluate P (Expr.tokensWithin_of trivial e)
  · split
    · exact h.bind_same _
    · exact alike_refl _ _

/-- A tag around two bodies that are rendered alike. What it embeds is the same in both. -/
theorem alike_render (hframes : Frames answer body inBody) (h : Alike answer P inBody body body')
    (active : Bool) {nodes nodes' : List Node} (tag : Tag)
    (hnodes : tag.hasOwnScope = true → nodes' = nodes) :
    Alike answer P (tag.extended answer inBlock active nodes body inBody)
      (tag.render active nodes body) (tag.render active nodes' body') := by
  cases tag with
  | branch condition => exact alike_branchOn hlisted h condition
  | elseBranch condition =>
    cases active with
    | true => exact alike_branchOn hlisted h condition
    | false => exact alike_refl _ _
  | otherwise =>
    cases active with
    | true => exact h.bind_same _
    | false => exact alike_refl _ _
  | loop key value expression guard? =>
    exact (Loop.alike_render hlisted _ expression guard? hframes h).bind_same _
  | capture name => exact (h.bind_same _).bind_same _
  | «scoped» expression only =>
    refine Alike.bind_same ?_ _
    rw [withVariables_eq_bindVariables, withVariables_eq_bindVariables]
    refine Alike.next hlisted (fun C P => meets_bindVariables P expression only) fun saved => ?_
    exact h.restoring _
  | spaceless => exact (h.bind_same _).bind_same _
  | apply filters =>
    exact ((h.bind_same _).bind_same _).mono fun s w t ht => List.mem_append_left _ ht
  | autoescape strategy =>
    refine Alike.bind_same (fun s w hs hl => ?_) _
    exact h.restoring _ { s with autoescape := strategy } w hs hl
  | embeds inclusion =>
    rw [hnodes rfl]
    exact alike_refl _ _
  | _ => exact alike_refl _ _

end Tag

end

/-! ## Nodes and blocks -/

/-- What a block tag shows and what replaces it come to the same. -/
def Replaces (answer : (r : Request) → World → Outcome r.Answer) (inBlock : Block → Listing)
    (P : Option Template → Prop) (f : String → Node) : Prop :=
  ∀ name active, Alike answer P
    (Rendering.extended answer inBlock (Tag.render.closed (blockInPlace name)))
    (Tag.render.closed (blockInPlace name)) (Node.render active (f name))

variable {f : String → Node}

namespace Node

mutual

theorem alike_render (hlisted : Listed answer inBlock) (hf : Replaces answer inBlock P f) (n : Node)
    (active : Bool) :
    Alike answer P (extended answer inBlock active n) (render active n)
      (render active (n.replaceBlocks f)) := by
  cases n with
  | raw value | output e => exact alike_refl _ _
  | logic tag nodes =>
    have hframes := frames_renderAll hlisted nodes false ""
    rw [replaceBlocks]
    cases hblock : tag.block? with
    | some name =>
      obtain ⟨e, rfl⟩ := Tag.eq_of_block? hblock
      exact hf name active
    | none =>
      by_cases hscope : tag.hasOwnScope = true
      · rw [if_pos hscope]
        exact alike_refl _ _
      · rw [if_neg hscope]
        have hnodes := alike_renderAll hlisted hf nodes false ""
        exact Tag.alike_render hlisted hframes hnodes active tag fun h => absurd h hscope
termination_by structural n

theorem alike_renderAll (hlisted : Listed answer inBlock) (hf : Replaces answer inBlock P f)
    (nodes : List Node) (active : Bool) (done : String) :
    Alike answer P (extendedAll answer inBlock active done nodes) (renderAll active done nodes)
      (renderAll active done (replaceAllBlocks f nodes)) := by
  cases nodes with
  | nil => exact alike_refl _ _
  | cons n rest =>
    refine Alike.attempt_bind (frames_render hlisted n active) (alike_render hlisted hf n active)
      (fun r => ?_) fun failure => rfl
    exact alike_renderAll hlisted hf rest _ _
termination_by structural nodes

end

end Node

namespace Block
variable (hlisted : Listed answer inBlock) (hf : Replaces answer inBlock P f)
include hlisted hf

theorem alike_renderBody (b : Block) :
    Alike answer P (b.extended answer inBlock) b.renderBody (b.replaceBlocks f).renderBody := by
  cases hbody : b.body with
  | nodes nodes =>
    simp only [renderBody, extended, replaceBlocks, hbody]
    exact (Node.alike_renderAll hlisted hf nodes false "").bind_same _
  | expression e =>
    simp only [replaceBlocks, hbody]
    exact alike_refl _ _

theorem alike_inPlace (b : Block) :
    Alike answer P (fun s => b.extended answer inBlock (s.enter b)) b.inPlace
      (b.replaceBlocks f).inPlace := by
  intro s w hs hl
  have hinPlace (b : Block) : (b.inPlace s).runWith answer w
      = ((b.renderBody (s.enter b)).runWith answer w).bind fun ended after =>
        .done (ended.1, ended.2.leave s.template) after := Program.runWith_bind _ _ w
  rw [hinPlace, hinPlace, s.enter_replaceBlocks, alike_renderBody hlisted hf b (s.enter b) w hs hl]

end Block
end

/-! ## Asking for a block -/

open Rendering

theorem Expr.evaluate_called (name : String) :
    Expr.evaluate [.function "block" (some [.string name])] = renderNamedBlock name := by
  simp only [Expr.evaluate, Expr.evaluateWith, Expr.run, Expr.step, Expr.arguments, callFunction,
    bind_assoc, pure_bind, List.reverse_nil, List.map_nil]
  exact bind_pure (renderNamedBlock name)

theorem Rendering.outputText_safe (text : String) :
    outputText (.safe text) = pure (Value.safe text).text := by
  funext s
  change Program.done (Except.ok ((Value.safe text).output s.autoescape), s) = _
  cases s.autoescape <;> rfl

theorem Rendering.outputText_undefined : outputText .undefined = pure "" := by
  funext s
  change Program.done (Except.ok (Value.undefined.output s.autoescape), s) = _
  cases s.autoescape with
  | none => rfl
  | some strategy => cases strategy <;> rfl

namespace Environment
variable (env : Environment) (patience : Patience)

/-- What a block shows is not escaped again. -/
theorem safe_of_renderBlock {depth : Nat} {b : Block} {s s' : Scope} {w after : World} {v : Value}
    (h : env.run patience depth (renderBlock b s) w = .done (.ok v, s') after) :
    ∃ text, v = .safe text := by
  cases depth with
  | zero => cases h
  | succ depth =>
    rw [run_renderBlock] at h
    obtain ⟨mid, hbody, -⟩ := Block.run_inPlace_done h
    cases hkind : b.body with
    | nodes nodes =>
      simp only [Block.renderBody, hkind] at hbody
      rcases run_bind_iff.mp hbody with ⟨_, _, ⟨⟩⟩ | ⟨text, _, _, _, ⟨⟩⟩
      exact ⟨text, rfl⟩
    | expression e =>
      simp only [Block.renderBody, hkind] at hbody
      rcases run_bind_iff.mp hbody with ⟨_, _, ⟨⟩⟩ | ⟨x, _, _, _, houtput⟩
      rcases run_bind_iff.mp houtput with ⟨_, _, ⟨⟩⟩ | ⟨text, _, _, _, ⟨⟩⟩
      exact ⟨text, rfl⟩

/-- So it is shown as it is. -/
theorem run_renderBlock_text (depth : Nat) (b : Block) (s : Scope) (w : World) :
    env.run patience depth ((renderBlock b >>= fun v => pure v.text) s) w
      = env.run patience depth ((renderBlock b >>= outputText) s) w := by
  rw [run, run, run_bind, run_bind]
  cases hrun : (renderBlock b s).runWith (env.answer patience depth) w with
  | pending | tooDeep => rfl
  | done ended after =>
    obtain ⟨failure | v, mid⟩ := ended
    · rfl
    · obtain ⟨text, rfl⟩ := env.safe_of_renderBlock patience hrun
      exact congrArg (fun a : Rendering String => (a mid).runWith (env.answer patience depth) after)
        (outputText_safe text).symm

/-- Where no template is extended, a block tag shows the block of its name. -/
theorem run_blockInPlace (depth : Nat) (name : String) {s : Scope} (hs : s.parent = none)
    (w : World) :
    env.run patience depth (blockInPlace name s) w
      = env.run patience depth ((renderNamedBlock name >>= outputText) s) w := by
  have hinPlace : blockInPlace name s = (findBlock name >>= fun found =>
      found.elim (pure "") fun b => renderBlock b >>= fun v => pure v.text) s := by
    change (if s.parent.isSome = true then pure "" else findBlock name >>= _ :
      Rendering String) s = _
    rw [hs]
    refine congrArg (fun a : Rendering String => a s) (bind_congr fun found => ?_)
    cases found <;> rfl
  have hnamed : renderNamedBlock name = findBlock name >>= fun found =>
      found.elim (pure .undefined) renderBlock := by
    refine bind_congr fun found => ?_
    cases found <;> rfl
  rw [hinPlace, hnamed, bind_assoc, run, run, run_bind, run_bind]
  cases (findBlock name s).runWith (env.answer patience depth) w with
  | pending | tooDeep => rfl
  | done ended between =>
    obtain ⟨failure | _ | b, mid⟩ := ended
    · rfl
    · exact congrArg
        (fun a : Rendering String => (a mid).runWith (env.answer patience depth) between)
        outputText_undefined.symm
    · exact env.run_renderBlock_text patience depth b mid between

/-- Where a template is extended, a block tag shows nothing. -/
theorem replaces_omitted (depth : Nat) :
    Replaces (env.answer patience depth) (env.extendedIn patience depth) (fun p => p.isSome = true)
      Node.omitted := by
  intro name active s w hs _
  have hnothing : blockInPlace name s = .done (.ok "", s) := by
    change (if s.parent.isSome = true then pure "" else _ : Rendering String) s = _
    rw [if_pos hs]
    rfl
  rw [Tag.render.closed, run_bind, hnothing]
  rfl

/-- Where none is, it shows what calling the block shows. -/
theorem replaces_called (depth : Nat) :
    Replaces (env.answer patience depth) (env.extendedIn patience depth) (fun p => p = none)
      Node.called := by
  intro name active s w hs _
  have hcalled : Node.render active (Node.called name)
      = Tag.render.closed (renderNamedBlock name >>= outputText) := by
    rw [Tag.render.closed, bind_assoc, ← Expr.evaluate_called]
    rfl
  have hinPlace := env.run_blockInPlace patience depth name hs w
  rw [run, run] at hinPlace
  rw [hcalled, Tag.render.closed, Tag.render.closed, run_bind, hinPlace, ← run_bind]

/-- The answer to a block with its tags replaced. -/
theorem run_renderBlock_replaceBlocks {P : Option Template → Prop} {f : String → Node}
    (hf : ∀ depth, Replaces (env.answer patience depth) (env.extendedIn patience depth) P f)
    (depth : Nat) (b : Block) {s : Scope} {w : World} (hs : P s.parent)
    (hl : ∀ t ∈ env.extendedIn patience depth b s w, P (some t)) :
    env.run patience depth (renderBlock b s) w
      = env.run patience depth (renderBlock (b.replaceBlocks f) s) w := by
  cases depth with
  | zero => rfl
  | succ depth =>
    rw [run_renderBlock, run_renderBlock]
    exact Block.alike_inPlace (env.listed_extendedIn patience depth) (hf depth) b s w hs hl

/-- **What is shown of the blocks inside a block** that is asked for by its name, in any state, be
it in a template, in the body of an `embed` tag or in another block.  If a template is extended by
then, the block is rendered as if its body had no block tags.  If none is, and none on the way
either, it is rendered as if each block tag in its body were a call of the block of that name. -/
theorem block_by_name (depth : Nat) (name : String) (s : Scope) {w found : World} {b : Block}
    (h : env.answer patience depth (.findBlock s.template s.overrides name) w
      = .done (some b) found) :
    let shown := env.run patience depth (renderNamedBlock name s) w
    (s.parent.isSome = true →
        shown = env.run patience depth (renderBlock (b.replaceBlocks Node.omitted) s) found) ∧
      (s.parent = none → env.extendedIn patience depth b s found = [] →
        shown = env.run patience depth (renderBlock (b.replaceBlocks Node.called) s) found) := by
  intro shown
  have hshown : shown = env.run patience depth (renderBlock b s) found := by
    have hfind : (findBlock name s).runWith (env.answer patience depth) w
        = .done (.ok (some b), s) found := env.run_ask_done patience depth h
    change ((findBlock name >>= _) s).runWith (env.answer patience depth) w = _
    rw [run_bind, hfind]
    rfl
  rw [hshown]
  refine ⟨fun hs => ?_, fun hs hnone => ?_⟩
  · exact env.run_renderBlock_replaceBlocks patience (env.replaces_omitted patience) depth b hs
      fun _ _ => rfl
  · refine env.run_renderBlock_replaceBlocks patience (env.replaces_called patience) depth b hs ?_
    rw [hnone]
    exact List.forall_mem_nil _

/-! A page that asks for a block with another one inside, before it extends a template or behind. -/

/-- The template that is extended. It shows what the page has asked for. -/
def Asking.base : Template where
  number := 0
  id := some "base"
  base := some "base"
  nodes := [.raw "(", .output [.variable "x"], .raw ")"]
  options := { rethrow := true }

/-- The page. -/
def asking (early : Bool) : Template where
  number := 1
  id := none
  base := none
  nodes :=
    let ask : Node := .logic (.assign "x" [.function "block" (some [.string "b"])]) []
    let extend : Node := .logic (.inherits [.string "base"]) []
    let inner : Node := .logic (.block "c" none) [.raw "2"]
    (if early then [ask, extend] else [extend, ask]) ++ [.logic (.block "b" none) [.raw "1", inner]]
  options := { rethrow := true }

/-- Where the page extends the template it is as if the block had no other one inside. -/
theorem block_by_name_asking :
    let env : Environment := {}
    let page := asking false
    let s := Scope.start page []
    let extending := { s with parent := some Asking.base }
    let b (nodes : List Node) : Block := ⟨page, "b", .nodes nodes⟩
    let shown (s : Scope) := env.run .patient 9 (renderNamedBlock "b" s) {}
    shown extending
        = env.run .patient 9 (renderBlock (b [.raw "1", .raw ""]) extending) {} ∧
      shown s = env.run .patient 9 (renderBlock (b [.raw "1", Node.called "c"]) s) {} := by
  intro env page s extending b shown
  have hextending := env.block_by_name .patient 9 "b" extending (w := {}) rfl
  have hs := env.block_by_name .patient 9 "b" s (w := {}) rfl
  exact ⟨hextending.1 rfl, hs.2 rfl rfl⟩

/-- If the page asks before it extends the template, it is given the whole block; otherwise without
the block inside. -/
theorem text_asked_early :
    let text (early : Bool) := (({} : Environment).run .patient 9 ((asking early).text []).run
      { next := 2, store := [("base", Asking.base)] }).text?
    text true = some "(12)" ∧ text false = some "(1)" := by
  decide +kernel

end Environment
end Stencil
