import Stencil.Proofs.Engine.Depth
import Stencil.Proofs.Inheritance.Extended
import Stencil.Proofs.Render.NodeConduct

/-!
# What a render leaves of its scope

Blocks put their own template in place and a tag may change the escaping, and both call back into
what renders nodes and expressions, which can fail anywhere.  All of it is put back all the same:
behind a render the scope is what it was, but for the variables and for the template that an
`extends` tag named on the way (`Environment.frames`).

An action without a body of nodes is seen through its contract.  What has a body is taken apart
into such actions and its body, and one step after the other leaves what it should.  What a block
does is known from the runs that have one level less.
-/
namespace Stencil

/-- What becomes of a scope: only the variables and the extended template may be others, and the
latter only one that is named in the list. -/
structure Scope.Stays (s after : Scope) (extended : List Template) : Prop where
  template : after.template = s.template
  nesting : after.nesting = s.nesting
  overrides : after.overrides = s.overrides
  autoescape : after.autoescape = s.autoescape
  parent : after.parent = s.parent ∨ ∃ t ∈ extended, after.parent = some t

namespace Scope.Stays
variable {s mid after : Scope} {ts us : List Template}

theorem refl (s : Scope) (ts : List Template) : s.Stays s ts := ⟨rfl, rfl, rfl, rfl, .inl rfl⟩

theorem mono (h : s.Stays after ts) (hsub : ∀ t ∈ ts, t ∈ us) : s.Stays after us := by
  refine { h with parent := ?_ }
  rcases h.parent with hsame | ⟨t, ht, hparent⟩
  · exact .inl hsame
  · exact .inr ⟨t, hsub t ht, hparent⟩

theorem trans (h : s.Stays mid ts) (h' : mid.Stays after us) : s.Stays after (ts ++ us) := by
  refine ⟨h'.template.trans h.template, h'.nesting.trans h.nesting,
    h'.overrides.trans h.overrides, h'.autoescape.trans h.autoescape, ?_⟩
  rcases h'.parent with hsame | ⟨t, ht, hparent⟩
  · rw [hsame]
    exact (h.mono fun t ht => List.mem_append_left us ht).parent
  · exact .inr ⟨t, List.mem_append_right ts ht, hparent⟩

theorem withContext (h : s.Stays after ts) (c : Context) : s.Stays { after with context := c } ts :=
  ⟨h.template, h.nesting, h.overrides, h.autoescape, h.parent⟩

end Scope.Stays

/-! ## What stays -/

/-- The contract of what is done in a scope: its variables may change, and the template that it
extends, to one of the list. -/
def Contract.staying (s : Scope) (ts : List Template) : Contract where
  asks
    | .renderBlock _ inner => s.Stays inner ts
    | _ => True
  answers
    | .renderBlock _ inner, (r : BlockResult) =>
      r.parent = inner.parent ∨ ∃ t ∈ ts, r.parent = some t
    | _, _ => True
  scopes after := s.Stays after ts

namespace Contract
variable {s : Scope} {ts : List Template}

theorem staying_asks {r : Request} (h : r.Ordinary) : (staying s ts).asks r := by
  cases r with
  | renderBlock => exact h.elim
  | _ => trivial

theorem staying_evaluates (s : Scope) (ts : List Template) : (staying s ts).Evaluates True where
  storeless _ h := staying_asks h.ordinary
  resolve name base options :=
    Template.meets_resolve (fun _ h => staying_asks h.ordinary) (fun _ _ => trivial) name base
      options
  context _ c h := h.withContext c
  find _ _ _ _ := trivial
  found _ _ _ h _ _ := h
  above _ _ _ _ _ _ := trivial
  foundAbove _ _ _ _ h _ _ _ := h
  after inner b r h _ hr := by
    refine ⟨h.template, h.nesting, h.overrides, h.autoescape, ?_⟩
    rcases hr with hsame | hother
    · exact hsame ▸ h.parent
    · exact .inr hother

end Contract

section
variable {answer : (r : Request) → World → Outcome r.Answer} {inBlock : Block → Listing}
variable {α β : Type}

/-- A block that is rendered changes the extended template only to one that is listed. -/
def Listed (answer : (r : Request) → World → Outcome r.Answer) (inBlock : Block → Listing) : Prop :=
  ∀ (b : Block) (s : Scope) (w : World) (r : BlockResult) (after : World),
    answer (.renderBlock b s) w = .done r after →
      r.parent = s.parent ∨ ∃ t ∈ inBlock b s w, r.parent = some t

namespace Program

theorem along_extended (p : Program α) (w : World) :
    p.Along answer (fun r w' => ∀ t ∈ r.extended inBlock w', t ∈ p.extended answer inBlock w)
      w := by
  have hall : ∀ ts : List Template, (∀ t ∈ p.extended answer inBlock w, t ∈ ts) →
      p.Along answer (fun r w' => ∀ t ∈ r.extended inBlock w', t ∈ ts) w := by
    intro ts hts
    induction p generalizing w with
    | done a => trivial
    | ask r next ih =>
      rw [extended] at hts
      refine ⟨fun t ht => hts t (List.mem_append_left _ ht), fun a after ha => ih a after ?_⟩
      intro t ht
      refine hts t (List.mem_append_right _ ?_)
      rw [ha]
      exact ht
  exact hall _ fun _ ht => ht

/-- A run under the contract ends in what it promises. -/
theorem Meets.stays (hlisted : Listed answer inBlock) {p : Program α} {post : α → Prop}
    {s : Scope} {w : World}
    (h : p.Meets (.staying s (p.extended answer inBlock w)) post) {a : α} {after : World}
    (hrun : p.runWith answer w = .done a after) : post a := by
  have halong : p.Along answer (fun r w' => ∀ t ∈ r.extended inBlock w',
      t ∈ p.extended answer inBlock w) w := along_extended p w
  have hstep : ∀ r w', (Contract.staying s (p.extended answer inBlock w)).asks r → True →
      (∀ t ∈ r.extended inBlock w', t ∈ p.extended answer inBlock w) → ∀ a after,
        answer r w' = .done a after →
          (Contract.staying s (p.extended answer inBlock w)).answers r a ∧ True := by
    intro r w' _ _ hsub a after ha
    refine ⟨?_, trivial⟩
    cases r with
    | renderBlock b inner =>
      rcases hlisted b inner w' a after ha with hsame | ⟨t, ht, hparent⟩
      · exact .inl hsame
      · exact .inr ⟨t, hsub t ht, hparent⟩
    | _ => trivial
  exact ((h.along trivial halong hstep).2 a after hrun).1

end Program

namespace Rendering

/-- However the action ends, the scope stays what it was, but for the variables and for what is
listed. -/
def Frames (answer : (r : Request) → World → Outcome r.Answer) (a : Rendering α) (l : Listing) :
    Prop :=
  ∀ s w r s' after, (a s).runWith answer w = .done (r, s') after → s.Stays s' (l s w)

theorem Frames.mono {a : Rendering α} {l m : Listing} (h : Frames answer a l)
    (hsub : ∀ s w, ∀ t ∈ l s w, t ∈ m s w) : Frames answer a m := fun s w r s' after hrun =>
  (h s w r s' after hrun).mono (hsub s w)

theorem frames_pure (a : α) (l : Listing) : Frames answer (pure a) l := by
  rintro s w r s' after ⟨⟩
  exact .refl s _

theorem frames_modifyContext (f : Context → Context) (l : Listing) :
    Frames answer (modifyContext f) l := by
  rintro s w r s' after ⟨⟩
  exact (Scope.Stays.refl s _).withContext _

theorem frames_outputText (v : Value) (l : Listing) : Frames answer (outputText v) l := by
  rintro s w r s' after ⟨⟩
  exact .refl s _

theorem frames_ask (r : Request) (l : Listing) : Frames answer (ask r) l := by
  intro s w result s' after hrun
  have hask : ask r s = .ask r fun a => .done (Except.ok a, s) := rfl
  rw [hask, Program.runWith] at hrun
  split at hrun
  · cases hrun
    exact .refl s _
  · cases hrun
  · cases hrun

/-- What meets every contract that permits what expressions do. -/
theorem frames_of_meets (hlisted : Listed answer inBlock) {a : Rendering α}
    (h : ∀ C : Contract, C.Evaluates True → Meets C a) :
    Frames answer a (a.extended answer inBlock) := by
  intro s w r s' after hrun
  have hmeets := h _ (Contract.staying_evaluates s ((a s).extended answer inBlock w)) s (.refl s _)
  exact Program.Meets.stays hlisted hmeets hrun

/-- An action before another: it fails, or the other comes behind it. -/
theorem run_bind_iff {a : Rendering α} {f : α → Rendering β} {s s' : Scope} {w after : World}
    {r : Except Failure β} :
    ((a >>= f) s).runWith answer w = .done (r, s') after ↔
    (∃ failure, (a s).runWith answer w = .done (.error failure, s') after ∧ r = .error failure) ∨
    ∃ x mid between, (a s).runWith answer w = .done (.ok x, mid) between ∧
      (f x mid).runWith answer between = .done (r, s') after := by
  refine Program.runWith_bind_eq_done.trans ⟨?_, ?_⟩
  · rintro ⟨⟨failure | x, mid⟩, between, hfirst, hnext⟩
    · cases hnext
      exact .inl ⟨failure, hfirst, rfl⟩
    · exact .inr ⟨x, mid, between, hfirst, hnext⟩
  · rintro (⟨failure, hfailed, rfl⟩ | ⟨x, mid, between, hfirst, hnext⟩)
    · exact ⟨_, after, hfailed, rfl⟩
    · exact ⟨_, between, hfirst, hnext⟩

/-- An action before another that is told how it ended. -/
theorem run_bind_attempt_iff {a : Rendering α} {f : Except Failure α → Rendering β}
    {s s' : Scope} {w after : World} {r : Except Failure β} :
    ((Rendering.attempt a >>= f) s).runWith answer w = .done (r, s') after ↔
      ∃ ended mid between, (a s).runWith answer w = .done (ended, mid) between ∧
        (f ended mid).runWith answer between = .done (r, s') after := by
  rw [Rendering.attempt_bind, Program.runWith_bind_eq_done]
  exact Prod.exists

theorem run_bind_attempt {a : Rendering α} {f : Except Failure α → Rendering β} {s mid : Scope}
    {w between : World} {r : Except Failure α}
    (h : (a s).runWith answer w = .done (r, mid) between) :
    ((Rendering.attempt a >>= f) s).runWith answer w = (f r mid).runWith answer between := by
  rw [Rendering.attempt_bind, Program.runWith_bind, h]
  rfl

theorem Frames.bind {a : Rendering α} {f : α → Rendering β} {l : Listing} {m : α → Listing}
    (h : Frames answer a l) (hf : ∀ x, Frames answer (f x) (m x)) :
    Frames answer (a >>= f) (a.followed answer l m) := by
  intro s w r s' after hrun
  rcases run_bind_iff.mp hrun with ⟨failure, hfirst, -⟩ | ⟨x, mid, between, hfirst, hnext⟩
  · exact (h s w _ s' after hfirst).mono fun t ht => List.mem_append_left _ ht
  · simp only [followed, hfirst]
    exact (h s w _ mid between hfirst).trans (hf x mid between r s' after hnext)

/-- What comes behind extends nothing. -/
theorem Frames.bind_none {a : Rendering α} {f : α → Rendering β} {l : Listing}
    (h : Frames answer a l) (hf : ∀ x, Frames answer (f x) .none) : Frames answer (a >>= f) l := by
  refine (h.bind hf).mono fun s w t ht => ?_
  rcases List.mem_append.mp ht with hin | hnext
  · exact hin
  · split at hnext <;> cases hnext

theorem frames_endList (done : String) (failure : Failure) :
    Frames answer (endList done failure) .none := by
  have htemplate : Frames answer template .none := by
    rintro s w r s' after ⟨⟩
    exact .refl s _
  refine htemplate.bind_none fun t => ?_
  split
  · rintro s w r s' after ⟨⟩
    exact .refl s _
  · exact (frames_ask _ _).bind_none fun _ => frames_pure _ _

/-- What comes behind is told how the action ended. -/
theorem Frames.attempt_bind {a : Rendering α} {f : Except Failure α → Rendering β} {l : Listing}
    {m : α → Listing} (h : Frames answer a l) (hok : ∀ x, Frames answer (f (.ok x)) (m x))
    (hfailed : ∀ failure, Frames answer (f (.error failure)) .none) :
    Frames answer (Rendering.attempt a >>= f) (a.followed answer l m) := by
  intro s w r s' after hrun
  obtain ⟨failure | x, mid, between, hfirst, hnext⟩ := run_bind_attempt_iff.mp hrun
  · have hlater := hfailed failure mid between r s' after hnext
    exact ((h s w _ mid between hfirst).trans hlater).mono fun t ht =>
      List.mem_append_left _ ((List.mem_append.mp ht).resolve_right List.not_mem_nil)
  · simp only [followed, hfirst]
    exact (h s w _ mid between hfirst).trans (hok x mid between r s' after hnext)

/-- A body behind which a part of the scope is put back. -/
theorem run_restoring_done {restore : Scope → Scope} {body : Rendering α} {s s' : Scope}
    {w after : World} {r : Except Failure α}
    (h : (restoring restore body s).runWith answer w = .done (r, s') after) :
    ∃ mid, (body s).runWith answer w = .done (r, mid) after ∧ restore mid = s' := by
  have hbody : restoring restore body s =
      body s >>= fun ended => .done (ended.1, restore ended.2) := Program.bind_assoc (body s) _ _
  rw [hbody, Program.runWith_bind_eq_done] at h
  obtain ⟨⟨result, mid⟩, _, hrun, ⟨⟩⟩ := h
  exact ⟨mid, hrun, rfl⟩

theorem frames_withAutoescape (strategy : Autoescape) {body : Rendering String} {inBody : Listing}
    (h : Frames answer body inBody) :
    Frames answer (withAutoescape strategy body)
      fun s => inBody { s with autoescape := strategy } := by
  intro s w r s' after hrun
  obtain ⟨mid, hbody, rfl⟩ := run_restoring_done (s := { s with autoescape := strategy }) hrun
  have hstays := h _ w r mid after hbody
  exact ⟨hstays.template, hstays.nesting, hstays.overrides, rfl, hstays.parent⟩

theorem withVariables_eq_bindVariables (e : Option Expr) (only : Bool) (body : Rendering String) :
    withVariables e only body = bindVariables e only >>= fun saved =>
      restoring (fun scope => { scope with context := saved }) body := by
  cases e <;> cases only <;> simp [withVariables, bindVariables, bind_assoc]

theorem meets_bindVariables {C : Contract} (P : C.Evaluates True) (e : Option Expr)
    (only : Bool) : Meets C (bindVariables e only) := by
  have hmerge (v : Value) (saved : Context) : Meets C (do
      let c ← settle (mergeObject (← context) v)
      modifyContext fun _ => c
      return saved) :=
    meets_context.bind fun _ => (meets_settle _).bind fun _ =>
      (meets_modifyContext P _).bind fun _ => meets_pure _
  cases e with
  | none =>
    simp only [bindVariables, pure_bind]
    refine meets_context.bind fun saved => ?_
    split
    · exact (meets_modifyContext P _).bind fun _ => meets_pure _
    · exact meets_pure _
  | some e =>
    simp only [bindVariables, map_eq_pure_bind, bind_assoc, pure_bind]
    refine (Expr.meets_evaluate P (Expr.tokensWithin_of trivial e)).bind fun v =>
      meets_context.bind fun saved => ?_
    split
    · exact (meets_modifyContext P _).bind fun _ => hmerge v saved
    · exact hmerge v saved

section
variable (hlisted : Listed answer inBlock)
include hlisted

theorem frames_evaluate (e : Expr) :
    Frames answer (Expr.evaluate e) ((Expr.evaluate e).extended answer inBlock) :=
  frames_of_meets hlisted fun _ P => Expr.meets_evaluate P (Expr.tokensWithin_of trivial e)

theorem frames_withVariables (e : Option Expr) (only : Bool) {body : Rendering String}
    {inBody : Listing} (h : Frames answer body inBody) :
    Frames answer (withVariables e only body)
      (before answer inBlock (bindVariables e only) fun _ => inBody) := by
  rw [withVariables_eq_bindVariables]
  refine (frames_of_meets hlisted fun _ P => meets_bindVariables P e only).bind fun saved => ?_
  intro s w r s' after hrun
  obtain ⟨mid, hbody, rfl⟩ := run_restoring_done hrun
  exact (h s w r mid after hbody).withContext saved

end
end Rendering

open Rendering

section
variable (hlisted : Listed answer inBlock)
include hlisted

/-! ## Loops and tags -/

namespace Loop
variable {body : Rendering String} {inBody : Listing}

omit hlisted in
/-- A loop runs its body after two actions of its own: one that lets the entry pass or not, and one
that renews what the body sees of the loop. -/
theorem runs_cons (l : Loop) (entry : Value × Value) (rest : List (Value × Value)) (index : Nat)
    (done : String) :
    l.runs body (entry :: rest) index done =
      (do modifyContext (l.names.bindEntry entry); l.passes) >>= fun passed =>
        if passed then
          (do
            let identity ← fresh
            setVariable "loop" (.object identity
              (loopEntries index l.length l.guard?.isSome l.parent))) >>= fun _ =>
          body >>= fun text => l.runs body rest (index + 1) (done ++ text)
        else l.runs body rest index done := by
  simp only [runs, bind_assoc]

theorem frames_runs (l : Loop) (h : Frames answer body inBody) (entries : List (Value × Value))
    (index : Nat) (done : String) :
    Frames answer (l.runs body entries index done)
      (extendedRuns answer inBlock body inBody l entries index done) := by
  induction entries generalizing index done with
  | nil => exact frames_pure _ _
  | cons entry rest ih =>
    rw [runs_cons, extendedRuns]
    refine Frames.bind (frames_of_meets hlisted fun C P => ?_) fun passed => ?_
    · exact (meets_modifyContext P _).bind fun _ => meets_passes P (optionWithin_of trivial _)
    · split
      · refine Frames.bind (frames_of_meets hlisted fun C P => ?_) fun _ => ?_
        · exact (meets_fresh P).bind fun _ => meets_setVariable P _ _
        · exact h.bind fun text => ih _ _
      · exact ih _ _

omit hlisted in
theorem render_eq (names : LoopNames) (expression : Expr) (guard? : Option Expr) :
    render names expression guard? body = start expression >>= fun (entries, identity, outer) =>
      runs ⟨names, guard?, entries.length, .object identity outer⟩ body entries 0 "" >>= fun r =>
        modifyContext (names.leave outer) >>= fun _ => pure r := by
  simp only [render, start, bind_assoc, pure_bind]

theorem frames_render (names : LoopNames) (expression : Expr) (guard? : Option Expr)
    (h : Frames answer body inBody) :
    Frames answer (render names expression guard? body)
      (Loop.extended answer inBlock body inBody names expression guard?) := by
  rw [render_eq]
  refine Frames.bind (frames_of_meets hlisted fun C P => ?_) fun entries => ?_
  · exact (Expr.meets_evaluate P (Expr.tokensWithin_of trivial _)).bind fun _ =>
      meets_context.bind fun _ => (meets_fresh P).bind fun _ => meets_pure _
  · refine (frames_runs hlisted _ h _ _ _).bind_none fun r => ?_
    exact (frames_modifyContext _ _).bind_none fun _ => frames_pure _ _

end Loop

namespace Tag
variable {body : Rendering String} {inBody : Listing}

omit hlisted in
theorem frames_closed {a : Rendering String} {l : Listing} (h : Frames answer a l) :
    Frames answer (render.closed a) l := h.bind_none fun _ => frames_pure _ _

theorem frames_branchOn (h : Frames answer body inBody) (e : Expr) :
    Frames answer (render.branchOn body e) (extended.branch answer inBlock inBody e) := by
  refine (frames_evaluate hlisted e).bind fun v => ?_
  split
  · exact h.bind_none fun _ => frames_pure _ _
  · exact frames_pure _ _

theorem frames_render (h : Frames answer body inBody) (active : Bool) (nodes : List Node)
    (tag : Tag) :
    Frames answer (tag.render active nodes body)
      (tag.extended answer inBlock active nodes body inBody) := by
  have hexpr (e : Expr) : Expr.tokensWithin True e := Expr.tokensWithin_of trivial e
  have hinclusion (i : Inclusion) : i.Within True :=
    ⟨hexpr i.expression, optionWithin_of trivial i.bindings⟩
  cases tag with
  | branch condition => exact frames_branchOn hlisted h condition
  | elseBranch condition =>
    cases active with
    | true => exact frames_branchOn hlisted h condition
    | false => exact frames_pure _ _
  | otherwise =>
    cases active with
    | true => exact frames_closed h
    | false => exact frames_pure _ _
  | loop key value expression guard? =>
    exact (Loop.frames_render hlisted _ expression guard? h).bind_none fun _ => frames_pure _ _
  | capture name =>
    refine frames_closed (h.bind_none fun text => ?_)
    exact (frames_modifyContext _ _).bind_none fun _ => frames_pure _ _
  | inherits expression =>
    -- the one tag that changes more of the scope than its variables
    have hsplit : (Tag.inherits expression).render active nodes body =
        render.closed ((do findTemplate (← Expr.evaluate expression)) >>= fun parent =>
          modify (fun scope => { scope with parent := some parent }) >>= fun _ => pure "") := by
      simp only [render, bind_assoc]
    rw [hsplit]
    refine frames_closed (Frames.bind (frames_of_meets hlisted fun C P => ?_) fun parent => ?_)
    · exact (Expr.meets_evaluate P (hexpr _)).bind fun v => meets_findTemplate P v
    · rintro s w r s' after ⟨⟩
      exact ⟨rfl, rfl, rfl, rfl, .inr ⟨parent, List.mem_singleton_self _, rfl⟩⟩
  | «scoped» expression only => exact frames_closed (frames_withVariables hlisted _ only h)
  | spaceless => exact frames_closed (h.bind_none fun _ => frames_pure _ _)
  | apply filters =>
    refine frames_closed (h.bind fun text => ?_)
    have hvalue := frames_of_meets hlisted fun C P =>
      Expr.meets_evaluateWith P (hexpr filters) [.safe text]
    exact hvalue.bind_none fun v => frames_pure _ _
  | autoescape strategy => exact frames_closed (frames_withAutoescape strategy h)
  | assign name expression =>
    refine frames_of_meets hlisted fun C P => meets_closed ?_
    exact (Expr.meets_evaluate P (hexpr _)).bind fun v =>
      (meets_setVariable P name v).bind fun _ => meets_pure _
  | block name expression =>
    exact frames_of_meets hlisted fun C P => meets_closed (meets_blockInPlace P name)
  | uses expression renames | macroDef name params => exact frames_pure _ _
  | includes inclusion =>
    exact frames_of_meets hlisted fun C P =>
      meets_closed (meets_includeTemplate P (hinclusion inclusion))
  | embeds inclusion =>
    exact frames_of_meets hlisted fun C P =>
      meets_closed (meets_embedTemplate P (hinclusion inclusion) nodes)
  | imports expression name =>
    refine frames_of_meets hlisted fun C P => meets_closed ?_
    exact (meets_macroSource P (hexpr _)).bind fun source => (meets_fresh P).bind fun _ =>
      (meets_setVariable P name _).bind fun _ => meets_pure _
  | importsNames expression names =>
    refine frames_of_meets hlisted fun C P => meets_closed ?_
    exact (meets_macroSource P (hexpr _)).bind fun source =>
      (meets_importMacros P source names).bind fun _ => meets_pure _
  | evaluate expression =>
    refine frames_of_meets hlisted fun C P => meets_closed ?_
    exact (Expr.meets_evaluate P (hexpr _)).bind fun _ => meets_pure _
  | deprecated message =>
    refine frames_of_meets hlisted fun C P => meets_closed ?_
    exact (Expr.meets_evaluate P (hexpr _)).bind fun v => meets_template.bind fun t =>
      (meets_storeless P (r := .report (.deprecated t.id v.text)) trivial).bind fun _ =>
        meets_pure _

end Tag
end

/-! ## Nodes and blocks -/

namespace Node

mutual

theorem frames_render (hlisted : Listed answer inBlock) (n : Node) (active : Bool) :
    Frames answer (render active n) (extended answer inBlock active n) := by
  cases n with
  | raw value => exact frames_pure _ _
  | output e =>
    exact (frames_evaluate hlisted e).bind_none fun v =>
      (frames_outputText v _).bind_none fun _ => frames_pure _ _
  | logic tag nodes =>
    exact Tag.frames_render hlisted (frames_renderAll hlisted nodes false "") active nodes tag
termination_by structural n

theorem frames_renderAll (hlisted : Listed answer inBlock) (nodes : List Node) (active : Bool)
    (done : String) :
    Frames answer (renderAll active done nodes)
      (extendedAll answer inBlock active done nodes) := by
  cases nodes with
  | nil => exact frames_pure _ _
  | cons n rest =>
    -- a node that fails ends the list, and what it has extended until then stays
    refine (frames_render hlisted n active).attempt_bind (fun r => ?_) fun failure => ?_
    · exact frames_renderAll hlisted rest _ _
    · exact frames_endList done failure
termination_by structural nodes

end

end Node

namespace Block
variable (hlisted : Listed answer inBlock)
include hlisted

theorem frames_renderBody (b : Block) :
    Frames answer b.renderBody (b.extended answer inBlock) := by
  cases hbody : b.body with
  | nodes nodes =>
    simp only [renderBody, extended, hbody]
    exact (Node.frames_renderAll hlisted nodes false "").bind_none fun _ => frames_pure _ _
  | expression e =>
    simp only [renderBody, extended, hbody]
    exact (frames_evaluate hlisted e).bind_none fun v =>
      (frames_outputText v _).bind_none fun _ => frames_pure _ _

/-- Render a block in the scope that it is called in: the scope is entered, and left again however
the body ends. -/
def inPlace (b : Block) : Rendering Value := fun s => do
  let (r, after) ← b.renderBody (s.enter b)
  return (r, after.leave s.template)

omit hlisted in
theorem run_inPlace_done {b : Block} {s s' : Scope} {w after : World} {r : Except Failure Value}
    (h : (b.inPlace s).runWith answer w = .done (r, s') after) :
    ∃ mid, (b.renderBody (s.enter b)).runWith answer w = .done (r, mid) after ∧
      mid.leave s.template = s' := by
  have hinPlace : b.inPlace s = b.renderBody (s.enter b) >>= fun ended =>
      .done (ended.1, ended.2.leave s.template) := rfl
  rw [hinPlace, Program.runWith_bind_eq_done] at h
  obtain ⟨⟨result, mid⟩, _, hbody, ⟨⟩⟩ := h
  exact ⟨mid, hbody, rfl⟩

/-- What the body leaves of the names of the blocks around it is what it found, so that the name
which is taken off is that of the block. -/
theorem frames_inPlace (b : Block) :
    Frames answer b.inPlace fun s => b.extended answer inBlock (s.enter b) := by
  intro s w r s' after hrun
  obtain ⟨mid, hbody, rfl⟩ := run_inPlace_done hrun
  have hstays := frames_renderBody hlisted b _ w _ _ _ hbody
  exact ⟨rfl, congrArg List.tail hstays.nesting, hstays.overrides, hstays.autoescape,
    hstays.parent⟩

end Block
end

namespace Environment
open Rendering
variable (env : Environment) (patience : Patience)

/-- A block that is asked for is rendered in place, in a run of one level less. -/
theorem answer_renderBlock (depth : Nat) (b : Block) (s : Scope) (w : World) :
    env.answer patience (depth + 1) (.renderBlock b s) w =
      ((b.inPlace s).runWith (env.answer patience depth) w).map fun ended =>
        (⟨ended.1, ended.2.context, ended.2.parent⟩ : BlockResult) := by
  have hrender : b.render s = b.renderBody (s.enter b) >>= fun ended =>
      .done (⟨ended.1, ended.2.context, ended.2.parent⟩ : BlockResult) := rfl
  have hinPlace : b.inPlace s = b.renderBody (s.enter b) >>= fun ended =>
      .done (ended.1, ended.2.leave s.template) := rfl
  change (b.render s).runWith (env.answer patience depth) w = _
  rw [hrender, hinPlace, Program.runWith_bind, Program.runWith_bind]
  cases (b.renderBody (s.enter b)).runWith (env.answer patience depth) w <;> rfl

theorem listed_extendedIn (depth : Nat) :
    Listed (env.answer patience depth) (env.extendedIn patience depth) := by
  induction depth with
  | zero =>
    intro b s w r after hanswer
    cases hanswer
  | succ depth ih =>
    intro b s w r after hanswer
    rw [answer_renderBlock] at hanswer
    obtain ⟨⟨result, s'⟩, hrun, rfl⟩ := Outcome.map_eq_done hanswer
    exact (Block.frames_inPlace ih b s w result s' after hrun).parent

/-- The call of a block leaves the scope that its rendering in place leaves. -/
theorem run_renderBlock (depth : Nat) (b : Block) (s : Scope) (w : World) :
    env.run patience (depth + 1) (renderBlock b s) w =
      env.run patience depth (b.inPlace s) w := by
  have hask : renderBlock b s = .ask (.renderBlock b s) fun r =>
      .done (r.result, { s with context := r.context, parent := r.parent }) := rfl
  rw [run, hask, Program.runWith, answer_renderBlock, ← run]
  cases hrun : env.run patience depth (b.inPlace s) w with
  | done ended after =>
    obtain ⟨r, s'⟩ := ended
    have hlisted := env.listed_extendedIn patience depth
    have hstays := Block.frames_inPlace hlisted b s w r s' after hrun
    obtain ⟨htemplate, hnesting, hoverrides, hautoescape, -⟩ := hstays
    cases s
    cases s'
    cases htemplate
    cases hnesting
    cases hoverrides
    cases hautoescape
    rfl
  | pending after | tooDeep => rfl

/-- **What a render leaves of its scope.**  However the rendering of nodes, the evaluation of an
expression or the rendering of a block ends, the template, the names of the blocks around, the
overriding blocks and the escaping are what they were before, and the extended template is, unless
an `extends` tag was rendered on the way: then it may be one that such a tag named. -/
theorem frames (depth : Nat) :
    (∀ active done nodes, Frames (env.answer patience depth) (Node.renderAll active done nodes)
      (Node.extendedAll (env.answer patience depth) (env.extendedIn patience depth) active done
        nodes)) ∧
    (∀ e, Frames (env.answer patience depth) (Expr.evaluate e)
      ((Expr.evaluate e).extended (env.answer patience depth) (env.extendedIn patience depth))) ∧
    (∀ e, Frames (env.answer patience depth) (Expr.evaluateList e)
      ((Expr.evaluateList e).extended (env.answer patience depth)
        (env.extendedIn patience depth))) ∧
    (∀ b : Block, Frames (env.answer patience depth) b.inPlace fun s =>
      b.extended (env.answer patience depth) (env.extendedIn patience depth) (s.enter b)) ∧
    ∀ b s w, env.run patience (depth + 1) (renderBlock b s) w =
      env.run patience depth (b.inPlace s) w := by
  have hlisted := env.listed_extendedIn patience depth
  refine ⟨fun active done nodes => Node.frames_renderAll hlisted nodes active done,
    frames_evaluate hlisted, fun e => frames_of_meets hlisted fun C P => ?_,
    Block.frames_inPlace hlisted, env.run_renderBlock patience depth⟩
  exact (Expr.meets_run P (Expr.tokensWithin_of trivial e) []).bind fun _ => meets_pure _

/-- A branch that is not taken extends nothing. -/
example (depth : Nat) (s : Scope) (w : World) :
    Node.extendedAll (env.answer patience depth) (env.extendedIn patience depth) false ""
      [.logic (.branch [.bool false]) [.logic (.inherits [.string "base"]) []]] s w = [] := rfl

end Environment
end Stencil
