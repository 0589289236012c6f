import Stencil.Engine.Host
import Stencil.Proofs.Inheritance.InPlace

/-!
# What a chain of templates renders

The text of a chain is defined without overrides and links (`Chain.text`): the templates run one
after the other, those below for their effect on the variables only, and the text is that of the
root, with the blocks of the chain in place.  The overrides in it are noted as the engine notes
them, but the reference does not look at them.

Rendering the first template of the chain comes to this text, with the same state and the same
failure if it fails.  The proof goes up the chain: behind the stream of a template stands the render
of the next one, and what is known there is what was known before, one template further
(`Chain.Linked.run_textFrom`).
-/
namespace Stencil
open Rendering

namespace Template

/-- The text of the template's own nodes, and the scope at their end. -/
def stream (t : Template) (c : Context) (overrides : Dict Block) : Attempt (String × Scope) :=
  resultIn { Scope.start t c with overrides } do return (← Node.renderAll false "" t.nodes, ← get)

/-- What rendering a template comes to behind its stream. -/
def finish (t : Template) (text : String) (scope : Scope) : Attempt String :=
  match scope.parent with
  | none => return text
  | some parent => do
    Program.request (.setParent t parent)
    let links ← Program.request (.links t)
    ExceptT.mk (Program.request
      (.render parent none scope.context (t.offeredBlocks links scope.overrides)))

/-- The name at the start of the template refers to the other template. -/
def Finds (t : Template) (env : Environment) (patience : Patience) (depth : Nat) (next : Template)
    (w : World) : Prop :=
  ∃ name after, t.extended? = some name ∧
    env.run patience depth (Template.resolve name t.base t.options).run w = .done (.ok next) after

end Template

namespace Chain

/-- The streams of some templates in order, each for its effect on the variables, and the text of
the root behind them. -/
def textFrom (root : Template) : List Template → Context → Dict Block → Attempt String
  | [], c, overrides => do return (← root.stream c overrides).1
  | t :: rest, c, overrides => do
    let (_, scope) ← t.stream c overrides
    Program.request (.setParent t (rest.headD root))
    textFrom root rest scope.context (t.offeredBlocks {} overrides)

/-- The text of the chain. -/
def text (chain : Chain) (c : Context) : Attempt String := textFrom chain.root chain.below c []

/-- When its turn comes, the name at the start of each template refers to the next one. -/
def LeadsFrom (chain : Chain) (env : Environment) (patience : Patience) (depth : Nat) :
    List Template → Context → Dict Block → World → Prop
  | [], _, _, _ => True
  | t :: rest, c, overrides, w =>
    t.Finds env patience depth (rest.headD chain.root) w ∧
      ∀ text scope after,
        (t.stream c overrides).run.runWith (chain.answer env patience depth) w
            = .done (.ok (text, scope)) after →
          chain.LeadsFrom env patience depth rest scope.context (t.offeredBlocks {} overrides)
            (after.modifyLinks t fun l => { l with parent := some (rest.headD chain.root) })

/-- The names at the start of the templates lead along the chain. -/
def Leads (chain : Chain) (env : Environment) (patience : Patience) (depth : Nat) (c : Context)
    (w : World) : Prop :=
  chain.LeadsFrom env patience depth chain.below c [] w

/-- The first template of the chain. -/
def first (chain : Chain) : Template := chain.below.headD chain.root

end Chain

/-! ## The start of a stream -/

theorem Rendering.bind_run {α β : Type} (a : Rendering α) (f : α → Rendering β) (scope : Scope) :
    (a >>= f) scope = a scope >>= fun out => match out.1 with
      | .ok v => f v out.2
      | .error failure => .done (.error failure, out.2) := by
  show Program.bind (a scope) _ = Program.bind (a scope) _
  congr 1
  funext ⟨r, s⟩
  cases r with
  | ok v => rfl
  | error failure => rfl

theorem Rendering.findTemplate_string (name : String) (scope : Scope) :
    findTemplate (.string name) scope
      = (Template.resolve name scope.template.base scope.template.options).run >>= fun found =>
        .done (found, scope) := by
  have htext : (Value.string name).text = name := by simp [Value.text, Value.writeTo]
  rw [findTemplate_eq (v := .string name) (fun _ _ => nofun) scope, htext]

theorem Node.attempt_render_inherits (name : String) (nodes : List Node) (scope : Scope) :
    attempt (Node.render false (.logic (.inherits [.string name]) nodes)) scope
      = (Template.resolve name scope.template.base scope.template.options).run >>= fun found =>
        match found with
        | .ok next => .done (.ok (.ok ("", false)), { scope with parent := some next })
        | .error failure => .done (.ok (.error failure), scope) := by
  have hsteps : attempt (Node.render false (.logic (.inherits [.string name]) nodes)) scope
      = ((findTemplate (.string name) >>= fun parent => do
          modify fun scope => { scope with parent := some parent }
          return "") >>= fun text => pure (text, false) : Rendering (String × Bool)) scope >>=
        fun out => .done (.ok out.1, out.2) := rfl
  rw [hsteps, bind_run, bind_run, findTemplate_string, Program.bind_assoc, Program.bind_assoc,
    Program.bind_assoc]
  congr 1
  funext found
  cases found with
  | ok next => rfl
  | error failure => rfl

/-- How a list of nodes goes on behind its first node. -/
def Node.goOn (rest : List Node) : Except Failure (String × Bool) → Rendering String
  | .ok (text, active) => Node.renderAll active ("" ++ text) rest
  | .error failure => endList "" failure

/-- A stream that starts by extending a template first finds it; from then on it is extended. -/
theorem Template.stream_eq {t : Template} {name : String} (h : t.extended? = some name)
    (c : Context) (overrides : Dict Block) :
    (t.stream c overrides).run
      = (Template.resolve name t.base t.options).run >>= fun found => match found with
        | .ok next => (resultIn { Scope.start t c with overrides, parent := some next } do
            return (← Node.renderAll false "" t.nodes.tail, ← get)).run
        | .error failure => (resultIn { Scope.start t c with overrides } do
            return (← endList "" failure, ← get)).run := by
  obtain ⟨nodes, hnodes⟩ := t.nodes_of_extended? h
  let start : Scope := { Scope.start t c with overrides }
  have hassoc : (do return (← Node.renderAll false "" t.nodes, ← get) : Rendering (String × Scope))
      = attempt (Node.render false (.logic (.inherits [.string name]) nodes)) >>= fun r => do
        return (← Node.goOn t.nodes.tail r, ← get) := by
    rw [hnodes, Node.renderAll]
    exact bind_assoc _ _ _
  have hsteps : (t.stream c overrides).run
      = (attempt (Node.render false (.logic (.inherits [.string name]) nodes)) >>= fun r => (do
          return (← Node.goOn t.nodes.tail r, ← get) : Rendering (String × Scope))) start >>=
        fun out => .done out.1 := by
    rw [stream, hassoc]
    rfl
  rw [hsteps, bind_run, Node.attempt_render_inherits, Program.bind_assoc, Program.bind_assoc]
  congr 1
  funext found
  cases found with
  | ok next => rfl
  | error failure => rfl

/-! ## One render -/

namespace Template

theorem render_eq (t : Template) (c : Context) (overrides : Dict Block) :
    t.render none c overrides
      = t.prepare c >>= fun _ => t.stream c overrides >>= fun out => t.finish out.1 out.2 := rfl

end Template

namespace Environment
variable {env : Environment} {patience : Patience} {depth : Nat} {t : Template} {w : World}

/-- Without `use` tags there is nothing to be resolved. -/
theorem run_prepare (h : t.blockImports = []) (c : Context) :
    env.run patience depth (t.prepare c).run w = .done (.ok ()) w := by
  have hclaim : env.answer patience depth (.claimImports t) w = .done false w := by
    have hresolved : w.isUnresolved t = false := by simp [World.isUnresolved, h]
    rw [env.answer_onTheSpot patience depth rfl, answer, answerWith, hresolved]
    rfl
  exact env.run_ask_done patience depth hclaim

/-- Rendering is the stream and what comes behind it. -/
theorem run_render (h : t.blockImports = []) (c : Context) (overrides : Dict Block) :
    env.run patience depth (t.render none c overrides).run w
      = (env.run patience depth (t.stream c overrides).run w).andThen fun out after =>
        env.run patience depth (t.finish out.1 out.2).run after := by
  rw [Template.render_eq, run, Program.runWith_attempt_bind, ← run, run_prepare h]
  exact Program.runWith_attempt_bind (t.stream c overrides) _ w

theorem along_render {ok : Request → World → Prop} (h : t.blockImports = []) {c : Context}
    {overrides : Dict Block}
    (halong : (t.render none c overrides).run.Along (env.answer patience depth) ok w) :
    (t.stream c overrides).run.Along (env.answer patience depth) ok w ∧
      ∀ out after, env.run patience depth (t.stream c overrides).run w = .done (.ok out) after →
        (t.finish out.1 out.2).run.Along (env.answer patience depth) ok after := by
  rw [Template.render_eq] at halong
  have hprepared := (Program.along_attempt_bind halong).2 () w (run_prepare h c)
  exact Program.along_attempt_bind hprepared

end Environment

/-! ## Streams below the root -/

/-- What is known at the end of a rendering that hands out its scope. -/
theorem Rendering.meets_resultIn_get {C : Contract} {scope : Scope} (hscope : C.scopes scope)
    {α : Type} {a : Rendering α} (h : Meets C a) :
    (resultIn scope do return (← a, ← get)).run.Meets C
      fun r => ∀ out, r = .ok out → C.scopes out.2 := by
  have hrun : (resultIn scope do return (← a, ← get)).run
      = a scope >>= fun out => .done (match out.1 with
        | .ok v => .ok (v, out.2)
        | .error failure => .error failure) := by
    rw [show (resultIn scope do return (← a, ← get)).run
      = (a >>= fun v => (do return (v, ← get) : Rendering (α × Scope))) scope >>= fun out =>
        .done out.1 from rfl, bind_run, Program.bind_assoc]
    congr 1
    funext ⟨r, s⟩
    cases r with
    | ok v => rfl
    | error failure => rfl
  rw [hrun]
  refine (h scope hscope).bind ?_
  rintro ⟨r, s⟩ hs out hout
  cases r with
  | ok v =>
    cases hout
    exact hs
  | error failure => cases hout

namespace Chain
variable {chain : Chain} {overrides : Dict Block} {next : Template}

/-- The contract of renderings that extend a template and look up no blocks. -/
def onTheWay (next : Template) (overrides : Dict Block) : Contract :=
  ⟨Request.Plain, fun _ _ => True,
    fun scope => scope.parent = some next ∧ scope.overrides = overrides⟩

theorem onTheWay_permits : (onTheWay next overrides).Permits False False where
  storeless r h := h.ordinary.plain
  resolve := Template.meets_resolve (fun r h => h.ordinary.plain) fun locator tree => trivial
  claim t := trivial
  merge t h := ⟨trivial, fun name b => trivial⟩
  context s c h := h
  autoescape s a h := h
  find s name h hfree := by
    rcases hfree with hcalls | hparent
    · exact hcalls
    · cases h.1.symm.trans hparent
  found s name b h hfree := by
    rcases hfree with hcalls | hparent
    · exact False.elim hcalls
    · cases h.1.symm.trans hparent
  above s name outer h hcalls := False.elim hcalls
  foundAbove s name outer b h hcalls := False.elim hcalls
  after s b r h hasks := False.elim hasks
  inherit s t hinherits := False.elim hinherits

section
variable {env : Environment} {patience : Patience} {depth levels : Nat} {t : Template} {w : World}
  {c : Context} (ht : t ∈ chain.below)
include ht

theorem meets_streamTail (c : Context) (overrides : Dict Block) :
    (resultIn { Scope.start t c with overrides, parent := some next } do
      return (← Node.renderAll false "" t.nodes.tail, ← get)).run.Meets (onTheWay next overrides)
      fun r => ∀ out, r = .ok out → out.2.parent = some next ∧ out.2.overrides = overrides :=
  Rendering.meets_resultIn_get (C := onTheWay next overrides) ⟨rfl, rfl⟩
    (Node.meets_renderAll onTheWay_permits _ (chain.below_within t ht) false "")

/-- The stream of a template below the root is the same in the reference and in the engine. -/
theorem runWith_stream (hfinds : t.Finds env patience depth next w) :
    (t.stream c overrides).run.runWith (chain.answer env patience depth) w
      = env.run patience depth (t.stream c overrides).run w := by
  obtain ⟨name, after, hname, hresolve⟩ := hfinds
  have hplain : ∀ r w, r.Plain →
      chain.answer env patience depth r w = env.answer patience depth r w :=
    fun r w hr => chain.answer_plain env patience hr depth w
  have hresolves : (Template.resolve name t.base t.options).run.Meets (onTheWay next overrides)
      fun _ => True := onTheWay_permits.resolve name t.base t.options
  have hsame := hresolves.runWith_congr (fun _ _ => trivial) hplain w
  rw [Environment.run] at hresolve
  rw [t.stream_eq hname, Environment.run, Program.runWith_bind, Program.runWith_bind, hsame,
    hresolve]
  exact (meets_streamTail ht c overrides).runWith_congr (fun _ _ => trivial) hplain after

/-- At its end the next template is extended, and the overrides are as they were. -/
theorem scope_of_stream (hfinds : t.Finds env patience depth next w) {out : String × Scope}
    {last : World}
    (hrun : env.run patience levels (t.stream c overrides).run w = .done (.ok out) last) :
    out.2.parent = some next ∧ out.2.overrides = overrides := by
  obtain ⟨name, after, hname, hresolve⟩ := hfinds
  -- with as many levels as both runs have, both come to the same
  have hfound := env.run_deeper patience (Nat.le_add_right depth levels)
    (Template.resolve name t.base t.options).run w
  have hstream := env.run_deeper patience (Nat.le_add_left levels depth)
    (t.stream c overrides).run w
  rw [hresolve] at hfound
  rw [hrun] at hstream
  have htail : env.run patience (depth + levels) (t.stream c overrides).run w
      = (resultIn { Scope.start t c with overrides, parent := some next } do
        return (← Node.renderAll false "" t.nodes.tail, ← get)).run.runWith
          (env.answer patience (depth + levels)) after := by
    rw [t.stream_eq hname, Environment.run, Program.runWith_bind, ← Environment.run, hfound.done]
    rfl
  rw [hstream.done] at htail
  exact (meets_streamTail ht c overrides).ends (fun _ _ => trivial) htail.symm out rfl

end

/-! ## The chain -/

section
variable {env : Environment} {patience : Patience} {depth : Nat} {t : Template} {w : World}

theorem run_finish_none {scope : Scope} (h : scope.parent = none) (text : String) :
    env.run patience depth (t.finish text scope).run w = .done (.ok text) w := by
  rw [Template.finish, h]
  rfl

theorem offeredBlocks_linked (himported : (w.linksOf t).imported = []) (parent : Template)
    (overrides : Dict Block) :
    let linked := w.modifyLinks t fun l => { l with parent := some parent }
    t.offeredBlocks (linked.linksOf t) overrides = t.offeredBlocks {} overrides := by
  intro linked
  rw [World.linksOf_modifyLinks_self, Template.offeredBlocks, Template.offeredBlocks, himported]

/-- Behind its stream a template that extends another is linked to it, and that one is rendered. -/
theorem run_finish_some {scope : Scope} (h : scope.parent = some next)
    (himported : (w.linksOf t).imported = []) (text : String) :
    let linked := w.modifyLinks t fun l => { l with parent := some next }
    env.run patience depth (t.finish text scope).run w
      = env.answer patience depth
        (.render next none scope.context (t.offeredBlocks {} scope.overrides)) linked := by
  intro linked
  have hset : env.answer patience depth (.setParent t next) w = .done () linked :=
    env.answer_onTheSpot patience depth rfl w
  have hget : env.answer patience depth (.links t) linked = .done (linked.linksOf t) linked :=
    env.answer_onTheSpot patience depth rfl linked
  rw [← offeredBlocks_linked himported next, Template.finish, h]
  refine (env.run_ask_done patience depth hset).trans ?_
  refine (env.run_ask_done patience depth hget).trans ?_
  exact env.run_request patience depth _ linked

theorem along_finish_some {ok : Request → World → Prop} {scope : Scope}
    (h : scope.parent = some next) (himported : (w.linksOf t).imported = []) {text : String}
    (halong : (t.finish text scope).run.Along (env.answer patience depth) ok w) :
    let linked := w.modifyLinks t fun l => { l with parent := some next }
    ok (.setParent t next) w ∧
      ok (.render next none scope.context (t.offeredBlocks {} scope.overrides)) linked := by
  intro linked
  have hset : env.answer patience depth (.setParent t next) w = .done () linked :=
    env.answer_onTheSpot patience depth rfl w
  have hget : env.answer patience depth (.links t) linked = .done (linked.linksOf t) linked :=
    env.answer_onTheSpot patience depth rfl linked
  rw [Template.finish, h] at halong
  rw [← offeredBlocks_linked himported next]
  obtain ⟨hparent, hbehind⟩ := halong
  obtain ⟨-, hlast⟩ := hbehind () linked hset
  exact ⟨hparent, (hlast _ linked hget).1⟩

theorem root_mem : chain.root ∈ chain.templates :=
  List.mem_append_right chain.below (List.mem_singleton.mpr rfl)

/-- Two ways to agree: with some more levels the engine comes to what the reference comes to, and
with no fewer levels the reference comes to what the engine comes to. -/
def SameText (depth more levels : Nat) {α : Type} (engine reference : Outcome α) : Prop :=
  (depth + more < levels → engine.Agrees reference) ∧
    (levels ≤ depth → reference.Agrees engine)

/-- Behind a stream below the root, both go on with the next template. -/
theorem sameText_finish {scope : Scope} (hparent : scope.parent = some next)
    (himported : (w.linksOf t).imported = []) {levels more : Nat} {text : String}
    {behind : Attempt String}
    (hnext : ∀ fewer, levels = fewer + 1 → SameText depth more fewer
      (env.run patience fewer
        (next.render none scope.context (t.offeredBlocks {} scope.overrides)).run
        (w.modifyLinks t fun l => { l with parent := some next }))
      (behind.run.runWith (chain.answer env patience depth)
        (w.modifyLinks t fun l => { l with parent := some next }))) :
    SameText depth (more + 1) levels (env.run patience levels (t.finish text scope).run w)
      ((do Program.request (.setParent t next); behind : Attempt String).run.runWith
        (chain.answer env patience depth) w) := by
  have hset : chain.answer env patience depth (.setParent t next) w
      = .done () (w.modifyLinks t fun l => { l with parent := some next }) :=
    (chain.answer_plain env patience (r := .setParent t next) trivial depth w).trans
      (env.answer_onTheSpot patience depth rfl w)
  rw [run_finish_some hparent himported]
  show SameText depth (more + 1) levels _
    ((Program.ask (.setParent t next) fun _ => behind.run).runWith _ w)
  rw [Program.runWith, hset]
  cases levels with
  | zero =>
    rw [env.answer_errand_zero patience rfl]
    refine ⟨fun hdepth => ?_, fun _ hdeep => absurd rfl hdeep⟩
    omega
  | succ fewer =>
    obtain ⟨hengine, hreference⟩ := hnext fewer rfl
    rw [env.answer_errand_succ patience fewer rfl]
    show SameText depth (more + 1) (fewer + 1) ((env.run patience fewer _ _).map id) _
    rw [Outcome.map_id]
    refine ⟨fun hdepth => hengine ?_, fun hdepth => hreference ?_⟩
    · omega
    · omega

/-- In the root blocks are in place, and nothing is extended. -/
theorem Linked.run_root (hw : chain.Linked chain.below w) {levels : Nat} {c : Context}
    (hoverrides : ∀ name, overrides.find? name = firstOf chain.below name)
    (halong : (chain.root.render none c overrides).run.Along (env.answer patience levels)
      (chain.SparesWithin env patience levels) w) :
    SameText depth chain.below.length levels
      (env.run patience levels (chain.root.render none c overrides).run w)
      ((textFrom chain.root [] c overrides).run.runWith (chain.answer env patience depth) w) := by
  have hstart : chain.Renders overrides { Scope.start chain.root c with overrides } :=
    ⟨root_mem, rfl, rfl⟩
  have hmeets : (chain.root.stream c overrides).run.Meets (chain.inPlace overrides)
      fun r => ∀ out, r = .ok out → chain.Renders overrides out.2 :=
    Rendering.meets_resultIn_get hstart
      (Node.meets_renderAll inPlace_permits _ chain.root_within false "")
  have himports := chain.noImports chain.root root_mem
  obtain ⟨hway, hend⟩ := hmeets.along hw (Environment.along_render himports halong).1
    fun r w hasks hw hspares a after ha => hw.answers_inPlace hoverrides levels hasks hspares ha
  have hfinish : ∀ out after,
      env.run patience levels (chain.root.stream c overrides).run w = .done (.ok out) after →
      env.run patience levels (chain.root.finish out.1 out.2).run after = .done (.ok out.1) after :=
    fun out after hrun => run_finish_none ((hend (.ok out) after hrun).1 out rfl).parent out.1
  rw [Environment.run_render himports, textFrom, Program.runWith_attempt_bind]
  constructor
  · intro hdepth
    have hstream := Program.runWith_agrees (.inl hway)
      fun r w hok => hok.2.1.answer_agrees hoverrides depth hdepth hok.1 hok.2.2
    refine hstream.andThen fun out after hrun _ => ?_
    rw [hfinish out after hrun]
    exact .refl _
  · intro hdepth
    have hstream := Program.runWith_agrees (.inr hway)
      fun r w hok => hok.2.1.reference_agrees hoverrides depth hdepth hok.1 hok.2.2
    refine hstream.andThen fun out after _ hrun => ?_
    rw [hfinish out after hrun]
    exact .refl _

/-- **Up the chain.**  From any of its templates on, with the blocks of those below as overrides,
rendering comes to the streams that are left and the text of the root. -/
theorem Linked.run_textFrom {done rest : List Template} (hbelow : chain.below = done ++ rest)
    (hw : chain.Linked done w) {c : Context} (hdistinct : overrides.Distinct)
    (hoverrides : ∀ name, overrides.find? name = firstOf done name)
    (hleads : chain.LeadsFrom env patience depth rest c overrides w) {levels : Nat}
    (halong : ((rest.headD chain.root).render none c overrides).run.Along
      (env.answer patience levels) (chain.SparesWithin env patience levels) w) :
    SameText depth (chain.below.length + rest.length) levels
      (env.run patience levels ((rest.headD chain.root).render none c overrides).run w)
      ((textFrom chain.root rest c overrides).run.runWith (chain.answer env patience depth) w) := by
  induction rest generalizing done overrides c w levels with
  | nil =>
    rw [List.append_nil] at hbelow
    subst hbelow
    exact hw.run_root hoverrides halong
  | cons t rest ih =>
    have ht : t ∈ chain.below := by simp [hbelow]
    have htemplate : t ∈ chain.templates := List.mem_append_left [chain.root] ht
    have himports := chain.noImports t htemplate
    obtain ⟨hfinds, hlater⟩ := hleads
    obtain ⟨halongStream, halongFinish⟩ := Environment.along_render himports halong
    have hfinish : ∀ out after,
        env.run patience levels (t.stream c overrides).run w = .done (.ok out) after →
        (t.stream c overrides).run.runWith (chain.answer env patience depth) w
          = .done (.ok out) after →
        SameText depth (chain.below.length + rest.length + 1) levels
          (env.run patience levels (t.finish out.1 out.2).run after)
          ((do
            Program.request (.setParent t (rest.headD chain.root))
            textFrom chain.root rest out.2.context (t.offeredBlocks {} overrides)
            : Attempt String).run.runWith (chain.answer env patience depth) after) := by
      intro out after hrun hrun'
      obtain ⟨hparent, hkept⟩ := scope_of_stream ht hfinds hrun
      have hafter := hw.run halongStream hrun
      have himported := hafter.noImports t htemplate
      obtain ⟨hset, hrender⟩ := along_finish_some hparent himported (halongFinish out after hrun)
      refine sameText_finish hparent himported ?_
      rintro fewer rfl
      rw [hkept] at hrender ⊢
      -- what is known where the next template starts
      have hlinked := (hafter.setParent hset.1).push (t := t) (by
        rw [World.linksOf_modifyLinks_self]
        rfl)
      have hoffered : ∀ name,
          (t.offeredBlocks {} overrides).find? name = firstOf (done ++ [t]) name := by
        intro name
        rw [t.find?_offeredBlocks rfl hdistinct, hoverrides, firstOf_append, firstOf_cons,
          show firstOf [] name = none from rfl, Option.or_none]
      have hinside := hrender.2
      rw [env.inside_errand patience fewer rfl] at hinside
      exact ih (hbelow.trans (List.append_cons done t rest)) hlinked
        (t.distinct_offeredBlocks rfl overrides) hoffered (hlater out.1 out.2 after hrun')
        (env.along_of_events patience hinside)
    have hreference : (t.stream c overrides).run.runWith (chain.answer env patience depth) w
        = env.run patience depth (t.stream c overrides).run w := runWith_stream ht hfinds
    rw [List.headD_cons, Environment.run_render himports, textFrom, Program.runWith_attempt_bind]
    constructor
    · intro hdepth
      have hstream := env.run_deeper patience (show depth ≤ levels by omega)
        (t.stream c overrides).run w
      rw [← hreference] at hstream
      exact hstream.andThen fun out after hrun hrun' => (hfinish out after hrun hrun').1 hdepth
    · intro hdepth
      have hstream := env.run_deeper patience hdepth (t.stream c overrides).run w
      rw [← hreference] at hstream
      exact hstream.andThen fun out after hrun hrun' => (hfinish out after hrun' hrun).2 hdepth

end

/-- Where there are no links at all, they are as in any chain. -/
theorem linked_of_noLinks {w : World} (h : w.links = []) : chain.Linked [] w := by
  have hlinks (t : Template) : w.linksOf t = {} := by
    rw [World.linksOf, h]
    rfl
  refine ⟨fun t _ => ?_, fun t _ p hp => ?_, fun t ht => absurd ht List.not_mem_nil⟩
  · rw [hlinks]
  · rw [hlinks] at hp
    cases hp

end Chain

/-- **What a chain of templates renders.**  Let the links be as in the chain, as far as there are
any, and let the name at the start of each template lead to the next one.  If nothing on the way
makes a template of the chain extend another one, then rendering the first template comes to the
text of the chain, in the same state and with the same failure if there is one: the streams below
the root run for their effect on the variables, and the text is that of the root with the blocks of
the chain in place.  If one of the two comes to an end at all, so does the other. -/
theorem Environment.text_chain (env : Environment) (patience : Patience) (chain : Chain)
    (c : Context) (w : World) (depth levels : Nat) (hlinked : chain.Linked [] w)
    (hleads : chain.Leads env patience depth c w)
    (hspares : ∀ r ∈ env.events patience levels (chain.first.text c).run w, chain.Spares r) :
    let engine := env.run patience levels (chain.first.text c).run w
    let reference := (chain.text c).run.runWith (chain.answer env patience depth) w
    (depth + 2 * chain.below.length < levels → reference ≠ .tooDeep → engine = reference) ∧
      (levels ≤ depth → engine ≠ .tooDeep → reference = engine) := by
  have hsame := hlinked.run_textFrom (List.nil_append _).symm Dict.distinct_nil (fun _ => rfl)
    hleads (env.along_of_events patience hspares)
  refine ⟨fun hdepth => hsame.1 ?_, hsame.2⟩
  omega

namespace Chain

/-! A page that overrides the title of its layout. The layout shows the title in place, and once
more from a function. -/

/-- The layout: a block, and a function that shows the block. -/
def layout : Template where
  number := 1
  id := some "layout"
  base := some "layout"
  nodes := [.logic (.block "title" none) [.raw "base"],
    .logic (.assign "show" [.lambda ["x"] [.function "block" (some [.string "title"])]]) [],
    .output [.variable "show", .group [.string "now"] true]]
  options := { rethrow := true }

/-- The page. -/
def page : Template where
  number := 0
  id := some "page"
  base := some "page"
  nodes := [.logic (.inherits [.string "layout"]) [], .logic (.block "title" none) [.raw "child"]]
  options := { rethrow := true }

/-- The page and its layout. -/
def pages : Chain where
  below := [page]
  root := layout
  distinct := by decide
  noImports := by
    intro t ht
    have hpages : t = page ∨ t = layout := by simpa using ht
    rcases hpages with rfl | rfl
    · rfl
    · rfl
  extending := by
    intro t ht
    obtain rfl := List.mem_singleton.mp ht
    rfl
  below_within := by
    intro t ht
    obtain rfl := List.mem_singleton.mp ht
    exact ⟨⟨trivial, nofun⟩, trivial⟩
  root_within := ⟨⟨trivial, nofun⟩, ⟨⟨trivial, trivial⟩, fun _ => trivial⟩,
    ⟨trivial, ⟨trivial, trivial⟩, trivial⟩, trivial⟩
  blocks_within := by
    intro t ht
    have hpages : t = page ∨ t = layout := by simpa using ht
    rcases hpages with rfl | rfl
    · exact List.forall_mem_cons.mpr ⟨⟨trivial, trivial⟩, List.forall_mem_nil _⟩
    · exact List.forall_mem_cons.mpr ⟨⟨trivial, trivial⟩, List.forall_mem_nil _⟩

/-- Both are stored and never rendered before. -/
def storedPages : World := { next := 2, store := [("page", page), ("layout", layout)] }

end Chain

open Chain in
theorem Environment.text_chain_pages :
    ({} : Environment).run .immediate 9 (page.text []).run storedPages
        = (pages.text []).run.runWith (pages.answer {} .immediate 5) storedPages ∧
      ((pages.text []).run.runWith (pages.answer {} .immediate 5) storedPages).result?.map Prod.fst
        = some (.ok "childbase") := by
  have hspares : ∀ r ∈ ({} : Environment).events .immediate 9 (page.text []).run storedPages,
      pages.Spares r := by
    repeat' first
      | exact trivial
      | exact fun _ => rfl
      | exact List.forall_mem_nil _
      | refine List.forall_mem_cons.mpr ⟨?_, ?_⟩
  have hleads : pages.Leads {} .immediate 5 [] storedPages :=
    ⟨⟨"layout", storedPages, rfl, rfl⟩, fun _ _ _ _ => trivial⟩
  have htext := Environment.text_chain {} .immediate pages [] storedPages 5 9
    (linked_of_noLinks rfl) hleads hspares
  exact ⟨htext.1 (by decide) nofun, rfl⟩

namespace Chain
variable (chain : Chain) (env : Environment) (patience : Patience)

/-- Answer a request with the blocks of the chain, whoever asks. -/
def answerAll (deeper : Runner) : (r : Request) → World → Outcome r.Answer
  | .findBlock _ _ name, w => .done (chain.block? name) w
  | .inheritedBlock t name, w => .done (chain.blockAbove? t name) w
  | r, w => env.answerWith patience deeper r w

/-- Answer requests with the blocks of the chain everywhere: also in macros, in functions and in
other templates. -/
def answerThroughout : (depth : Nat) → (r : Request) → World → Outcome r.Answer
  | 0 => chain.answerAll env patience fun _ _ => .tooDeep
  | depth + 1 => chain.answerAll env patience fun p w => p.runWith (answerThroughout depth) w

end Chain

open Chain in
/-- The blocks of the chain do not reach everywhere: a function that is written in a template looks
them up from there, and finds those of the layout. -/
theorem Environment.text_chain_throughout :
    (({} : Environment).run .immediate 9 (page.text []).run storedPages).result?.map Prod.fst
        = some (.ok "childbase") ∧
      ((pages.text []).run.runWith (pages.answerThroughout {} .immediate 9) storedPages).result?.map
        Prod.fst = some (.ok "childchild") := ⟨rfl, rfl⟩

end Stencil
