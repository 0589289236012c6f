import Stencil.Engine.Loader
import Stencil.Proofs.Engine.Histories
import Stencil.Proofs.Literals.Templates
import Stencil.Proofs.Settings.Builtins

/-!
# Runs fail for no literal

Expressions come into a state by being compiled, so all that it holds are sound, and they stay so
whatever is run (`Environment.KeepsLiterals.run`).  No run fails for a literal then, and none
reports that another one has.  Of the host is assumed that its extensions make up no expressions and
no such failures, and that its cache gives back what was put into it (`Environment.KeepsLiterals`).
-/
namespace Stencil

/-! ## Extensions that all environments have -/

namespace Filter
variable {input : Value} {args : List Value}

theorem conserves_arrow (name : String) (hargs : ∀ v ∈ args, v.Holds Expr.Sound) :
    Attempt.Conserves Expr.Sound (Value.Holds Expr.Sound) (liftM (arrow name args)) := by
  have hnone : Attempt.Conserves Expr.Sound (Value.Holds Expr.Sound)
      (throw (.runtime ("The \"" ++ name ++ "\" filter expects an arrow function"))) :=
    Attempt.gives_throw (Cause.balanced_of_ne (by rintro _ ⟨⟩))
  cases args with
  | nil => exact hnone
  | cons v rest =>
    have hv : v.Holds Expr.Sound := hargs v List.mem_cons_self
    cases v with
    | hostFunction identity => exact Attempt.gives_pure hv
    | lambda identity params body t c => exact Attempt.gives_pure hv
    | _ => exact hnone

theorem conserves_applyArrow {f : Value} (hf : f.Holds Expr.Sound) {entries : List (Value × Value)}
    (hentries : ∀ entry ∈ entries, entry.1.Holds Expr.Sound ∧ entry.2.Holds Expr.Sound) :
    Attempt.Conserves Expr.Sound (fun results => ∀ v ∈ results, v.Holds Expr.Sound)
      (applyArrow f entries) := by
  -- the results so far are part of the loop, so the induction is for any that hold such expressions
  have hfrom {done : List Value} (hdone : ∀ v ∈ done, v.Holds Expr.Sound) :
      Attempt.Conserves Expr.Sound (fun results => ∀ v ∈ results, v.Holds Expr.Sound)
        (Attempt.sequenceFrom (fun entry => ExceptT.mk
          (Program.request (.invoke f none [entry.2, entry.1]))) done entries) := by
    induction entries generalizing done with
    | nil => exact Attempt.gives_pure fun v hv => hdone v (List.mem_reverse.mp hv)
    | cons entry rest ih =>
      obtain ⟨⟨hkey, hvalue⟩, hrest⟩ := List.forall_mem_cons.mp hentries
      have hinvoke : Attempt.Conserves Expr.Sound (Value.Holds Expr.Sound)
          (ExceptT.mk (Program.request (.invoke f none [entry.2, entry.1]))) :=
        ⟨⟨hf, Rendering.holds_noReceiver, List.forall_mem_cons.mpr
          ⟨hvalue, List.forall_mem_singleton.mpr hkey⟩⟩, fun _ hr => hr⟩
      exact hinvoke.bind fun _ hv => ih hrest (List.forall_mem_cons.mpr ⟨hv, hdone⟩)
  exact hfrom (List.forall_mem_nil _)

theorem conserves_collect (v : Value) {entries : List (Value × Value)}
    (h : ∀ entry ∈ entries, entry.2.Holds Expr.Sound) :
    Attempt.Conserves Expr.Sound (Value.Holds Expr.Sound) (collect v entries) := by
  have hfresh : Attempt.Conserves Expr.Sound (fun _ => True) (liftM (Program.request .fresh)) :=
    Attempt.gives_lift ⟨trivial, fun _ _ => trivial⟩
  refine hfresh.bind fun identity _ => ?_
  split
  · have hpairs : Dict.All (Value.Holds Expr.Sound) (entries.map fun e => (e.1.text, e.2)) :=
      List.forall_mem_map.mpr h
    exact Attempt.gives_pure (Value.holds_object identity hpairs.ofPairs)
  · exact Attempt.gives_pure (Value.holds_array identity (List.forall_mem_map.mpr h))

section
variable (hinput : input.Holds Expr.Sound) (hargs : ∀ v ∈ args, v.Holds Expr.Sound)
include hinput hargs

theorem conserves_map : Attempt.Conserves Expr.Sound (Value.Holds Expr.Sound) (map input args) :=
  (conserves_arrow "map" hargs).bind fun _ hf => (conserves_applyArrow hf hinput.entries).bind
    fun _ hresults => conserves_collect input fun _ hentry => hresults _ (List.of_mem_zip hentry).2

theorem conserves_select :
    Attempt.Conserves Expr.Sound (Value.Holds Expr.Sound) (select input args) := by
  refine (conserves_arrow "filter" hargs).bind fun _ hf =>
    (conserves_applyArrow hf hinput.entries).bind fun _ _ =>
      conserves_collect input fun entry hentry => ?_
  obtain ⟨⟨picked, verdict⟩, hpair, hsome⟩ := List.mem_filterMap.mp hentry
  dsimp only at hsome
  split at hsome
  · obtain rfl := Option.some.inj hsome
    exact (hinput.entries picked (List.of_mem_zip hpair).1).2
  · cases hsome

theorem conserves_builtin {name : String} {f : Filter} (h : builtins.find? name = some f) :
    Attempt.Conserves Expr.Sound (Value.Holds Expr.Sound) (f input args) := by
  have hescape : Attempt.Conserves Expr.Sound (Value.Holds Expr.Sound) (escape input args) := by
    unfold escape
    split
    · exact Attempt.gives_pure (hinput.escaped trivial)
    · split
      · exact Attempt.gives_pure (hinput.escaped trivial)
      · exact Attempt.gives_throw (Cause.balanced_of_ne (by rintro _ ⟨⟩))
  have hmem := Dict.mem_of_find? h
  simp only [builtins, List.mem_cons, Prod.mk.injEq, List.not_mem_nil, or_false] at hmem
  rcases hmem with ⟨-, rfl⟩ | ⟨-, rfl⟩ | ⟨-, rfl⟩ | ⟨-, rfl⟩ | ⟨-, rfl⟩
  · unfold raw
    split
    · exact Attempt.gives_pure trivial
    · exact Attempt.gives_pure trivial
  · exact hescape
  · exact hescape
  · exact conserves_map hinput hargs
  · exact conserves_select hinput hargs

end
end Filter

theorem Test.conserves_builtin {name : String} {f : Test} (h : builtins.find? name = some f)
    (input : Value) (args : List Value) :
    Attempt.Conserves Expr.Sound (fun _ => True) (f input args) := by
  obtain ⟨p, rfl, -⟩ := builtin_adjust h
  exact Attempt.gives_pure trivial

/-! ## Hosts -/

/-- The extensions of a host hold no expressions but those that they are given, and have no
failures for literals of their own; and as long as the documents in its cache are among some, it
gives back what was put into it. -/
structure Environment.KeepsLiterals (env : Environment) (documents : Dict Json → Prop) : Prop where
  filter : ∀ name f, env.filters.find? name = some f → ∀ input args, input.Holds Expr.Sound →
    (∀ v ∈ args, v.Holds Expr.Sound) →
    Attempt.Conserves Expr.Sound (Value.Holds Expr.Sound) (f input args)
  test : ∀ name f, env.tests.find? name = some f → ∀ input args, input.Holds Expr.Sound →
    (∀ v ∈ args, v.Holds Expr.Sound) → Attempt.Conserves Expr.Sound (fun _ => True) (f input args)
  function : ∀ name f, env.functions.find? name = some f → ∀ args,
    (∀ v ∈ args, v.Holds Expr.Sound) →
    Attempt.Conserves Expr.Sound (Value.Holds Expr.Sound) (f args)
  callable : ∀ identity receiver args, (∀ v ∈ receiver, v.Holds Expr.Sound) →
    (∀ v ∈ args, v.Holds Expr.Sound) →
    Attempt.Conserves Expr.Sound (Value.Holds Expr.Sound) (env.callables identity receiver args)
  load : ∀ locator, Attempt.Conserves Expr.Sound (fun _ => True) (env.load locator)
  cachedTree : ∀ entries locator, documents entries →
    Yields Cause.Balanced (fun tree => ∀ found ∈ tree, Node.AllHold Expr.Sound found.nodes)
      (env.cachedTree entries locator)
  cacheTree : ∀ entries locator tree, documents entries → Node.AllHold Expr.Sound tree.nodes →
    Yields Cause.Balanced documents (env.cacheTree entries locator tree)

theorem World.Holds.modifyLinks {P : Expr → Prop} {documents : Dict Json → Prop} {w : World}
    (hw : w.Holds P documents) {t : Template} {change : Links → Links}
    (h : ∀ l : Links, l.Holds P → (change l).Holds P) :
    (w.modifyLinks t change).Holds P documents := by
  refine { hw with links := fun u => ?_ }
  rw [linksOf_modifyLinks]
  split
  · exact h _ (hw.links u)
  · exact hw.links u

namespace Environment
variable {env : Environment} {documents : Dict Json → Prop} (henv : env.KeepsLiterals documents)
include henv

theorem KeepsLiterals.answer {patience : Patience} {r : Request} {w : World}
    (he : env.errand? r = none) (hr : r.Holds Expr.Sound) (hw : w.Holds Expr.Sound documents) :
    (env.answer patience 0 r w).Leaves (World.Holds Expr.Sound documents)
      (r.Returns Expr.Sound) := by
  cases r with
  | fresh | note line => exact ⟨trivial, ⟨hw.links, hw.store, hw.cache, hw.reports⟩⟩
  | report said =>
    exact ⟨trivial, hw.links, hw.store, hw.cache, List.forall_mem_cons.mpr ⟨hr, hw.reports⟩⟩
  | wait =>
    cases patience with
    | immediate => exact ⟨hw.links, hw.store, hw.cache, hw.reports⟩
    | patient => exact ⟨trivial, ⟨hw.links, hw.store, hw.cache, hw.reports⟩⟩
  | links t => exact ⟨hw.links t, hw⟩
  | setParent t parent =>
    refine ⟨trivial, hw.modifyLinks fun l hl => ⟨hl.imported, ?_⟩⟩
    rintro _ ⟨⟩
    exact hr.2
  | claimImports t =>
    rw [answer_claimImports]
    split
    · exact ⟨trivial, hw.modifyLinks fun l hl => ⟨hl.imported, hl.parent⟩⟩
    · exact ⟨trivial, hw⟩
  | releaseImports t =>
    exact ⟨trivial, hw.modifyLinks fun l hl => ⟨hl.imported, hl.parent⟩⟩
  | importBlock t name b =>
    exact ⟨trivial, hw.modifyLinks fun l hl => ⟨hl.imported.insert name hr.2, hl.parent⟩⟩
  | stored name => exact ⟨fun found hfound => hw.store.find? hfound, hw⟩
  | store t =>
    refine ⟨trivial, (?_ : (w.storeTemplate t).Holds Expr.Sound documents)⟩
    unfold World.storeTemplate
    split
    · exact { hw with store := hw.store.insert _ hr }
    · exact hw
  | cached locator => exact ⟨henv.cachedTree w.cache locator hw.cache, hw⟩
  | writeCache locator tree =>
    have hcache := henv.cacheTree w.cache locator tree hw.cache hr
    rw [answer_writeCache]
    cases hwrite : env.cacheTree w.cache locator tree with
    | ok cache =>
      rw [hwrite] at hcache
      exact ⟨trivial, ⟨hw.links, hw.store, hcache, hw.reports⟩⟩
    | error failure =>
      rw [hwrite] at hcache
      exact ⟨hcache, hw⟩
  -- a function that no host has defined; all others are errands
  | function name args =>
    rw [answer_function_none env patience 0 (Option.map_eq_none_iff.mp he)]
    refine ⟨?_, hw⟩
    rintro _ ⟨⟩
  | load | filter | test | invoke | findBlock | inheritedBlock | renderBlock | render
  | mergeImports => cases he

theorem KeepsLiterals.errand {r : Request} {e : Errand r} (he : env.errand? r = some e)
    (hr : r.Holds Expr.Sound) : e.program.Meets (.holding Expr.Sound) fun a =>
      r.Returns Expr.Sound (e.answer a) := by
  cases r with
  | load locator =>
    obtain rfl := Option.some.inj he
    exact henv.load locator
  | filter name input args =>
    obtain rfl := Option.some.inj he
    have h : Attempt.Conserves Expr.Sound (Value.Holds Expr.Sound)
        (env.filter name input args) := by
      unfold Environment.filter
      split
      · next f hf => exact henv.filter name f hf input args hr.1 hr.2
      · exact Attempt.gives_throw (Cause.balanced_of_ne (by rintro _ ⟨⟩))
    exact h
  | test name input args =>
    obtain rfl := Option.some.inj he
    have h : Attempt.Conserves Expr.Sound (fun _ => True) (env.test name input args) := by
      unfold Environment.test
      split
      · next f hf => exact henv.test name f hf input args hr.1 hr.2
      · exact Attempt.gives_throw (Cause.balanced_of_ne (by rintro _ ⟨⟩))
    exact h
  | function name args =>
    obtain ⟨f, hf, rfl⟩ := Option.map_eq_some_iff.mp he
    refine Program.Meets.mono (henv.function name f hf args hr) fun a ha => ?_
    rintro _ ⟨⟩
    exact ha
  | invoke callee receiver args =>
    obtain rfl := Option.some.inj he
    obtain ⟨hcallee, hreceiver, hargs⟩ := hr
    have h : Attempt.Conserves Expr.Sound (Value.Holds Expr.Sound)
        (env.invoke callee receiver args) := by
      unfold Environment.invoke
      split
      · exact henv.callable _ receiver args hreceiver hargs
      · exact Value.conserves_call hcallee hargs
    exact h
  | findBlock t overrides name =>
    obtain rfl := Option.some.inj he
    exact Template.conserves_findBlock hr.1 hr.2 name
  | inheritedBlock t name =>
    obtain rfl := Option.some.inj he
    exact Template.conserves_inheritedBlock hr name
  | renderBlock b scope =>
    obtain rfl := Option.some.inj he
    exact Block.conserves_render hr.1 hr.2
  | render t parent c overrides =>
    obtain rfl := Option.some.inj he
    obtain ⟨ht, hparent, hc, hoverrides⟩ := hr
    exact Template.conserves_render ht hparent hc hoverrides
  | mergeImports t c =>
    obtain rfl := Option.some.inj he
    exact Template.conserves_mergeImports hr.1 hr.2
  | _ => cases he

/-- **Where all expressions are sound, runs fail for no literal**, and leave none that is not. -/
theorem KeepsLiterals.run (patience : Patience) (depth : Nat) {α : Type} {post : α → Prop}
    {p : Program α} (hp : p.Meets (.holding Expr.Sound) post) {w : World}
    (hw : w.Holds Expr.Sound documents) :
    (env.run patience depth p w).Leaves (World.Holds Expr.Sound documents) post := by
  have h : env.Upholds (.holding Expr.Sound) (fun _ => True)
      (World.Holds Expr.Sound documents) :=
    ⟨fun _ _ _ he hr _ hw => henv.answer he hr hw, fun _ _ he hr => henv.errand he hr⟩
  exact run_leaves h patience depth hp hw fun _ _ => trivial

end Environment

/-- A host with nothing but the extensions that all have keeps to literals, with any table of
sources. -/
theorem Environment.keepsLiterals_memory (options : Options) (sources : Dict String) :
    ({ standard options with loader := some (Loader.memory sources) } :
      Environment).KeepsLiterals fun _ => True where
  filter _ _ h _ _ hinput hargs := Filter.conserves_builtin hinput hargs h
  test _ _ h input args _ _ := Test.conserves_builtin h input args
  function _ _ h := by cases h
  callable _ _ _ _ _ := Attempt.gives_pure trivial
  load locator := by
    show Attempt.Conserves Expr.Sound (fun _ => True) (Loader.memory sources locator)
    unfold Loader.memory
    split
    · exact Attempt.gives_pure trivial
    · exact Attempt.gives_throw (Cause.balanced_of_ne (by rintro _ ⟨⟩))
  cachedTree _ _ _ := by rintro _ ⟨⟩
  cacheTree _ _ _ _ _ := trivial

/-- The state that nothing has happened to. -/
theorem World.holds_empty {documents : Dict Json → Prop} (h : documents []) (next : Nat) :
    World.Holds Expr.Sound documents { next } :=
  ⟨fun _ => ⟨Dict.all_nil, Template.holds_noParent⟩, Dict.all_nil, h, List.forall_mem_nil _⟩

/-- **The states that hosts come to hold only sound expressions**, whatever is run in them that asks
for nothing else. -/
theorem World.holds_afterwards {documents : Dict Json → Prop} {hosts : Environment → Prop}
    (hhosts : ∀ env, hosts env → env.KeepsLiterals documents) {start last : World}
    {events : List Request}
    (h : History hosts (fun _ p => p.Meets (.holding Expr.Sound) fun _ => True) id start events
      last)
    (hstart : start.Holds Expr.Sound documents) : last.Holds Expr.Sound documents := by
  refine h.leaves (World.Holds Expr.Sound documents) (fun _ => True) (fun w w' hkept hw => ?_)
    (fun env henv patience depth _ p hp w hw _ => ((hhosts env henv).run patience depth hp hw).all)
    (fun _ _ => trivial) hstart
  obtain rfl : w' = w := hkept
  exact hw

/-- To render a source asks for nothing else. -/
theorem Environment.conserves_renderSource (env : Environment) (source : String) {c : Context}
    (hc : c.All (Value.Holds Expr.Sound)) :
    Attempt.Conserves Expr.Sound (fun _ => True) (env.renderSource source c) :=
  (Template.conserves_compile (fun _ => id) none source env.options).bind fun _ ht =>
    Template.conserves_render ht Template.holds_noParent hc Dict.all_nil

/-- To render the template of a name asks for nothing else. -/
theorem Environment.conserves_renderNamed (env : Environment) (name : String) {c : Context}
    (hc : c.All (Value.Holds Expr.Sound)) :
    Attempt.Conserves Expr.Sound (fun _ => True) (env.renderNamed name c) :=
  (Template.conserves_resolve (fun _ => id) name none env.options).bind fun _ ht =>
    Template.conserves_render ht Template.holds_noParent hc Dict.all_nil

/-! ## Compiled expressions -/

namespace Expr

/-- **Compiled literals are balanced.**  In the tokens of a compiled expression and in all lists of
tokens inside of it, the starts and the ends of literals are well nested.  To evaluate such a list
behind any values, in any scope, leaves no start of a literal on the stack, and fails for no literal
unless something that is asked for on the way has failed so.  In a state that holds only sound
expressions nothing does fail so, and the run leaves such a state. -/
theorem wellNested_of_compile {text : String} {e ts : Expr} (h : compile text = .ok e)
    (hpart : Part e ts) :
    WellNested ts ∧
    (∀ (scope : Scope) (seed : List Value),
      (run ts (seed.reverse.map .value) scope).Meets .balanced fun r =>
        Yields Cause.Balanced Stack.Closed r.1) ∧
    ∀ (env : Environment) (documents : Dict Json → Prop), env.KeepsLiterals documents →
      ∀ (patience : Patience) (depth : Nat) (w : World) (scope : Scope) (seed : List Value),
        w.Holds Sound documents → scope.Holds Sound → (∀ v ∈ seed, v.Holds Sound) →
        (env.run patience depth (run ts (seed.reverse.map .value) scope) w).Leaves
          (World.Holds Sound documents) fun r =>
            Yields Cause.Balanced Stack.Closed r.1 ∧ r.2.Holds Sound := by
  have hsound : Sound ts := (sound_of_compile h).part hpart
  refine ⟨?_, fun scope seed => ?_, fun env documents henv patience depth w scope seed hw hscope
    hseed => ?_⟩
  · obtain ⟨hword, -⟩ := hsound
    exact hword
  · -- all expressions are in the place of the sound ones, so that nothing is asked of the state
    let P : Expr → Prop := fun _ => True
    have hP : ∀ e, P e := fun _ => trivial
    have hstack : Stack.Holds P [] (seed.reverse.map .value) :=
      Stack.holds_seed fun v _ => v.holds_of hP
    have hrun := hsound.conserves_run (fun e _ => hP e) hstack scope (scope.holds_of hP)
    have hany := Program.Meets.weaken hrun (fun _ _ => trivial)
      fun r a (ha : Contract.balanced.answers r a) => Request.Balanced.returns hP ha
    exact hany.mono fun _ hr => hr.2.mono (fun _ hc => hc) fun _ hs => hs.closed
  · have hrun := hsound.conserves_run (fun _ => id) (Stack.holds_seed hseed) scope hscope
    refine henv.run patience depth (hrun.mono fun _ hr => ?_) hw
    exact ⟨hr.2.mono (fun _ hc => hc) fun _ hs => hs.closed, hr.1⟩

/-- The body of a function that makes an object with an array in it, called in an empty state. -/
theorem wellNested_of_compile_body :
    let body : Expr :=
      [.objectStart, .objectKey "k", .arrayStart, .variable "v", .arrayEnd, .objectEnd]
    let e : Expr := [.function "map" (some [.arrayStart, .variable "a", .arrayEnd, .comma,
      .lambda ["v"] body])]
    let env : Environment :=
      { Environment.standard {} with loader := some (Loader.memory []) }
    let s := Scope.start ⟨0, none, none, [], {}⟩ [("v", .bool true)]
    compile "map([a], v => \x7bk: [v]\x7d)" = .ok e ∧ Part e body ∧ WellNested body ∧
      (env.run .immediate 1 (run body [.value (.string "seed")] s) { next := 1 }).Leaves
        (World.Holds Sound fun _ => True) fun r =>
          Yields Cause.Balanced Stack.Closed r.1 ∧ r.2.Holds Sound := by
  intro body e env s
  have hcompile : compile "map([a], v => \x7bk: [v]\x7d)" = .ok e := rfl
  have hparams : Part e [.arrayStart, .variable "a", .arrayEnd, .comma, .lambda ["v"] body] :=
    .inner .whole List.mem_cons_self List.mem_cons_self
  have hbody : Part e body := .inner hparams (t := .lambda ["v"] body) (by simp) List.mem_cons_self
  have ht : s.template.Holds Sound := Node.allHold_nil
  have hs : s.Holds Sound := ht.start (Dict.all_cons.mpr ⟨trivial, Dict.all_nil⟩)
  obtain ⟨hword, -, hruns⟩ := wellNested_of_compile hcompile hbody
  exact ⟨hcompile, hbody, hword, hruns env _ (Environment.keepsLiterals_memory {} []) .immediate 1
    _ s [.string "seed"] (World.holds_empty trivial 1) hs (List.forall_mem_singleton.mpr trivial)⟩

end Expr
end Stencil
