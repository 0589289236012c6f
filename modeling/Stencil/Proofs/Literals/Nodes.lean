import Stencil.Proofs.Literals.Evaluation
import Stencil.Proofs.Settings.Nodes

/-!
# Nodes fail for no literal

Where all expressions are sound, none of them fails for a literal, and so neither does a loop, a tag
or a list of nodes that evaluates them.  What they leave in the scope are values of such expressions
and templates with such expressions again.
-/
namespace Stencil
open Stencil.Expr (Sound)
open Rendering

/-! ## Whole expressions -/

namespace Expr

theorem Stack.holds_seed {P : Expr → Prop} {seed : List Value} (h : ∀ v ∈ seed, v.Holds P) :
    Stack.Holds P [] (seed.reverse.map .value) := by
  constructor
  · intro item hitem
    obtain ⟨v, hv, rfl⟩ := List.mem_map.mp hitem
    exact h v (List.mem_reverse.mp hv)
  · refine List.filterMap_eq_nil_iff.mpr fun item hitem => ?_
    obtain ⟨v, -, rfl⟩ := List.mem_map.mp hitem
    rfl

theorem Sound.conserves_run {P : Expr → Prop} (hP : ∀ e, Sound e → P e) {e : Expr} (he : Sound e)
    {s : Stack} (h : s.Holds P []) : Conserves P (Stack.Holds P []) (run e s) := by
  obtain ⟨hword, hinside⟩ := he
  exact Expr.conserves_run hP e hinside (hword.crossAll_eq []) h

theorem conserves_evaluateWith {e : Expr} (he : Sound e) {seed : List Value}
    (h : ∀ v ∈ seed, v.Holds Sound) : Conserves Sound (Value.Holds Sound) (evaluateWith seed e) :=
  (he.conserves_run (fun _ => id) (Stack.holds_seed h)).bind fun _ hs => gives_pure hs.last

theorem conserves_evaluate {e : Expr} (he : Sound e) :
    Conserves Sound (Value.Holds Sound) (evaluate e) :=
  conserves_evaluateWith he (List.forall_mem_nil _)

end Expr

/-! ## Loops -/

namespace LoopNames
variable {P : Expr → Prop} (names : LoopNames)

theorem holds_bindEntry {entry : Value × Value} (hkey : entry.1.Holds P) (hvalue : entry.2.Holds P)
    {c : Context} (hc : c.All (Value.Holds P)) : (names.bindEntry entry c).All (Value.Holds P) := by
  unfold bindEntry
  split
  · exact (hc.insert _ hvalue).insert _ hkey
  · exact hc.insert _ hvalue

theorem holds_leave {outer inner : Context} (houter : outer.All (Value.Holds P))
    (hinner : inner.All (Value.Holds P)) : (names.leave outer inner).All (Value.Holds P) := by
  unfold leave
  -- an entry from inside is dropped, or replaces the one of its name outside
  induction inner generalizing outer with
  | nil => exact houter
  | cons entry rest ih =>
    obtain ⟨hentry, hrest⟩ := Dict.all_cons.mp hinner
    rw [List.foldl_cons]
    refine ih ?_ hrest
    dsimp only
    split
    · exact houter
    · exact houter.insert _ hentry

end LoopNames

theorem holds_loopEntries {P : Expr → Prop} (index length : Nat) (guarded : Bool) {parent : Value}
    (h : parent.Holds P) : (loopEntries index length guarded parent).All (Value.Holds P) := by
  have hparent : Dict.All (Value.Holds P) [("parent", parent)] :=
    Dict.all_cons.mpr ⟨h, Dict.all_nil⟩
  unfold loopEntries
  refine List.forall_mem_append.mpr ⟨List.forall_mem_append.mpr ⟨?_, ?_⟩, hparent⟩
  · exact Dict.all_cons.mpr ⟨trivial, Dict.all_cons.mpr ⟨trivial, Dict.all_cons.mpr
      ⟨trivial, Dict.all_nil⟩⟩⟩
  · split
    · exact Dict.all_nil
    · exact Dict.all_cons.mpr ⟨trivial, Dict.all_cons.mpr ⟨trivial, Dict.all_cons.mpr
        ⟨trivial, Dict.all_cons.mpr ⟨trivial, Dict.all_nil⟩⟩⟩⟩

namespace Loop

theorem conserves_passes {l : Loop} (h : ∀ e ∈ l.guard?, Sound e) :
    Conserves Sound (fun _ => True) l.passes := by
  unfold passes
  split
  · next condition heq =>
    exact (Expr.conserves_evaluate (h condition heq)).bind fun _ _ => gives_pure trivial
  · exact gives_pure trivial

theorem conserves_runs {l : Loop} (hguard : ∀ e ∈ l.guard?, Sound e)
    (hparent : l.parent.Holds Sound) {body : Rendering String}
    (hbody : Conserves Sound (fun _ => True) body)
    {entries : List (Value × Value)}
    (hentries : ∀ entry ∈ entries, entry.1.Holds Sound ∧ entry.2.Holds Sound) (index : Nat)
    (done : String) : Conserves Sound (fun _ => True) (l.runs body entries index done) := by
  induction entries generalizing index done with
  | nil => exact gives_pure trivial
  | cons entry rest ih =>
    obtain ⟨⟨hkey, hvalue⟩, hrest⟩ := List.forall_mem_cons.mp hentries
    rw [runs]
    refine (conserves_modifyContext fun c hc => l.names.holds_bindEntry hkey hvalue hc).bind
      fun _ _ => (conserves_passes hguard).bind fun passed _ => ?_
    split
    · have hloop (identity : Nat) := Value.holds_object identity
        (holds_loopEntries index l.length l.guard?.isSome hparent)
      exact conserves_fresh.bind fun identity _ =>
        (conserves_setVariable "loop" (hloop identity)).bind fun _ _ => hbody.bind fun text _ =>
          ih hrest (index + 1) (done ++ text)
    · exact ih hrest index done

theorem conserves_render (names : LoopNames) {e : Expr} (he : Sound e) {guard? : Option Expr}
    (hguard : ∀ g ∈ guard?, Sound g) {body : Rendering String}
    (hbody : Conserves Sound (fun _ => True) body) :
    Conserves Sound (fun _ => True) (render names e guard? body) :=
  (Expr.conserves_evaluate he).bind fun _ hv => conserves_context.bind fun _ houter =>
    conserves_fresh.bind fun _ _ =>
      (conserves_runs hguard (Value.holds_object _ houter) hbody hv.entries 0 "").bind fun _ _ =>
        (conserves_modifyContext fun _ hinner => names.holds_leave houter hinner).bind fun _ _ =>
          gives_pure trivial

end Loop

/-! ## Tags -/

namespace Rendering

theorem conserves_find {v : Value} : Conserves Sound (Template.Holds Sound) (findTemplate v) :=
  conserves_findTemplate (fun _ => id) v

theorem conserves_blockInPlace (name : String) :
    Conserves Sound (fun _ => True) (blockInPlace name) := by
  refine gives_get.bind fun scope _ => ?_
  split
  · exact gives_pure trivial
  · refine (conserves_findBlock name).bind fun b hb => ?_
    split
    · exact (conserves_renderBlock (hb _ rfl)).bind fun _ _ => gives_pure trivial
    · exact gives_pure trivial

/-- What is put back after an action is put back after a failure too. -/
theorem conserves_restoring {α : Type} {post : α → Prop} {restore : Scope → Scope}
    (hrestore : ∀ s : Scope, s.Holds Sound → (restore s).Holds Sound) {a : Rendering α}
    (h : Conserves Sound post a) : Conserves Sound post (restoring restore a) :=
  h.attempt.bind fun _ hr => (gives_modify hrestore).bind fun _ _ => gives_settle hr

theorem conserves_outputText (v : Value) : Conserves Sound (fun _ => True) (outputText v) :=
  gives_get.bind fun _ _ => gives_pure trivial

theorem conserves_inclusionContext {i : Inclusion} (h : ∀ e ∈ i.bindings, Sound e) :
    Conserves Sound (Dict.All (Value.Holds Sound)) (inclusionContext i) := by
  unfold inclusionContext
  cases heq : i.bindings with
  | none =>
    dsimp only
    split
    · exact (gives_pure Dict.all_nil).bind fun _ hstart => gives_pure hstart
    · exact conserves_context.bind fun _ hstart => gives_pure hstart
  | some e =>
    have hmerged (start : Context) (hstart : start.All (Value.Holds Sound)) :
        Conserves Sound (Dict.All (Value.Holds Sound))
          (do settle (mergeObject start (← Expr.evaluate e))) :=
      (Expr.conserves_evaluate (h e heq)).bind fun _ hv =>
        gives_settle (yields_mergeObject hstart hv)
    dsimp only
    split
    · exact (gives_pure Dict.all_nil).bind hmerged
    · exact conserves_context.bind hmerged

theorem conserves_inclusionTemplate {i : Inclusion} (h : Sound i.expression) :
    Conserves Sound (fun t => ∀ found ∈ t, found.Holds Sound) (inclusionTemplate i) := by
  refine (Expr.conserves_evaluate h).bind fun target _ => conserves_find.attempt.bind fun r hr => ?_
  cases r with
  | ok t =>
    refine gives_pure ?_
    rintro _ ⟨⟩
    exact hr
  | error failure =>
    dsimp only
    split
    · refine gives_pure ?_
      rintro _ ⟨⟩
    · exact gives_throw hr

section
variable {i : Inclusion} (h : ∀ e ∈ i.expressions, Sound e)
include h

theorem conserves_includeTemplate : Conserves Sound (fun _ => True) (includeTemplate i) := by
  obtain ⟨hexpression, hbindings⟩ := List.forall_mem_cons.mp h
  refine (conserves_inclusionTemplate hexpression).bind fun t ht => ?_
  split
  · exact (conserves_inclusionContext fun e he => hbindings e (Option.mem_toList.mpr he)).bind
      fun _ hc => conserves_renderTemplate (ht _ rfl) Template.holds_noParent hc
  · exact gives_pure trivial

theorem conserves_embedTemplate {nodes : List Node} (hnodes : Node.AllHold Sound nodes) :
    Conserves Sound (fun _ => True) (embedTemplate i nodes) := by
  obtain ⟨hexpression, hbindings⟩ := List.forall_mem_cons.mp h
  refine (conserves_inclusionTemplate hexpression).bind fun parent hparent => ?_
  split
  · exact conserves_template.bind fun outer _ => conserves_fresh.bind fun number _ =>
      (conserves_inclusionContext fun e he => hbindings e (Option.mem_toList.mpr he)).bind
        fun _ hc => conserves_renderTemplate (t := ⟨number, none, outer.base, nodes, outer.options⟩)
          hnodes hparent hc
  · exact gives_pure trivial

end

theorem conserves_macroSource {e : Expr} (h : Sound e) :
    Conserves Sound (Template.Holds Sound) (macroSource e) := by
  unfold macroSource
  split
  · exact conserves_template
  · exact (Expr.conserves_evaluate h).bind fun _ _ => conserves_find

theorem conserves_importMacros {source : Template} (h : source.Holds Sound)
    (names : List (String × String)) :
    Conserves Sound (fun _ => True) (importMacros source names) := by
  induction names with
  | nil => exact gives_pure trivial
  | cons entry rest ih =>
    obtain ⟨name, bound⟩ := entry
    rw [importMacros]
    split
    · exact (conserves_setVariable bound (v := .templateMacro source name) h).bind fun _ _ => ih
    · exact gives_throw (Cause.balanced_of_ne (by rintro _ ⟨⟩))

theorem conserves_withBindings (only : Bool) {body : Rendering String}
    (hbody : Conserves Sound (fun _ => True) body) {bindings : Option Value}
    (h : ∀ v ∈ bindings, v.Holds Sound) :
    Conserves Sound (fun _ => True) (withBindings only body bindings) := by
  unfold withBindings
  refine conserves_context.bind fun saved hsaved => ?_
  have hrest : Conserves Sound (fun _ => True)
      (restoring (fun scope => { scope with context := saved }) body) := by
    refine conserves_restoring (fun s hs => ?_) hbody
    exact { hs with context := hsaved }
  have hempty : Conserves Sound (fun _ => True) (modifyContext fun _ => []) :=
    conserves_modifyContext fun _ _ => Dict.all_nil
  cases bindings with
  | none =>
    dsimp only
    split
    · exact hempty.bind fun _ _ => hrest
    · exact hrest
  | some v =>
    have hmerge := conserves_context.bind fun _ hc =>
      (gives_settle (yields_mergeObject hc (h v rfl))).bind fun c hmerged =>
        (conserves_modifyContext (f := fun _ => c) fun _ _ => hmerged).bind fun _ _ => hrest
    dsimp only
    split
    · exact hempty.bind fun _ _ => hmerge
    · exact hmerge

theorem conserves_withVariables {e : Option Expr} (h : ∀ body ∈ e, Sound body) (only : Bool)
    {body : Rendering String} (hbody : Conserves Sound (fun _ => True) body) :
    Conserves Sound (fun _ => True) (withVariables e only body) := by
  rw [withVariables_eq]
  cases e with
  | none => exact conserves_withBindings only hbody holds_noReceiver
  | some e =>
    have hsome : Conserves Sound (fun bindings => ∀ v ∈ bindings, v.Holds Sound)
        (some <$> Expr.evaluate e) :=
      (Expr.conserves_evaluate (h e rfl)).map fun _ hv => holds_receiver hv
    exact hsome.bind fun _ hbindings => conserves_withBindings only hbody hbindings

theorem conserves_withAutoescape (strategy : Autoescape) {body : Rendering String}
    (hbody : Conserves Sound (fun _ => True) body) :
    Conserves Sound (fun _ => True) (withAutoescape strategy body) := by
  have hwith (strategy : Autoescape) (s : Scope) (hs : s.Holds Sound) :
      Scope.Holds Sound { s with autoescape := strategy } := ⟨hs.1, hs.2, hs.3, hs.4⟩
  exact gives_get.bind fun saved _ => (gives_modify (hwith strategy)).bind fun _ _ =>
    conserves_restoring (hwith saved.autoescape) hbody

/-- A list that ends for a failure passes it on or reports it. -/
theorem conserves_endList (done : String) {failure : Failure} (h : failure.cause.Balanced) :
    Conserves Sound (fun _ => True) (endList done failure) := by
  refine conserves_template.bind fun t _ => ?_
  split
  · refine gives_throw ?_
    rw [Failure.cause_inTemplate]
    exact h
  · have hreport : (Report.renderFailed t.id failure).Balanced := by
      rintro _ ⟨⟩
      exact h
    exact (gives_ask (r := .report (.renderFailed t.id failure)) hreport).bind fun _ _ =>
      gives_pure trivial

end Rendering

namespace Tag

theorem conserves_closed {a : Rendering String} (h : Conserves Sound (fun _ => True) a) :
    Conserves Sound (fun _ => True) (render.closed a) := h.bind fun _ _ => gives_pure trivial

theorem conserves_branchOn {e : Expr} (he : Sound e) {body : Rendering String}
    (hbody : Conserves Sound (fun _ => True) body) :
    Conserves Sound (fun _ => True) (render.branchOn body e) := by
  refine (Expr.conserves_evaluate he).bind fun v _ => ?_
  split
  · exact conserves_closed hbody
  · exact gives_pure trivial

theorem conserves_render {tag : Tag} (h : ∀ e ∈ tag.expressions, Sound e) (active : Bool)
    {nodes : List Node} (hnodes : Node.AllHold Sound nodes) {body : Rendering String}
    (hbody : Conserves Sound (fun _ => True) body) :
    Conserves Sound (fun _ => True) (tag.render active nodes body) := by
  cases tag with
  | branch condition => exact conserves_branchOn (h condition List.mem_cons_self) hbody
  | elseBranch condition =>
    rw [render]
    split
    · exact conserves_branchOn (h condition List.mem_cons_self) hbody
    · exact gives_pure trivial
  | otherwise =>
    rw [render]
    split
    · exact conserves_closed hbody
    · exact gives_pure trivial
  | loop key value expression guard? =>
    obtain ⟨hexpression, hguard⟩ := List.forall_mem_cons.mp h
    exact (Loop.conserves_render ⟨key, value⟩ hexpression
      (fun g hg => hguard g (Option.mem_toList.mpr hg)) hbody).bind fun _ _ => gives_pure trivial
  | assign name expression =>
    exact conserves_closed ((Expr.conserves_evaluate (h expression List.mem_cons_self)).bind
      fun _ hv => (conserves_setVariable name hv).bind fun _ _ => gives_pure trivial)
  | capture name =>
    exact conserves_closed (hbody.bind fun text _ =>
      (conserves_setVariable name (v := .safe text) trivial).bind fun _ _ => gives_pure trivial)
  | block name expression => exact conserves_closed (conserves_blockInPlace name)
  | inherits expression =>
    refine conserves_closed ((Expr.conserves_evaluate (h expression List.mem_cons_self)).bind
      fun _ _ => conserves_find.bind fun parent hparent => (gives_modify fun s hs => ?_).bind
        fun _ _ => gives_pure trivial)
    refine { hs with parent := ?_ }
    rintro _ ⟨⟩
    exact hparent
  | uses expression renames => exact gives_pure trivial
  | macroDef name params => exact gives_pure trivial
  | includes inclusion => exact conserves_closed (conserves_includeTemplate h)
  | embeds inclusion => exact conserves_closed (conserves_embedTemplate h hnodes)
  | imports expression name =>
    exact conserves_closed ((conserves_macroSource (h expression List.mem_cons_self)).bind
      fun source hsource => conserves_fresh.bind fun identity _ =>
        (conserves_setVariable name (Value.within_macrosOf hsource identity)).bind fun _ _ =>
          gives_pure trivial)
  | importsNames expression names =>
    exact conserves_closed ((conserves_macroSource (h expression List.mem_cons_self)).bind
      fun source hsource => (conserves_importMacros hsource names).bind fun _ _ =>
        gives_pure trivial)
  | «scoped» expression only =>
    exact conserves_closed
      (conserves_withVariables (fun e he => h e (Option.mem_toList.mpr he)) only hbody)
  | spaceless => exact conserves_closed (hbody.bind fun _ _ => gives_pure trivial)
  | apply filters =>
    refine conserves_closed (hbody.bind fun text _ =>
      (Expr.conserves_evaluateWith (h filters List.mem_cons_self)
        (List.forall_mem_singleton.mpr ?_)).bind fun _ _ => gives_pure trivial)
    trivial
  | autoescape strategy => exact conserves_closed (conserves_withAutoescape strategy hbody)
  | evaluate expression =>
    exact conserves_closed ((Expr.conserves_evaluate (h expression List.mem_cons_self)).bind
      fun _ _ => gives_pure trivial)
  | deprecated message =>
    have hreport (id : Option String) (text : String) : (Report.deprecated id text).Balanced := by
      rintro _ ⟨⟩
    exact conserves_closed ((Expr.conserves_evaluate (h message List.mem_cons_self)).bind fun v _ =>
      conserves_template.bind fun t _ =>
        (gives_ask (r := .report (.deprecated t.id v.text)) (hreport t.id v.text)).bind
          fun _ _ => gives_pure trivial)

end Tag

/-! ## Nodes -/

namespace Node

mutual

theorem conserves_render (n : Node) (h : ∀ e ∈ n.expressions, Sound e) (active : Bool) :
    Conserves Sound (fun _ => True) (render active n) := by
  cases n with
  | raw value => exact gives_pure trivial
  | output e =>
    exact (Expr.conserves_evaluate (h e List.mem_cons_self)).bind fun v _ =>
      (conserves_outputText v).bind fun _ _ => gives_pure trivial
  | logic tag nodes =>
    rw [expressions, List.forall_mem_append] at h
    rw [render]
    exact Tag.conserves_render h.1 active h.2 (conserves_renderAll nodes h.2 false "")
termination_by structural n

/-- **Nodes with sound expressions fail for no literal.** -/
theorem conserves_renderAll (nodes : List Node) (h : AllHold Sound nodes) (active : Bool)
    (done : String) : Conserves Sound (fun _ => True) (renderAll active done nodes) := by
  cases nodes with
  | nil => exact gives_pure trivial
  | cons n rest =>
    obtain ⟨hn, hrest⟩ := allHold_cons.mp h
    rw [renderAll]
    -- after a failure the rest is not rendered
    refine (conserves_render n hn active).attempt.bind fun r hr => ?_
    cases r with
    | ok out => exact conserves_renderAll rest hrest out.2 (done ++ out.1)
    | error failure => exact conserves_endList done hr
termination_by structural nodes

end

end Node
end Stencil
