import Stencil.Proofs.Scoping.Variables

/-!
# The names that a `from` tag binds

A `from` tag finds the template that it takes macros from, and then turns to the names in its list,
one after the other: a macro that the template defines is bound at once, and the first one that it
does not define ends the tag.  So the tag binds all names or fails, but if it fails it has bound
those in front of the missing one, and where failures are not passed on the rest of the page goes on
with them (`Environment.context_behind_from`, `Environment.text_half_imported`).
-/
namespace Stencil
open Rendering

namespace Template

/-- The variables with macros of the template bound one after the other, each under the name that
comes with it. -/
def bindMacros (source : Template) (names : List (String × String)) (c : Context) : Context :=
  names.foldl (fun c pair => c.insert pair.2 (.templateMacro source pair.1)) c

/-- The macro that is bound to a name in the end: the last one that comes with it. -/
def boundMacro? (source : Template) (names : List (String × String)) (name : String) :
    Option Value :=
  (names.reverse.find? fun pair => pair.2 = name).map fun pair => .templateMacro source pair.1

/-- A name that comes with no macro keeps its value. -/
theorem find?_bindMacros (source : Template) (names : List (String × String)) (c : Context)
    (name : String) :
    (source.bindMacros names c).find? name = (source.boundMacro? names name).or (c.find? name) :=
  Dict.find?_foldl_insert Prod.snd (fun pair => Value.templateMacro source pair.1) names c name

/-- If the template does not define them all, there is a first one that it does not define. -/
theorem exists_first_missing (source : Template) {names : List (String × String)}
    (h : ¬ ∀ pair ∈ names, source.macros.contains pair.1 = true) :
    ∃ before missing rest, names = before ++ missing :: rest ∧
      (∀ pair ∈ before, source.macros.contains pair.1 = true) ∧
      source.macros.contains missing.1 = false := by
  induction names with
  | nil => exact absurd nofun h
  | cons pair names ih =>
    cases hpair : source.macros.contains pair.1 with
    | false => exact ⟨[], pair, names, rfl, nofun, hpair⟩
    | true =>
      obtain ⟨before, missing, rest, rfl, hbefore, hmissing⟩ :=
        ih fun hrest => h (List.forall_mem_cons.mpr ⟨hpair, hrest⟩)
      exact ⟨pair :: before, missing, rest, rfl, List.forall_mem_cons.mpr ⟨hpair, hbefore⟩,
        hmissing⟩

end Template

namespace Rendering

/-- The names in front of the first one that the template does not define are bound, and that one
ends the import. -/
theorem importMacros_missing {source : Template} {before : List (String × String)}
    (hbefore : ∀ pair ∈ before, source.macros.contains pair.1 = true) {missing : String × String}
    (hmissing : source.macros.contains missing.1 = false) (rest : List (String × String))
    (s : Scope) :
    importMacros source (before ++ missing :: rest) s
      = .done (.error (.runtime (importMacros.undefinedMacro source missing.1)),
          { s with context := source.bindMacros before s.context }) := by
  induction before generalizing s with
  | nil =>
    rw [List.nil_append, importMacros, hmissing]
    rfl
  | cons pair before ih =>
    obtain ⟨hpair, hbefore⟩ := List.forall_mem_cons.mp hbefore
    rw [List.cons_append, importMacros, hpair]
    exact ih hbefore { s with context := s.context.insert pair.2 (.templateMacro source pair.1) }

/-- If the template defines them all, they are all bound. -/
theorem importMacros_defined {source : Template} {names : List (String × String)}
    (h : ∀ pair ∈ names, source.macros.contains pair.1 = true) (s : Scope) :
    importMacros source names s
      = .done (.ok (), { s with context := source.bindMacros names s.context }) := by
  induction names generalizing s with
  | nil => rfl
  | cons pair rest ih =>
    obtain ⟨hpair, hrest⟩ := List.forall_mem_cons.mp h
    rw [importMacros, hpair]
    exact ih hrest { s with context := s.context.insert pair.2 (.templateMacro source pair.1) }

/-- To find the template leaves the scope as it is, unless its expression calls for blocks. -/
theorem untouched_macroSource {answer : (r : Request) → World → Outcome r.Answer} {e : Expr}
    (h : Expr.tokensWithin False e) {s s' : Scope} {w after : World} {r : Except Failure Template}
    (hrun : (macroSource e s).runWith answer w = .done (r, s') after) : s' = s := by
  have hmoves : Moves answer Eq (macroSource e) := by
    unfold macroSource
    split
    · exact moves_template
    · exact Moves.bind (Expr.holds_evaluate (R := movesRules (R := Eq) False.elim) h)
        fun v => moves_findTemplate v
  exact (hmoves s w r s' after hrun).symm

end Rendering

namespace Environment
variable (env : Environment) (patience : Patience) (depth : Nat)

/-- **What a `from` tag leaves of the variables.**  If its template is not found, what the search
has left.  If the template defines all macros in the list, each name is bound to the last macro that
comes with it, and all others have their values.  If it does not, the tag fails with the first macro
that is missing, and the same holds of the names in front of that one.  The search leaves the scope
as it is, unless the expression calls for blocks.  And unless failures are to be passed on, what the
tag leaves when it fails is what the rest of the page sees. -/
theorem context_behind_from (active : Bool) (e : Expr) (names : List (String × String))
    (nodes : List Node) {s s' : Scope} {w after : World} {r : Except Failure (String × Bool)}
    (h : env.run patience depth (Node.render active (.logic (.importsNames e names) nodes) s) w
      = .done (r, s') after) :
    ((∃ failure, env.run patience depth (macroSource e s) w = .done (.error failure, s') after ∧
        r = .error failure) ∨
      ∃ source mid, env.run patience depth (macroSource e s) w = .done (.ok source, mid) after ∧
        s' = { mid with context := s'.context } ∧
        (((∀ pair ∈ names, source.macros.contains pair.1 = true) ∧ r = .ok ("", false) ∧
            ∀ name, s'.context.find? name
              = (source.boundMacro? names name).or (mid.context.find? name)) ∨
          ∃ before missing rest, names = before ++ missing :: rest ∧
            (∀ pair ∈ before, source.macros.contains pair.1 = true) ∧
            source.macros.contains missing.1 = false ∧
            r = .error (.runtime ("Macro \"" ++ missing.1 ++ "\" is not defined in template \""
              ++ source.title ++ "\"")) ∧
            ∀ name, s'.context.find? name
              = (source.boundMacro? before name).or (mid.context.find? name))) ∧
    (Expr.tokensWithin False e → ∀ found mid between,
      env.run patience depth (macroSource e s) w = .done (found, mid) between → mid = s) ∧
    ∀ failure, r = .error failure → s.template.options.rethrow = false →
      failure.isPending = false → ∀ done rest,
        env.run patience depth
            (Node.renderAll active done (.logic (.importsNames e names) nodes :: rest) s) w
          = .done (.ok done, s')
              { after with reports := .renderFailed s.template.id failure :: after.reports } := by
  refine ⟨?_, fun he found mid between => untouched_macroSource he, ?_⟩
  · obtain ⟨inner, hinner, rfl⟩ := Tag.run_closed_done h
    rcases run_bind_iff.mp hinner with
      ⟨failure, hfailed, rfl⟩ | ⟨source, mid, between, hsource, himport⟩
    · exact .inl ⟨failure, hfailed, rfl⟩
    right
    by_cases hall : ∀ pair ∈ names, source.macros.contains pair.1 = true
    · rcases run_bind_iff.mp himport with ⟨failure, hfailed, rfl⟩ | ⟨_, _, _, himported, hend⟩
      · rw [importMacros_defined hall] at hfailed
        cases hfailed
      · rw [importMacros_defined hall] at himported
        cases himported
        cases hend
        exact ⟨source, mid, hsource, rfl, .inl ⟨hall, rfl, source.find?_bindMacros names _⟩⟩
    · obtain ⟨before, missing, rest, rfl, hbefore, hmissing⟩ := source.exists_first_missing hall
      rcases run_bind_iff.mp himport with ⟨failure, hfailed, rfl⟩ | ⟨_, _, _, himported, hend⟩
      · rw [importMacros_missing hbefore hmissing] at hfailed
        cases hfailed
        exact ⟨source, mid, hsource, rfl, .inr ⟨before, missing, rest, rfl, hbefore, hmissing,
          rfl, source.find?_bindMacros before _⟩⟩
      · rw [importMacros_missing hbefore hmissing] at himported
        cases himported
  · rintro failure rfl hlenient hpending done rest
    exact env.run_renderAll_failed patience depth h hlenient hpending done rest

/-! A page that shows a variable behind a tag that takes over two macros, one of which there is not.
-/

/-- The tag, with the missing macro in front or behind. -/
def halfImported (missingFirst : Bool) : Node :=
  .logic (.importsNames [.variable "_self"]
    (if missingFirst then [("nope", "y"), ("a", "x")] else [("a", "x"), ("nope", "y")])) []

/-- The page. The tag stands in a list of its own. -/
def halfImporting (missingFirst : Bool) : Template where
  number := 0
  id := none
  base := none
  nodes := [.logic (.macroDef "a" []) [.raw "A"],
    .logic (.branch [.bool true]) [halfImported missingFirst], .raw "[",
    .output [.variable "x"], .raw "]"]
  options := {}

theorem context_behind_from_self :
    let env : Environment := {}
    let page := halfImporting false
    let s := Scope.start page [("x", .string "1")]
    let s' := { s with context := [("x", .templateMacro page "a")] }
    let failure := Failure.runtime "Macro \"nope\" is not defined in template \"anonymous\""
    env.run .patient 3 (Node.render false (halfImported false) s) {}
        = .done (.error failure, s') {} ∧
      env.run .patient 3 (Node.renderAll false "" [halfImported false] s) {}
        = .done (.ok "", s') { reports := [.renderFailed none failure] } := by
  intro env page s s' failure
  have h : env.run .patient 3 (Node.render false (halfImported false) s) {}
      = .done (.error failure, s') {} := rfl
  have hbehind := env.context_behind_from .patient 3 false [.variable "_self"]
    [("a", "x"), ("nope", "y")] [] h
  exact ⟨h, hbehind.2.2 failure rfl rfl rfl "" []⟩

/-- With the missing macro in front the variable keeps its value; with it behind, it does not,
though the tag fails in the same way. -/
theorem text_half_imported :
    let text (missingFirst : Bool) := ((({} : Environment).run .patient 3
      ((halfImporting missingFirst).text [("x", .string "1")]).run { next := 1 })).text?
    text true = some "[1]" ∧ text false = some "[A]" := by
  decide +kernel

end Environment
end Stencil
