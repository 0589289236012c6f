import Stencil.Proofs.Failures.Relay
import Stencil.Proofs.Settings.Builtins

/-!
# Hosts that pass failures on

Which template a failure names is the business of templates.  An extension of the host has no name
to put to a failure: it passes on what the functions that it is handed fail with, and raises its own
failures without a name (`Environment.PassesOn`).  The extensions that every environment has do so.
-/
namespace Stencil

/-! ## What a host does with failures -/

/-- The contract to make no calls. -/
def Contract.callFree : Contract :=
  ⟨fun r => ∀ a, r.failure? a = none, fun _ _ => True, fun _ => True⟩

/-- A program without calls relays nothing. -/
theorem Program.Meets.relays {α : Type} {post : α → Prop} {p : Program α}
    (h : p.Meets .callFree post) : p.Relays fun f? a => f? = none ∧ post a := by
  induction p with
  | done a => exact ⟨rfl, h⟩
  | ask r next ih => exact Program.relays_ask h.1 fun a _ => ih a (h.2 a trivial)

/-- The extensions of a host pass on what calls fail with, and their own failures name no template.
Its loader makes no calls. -/
structure Environment.PassesOn (env : Environment) : Prop where
  filter : ∀ name f, env.filters.find? name = some f → ∀ input args,
    Attempt.Relays (.naming none) (f input args)
  test : ∀ name f, env.tests.find? name = some f → ∀ input args,
    Attempt.Relays (.naming none) (f input args)
  function : ∀ name f, env.functions.find? name = some f → ∀ args,
    Attempt.Relays (.naming none) (f args)
  callable : ∀ identity receiver args,
    Attempt.Relays (.naming none) (env.callables identity receiver args)
  load : ∀ locator, (env.load locator).run.Meets .callFree Unnamed
  cachedTree : ∀ entries locator, Unnamed (env.cachedTree entries locator)
  cacheTree : ∀ entries locator tree, Unnamed (env.cacheTree entries locator tree)

/-! ## What every host provides -/

namespace Filter
variable {M : Manner} (P : M.Plain)
include P

theorem relays_arrow (name : String) (args : List Value) :
    Attempt.Relays M (liftM (arrow name args)) := by
  have hthrow : Attempt.Relays M (throw (.runtime
      ("The \"" ++ name ++ "\" filter expects an arrow function")) : Attempt Value) :=
    Attempt.relays_throw (P.own _ rfl)
  cases args with
  | nil => exact hthrow
  | cons v rest =>
    cases v with
    | hostFunction identity => exact Attempt.relays_pure _
    | lambda identity params body t c => exact Attempt.relays_pure _
    | _ => exact hthrow

/-- What a function fails with is failed with by the filter that goes by it. -/
theorem relays_applyArrow (f : Value) (entries : List (Value × Value)) :
    Attempt.Relays M (applyArrow f entries) := by
  have hcall (entry : Value × Value) : Attempt.Relays M
      (ExceptT.mk (Program.request (.invoke f none [entry.2, entry.1]))) :=
    Program.relays_call P (r := .invoke f none [entry.2, entry.1]) (f := fun r => r) fun _ => rfl
  have hfrom (done : List Value) : Attempt.Relays M (Attempt.sequenceFrom
      (fun entry => ExceptT.mk (Program.request (.invoke f none [entry.2, entry.1]))) done
      entries) := by
    induction entries generalizing done with
    | nil => exact Attempt.relays_pure _
    | cons entry rest ih => exact (hcall entry).bind fun v => ih (v :: done)
  exact hfrom []

omit P in
theorem relays_collect (v : Value) (entries : List (Value × Value)) :
    Attempt.Relays M (collect v entries) := by
  refine Program.relays_ask (r := .fresh) (fun _ => rfl) fun identity _ => ?_
  cases v <;> exact Attempt.relays_pure _

theorem relays_builtin {name : String} {f : Filter} (h : builtins.find? name = some f)
    (input : Value) (args : List Value) : Attempt.Relays M (f input args) := by
  have hmem := Dict.mem_of_find? h
  simp only [builtins, List.mem_cons, Prod.mk.injEq, List.not_mem_nil, or_false] at hmem
  have hescape : Attempt.Relays M (escape input args) := by
    unfold escape
    split
    · exact Attempt.relays_pure _
    · split
      · exact Attempt.relays_pure _
      · exact Attempt.relays_throw (P.own _ rfl)
  rcases hmem with ⟨-, rfl⟩ | ⟨-, rfl⟩ | ⟨-, rfl⟩ | ⟨-, rfl⟩ | ⟨-, rfl⟩
  · unfold raw
    split <;> exact Attempt.relays_pure _
  · exact hescape
  · exact hescape
  · exact (relays_arrow P "map" args).bind fun f => (relays_applyArrow P f _).bind fun _ =>
      relays_collect _ _
  · exact (relays_arrow P "filter" args).bind fun f => (relays_applyArrow P f _).bind fun _ =>
      relays_collect _ _

end Filter

/-- A host with nothing but the extensions that all have passes failures on. -/
theorem Environment.passesOn_standard (options : Options) : (standard options).PassesOn where
  filter _ _ h input args := Filter.relays_builtin Manner.plain_loose h input args
  test name f h input args := by
    obtain ⟨p, rfl, -⟩ := Test.builtin_adjust h
    exact Attempt.relays_pure _
  function _ _ h := by cases h
  callable _ _ _ := Attempt.relays_pure _
  load _ := Unnamed.error rfl
  cachedTree _ _ := .ok _
  cacheTree _ _ _ := .ok _

end Stencil
