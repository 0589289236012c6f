import Stencil.Engine.Loader
import Stencil.Proofs.Engine.Depth
import Stencil.Proofs.Engine.Histories

/-!
# What a name refers to

Whatever is compiled, loaded or read from a cache is stored under its name, with the settings under
which that was done, and there every later reference finds it, under whatever settings the reference
is made (`Environment.findTemplate_afterwards`).  A reference passes its own settings on only where
nothing has been stored before.  So an escaping page may include a part that does not escape,
because another page has included that part before it (`Environment.include_twice`).
-/
namespace Stencil

/-- What is stored behind the request, given what was stored before. -/
def Request.storeOf (store : Dict Template) : Request → Dict Template
  | .store t =>
    match t.id with
    | some id => store.insert id t
    | none => store
  | _ => store

/-- What is found under a name was stored by one of the events, or it was there before. -/
theorem Request.store_of_find? {events : List Request} {store : Dict Template} {name : String}
    {t : Template} (h : (events.foldl storeOf store).find? name = some t) :
    store.find? name = some t ∨ Request.store t ∈ events ∧ t.id = some name := by
  induction events generalizing store with
  | nil => exact .inl h
  | cons r rest ih =>
    rcases ih h with hbefore | ⟨hmem, hid⟩
    · cases r with
      | store u =>
        rw [storeOf] at hbefore
        cases hu : u.id with
        | none =>
          rw [hu] at hbefore
          exact .inl hbefore
        | some id =>
          rw [hu, Dict.find?_insert] at hbefore
          split at hbefore
          · next heq =>
            obtain rfl := Option.some.inj hbefore
            exact .inr ⟨List.mem_cons_self, heq ▸ hu⟩
          · exact .inl hbefore
      | _ => exact .inl hbefore
    · exact .inr ⟨List.mem_cons_of_mem r hmem, hid⟩

namespace Template

theorem meets_loadAndCompile (locator : String) (options : Options) :
    Attempt.Meets .any (fun t => t.options = options) (loadAndCompile locator options) := by
  have hload : Attempt.Meets .any (fun _ => True) (ExceptT.mk (Program.request (.load locator))) :=
    ⟨trivial, fun _ _ _ _ => trivial⟩
  refine hload.bind fun source _ => ?_
  refine (meets_compile (fun _ _ => trivial) (some locator) source options).bind fun t ht => ?_
  have hwrite : Attempt.Meets .any (fun _ => True)
      (ExceptT.mk (Program.request (.writeCache locator t.toTree))) :=
    ⟨trivial, fun _ _ _ _ => trivial⟩
  exact hwrite.bind fun _ _ => Attempt.meets_pure ht.1

/-- A template is made from the cache or from its source with the settings of the reference. -/
theorem meets_made (locator : String) (options : Options) :
    Attempt.Meets .any (fun t => t.options = options) (do
      match ← ExceptT.mk (Program.request (.cached locator)) with
      | some tree => make options tree
      | none => loadAndCompile locator options) := by
  have hcached : Attempt.Meets .any (fun _ => True)
      (ExceptT.mk (Program.request (.cached locator))) := ⟨trivial, fun _ _ _ _ => trivial⟩
  refine hcached.bind fun tree? _ => ?_
  cases tree? with
  | none => exact meets_loadAndCompile locator options
  | some tree =>
    exact Attempt.meets_lift ((meets_make (fun _ _ => trivial) options tree).mono
      fun t ht => ht.1)

end Template

namespace Environment
variable (env : Environment) (patience : Patience) (depth : Nat)

theorem answer_store {r : Request} (he : env.errand? r = none) (w : World) :
    (env.answer patience 0 r w).All fun after => after.store = r.storeOf w.store := by
  cases r with
  | store t =>
    show (w.storeTemplate t).store = Request.storeOf w.store (.store t)
    rw [World.storeTemplate, Request.storeOf]
    cases t.id <;> rfl
  | _ => exact (env.answer_frame patience he w).mono fun after h => h.2.1 id

/-- **What is stored** behind a run is what the events have stored, and what was stored before. -/
theorem run_store {α : Type} (p : Program α) (w : World) :
    (env.run patience depth p w).All fun after =>
      after.store = (env.events patience depth p w).foldl Request.storeOf w.store := by
  refine env.run_reads patience World.store Request.storeOf
    (fun r w he => env.answer_store patience he w) (fun r e store he => ?_) depth p w
  cases r with
  | store t => cases he
  | _ => rfl

/-! ## References -/

section
variable {patience depth} {w : World} {options : Options} {locator : String} {t : Template}

theorem run_locate_stored (h : w.store.find? locator = some t) :
    env.run patience depth (Template.locate locator options).run w = .done (.ok t) w := by
  have hanswer := env.answer_stored patience depth locator w
  rw [h] at hanswer
  exact env.run_ask_done patience depth hanswer

/-- A template that is not stored is made with the settings of the reference. -/
theorem options_of_run_locate (h : w.store.find? locator = none) {after : World}
    (hrun : env.run patience depth (Template.locate locator options).run w = .done (.ok t) after) :
    t.options = options := by
  have hanswer := env.answer_stored patience depth locator w
  rw [h] at hanswer
  exact (Template.meets_made locator options).ends (fun _ _ => trivial)
    ((env.run_ask_done patience depth hanswer).symm.trans hrun) t rfl

theorem run_resolve (name : String) (base : Option String) :
    env.run patience depth (Template.resolve name base options).run w
      = match if options.allowInlineIncludes then w.store.find? name else none with
        | some t => .done (.ok t) w
        | none => env.run patience depth (Template.locate
            (Locator.resolveString options.namespaces base name) options).run w := by
  unfold Template.resolve
  by_cases hinline : options.allowInlineIncludes = true
  · rw [if_pos hinline, if_pos hinline]
    refine (env.run_ask_done patience depth (env.answer_stored patience depth name w)).trans ?_
    cases w.store.find? name <;> rfl
  · rw [if_neg hinline, if_neg hinline]

end
end Environment

/-- The stored template that a reference finds: under the name itself, where settings allow it, or
under its locator. -/
def Options.stored? (options : Options) (store : Dict Template) (name : String)
    (base : Option String) : Option Template :=
  (if options.allowInlineIncludes then store.find? name else none).or
    (store.find? (Locator.resolveString options.namespaces base name))

namespace Environment

section
variable {hosts : Environment → Prop} {programs : (α : Type) → Program α → Prop}
  {start last : World} {events : List Request}

/-- What a history stores is what its events have stored. -/
theorem store_afterwards (h : History hosts programs World.store start events last) :
    last.store = events.foldl Request.storeOf start.store :=
  h.reads World.store Request.storeOf (fun _ _ h => h)
    fun env patience depth _ p w => env.run_store patience depth p w

variable (env : Environment) {patience : Patience} {depth : Nat} {name : String}
  {base : Option String} {options : Options} {t : Template} {w after : World}

/-- What is stored under the name or its locator is found there. -/
theorem run_resolve_stored (h : options.stored? w.store name base = some t) :
    env.run patience depth (Template.resolve name base options).run w = .done (.ok t) w := by
  rw [run_resolve]
  rcases Option.or_eq_some_iff.mp h with hname | ⟨hname, hlocator⟩
  · rw [hname]
  · rw [hname]
    exact env.run_locate_stored hlocator

theorem options_of_run_resolve (h : options.stored? w.store name base = none)
    (hrun : env.run patience depth (Template.resolve name base options).run w
      = .done (.ok t) after) : t.options = options := by
  obtain ⟨hname, hlocator⟩ := Option.or_eq_none_iff.mp h
  rw [run_resolve, hname] at hrun
  exact env.options_of_run_locate hlocator hrun

variable {v : Value} (hv : ∀ identity items, v ≠ .array identity items) {scope : Scope}
include hv

theorem run_findTemplate :
    env.run patience depth (Rendering.findTemplate v scope) w
      = (env.run patience depth (Template.resolve v.text scope.template.base
          scope.template.options).run w).bind fun found after => .done (found, scope) after := by
  rw [Rendering.findTemplate_eq hv]
  exact Program.runWith_bind _ _ w

theorem run_findTemplate_stored
    (h : scope.template.options.stored? w.store v.text scope.template.base = some t) :
    env.run patience depth (Rendering.findTemplate v scope) w = .done (.ok t, scope) w := by
  rw [env.run_findTemplate hv, env.run_resolve_stored h]
  rfl

/-- What is not stored is made with the settings of the template that refers to it. -/
theorem options_of_run_findTemplate
    (h : scope.template.options.stored? w.store v.text scope.template.base = none) {behind : Scope}
    (hrun : env.run patience depth (Rendering.findTemplate v scope) w
      = .done (.ok t, behind) after) : t.options = scope.template.options := by
  rw [env.run_findTemplate hv] at hrun
  cases hresolve : env.run patience depth (Template.resolve v.text scope.template.base
      scope.template.options).run w with
  | done found mid =>
    rw [hresolve] at hrun
    cases hrun
    exact env.options_of_run_resolve h hresolve
  | pending mid | tooDeep =>
    rw [hresolve] at hrun
    cases hrun

end

/-- **What a reference comes to** after a history.  The template that is referred to by a name is
the one that has been stored last under the name or its locator, with the settings under which that
was made, and nothing else happens.  What is not stored is made under the settings of the template
that refers to it.  So these reach it if all that was ever stored there has them. -/
theorem findTemplate_afterwards {hosts : Environment → Prop}
    {programs : (α : Type) → Program α → Prop} {start last : World} {events : List Request}
    (h : History hosts programs World.store start events last) (env : Environment)
    (patience : Patience) (depth : Nat) (scope : Scope) {v : Value}
    (hv : ∀ identity items, v ≠ .array identity items) :
    let user := scope.template
    let locator := Locator.resolveString user.options.namespaces user.base v.text
    let stored :=
      user.options.stored? (events.foldl Request.storeOf start.store) v.text user.base
    let outcome := env.run patience depth (Rendering.findTemplate v scope) last
    (∀ t, stored = some t → outcome = .done (.ok t, scope) last) ∧
      (stored = none → ∀ t behind after, outcome = .done (.ok t, behind) after →
        t.options = user.options) ∧
      ((∀ id t, user.options.allowInlineIncludes = true ∧ id = v.text ∨ id = locator →
          start.store.find? id = some t ∨ Request.store t ∈ events ∧ t.id = some id →
          t.options = user.options) →
        ∀ t behind after, outcome = .done (.ok t, behind) after → t.options = user.options) := by
  intro user locator stored outcome
  have hstore : user.options.stored? last.store v.text user.base = stored := by
    rw [store_afterwards h]
  have hfound : ∀ t, stored = some t → outcome = .done (.ok t, scope) last := fun t ht =>
    env.run_findTemplate_stored hv (hstore.trans ht)
  have hmade : stored = none → ∀ t behind after, outcome = .done (.ok t, behind) after →
      t.options = user.options := fun hnone t behind after =>
    env.options_of_run_findTemplate hv (hstore.trans hnone)
  refine ⟨hfound, hmade, fun hall t behind after hrun => ?_⟩
  cases hstored : stored with
  | none => exact hmade hstored t behind after hrun
  | some u =>
    obtain rfl : u = t := by
      cases (hfound u hstored).symm.trans hrun
      rfl
    rcases Option.or_eq_some_iff.mp hstored with hname | ⟨-, hlocator⟩
    · split at hname
      · next hinline => exact hall v.text u (.inl ⟨hinline, rfl⟩) (Request.store_of_find? hname)
      · cases hname
    · exact hall locator u (.inr rfl) (Request.store_of_find? hlocator)

/-! A page that does not escape and one that does, with a part in common. -/

/-- The host that has the source of the part. -/
def shared : Environment :=
  { standard { rethrow := true } with loader := some (Loader.memory [("part", "{{ s }}")]) }

/-- The settings of the pages. -/
def Sharing.settings (autoescape : Autoescape) : Options := { rethrow := true, autoescape }

/-- A page that includes the part. -/
def Sharing.page (number : Nat) (autoescape : Autoescape) : Template where
  number
  id := none
  base := none
  nodes := [.logic (.includes ⟨[.string "part"], none, false, false⟩) []]
  options := settings autoescape

/-- The part as the first reference makes it. -/
def Sharing.part (number : Nat) (autoescape : Autoescape) : Template where
  number
  id := some "part"
  base := some "part"
  nodes := [.output [.variable "s"]]
  options := settings autoescape

open Sharing

/-- The page that escapes gets the part that has been made for the one that does not. -/
theorem findTemplate_afterwards_part :
    let first := Template.make (settings none) ⟨some "part", [.output [.variable "s"]]⟩
    let scope := Scope.start (page 1 (some .html)) []
    ∃ last, History (· = shared) (fun _ _ => True) World.store {}
        (shared.events .immediate 9 first {}) last ∧
      shared.run .immediate 9 (Rendering.findTemplate (.string "part") scope) last
        = .done (.ok (part 0 none), scope) last := by
  intro first scope
  obtain ⟨last, hlast⟩ : ∃ last, (shared.run .immediate 9 first {}).world? = some last := ⟨_, rfl⟩
  have h : History (· = shared) (fun _ _ => True) World.store {}
      (shared.events .immediate 9 first {}) last := by
    refine .single ?_ ?_ hlast
    · exact rfl
    · trivial
  obtain ⟨hfound, -, -⟩ :=
    findTemplate_afterwards h shared .immediate 9 scope (v := .string "part") fun _ _ => nofun
  exact ⟨last, h, hfound (part 0 none) rfl⟩

/-- A page that escapes does so, unless one that does not has included the same part before it. -/
theorem include_twice :
    let render (autoescape : Autoescape) (w : World) :=
      shared.run .immediate 9 ((page 0 autoescape).text [("s", .string "<b>")]).run w
    let start : World := { next := 2 }
    (render (some .html) start).text? = some "&lt;b&gt;" ∧
      (render none start).text? = some "<b>" ∧
      (render none start).world?.bind (fun after => (render (some .html) after).text?)
        = some "<b>" := by
  decide +kernel

end Environment
end Stencil
