import Stencil.Proofs.Settings.Tandem
import Stencil.Proofs.Tree.Syntax

/-!
# Failures that are passed on

A call that fails ends the program that has made it: the program asks for nothing any more, and what
it fails with is the failure of the call, as it came or with the name of a template put to it
(`Program.Relays`).  Any other failure is the program's own.  Only where a template is looked for do
programs go on after a failure, when the template is nowhere; so such a look-up is not a call.  The
source that was loaded for it is: one that cannot be compiled ends the program like a call that
fails.
-/
namespace Stencil

/-! ## Failures and their names -/

namespace Failure
variable {α : Type}

/-- The failure that a result is. -/
def of? : Except Failure α → Option Failure
  | .error failure => some failure
  | .ok _ => none

@[simp] theorem template_inTemplate (f : Failure) (id : Option String) :
    (f.inTemplate id).template = f.template.or id := by
  unfold inTemplate
  split
  · next h => rw [h, Option.some_or]
  · next h => rw [h, Option.none_or]

@[simp] theorem isNotFound_inTemplate (f : Failure) (id : Option String) :
    (f.inTemplate id).isNotFound = f.isNotFound := by
  unfold inTemplate
  split <;> rfl

theorem inTemplate_of_isSome {f : Failure} (h : f.template.isSome = true) (id : Option String) :
    f.inTemplate id = f := by
  unfold inTemplate
  split
  · rfl
  · next hnone =>
    rw [hnone] at h
    cases h

theorem inTemplate_none (f : Failure) : f.inTemplate none = f := by
  obtain ⟨cause, template⟩ := f
  cases template <;> rfl

theorem inTemplate_inTemplate (f : Failure) (id : Option String) :
    (f.inTemplate id).inTemplate id = f.inTemplate id := by
  obtain ⟨cause, template⟩ := f
  cases template <;> cases id <;> rfl

end Failure

/-- If it is a failure, it names no template. -/
def Unnamed {α : Type} (r : Except Failure α) : Prop :=
  ∀ failure, r = .error failure → failure.template = none

namespace Unnamed
variable {α β : Type}

theorem ok (a : α) : Unnamed (.ok a : Except Failure α) := nofun

theorem error {failure : Failure} (h : failure.template = none) :
    Unnamed (.error failure : Except Failure α) := by
  rintro _ ⟨⟩
  exact h

theorem bind {r : Except Failure α} {k : α → Except Failure β} (h : Unnamed r)
    (hk : ∀ a, Unnamed (k a)) : Unnamed (r >>= k) := by
  cases r with
  | ok a => exact hk a
  | error failure => exact error (h failure rfl)

end Unnamed

namespace Node

theorem unnamed_ofSource (source : String) : Unnamed (ofSource source) := fun failure h =>
  (ofSource_failsOnSyntax source failure h).2

/-- A source that cannot be compiled is not one that is nowhere. -/
theorem isNotFound_of_ofSource {source : String} {failure : Failure}
    (h : ofSource source = .error failure) : failure.isNotFound = false := by
  have hsyntax := (ofSource_failsOnSyntax source failure h).1
  unfold Failure.isNotFound
  split
  · next heq =>
    rw [heq] at hsyntax
    exact hsyntax.elim
  · rfl

end Node

namespace Request

/-- The failure of a call, and of a source that cannot be compiled, as the answer tells it. -/
def failure? : (r : Request) → r.Answer → Option Failure
  | .filter .., a => Failure.of? (show Except Failure Value from a)
  | .test .., a => Failure.of? (show Except Failure Bool from a)
  | .function .., a => Option.bind (show Option (Except Failure Value) from a) Failure.of?
  | .invoke .., a => Failure.of? (show Except Failure Value from a)
  | .renderBlock .., a => Failure.of? (BlockResult.result a)
  | .render .., a => Failure.of? (show Except Failure String from a)
  | .mergeImports .., a => Failure.of? (show Except Failure Unit from a)
  | .load locator, a =>
    match (show Except Failure String from a) with
    | .ok source => (Failure.of? (Node.ofSource source)).map (·.inTemplate (some locator))
    | .error _ => none
  | _, _ => none

/-- What programs may rely on: a look-up names no template when it fails, and the failure of a
template that nothing extends from the start does. -/
def Fair : (r : Request) → r.Answer → Prop
  | .load _, a => Unnamed (show Except Failure String from a)
  | .cached _, a => Unnamed (show Except Failure (Option CompiledTree) from a)
  | .writeCache .., a => Unnamed (show Except Failure Unit from a)
  | .render _ none _ _, a =>
    ∀ failure, (show Except Failure String from a) = .error failure →
      failure.template.isSome = true
  | _, _ => True

end Request

/-! ## Programs -/

namespace Program
variable {α β : Type}

/-- The program ends in what is in `post none`, unless a call fails: then it asks for nothing any
more, and ends in what is in `post` for that failure. -/
def Relays (post : Option Failure → α → Prop) : Program α → Prop
  | .done a => post none a
  | .ask r next => ∀ a, r.Fair a →
    (r.failure? a = none → (next a).Relays post) ∧
      ∀ failure, r.failure? a = some failure → (next a).Gone (post (some failure))

theorem Relays.bind {mid : Option Failure → α → Prop} {post : Option Failure → β → Prop}
    {p : Program α} {k : α → Program β} (h : p.Relays mid)
    (hk : ∀ a, mid none a → (k a).Relays post)
    (hgone : ∀ failure a, mid (some failure) a → (k a).Gone (post (some failure))) :
    (p >>= k).Relays post := by
  induction p with
  | done a => exact hk a h
  | ask r next ih =>
    -- either no call has failed yet, or the rest of `p` is on its way out and `k` follows it
    exact fun a ha => ⟨fun hnone => ih a ((h a ha).1 hnone),
      fun failure hsome => ((h a ha).2 failure hsome).bind fun b hb => hgone failure b hb⟩

theorem Relays.mono {post post' : Option Failure → α → Prop} {p : Program α} (h : p.Relays post)
    (himp : ∀ f? a, post f? a → post' f? a) : p.Relays post' := by
  have hbind : (p >>= .done).Relays post' :=
    h.bind (fun a ha => himp none a ha) fun failure a ha => .done (himp (some failure) a ha)
  rwa [Program.bind_pure] at hbind

/-- To ask for what is no call. -/
theorem relays_ask {r : Request} {next : r.Answer → Program α} {post : Option Failure → α → Prop}
    (hr : ∀ a, r.failure? a = none) (h : ∀ a, r.Fair a → (next a).Relays post) :
    (Program.ask r next).Relays post := by
  refine fun a ha => ⟨fun _ => h a ha, fun failure hsome => ?_⟩
  rw [hr] at hsome
  cases hsome

/-- A program that asks for nothing any more makes no call. -/
theorem Gone.relays {post : Option Failure → α → Prop} {p : Program α} (h : p.Gone (post none)) :
    p.Relays post := by
  induction h with
  | done h => exact h
  | release h ih => exact relays_ask (fun _ => rfl) fun answer _ => ih answer

end Program

/-! ## How failures leave a text -/

/-- How failures leave a text: those that it raises, and those of the calls that it makes. -/
structure Manner where
  own : Failure → Prop
  passed : Failure → Failure → Prop

namespace Manner

/-- A name is put to the failures that have none. Without a name they leave as they came. -/
def naming (id : Option String) : Manner where
  own failure := failure.template = id
  passed failure thrown := thrown = failure.inTemplate id

/-- A name is put to some of the failures that have none. -/
def within (id : Option String) : Manner where
  own failure := failure.template = none ∨ failure.template = id
  passed failure thrown := thrown = failure ∨ thrown = failure.inTemplate id

/-- How failures leave a look-up: that a template is nowhere is its own failure. -/
def seeking : Manner where
  own failure := failure.template = none
  passed failure thrown := thrown = failure ∧ failure.isNotFound = false

/-- Failures may leave as they came. -/
structure Plain (M : Manner) : Prop where
  own : ∀ failure, failure.template = none → M.own failure
  passed : ∀ failure, M.passed failure failure

theorem plain_loose : (naming none).Plain := ⟨fun _ => id, fun f => f.inTemplate_none.symm⟩

theorem plain_within (id : Option String) : (within id).Plain := ⟨fun _ => .inl, fun _ => .inl rfl⟩

/-- What a program ends in: a result if no call failed, or a failure, which is its own if no call
failed. -/
inductive Ends (M : Manner) {α : Type} : Option Failure → Except Failure α → Prop
  | ok (a : α) : Ends M none (.ok a)
  | own {failure : Failure} (h : M.own failure) : Ends M none (.error failure)
  | passed {failure thrown : Failure} (h : M.passed failure thrown) :
    Ends M (some failure) (.error thrown)

theorem Ends.mono {M M' : Manner} {α : Type} {f? : Option Failure} {r : Except Failure α}
    (h : M.Ends f? r) (hown : ∀ failure, M.own failure → M'.own failure)
    (hpassed : ∀ failure thrown, M.passed failure thrown → M'.passed failure thrown) :
    M'.Ends f? r := by
  cases h with
  | ok a => exact .ok a
  | own h => exact .own (hown _ h)
  | passed h => exact .passed (hpassed _ _ h)

theorem Ends.error {M : Manner} {α β : Type} {f? : Option Failure} {thrown : Failure}
    (h : M.Ends f? (.error thrown : Except Failure α)) :
    M.Ends f? (.error thrown : Except Failure β) := by
  cases h with
  | own h => exact .own h
  | passed h => exact .passed h

theorem Ends.none_of_ok {M : Manner} {α : Type} {f? : Option Failure} {a : α}
    (h : M.Ends f? (.ok a)) : f? = none := by
  cases h
  rfl

/-- The name of a failure is that of the failure that was passed on, or else the one that was put to
it. -/
theorem Ends.template_eq {id : Option String} {α : Type} {f? : Option Failure}
    {r : Except Failure α} (h : (naming id).Ends f? r) {failure : Failure}
    (hr : Failure.of? r = some failure) :
    failure.template = (f?.bind Failure.template).or id := by
  cases h with
  | ok a => cases hr
  | own h =>
    obtain rfl := Option.some.inj hr
    exact h
  | passed h =>
    obtain rfl := Option.some.inj hr
    rw [show _ = _ from h, Failure.template_inTemplate]
    rfl

/-- A name that is put to some failures, put to all of them. -/
theorem Ends.name {id : Option String} {α β : Type} {f? : Option Failure} {thrown : Failure}
    (h : (within id).Ends f? (.error thrown : Except Failure α)) :
    (naming id).Ends f? (.error (thrown.inTemplate id) : Except Failure β) := by
  cases h with
  | own h =>
    refine .own ((thrown.template_inTemplate id).trans ?_)
    rcases h with h | h
    · rw [h, Option.none_or]
    · rw [h, Option.or_self]
  | passed h =>
    refine .passed ?_
    rcases h with rfl | rfl
    · rfl
    · exact Failure.inTemplate_inTemplate _ id

/-- The failures of a text without a name, with a name put to them. -/
theorem Ends.name_loose {id : Option String} {α β : Type} {f? : Option Failure} {thrown : Failure}
    (h : (naming none).Ends f? (.error thrown : Except Failure α)) :
    (naming id).Ends f? (.error (thrown.inTemplate id) : Except Failure β) :=
  Ends.name (h.mono (fun _ => .inl) fun f _ hf => .inl (hf.trans f.inTemplate_none))

end Manner

/-- To make a call and to fail as it does. -/
theorem Program.relays_call {M : Manner} (P : M.Plain) {r : Request} {α : Type}
    {f : r.Answer → Except Failure α} (h : ∀ a, r.failure? a = Failure.of? (f a)) :
    (Program.ask r fun a => .done (f a)).Relays M.Ends := by
  refine fun a _ => ⟨fun hnone => ?_, fun failure hsome => ?_⟩
  · rw [h] at hnone
    show M.Ends none (f a)
    cases hf : f a with
    | ok v => exact .ok v
    | error failure =>
      rw [hf] at hnone
      cases hnone
  · rw [h] at hsome
    refine .done (?_ : M.Ends (some failure) (f a))
    cases hf : f a with
    | ok v =>
      rw [hf] at hsome
      cases hsome
    | error thrown =>
      rw [hf] at hsome
      cases hsome
      exact .passed (P.passed _)

/-! ## Programs that may fail -/

namespace Attempt
variable {M : Manner} {α β : Type}

/-- Failures leave the program in a manner. -/
def Relays (M : Manner) (p : Attempt α) : Prop := p.run.Relays M.Ends

theorem relays_pure (a : α) : Relays M (pure a) := .ok a

theorem relays_throw {failure : Failure} (h : M.own failure) :
    Relays M (throw failure : Attempt α) := .own h

theorem Relays.bind {p : Attempt α} {k : α → Attempt β} (h : Relays M p)
    (hk : ∀ a, Relays M (k a)) : Relays M (p >>= k) := by
  refine Program.Relays.bind h ?_ ?_
  · rintro _ (a | hown)
    · exact hk a
    · exact .own hown
  · rintro failure _ (_ | _ | hpassed)
    exact .done (.passed hpassed)

/-- A handler that fails in any case. -/
theorem Relays.tryCatch {M' : Manner} {p : Attempt α} {k : Failure → Attempt α} (h : Relays M p)
    (hk : ∀ f? failure, M.Ends f? (.error failure : Except Failure α) →
      (k failure).run.Gone (M'.Ends f?)) : Relays M' (tryCatch p k) := by
  refine Program.Relays.bind h ?_ ?_
  · rintro _ (a | hown)
    · exact .ok a
    · exact (hk none _ (.own hown)).relays
  · rintro failure _ (_ | _ | hpassed)
    exact hk _ _ (.passed hpassed)

/-- A program that does not fail. -/
theorem relays_lift {p : Program α} (h : p.Relays fun f? _ => f? = none) :
    Relays M (liftM p) := by
  refine Program.Relays.bind h (fun a _ => .ok a) ?_
  rintro failure a ⟨⟩

end Attempt

/-! ## Renderings -/

namespace Rendering
variable {t : Template} {M : Manner} {α β : Type}

/-- Failures leave the text of a template in a manner. -/
def Relays (t : Template) (M : Manner) (a : Rendering α) : Prop :=
  ∀ scope : Scope, scope.template = t →
    (a scope).Relays fun f? r => r.2.template = t ∧ M.Ends f? r.1

theorem relays_pure (a : α) : Relays t M (pure a) := fun _ h => ⟨h, .ok a⟩

theorem relays_throw {failure : Failure} (h : M.own failure) :
    Relays t M (throw failure : Rendering α) := fun _ hscope => ⟨hscope, .own h⟩

/-- In one scope: what comes after relays in all. -/
theorem relays_bind_at {a : Rendering α} {k : α → Rendering β} {scope : Scope}
    (h : (a scope).Relays fun f? r => r.2.template = t ∧ M.Ends f? r.1)
    (hk : ∀ v, Relays t M (k v)) :
    ((a >>= k) scope).Relays fun f? r => r.2.template = t ∧ M.Ends f? r.1 := by
  refine Program.Relays.bind h ?_ ?_
  · rintro ⟨r, after⟩ ⟨hafter, hends⟩
    cases hends with
    | ok v => exact hk v after hafter
    | own hown => exact ⟨hafter, .own hown⟩
  · rintro failure ⟨r, after⟩ ⟨hafter, hends⟩
    cases hends with
    | passed hpassed => exact .done ⟨hafter, .passed hpassed⟩

theorem Relays.bind {a : Rendering α} {k : α → Rendering β} (h : Relays t M a)
    (hk : ∀ v, Relays t M (k v)) : Relays t M (a >>= k) := fun scope hscope =>
  relays_bind_at (h scope hscope) hk

theorem Relays.map {a : Rendering α} (h : Relays t M a) (f : α → β) : Relays t M (f <$> a) :=
  h.bind fun v => relays_pure (f v)

theorem Relays.mono {M' : Manner} {a : Rendering α} (h : Relays t M a)
    (hown : ∀ failure, M.own failure → M'.own failure)
    (hpassed : ∀ failure thrown, M.passed failure thrown → M'.passed failure thrown) :
    Relays t M' a := fun scope hscope =>
  (h scope hscope).mono fun _ _ hr => ⟨hr.1, hr.2.mono hown hpassed⟩

/-- A rendering that first looks at its scope. -/
theorem relays_get_bind {k : Scope → Rendering β}
    (h : ∀ scope : Scope, scope.template = t →
      (k scope scope).Relays fun f? r => r.2.template = t ∧ M.Ends f? r.1) :
    Relays t M (get >>= k) := h

theorem relays_get : Relays t M get := fun scope h => ⟨h, .ok scope⟩

theorem relays_modify {f : Scope → Scope} (h : ∀ scope, (f scope).template = scope.template) :
    Relays t M (modify f) := fun scope hscope => ⟨(h scope).trans hscope, .ok ()⟩

theorem relays_ask {r : Request} (h : ∀ a, r.failure? a = none) : Relays t M (ask r) :=
  fun _ hscope => Program.relays_ask h fun a _ => ⟨hscope, .ok a⟩

theorem relays_lift {p : Program α} (h : p.Relays fun f? _ => f? = none) :
    Relays t M (lift p) := by
  refine fun scope hscope => Program.Relays.bind h (fun a _ => ⟨hscope, .ok a⟩) ?_
  rintro failure a ⟨⟩

theorem relays_settle (P : M.Plain) {r : Except Failure α} (h : Unnamed r) :
    Relays t M (settle r) := by
  refine fun scope hscope => ⟨hscope, ?_⟩
  cases r with
  | ok a => exact .ok a
  | error failure => exact .own (P.own failure (h failure rfl))

/-- To make a call and to fail as it does. -/
theorem relays_call (P : M.Plain) {r : Request} {f : r.Answer → Except Failure α}
    (h : ∀ a, r.failure? a = Failure.of? (f a)) :
    Relays t M (do settle (f (← ask r))) := fun scope hscope =>
  @Program.Relays.bind _ _ _ _ (.ask r fun a => .done (f a)) (fun result => .done (result, scope))
    (Program.relays_call P h) (fun _ hr => ⟨hscope, hr⟩) fun _ _ hr => .done ⟨hscope, hr⟩

/-- What comes after an attempt: the failures of calls are failed with again. -/
theorem Relays.attempt_bind {M' : Manner} {a : Rendering α} {k : Except Failure α → Rendering β}
    (h : Relays t M a) (hok : ∀ v, Relays t M' (k (.ok v)))
    (hown : ∀ failure, M.own failure → Relays t M' (k (.error failure)))
    (hpassed : ∀ failure thrown (scope : Scope), M.passed failure thrown → scope.template = t →
      (k (.error thrown) scope).Gone fun r => r.2.template = t ∧ M'.Ends (some failure) r.1) :
    Relays t M' (attempt a >>= k) := by
  intro scope hscope
  have hrun : (attempt a >>= k) scope = a scope >>= fun r => k r.1 r.2 := by
    show (a scope >>= fun r => Program.done (Except.ok r.1, r.2)) >>= _ = _
    rw [Program.bind_assoc]
    rfl
  rw [hrun]
  refine (h scope hscope).bind ?_ ?_
  · rintro ⟨r, after⟩ ⟨hafter, hends⟩
    cases hends with
    | ok v => exact hok v after hafter
    | own hr => exact hown _ hr after hafter
  · rintro failure ⟨r, after⟩ ⟨hafter, hends⟩
    cases hends with
    | passed hr => exact hpassed failure _ after hr hafter

/-- What comes after a look-up may go on where it found nothing. -/
theorem Relays.recover (P : M.Plain) {a : Rendering α} {k : Except Failure α → Rendering β}
    (h : Relays t .seeking a) (hok : ∀ v, Relays t M (k (.ok v)))
    (hown : ∀ failure, failure.template = none → Relays t M (k (.error failure)))
    (hpassed : ∀ failure, failure.isNotFound = false → k (.error failure) = throw failure) :
    Relays t M (attempt a >>= k) := by
  refine h.attempt_bind hok hown ?_
  rintro failure thrown scope ⟨rfl, hfound⟩ hscope
  rw [hpassed thrown hfound]
  exact .done ⟨hscope, .passed (P.passed thrown)⟩

end Rendering
end Stencil
