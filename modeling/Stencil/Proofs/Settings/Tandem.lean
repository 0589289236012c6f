import Stencil.Proofs.Render.Laws
import Stencil.Proofs.Settings.Pairing

/-!
# Programs in tandem

Two programs go in tandem if they ask for the same, up to settings, and end in what is related,
until perhaps the first one fails where the second goes on: from there on the first one only ends,
and of the second one no more is asked than to have reported the failure, or not even that.  As
with contracts, programs in tandem can be put together; there is one lemma for each way to do so.
-/
namespace Stencil

/-- The causes for which both sides fail, and those for which the first one fails alone. -/
structure Failing where
  together : Cause → Prop
  alone : Cause → Prop

namespace Failing
variable {α β : Type} (F : Failing)

/-- Results that are related, or the same failure. -/
inductive Results (rel : α → β → Prop) : Except Failure α → Except Failure β → Prop
  | ok {a : α} {b : β} (h : rel a b) : Results rel (.ok a) (.ok b)
  | error {failure : Failure} (h : F.together failure.cause) :
    Results rel (.error failure) (.error failure)

/-- The first side fails alone. -/
def Fails (c : Cause) (r : Except Failure α) : Prop :=
  ∃ failure, r = .error failure ∧ failure.cause = c ∧ F.alone c

variable {F}

theorem Results.mono {G : Failing} {rel rel' : α → β → Prop} {r : Except Failure α}
    {r' : Except Failure β} (h : F.Results rel r r') (hrel : ∀ a b, rel a b → rel' a b)
    (htogether : ∀ c, F.together c → G.together c) : G.Results rel' r r' := by
  cases h with
  | ok h => exact .ok (hrel _ _ h)
  | error h => exact .error (htogether _ h)

theorem Fails.error {failure : Failure} (h : F.alone failure.cause) :
    F.Fails failure.cause (.error failure : Except Failure α) := ⟨failure, rfl, rfl, h⟩

end Failing

/-- The ways of failing of a pairing. -/
def Pairing.failing (K : Pairing) : Failing := ⟨K.cause, fun _ => True⟩

/-! ## Programs -/

namespace Program
variable {α β γ δ : Type} (K : Pairing)

/-- The program asks for nothing any more, but to give up a claim, and ends in a failure. -/
inductive Gone (fails : α → Prop) : Program α → Prop
  | done {a : α} (h : fails a) : Gone fails (.done a)
  | release {t : Template} {next : (Request.releaseImports t).Answer → Program α}
    (h : ∀ answer, Gone fails (next answer)) : Gone fails (.ask (.releaseImports t) next)

/-- Whatever the program goes on with, it will have reported that the other one has failed for the
cause. -/
def Astray (c : Cause) (p : Program α) : Prop :=
  (∀ reports, K.lost c reports) ∨
    ∃ said next, p = .ask (.report said) next ∧
      ∀ reports, (∀ r ∈ reports, K.report r) → K.lost c (said :: reports)

/-- The programs go in tandem, until perhaps the first one fails and the second one does not. -/
inductive Tandem (rel : α → β → Prop) (fails : Cause → α → Prop) : Program α → Program β → Prop
  | done {a : α} {b : β} (h : rel a b) : Tandem rel fails (.done a) (.done b)
  | ask {r : Request} {next : r.Answer → Program α}
    {next' : (r.adjust K.adjust).Answer → Program β} (hr : r.Fits K)
    (hnext : ∀ a, r.Answered K a →
      Tandem rel fails (next a) (next' (r.adjustAnswer K.adjust a)))
    (hgone : K.parts → ∀ c a, r.FailsBy c a → (next a).Gone (fails c)) :
    Tandem rel fails (.ask r next) (.ask (r.adjust K.adjust) next')
  | part {p : Program α} {p' : Program β} {c : Cause} (hparts : K.parts) (hgone : p.Gone (fails c))
    (hastray : p'.Astray K c) : Tandem rel fails p p'

variable {K}

theorem Gone.bind {fails : α → Prop} {fails' : γ → Prop} {p : Program α} {k : α → Program γ}
    (h : p.Gone fails) (hk : ∀ a, fails a → (k a).Gone fails') : (p >>= k).Gone fails' := by
  induction h with
  | done h => exact hk _ h
  | release h ih => exact .release ih

theorem Astray.bind {c : Cause} {p : Program α} (h : p.Astray K c) (k : α → Program γ) :
    (p >>= k).Astray K c := by
  obtain h | ⟨said, next, rfl, h⟩ := h
  · exact .inl h
  · exact .inr ⟨said, fun answer => next answer >>= k, rfl, h⟩

theorem Tandem.bind {rel : α → β → Prop} {fails : Cause → α → Prop} {rel' : γ → δ → Prop}
    {fails' : Cause → γ → Prop} {p : Program α} {p' : Program β} {k : α → Program γ}
    {k' : β → Program δ} (h : Tandem K rel fails p p')
    (hk : ∀ a b, rel a b → Tandem K rel' fails' (k a) (k' b))
    (hgone : K.parts → ∀ c a, fails c a → (k a).Gone (fails' c)) :
    Tandem K rel' fails' (p >>= k) (p' >>= k') := by
  induction h with
  | done h => exact hk _ _ h
  | ask hr _ hnext ih =>
    exact .ask hr ih fun hparts c a ha => (hnext hparts c a ha).bind (hgone hparts c)
  | part hparts h hastray => exact .part hparts (h.bind (hgone hparts _)) (hastray.bind k')

theorem Tandem.mono {rel rel' : α → β → Prop} {fails fails' : Cause → α → Prop} {p : Program α}
    {p' : Program β} (h : Tandem K rel fails p p') (hrel : ∀ a b, rel a b → rel' a b)
    (hfails : K.parts → ∀ c a, fails c a → fails' c a) : Tandem K rel' fails' p p' := by
  have hbind : Tandem K rel' fails' (p >>= .done) (p' >>= .done) := h.bind
    (fun a b hab => .done (hrel a b hab)) fun hparts c a ha => .done (hfails hparts c a ha)
  rwa [Program.bind_pure, Program.bind_pure] at hbind

/-- To ask for what fits, where no other program is run for the answer. -/
theorem tandem_request {r : Request} {fails : Cause → r.Answer → Prop} (hr : r.Fits K)
    (hnever : ∀ c a, ¬ r.FailsBy c a) :
    Tandem K (fun a b => r.Answered K a ∧ b = r.adjustAnswer K.adjust a) fails (request r)
      (request (r.adjust K.adjust)) :=
  .ask hr (fun _ ha => .done ⟨ha, rfl⟩) fun _ c a ha => (hnever c a ha).elim

end Program

/-! ## Programs that may fail -/

namespace Attempt
variable {α β γ δ : Type} (K : Pairing) (F : Failing)

/-- The programs go in tandem, and what they fail for is known. -/
def Tandem (rel : α → β → Prop) (p : Attempt α) (p' : Attempt β) : Prop :=
  Program.Tandem K (F.Results rel) F.Fails p.run p'.run

variable {K F} {rel : α → β → Prop} {rel' : γ → δ → Prop}

theorem tandem_pure {a : α} {b : β} (h : rel a b) : Tandem K F rel (pure a) (pure b) :=
  .done (.ok h)

theorem tandem_throw {failure : Failure} (h : F.together failure.cause) :
    Tandem K F rel (throw failure) (throw failure) := .done (.error h)

theorem gone_throw {failure : Failure} (h : F.alone failure.cause) :
    Program.Gone (F.Fails failure.cause) (throw failure : Attempt α).run := .done (.error h)

theorem Tandem.bind {p : Attempt α} {p' : Attempt β} {k : α → Attempt γ} {k' : β → Attempt δ}
    (h : Tandem K F rel p p') (hk : ∀ a b, rel a b → Tandem K F rel' (k a) (k' b)) :
    Tandem K F rel' (p >>= k) (p' >>= k') := by
  refine Program.Tandem.bind h ?_ ?_
  · rintro _ _ (hab | hcause)
    · exact hk _ _ hab
    · exact .done (.error hcause)
  · rintro _ c _ ⟨failure, rfl, hcause⟩
    exact .done ⟨failure, rfl, hcause⟩

theorem Tandem.mono {G : Failing} {rel' : α → β → Prop} {p : Attempt α} {p' : Attempt β}
    (h : Tandem K F rel p p') (hrel : ∀ a b, rel a b → rel' a b)
    (htogether : ∀ c, F.together c → G.together c) (halone : ∀ c, F.alone c → G.alone c) :
    Tandem K G rel' p p' :=
  Program.Tandem.mono h (fun _ _ hab => hab.mono hrel htogether) fun _ c _ h =>
    h.imp fun _ h => h.imp_right fun h => h.imp_right (halone c)

/-- A handler sees the same failure on both sides; where the first side fails alone, its handler
fails too. -/
theorem Tandem.tryCatch {G : Failing} {rel' : α → β → Prop} {p : Attempt α} {p' : Attempt β}
    {k : Failure → Attempt α} {k' : Failure → Attempt β} (h : Tandem K F rel p p')
    (hrel : ∀ a b, rel a b → rel' a b)
    (hk : ∀ failure, F.together failure.cause → Tandem K G rel' (k failure) (k' failure))
    (hgone : K.parts → ∀ failure, F.alone failure.cause →
      Program.Gone (G.Fails failure.cause) (k failure).run) :
    Tandem K G rel' (tryCatch p k) (tryCatch p' k') := by
  refine Program.Tandem.bind h ?_ ?_
  · rintro _ _ (hab | hcause)
    · exact .done (.ok (hrel _ _ hab))
    · exact hk _ hcause
  · rintro hparts _ _ ⟨failure, rfl, rfl, hcause⟩
    exact hgone hparts failure hcause

/-- To ask for what fits and to go on with the answer, or to fail with it. -/
theorem tandem_ask_bind {r : Request} {k : r.Answer → Attempt γ}
    {k' : (r.adjust K.adjust).Answer → Attempt δ} (hr : r.Fits K)
    (hk : ∀ a, r.Answered K a → Tandem K F rel' (k a) (k' (r.adjustAnswer K.adjust a)))
    (hgone : ∀ c a, r.FailsBy c a → (k a).run.Gone (F.Fails c)) :
    Tandem K F rel' (liftM (Program.request r) >>= k)
      (liftM (Program.request (r.adjust K.adjust)) >>= k') :=
  .ask hr hk fun _ => hgone

end Attempt

/-! ## Renderings -/

namespace Rendering
variable {α β γ δ : Type} (K : Pairing) (F : Failing)

/-- The ends of two renderings are related: their results, and their scopes. -/
def Ends (rel : α → β → Prop) (r : Except Failure α × Scope) (r' : Except Failure β × Scope) :
    Prop :=
  r.2.Fits K ∧ r'.2 = r.2.adjust K.adjust ∧ F.Results rel r.1 r'.1

/-- The first rendering fails alone, in a template of the pairing. -/
def Fails (c : Cause) (r : Except Failure α × Scope) : Prop :=
  F.Fails c r.1 ∧ K.options r.2.template.options

/-- The renderings go in tandem from every scope that fits. -/
def Tandem (rel : α → β → Prop) (a : Rendering α) (a' : Rendering β) : Prop :=
  ∀ s : Scope, s.Fits K →
    Program.Tandem K (Ends K F rel) (Fails K F) (a s) (a' (s.adjust K.adjust))

variable {K F} {rel : α → β → Prop} {rel' : γ → δ → Prop}

theorem tandem_pure {a : α} {b : β} (h : rel a b) : Tandem K F rel (pure a) (pure b) :=
  fun _ hs => .done ⟨hs, rfl, .ok h⟩

theorem tandem_throw {failure : Failure} (h : F.together failure.cause) :
    Tandem K F rel (throw failure) (throw failure) := fun _ hs => .done ⟨hs, rfl, .error h⟩

theorem gone_throw {failure : Failure} (h : F.alone failure.cause) {s : Scope}
    (hs : K.options s.template.options) :
    Program.Gone (Fails K F failure.cause) ((throw failure : Rendering α) s) :=
  .done ⟨.error h, hs⟩

/-- In one scope: what comes after goes in tandem from all. -/
theorem tandem_bind_at {a : Rendering α} {a' : Rendering β} {k : α → Rendering γ}
    {k' : β → Rendering δ} {s : Scope}
    (h : Program.Tandem K (Ends K F rel) (Fails K F) (a s) (a' (s.adjust K.adjust)))
    (hk : ∀ v v', rel v v' → Tandem K F rel' (k v) (k' v')) :
    Program.Tandem K (Ends K F rel') (Fails K F) ((a >>= k) s)
      ((a' >>= k') (s.adjust K.adjust)) := by
  refine Program.Tandem.bind h ?_ ?_
  · rintro ⟨r, s⟩ ⟨r', s'⟩ ⟨hs, hs', hr⟩
    obtain rfl : s' = s.adjust K.adjust := hs'
    cases hr with
    | ok hab => exact hk _ _ hab s hs
    | error hcause => exact .done ⟨hs, rfl, .error hcause⟩
  · rintro _ c ⟨r, s⟩ ⟨⟨failure, hr, hcause⟩, hs⟩
    obtain rfl : r = .error failure := hr
    exact .done ⟨⟨failure, rfl, hcause⟩, hs⟩

theorem Tandem.bind {a : Rendering α} {a' : Rendering β} {k : α → Rendering γ}
    {k' : β → Rendering δ} (h : Tandem K F rel a a')
    (hk : ∀ v v', rel v v' → Tandem K F rel' (k v) (k' v')) :
    Tandem K F rel' (a >>= k) (a' >>= k') := fun s hs => tandem_bind_at (h s hs) hk

theorem Tandem.mono {G : Failing} {rel' : α → β → Prop} {a : Rendering α} {a' : Rendering β}
    (h : Tandem K F rel a a') (hrel : ∀ v v', rel v v' → rel' v v')
    (htogether : ∀ c, F.together c → G.together c) (halone : ∀ c, F.alone c → G.alone c) :
    Tandem K G rel' a a' := fun s hs =>
  (h s hs).mono (fun _ _ hr => ⟨hr.1, hr.2.1, hr.2.2.mono hrel htogether⟩) fun _ c _ hr =>
    ⟨hr.1.imp fun _ h => h.imp_right fun h => h.imp_right (halone c), hr.2⟩

/-- Renderings that first look at their scopes. -/
theorem tandem_get_bind {k k' : Scope → Rendering γ} {rel' : γ → γ → Prop}
    (h : ∀ s : Scope, s.Fits K →
      Program.Tandem K (Ends K F rel') (Fails K F) (k s s)
        (k' (s.adjust K.adjust) (s.adjust K.adjust))) :
    Tandem K F rel' (get >>= k) (get >>= k') := h

theorem tandem_get : Tandem K F (fun s s' => s.Fits K ∧ s' = s.adjust K.adjust) get get :=
  fun _ hs => .done ⟨hs, rfl, .ok ⟨hs, rfl⟩⟩

theorem tandem_modify {change change' : Scope → Scope}
    (h : ∀ s, s.Fits K → (change s).Fits K ∧
      change' (s.adjust K.adjust) = (change s).adjust K.adjust) :
    Tandem K F Eq (modify change) (modify change') := fun s hs =>
  .done ⟨(h s hs).1, (h s hs).2, .ok rfl⟩

theorem tandem_settle {r : Except Failure α} {r' : Except Failure β} (h : F.Results rel r r') :
    Tandem K F rel (settle r) (settle r') := fun _ hs => .done ⟨hs, rfl, h⟩

/-- To ask for what fits and to go on with the answer, or to fail with it. -/
theorem tandem_ask_bind {r : Request} {k : r.Answer → Rendering γ}
    {k' : (r.adjust K.adjust).Answer → Rendering δ} (hr : r.Fits K)
    (hk : ∀ a, r.Answered K a → Tandem K F rel' (k a) (k' (r.adjustAnswer K.adjust a)))
    (hgone : ∀ c a (s : Scope), r.FailsBy c a → K.options s.template.options →
      (k a s).Gone (Fails K F c)) :
    Tandem K F rel' (ask r >>= k) (ask (r.adjust K.adjust) >>= k') := fun s hs =>
  .ask hr (fun a ha => hk a ha s hs) fun _ c a ha => hgone c a s ha hs.template.1

/-- To ask for what fits, where no other program is run for the answer. -/
theorem tandem_ask {r : Request} (hr : r.Fits K) (hnever : ∀ c a, ¬ r.FailsBy c a) :
    Tandem K F (fun a b => r.Answered K a ∧ b = r.adjustAnswer K.adjust a) (ask r)
      (ask (r.adjust K.adjust)) := fun _ hs =>
  .ask hr (fun _ ha => .done ⟨hs, rfl, .ok ⟨ha, rfl⟩⟩) fun _ c a ha => (hnever c a ha).elim

theorem tandem_lift {p : Program α} {p' : Program β} {fails : Cause → α → Prop}
    (h : Program.Tandem K rel fails p p') (hnever : ∀ c a, ¬ fails c a) :
    Tandem K F rel (lift p) (lift p') := fun _ hs =>
  h.bind (fun _ _ hab => .done ⟨hs, rfl, .ok hab⟩) fun _ c a ha => (hnever c a ha).elim

theorem tandem_ofAttempt {p : Attempt α} {p' : Attempt β} (h : Attempt.Tandem K F rel p p') :
    Tandem K F rel (ofAttempt p) (ofAttempt p') := fun _ hs =>
  Program.Tandem.bind h (fun _ _ hab => .done ⟨hs, rfl, hab⟩) fun _ _ _ ha =>
    .done ⟨ha, hs.template.1⟩

/-- What comes after an attempt sees the same result on both sides; where the first side has failed
alone, it fails too. -/
theorem Tandem.attempt_bind {G : Failing} {a : Rendering α} {a' : Rendering β}
    {k : Except Failure α → Rendering γ} {k' : Except Failure β → Rendering δ}
    (h : Tandem K F rel a a') (hk : ∀ r r', F.Results rel r r' → Tandem K G rel' (k r) (k' r'))
    (hgone : K.parts → ∀ failure (s : Scope), F.alone failure.cause →
      K.options s.template.options → (k (.error failure) s).Gone (Fails K G failure.cause)) :
    Tandem K G rel' (attempt a >>= k) (attempt a' >>= k') := by
  intro s hs
  -- An attempt does not fail itself: a failure is its result, on the first side alone or on both.
  have hattempt : Program.Tandem K
      (fun r r' => r.2.Fits K ∧ r'.2 = r.2.adjust K.adjust ∧ ∃ v v', r.1 = .ok v ∧ r'.1 = .ok v' ∧
        F.Results rel v v')
      (fun c r => ∃ failure, r.1 = .ok (.error failure) ∧ failure.cause = c ∧ F.alone c ∧
        K.options r.2.template.options)
      (attempt a s) (attempt a' (s.adjust K.adjust)) := by
    refine Program.Tandem.bind (h s hs) ?_ ?_
    · rintro ⟨r, s⟩ ⟨r', s'⟩ ⟨hs, hs', hr⟩
      exact .done ⟨hs, hs', r, r', rfl, rfl, hr⟩
    · rintro _ c ⟨r, s⟩ ⟨⟨failure, hr, hcause⟩, hs⟩
      obtain rfl : r = .error failure := hr
      exact .done ⟨failure, rfl, hcause.1, hcause.2, hs⟩
  refine Program.Tandem.bind hattempt ?_ ?_
  · rintro ⟨_, s⟩ ⟨_, s'⟩ ⟨hs, hs', r, r', hv, hv', hr⟩
    obtain rfl : s' = s.adjust K.adjust := hs'
    cases hv
    cases hv'
    exact hk r r' hr s hs
  · rintro hparts _ ⟨_, s⟩ ⟨failure, hv, rfl, halone, hs⟩
    cases hv
    exact hgone hparts failure s halone hs

/-- The result of a rendering that starts in a scope that fits. -/
theorem tandem_resultIn {a : Rendering α} {a' : Rendering β} (h : Tandem K F rel a a') {s : Scope}
    (hs : s.Fits K) :
    Attempt.Tandem K F rel (resultIn s a) (resultIn (s.adjust K.adjust) a') :=
  Program.Tandem.bind (h s hs) (fun _ _ hr => .done hr.2.2) fun _ _ _ hr => .done hr.1

end Rendering
end Stencil
