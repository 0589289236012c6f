import Stencil.Proofs.Engine.Traces
import Stencil.Proofs.Settings.Builtins

/-!
# Runs in parallel

Programs in tandem make runs in parallel: the same events and the same end, up to settings, or the
first run fails where the second goes on (`Environment.run_parallel`).  The proof is an induction on
the number of levels: one level deeper the answers are in parallel, and so are the programs that are
run for them.

What is known of the host is in `Environment.Hosts` and `Environment.Heeds`: its own extensions are
handed nothing that comes from a template, and then have nothing to ask of renders.
-/
namespace Stencil

/-! ## The host -/

/-- What an extension may ask for that has been handed nothing of a template: fresh identities, the
journal, and time. -/
def Contract.aside (waits : Prop) : Contract where
  asks
    | .fresh | .note _ => True
    | .wait => waits
    | _ => False
  answers _ _ := True
  scopes _ := True

namespace Environment
variable (env : Environment)

/-- What is known of the extensions of a host. Each is built in, or it is the host's own and knows
nothing of templates: if it is handed nothing of one, it may take its time, and it makes values that
have nothing of one or fails for one of the causes. -/
structure Extensions (hosts waits : Prop) (causes : Cause → Prop) : Prop where
  filters : ∀ name f, env.filters.find? name = some f → Filter.builtins.find? name = some f ∨
    hosts ∧ ∀ input args, input.Foreign → (∀ v ∈ args, v.Foreign) →
      (f input args).run.Meets (.aside waits) (Yields causes Value.Foreign)
  tests : ∀ name f, env.tests.find? name = some f → Test.builtins.find? name = some f ∨
    hosts ∧ ∀ input args, input.Foreign → (∀ v ∈ args, v.Foreign) →
      (f input args).run.Meets (.aside waits) (Yields causes fun _ => True)
  functions : ∀ name f, env.functions.find? name = some f → hosts ∧
    ∀ args, (∀ v ∈ args, v.Foreign) →
      (f args).run.Meets (.aside waits) (Yields causes Value.Foreign)
  callables : hosts → ∀ identity receiver args, (∀ v ∈ receiver, v.Foreign) →
    (∀ v ∈ args, v.Foreign) →
      (env.callables identity receiver args).run.Meets (.aside waits) (Yields causes Value.Foreign)

/-- What is known of a host: its extensions, its loader and its cache. -/
structure Hosts (K : Pairing) : Prop where
  extensions : env.Extensions K.hosts K.waits K.cause
  loader : ∀ locator, (env.load locator).run.Meets (.aside K.waits) (K.Result K.Source)
  cached : ∀ entries locator, K.cache entries →
    K.Result (fun tree => ∀ found ∈ tree, K.Nodes found.nodes) (env.cachedTree entries locator)
  cacheTree : ∀ entries locator tree, K.cache entries → K.Nodes tree.nodes →
    K.Result K.cache (env.cacheTree entries locator tree)

/-- The request hands no function or macro of a template to an extension of the host's own. -/
def Heeds : Request → Prop
  | .filter name input args =>
    env.filters.find? name = Filter.builtins.find? name ∨ input.Foreign ∧ ∀ v ∈ args, v.Foreign
  | .test name input args =>
    env.tests.find? name = Test.builtins.find? name ∨ input.Foreign ∧ ∀ v ∈ args, v.Foreign
  | .function name args => env.functions.find? name = none ∨ ∀ v ∈ args, v.Foreign
  | .invoke (.hostFunction _) receiver args =>
    (∀ v ∈ receiver, v.Foreign) ∧ ∀ v ∈ args, v.Foreign
  | _ => True

/-- The request is a call of what the host itself provides. -/
def CallsHost : Request → Prop
  | .filter name _ _ => env.filters.find? name ≠ Filter.builtins.find? name
  | .test name _ _ => env.tests.find? name ≠ Test.builtins.find? name
  | .function name _ => env.functions.find? name ≠ none
  | .invoke (.hostFunction _) _ _ | .load _ | .cached _ | .writeCache .. => True
  | _ => False

variable {env} (f : Options → Options)

theorem callsHost_adjust (r : Request) : env.CallsHost (r.adjust f) ↔ env.CallsHost r := by
  cases r with
  | invoke callee receiver args => cases callee <;> exact Iff.rfl
  | _ => exact Iff.rfl

/-- A call of the host that hands it nothing of a template is the same under all settings. -/
theorem Heeds.adjust {r : Request} (h : env.Heeds r) (hcalls : env.CallsHost r) :
    r.adjust f = r := by
  cases r with
  | filter name input args =>
    obtain ⟨hinput, hargs⟩ := h.resolve_left hcalls
    rw [Request.adjust, Value.Foreign.adjust hinput, Value.map_adjust_foreign hargs]
  | test name input args =>
    obtain ⟨hinput, hargs⟩ := h.resolve_left hcalls
    rw [Request.adjust, Value.Foreign.adjust hinput, Value.map_adjust_foreign hargs]
  | function name args =>
    rw [Request.adjust, Value.map_adjust_foreign (h.resolve_left hcalls)]
  | invoke callee receiver args =>
    cases callee with
    | hostFunction identity =>
      obtain ⟨hreceiver, hargs⟩ := h
      rw [Request.adjust, Value.map_adjust_foreign hargs, Value.optionMap_adjust_foreign hreceiver]
      rfl
    | _ => exact hcalls.elim
  | load locator | cached locator | writeCache locator tree => rfl
  | _ => exact hcalls.elim

open Classical in
/-- The calls of the host among requests that hand it nothing of a template are the same, in the
same order, under all settings. -/
theorem filter_callsHost_adjust {events : List Request} (h : ∀ r ∈ events, env.Heeds r) :
    (events.map (Request.adjust f)).filter (env.CallsHost ·)
      = events.filter (env.CallsHost ·) := by
  have hsame : (fun r => decide (env.CallsHost r)) ∘ Request.adjust f
      = fun r => decide (env.CallsHost r) :=
    funext fun r => decide_eq_decide.mpr (callsHost_adjust f r)
  rw [List.filter_map, hsame]
  refine (List.map_congr_left fun r hr => ?_).trans (List.map_id' _)
  obtain ⟨hmem, hcalls⟩ := List.mem_filter.mp hr
  exact (h r hmem).adjust f (of_decide_eq_true hcalls)

end Environment

/-! ## Parallel runs -/

section
variable (K : Pairing) {α β : Type}

/-- The runs have the same events and the same end, up to settings; or the first one has failed, and
the second one has gone on. -/
inductive Parallel (rel : α → β → Prop) (fails : Cause → α → Prop) :
    List Request → Outcome α → List Request → Outcome β → Prop
  | done {events : List Request} {a : α} {b : β} {w : World} (h : rel a b) (hw : w.Fits K) :
    Parallel rel fails events (.done a w) (events.map (Request.adjust K.adjust))
      (.done b (w.adjust K.adjust))
  | pending {events : List Request} {w : World} (hwaits : K.waits) (hw : w.Fits K) :
    Parallel rel fails events (.pending w) (events.map (Request.adjust K.adjust))
      (.pending (w.adjust K.adjust))
  | tooDeep {events : List Request} :
    Parallel rel fails events .tooDeep (events.map (Request.adjust K.adjust)) .tooDeep
  | part {events events' : List Request} {a : α} {w : World} {o : Outcome β} {c : Cause}
    (hparts : K.parts) (h : fails c a) (ho : o.All fun w => K.lost c w.reports) :
    Parallel rel fails events (.done a w) events' o

variable {K} {rel : α → β → Prop} {fails : Cause → α → Prop}

theorem Parallel.prepend {events events' : List Request} {o : Outcome α} {o' : Outcome β}
    (h : Parallel K rel fails events o events' o') (before : List Request) :
    Parallel K rel fails (before ++ events) o
      (before.map (Request.adjust K.adjust) ++ events') o' := by
  cases h with
  | done h hw =>
    rw [← List.map_append]
    exact .done h hw
  | pending hwaits hw =>
    rw [← List.map_append]
    exact .pending hwaits hw
  | tooDeep =>
    rw [← List.map_append]
    exact .tooDeep
  | part hparts h ho => exact .part hparts h ho

theorem Parallel.map {γ δ : Type} {rel' : γ → δ → Prop} {fails' : Cause → γ → Prop}
    {events events' : List Request} {o : Outcome α} {o' : Outcome β}
    (h : Parallel K rel fails events o events' o') {f : α → γ} {g : β → δ}
    (hrel : ∀ a b, rel a b → rel' (f a) (g b)) (hfails : ∀ c a, fails c a → fails' c (f a)) :
    Parallel K rel' fails' events (o.map f) events' (o'.map g) := by
  cases h with
  | done h hw => exact .done (hrel _ _ h) hw
  | pending hwaits hw => exact .pending hwaits hw
  | tooDeep => exact .tooDeep
  | part hparts h ho => exact .part hparts (hfails _ _ h) (ho.map g)

/-- If the first run has not failed alone, then the second one has come to the same. -/
theorem Parallel.of_done {events events' : List Request} {a : α} {w : World} {o' : Outcome β}
    (h : Parallel K rel fails events (.done a w) events' o') (hnever : ∀ c, ¬ fails c a) :
    w.Fits K ∧ events' = events.map (Request.adjust K.adjust) ∧
      ∃ b, rel a b ∧ o' = .done b (w.adjust K.adjust) := by
  cases h with
  | done hab hw => exact ⟨hw, rfl, _, hab, rfl⟩
  | part _ hfails => exact absurd hfails (hnever _)

/-- An answer that fits, and the same with the other settings. -/
def Request.Answers (K : Pairing) (r : Request) (a : r.Answer) (b : (r.adjust K.adjust).Answer) :
    Prop :=
  r.Answered K a ∧ b = r.adjustAnswer K.adjust a

/-! ## Answers on the spot -/

theorem World.Fits.modifyLinks {w : World} (hw : w.Fits K) {t : Template} {change : Links → Links}
    (h : ∀ l : Links, l.Fits K → (change l).Fits K) : (w.modifyLinks t change).Fits K := by
  refine { hw with links := fun u => ?_ }
  rw [linksOf_modifyLinks]
  split
  · exact h _ (hw.links u)
  · exact hw.links u

namespace Environment
variable {env : Environment} (hosts : env.Hosts K) (patience : Patience)
include hosts

omit hosts in
/-- To change the links of a template on both sides. -/
theorem parallel_modifyLinks (r : Request) {a : r.Answer} {b : (r.adjust K.adjust).Answer}
    (hab : r.Answers K a b) {w : World} (hw : w.Fits K) (t : Template)
    (change change' : Links → Links) (hfits : ∀ l : Links, l.Fits K → (change l).Fits K)
    (hadjust : ∀ l : Links, change' (l.adjust K.adjust) = (change l).adjust K.adjust) :
    Parallel K (r.Answers K) (r.FailsBy ·) [] (.done a (w.modifyLinks t change)) []
      (.done b ((w.adjust K.adjust).modifyLinks (t.adjust K.adjust) change')) := by
  rw [World.modifyLinks_adjust K.adjust hadjust]
  exact .done hab (hw.modifyLinks hfits)

omit hosts in
theorem errand?_adjust_eq_none {r : Request} (h : env.errand? r = none) :
    env.errand? (r.adjust K.adjust) = none := by
  cases r with
  | function name args => exact Option.map_eq_none_iff.mpr (Option.map_eq_none_iff.mp h)
  | load | filter | test | invoke | findBlock | inheritedBlock | renderBlock | render
  | mergeImports => cases h
  | _ => rfl

/-- What is answered on the spot. -/
theorem answer_onTheSpot_parallel (depth : Nat) {r : Request} (hr : r.Fits K)
    (he : env.errand? r = none) {w : World} (hw : w.Fits K) :
    Parallel K (r.Answers K) (r.FailsBy ·) [] (env.answer patience depth r w) []
      (env.answer patience depth (r.adjust K.adjust) (w.adjust K.adjust)) := by
  rw [env.answer_onTheSpot patience depth he,
    env.answer_onTheSpot patience depth (errand?_adjust_eq_none he)]
  cases r with
  | fresh => exact .done ⟨trivial, rfl⟩ ⟨hw.links, hw.store, hw.cache, hw.reports⟩
  | wait =>
    cases patience with
    | immediate => exact .pending hr ⟨hw.links, hw.store, hw.cache, hw.reports⟩
    | patient => exact .done ⟨trivial, rfl⟩ ⟨hw.links, hw.store, hw.cache, hw.reports⟩
  | note line => exact .done ⟨trivial, rfl⟩ ⟨hw.links, hw.store, hw.cache, hw.reports⟩
  | report said =>
    exact .done ⟨trivial, rfl⟩
      ⟨hw.links, hw.store, hw.cache, List.forall_mem_cons.mpr ⟨hr, hw.reports⟩⟩
  | links t => exact .done ⟨hw.links t, World.linksOf_adjust K.adjust w t⟩ hw
  | setParent t parent =>
    refine parallel_modifyLinks (.setParent t parent) ⟨trivial, rfl⟩ hw t
      (fun l => { l with parent := some parent }) _ (fun l hl => ⟨hl.imported, ?_⟩) fun l => rfl
    rintro _ ⟨⟩
    exact hr.2
  | claimImports t =>
    have hclaim := parallel_modifyLinks (.claimImports t) (a := true) (b := true) ⟨trivial, rfl⟩ hw
      t (fun l => { l with claimed := true }) (fun l => { l with claimed := true })
      (fun l hl => ⟨hl.imported, hl.parent⟩) fun l => rfl
    show Parallel K _ _ [] (if w.isUnresolved t then _ else _) []
      (if (w.adjust K.adjust).isUnresolved (t.adjust K.adjust) then _ else _)
    rw [World.isUnresolved_adjust]
    cases w.isUnresolved t with
    | true => exact hclaim
    | false => exact .done (w := w) ⟨trivial, rfl⟩ hw
  | releaseImports t =>
    exact parallel_modifyLinks (.releaseImports t) ⟨trivial, rfl⟩ hw t
      (fun l => { l with claimed := false }) _ (fun l hl => ⟨hl.imported, hl.parent⟩) fun l => rfl
  | importBlock t name b =>
    refine parallel_modifyLinks (.importBlock t name b) ⟨trivial, rfl⟩ hw t
      (fun l => { l with imported := l.imported.insert name b }) _
      (fun l hl => ⟨hl.imported.insert name hr.2, hl.parent⟩) fun l => ?_
    rw [Links.adjust, Links.adjust, Dict.mapValues_insert]
  | stored name =>
    refine .done ⟨?_, Dict.find?_mapValues _ w.store name⟩ hw
    exact fun found hfound => hw.store.find? hfound
  | store t =>
    show Parallel K _ _ [] (.done () (w.storeTemplate t)) []
      (.done () ((w.adjust K.adjust).storeTemplate (t.adjust K.adjust)))
    rw [World.storeTemplate_adjust]
    refine .done ⟨trivial, rfl⟩ ?_
    unfold World.storeTemplate
    split
    · exact { hw with store := hw.store.insert _ hr }
    · exact hw
  | cached locator => exact .done ⟨hosts.cached w.cache locator hw.cache, rfl⟩ hw
  | writeCache locator tree =>
    have hcache := hosts.cacheTree w.cache locator tree hw.cache hr
    have hsame : (w.adjust K.adjust).cache = w.cache := rfl
    show Parallel K _ _ [] (env.answer patience 0 (.writeCache locator tree) w) []
      (env.answer patience 0 (.writeCache locator tree) (w.adjust K.adjust))
    rw [env.answer_writeCache, env.answer_writeCache, hsame]
    revert hcache
    cases env.cacheTree w.cache locator tree with
    | ok cache =>
      exact fun hcache =>
        .done (w := { w with cache }) ⟨trivial, rfl⟩ ⟨hw.links, hw.store, hcache, hw.reports⟩
    | error failure => exact fun hcause => .done ⟨hcause, rfl⟩ hw
  | function name args =>
    have hf : env.functions.find? name = none := Option.map_eq_none_iff.mp he
    show Parallel K _ _ [] (env.answer patience 0 (.function name args) w) []
      (env.answer patience 0 (.function name (args.map (Value.adjust K.adjust)))
        (w.adjust K.adjust))
    rw [env.answer_function_none patience 0 hf, env.answer_function_none patience 0 hf]
    refine .done ⟨?_, rfl⟩ hw
    rintro _ ⟨⟩
  | load | filter | test | invoke | findBlock | inheritedBlock | renderBlock | render
  | mergeImports => cases he

/-! ## Answers by programs -/

omit hosts in
theorem tandem_aside {α : Type} {post : α → Prop} {p : Program α}
    (h : p.Meets (.aside K.waits) post) {fails : Cause → α → Prop} :
    Program.Tandem K (fun a b => post a ∧ b = a) fails p p := by
  induction p with
  | done a => exact .done ⟨h, rfl⟩
  | ask r next ih =>
    obtain ⟨hr, hnext⟩ := h
    cases r with
    | fresh =>
      exact .ask (r := .fresh) trivial (fun a _ => ih a (hnext a trivial)) fun _ _ _ => False.elim
    | note line =>
      exact .ask (r := .note line) trivial (fun a _ => ih a (hnext a trivial))
        fun _ _ _ => False.elim
    | wait => exact .ask (r := .wait) hr (fun a _ => ih a (hnext a trivial)) fun _ _ _ => False.elim
    | _ => exact hr.elim

omit hosts in
/-- What an extension of the host's own makes is the same under all settings. -/
theorem tandem_foreign (hhosts : K.hosts) {p : Attempt Value}
    (h : p.run.Meets (.aside K.waits) (K.Result Value.Foreign)) :
    Attempt.Tandem K K.failing K.values p p := by
  refine (tandem_aside h).mono ?_ fun _ _ _ => id
  rintro (failure | v) _ ⟨hr, rfl⟩
  · exact .error hr
  · exact .ok ⟨hr.fits hhosts, (Value.Foreign.adjust hr K.adjust).symm⟩

end Environment

/-- The programs go in tandem, and their results stand for the same answer. -/
inductive Errand.Tandem (K : Pairing) {r : Request} (e : Errand r)
    (e' : Errand (r.adjust K.adjust)) : Prop
  | intro {rel : e.Result → e'.Result → Prop} {fails : Cause → e.Result → Prop}
    (programs : Program.Tandem K rel fails e.program e'.program)
    (answers : ∀ a b, rel a b → r.Answers K (e.answer a) (e'.answer b))
    (failsBy : ∀ c a, fails c a → r.FailsBy c (e.answer a))

namespace Failing
variable {F : Failing} {α : Type}

theorem Results.result {fits : α → Prop} {f : α → α} {r r' : Except Failure α}
    (h : F.Results (fun a b => fits a ∧ b = f a) r r') (htogether : ∀ c, F.together c → K.cause c) :
    K.Result fits r ∧ r' = r.map f := by
  cases h with
  | ok hab =>
    obtain ⟨ha, rfl⟩ := hab
    exact ⟨ha, rfl⟩
  | error hcause => exact ⟨htogether _ hcause, rfl⟩

theorem Results.result_eq {r r' : Except Failure α} (h : F.Results Eq r r')
    (htogether : ∀ c, F.together c → K.cause c) : K.Result (fun _ => True) r ∧ r' = r := by
  cases h with
  | ok hab =>
    subst hab
    exact ⟨trivial, rfl⟩
  | error hcause => exact ⟨htogether _ hcause, rfl⟩

theorem Fails.exists {c : Cause} {r : Except Failure α} (h : F.Fails c r) :
    ∃ failure, r = .error failure ∧ failure.cause = c :=
  h.imp fun _ h => ⟨h.1, h.2.1⟩

end Failing

namespace Environment
variable {env : Environment} (hosts : env.Hosts K)
include hosts

theorem tandem_filter {name : String} {input : Value} {args : List Value}
    (hr : (Request.filter name input args).Fits K)
    (hheeds : K.hosts → env.Heeds (.filter name input args)) :
    Attempt.Tandem K K.failing K.values (env.filter name input args)
      (env.filter name (input.adjust K.adjust) (args.map (Value.adjust K.adjust))) := by
  obtain ⟨hname, hinput, hargs⟩ := hr
  rw [filter, filter]
  cases hf : env.filters.find? name with
  | none => exact Attempt.tandem_throw (K.cause_of_ne _ (by nofun))
  | some f =>
    dsimp only
    have hbuiltin (h : Filter.builtins.find? name = some f) :
        Attempt.Tandem K K.failing K.values (f input args)
          (f (input.adjust K.adjust) (args.map (Value.adjust K.adjust))) :=
      Filter.tandem_builtin h hname ⟨hinput, rfl⟩ ⟨hargs, rfl⟩
    obtain h | ⟨hhosts, hforeign⟩ := hosts.extensions.filters name f hf
    · exact hbuiltin h
    · obtain h | ⟨hi, ha⟩ := hheeds hhosts
      · exact hbuiltin (h ▸ hf)
      · rw [Value.Foreign.adjust hi, Value.map_adjust_foreign ha]
        exact tandem_foreign hhosts (hforeign input args hi ha)

theorem tandem_test {name : String} {input : Value} {args : List Value}
    (hr : (Request.test name input args).Fits K)
    (hheeds : K.hosts → env.Heeds (.test name input args)) :
    Attempt.Tandem K K.failing Eq (env.test name input args)
      (env.test name (input.adjust K.adjust) (args.map (Value.adjust K.adjust))) := by
  rw [test, test]
  cases hf : env.tests.find? name with
  | none => exact Attempt.tandem_throw (K.cause_of_ne _ (by nofun))
  | some f =>
    dsimp only
    have hbuiltin (h : Test.builtins.find? name = some f) :
        Attempt.Tandem K K.failing Eq (f input args)
          (f (input.adjust K.adjust) (args.map (Value.adjust K.adjust))) :=
      Test.tandem_builtin h ⟨hr.1, rfl⟩ ⟨hr.2, rfl⟩
    obtain h | ⟨hhosts, hforeign⟩ := hosts.extensions.tests name f hf
    · exact hbuiltin h
    · obtain h | ⟨hi, ha⟩ := hheeds hhosts
      · exact hbuiltin (h ▸ hf)
      · rw [Value.Foreign.adjust hi, Value.map_adjust_foreign ha]
        refine (tandem_aside (hforeign input args hi ha)).mono ?_ fun _ _ _ h => h
        rintro (failure | hit) _ ⟨hcause, rfl⟩
        · exact .error hcause
        · exact .ok rfl

theorem tandem_invoke {callee : Value} {receiver : Option Value} {args : List Value}
    (hr : (Request.invoke callee receiver args).Fits K)
    (hheeds : K.hosts → env.Heeds (.invoke callee receiver args)) :
    Attempt.Tandem K K.failing K.values (env.invoke callee receiver args)
      (env.invoke (callee.adjust K.adjust) (receiver.map (Value.adjust K.adjust))
        (args.map (Value.adjust K.adjust))) := by
  obtain ⟨hcallee, -, hargs⟩ := hr
  have hcall := Value.tandem_call hcallee ⟨hargs, rfl⟩
  cases callee with
  | hostFunction identity =>
    have hhosts : K.hosts := hcallee
    obtain ⟨hreceiver, ha⟩ := hheeds hhosts
    rw [Value.optionMap_adjust_foreign hreceiver, Value.map_adjust_foreign ha]
    exact tandem_foreign hhosts
      (hosts.extensions.callables hhosts identity receiver args hreceiver ha)
  | _ => exact hcall

/-- A request that fits has a program that goes in tandem with that for the other settings. -/
theorem errand_tandem {r : Request} (hr : r.Fits K) (hheeds : K.hosts → env.Heeds r) {e : Errand r}
    (he : env.errand? r = some e) :
    ∃ e', env.errand? (r.adjust K.adjust) = some e' ∧ e.Tandem K e' := by
  cases r with
  | load locator =>
    cases he
    exact ⟨_, rfl, .intro (tandem_aside (hosts.loader locator)) (fun _ _ h => h)
      fun _ _ (h : False) => h⟩
  | filter name input args =>
    cases he
    exact ⟨_, rfl, .intro (tandem_filter hosts hr hheeds) (fun _ _ h => h.result fun _ h => h)
      fun _ _ h => h.exists⟩
  | test name input args =>
    cases he
    exact ⟨_, rfl, .intro (tandem_test hosts hr hheeds) (fun _ _ h => h.result_eq fun _ h => h)
      fun _ _ h => h.exists⟩
  | function name args =>
    obtain ⟨f, hf, rfl⟩ := Option.map_eq_some_iff.mp he
    obtain ⟨hhosts, hforeign⟩ := hosts.extensions.functions name f hf
    have ha : ∀ v ∈ args, v.Foreign := by
      obtain hnone | ha := hheeds hhosts
      · rw [hnone] at hf
        cases hf
      · exact ha
    have htandem : Attempt.Tandem K K.failing K.values (f args)
        (f (args.map (Value.adjust K.adjust))) := by
      rw [Value.map_adjust_foreign ha]
      exact tandem_foreign hhosts (hforeign args ha)
    refine ⟨_, congrArg (Option.map _) hf, .intro htandem (fun r r' h => ?_) fun c r h => ?_⟩
    · obtain ⟨hr, rfl⟩ := h.result fun _ h => h
      refine ⟨?_, rfl⟩
      rintro _ ⟨⟩
      exact hr
    · obtain ⟨failure, rfl, hcause⟩ := h.exists
      exact ⟨failure, rfl, hcause⟩
  | invoke callee receiver args =>
    cases he
    exact ⟨_, rfl, .intro (tandem_invoke hosts hr hheeds) (fun _ _ h => h.result fun _ h => h)
      fun _ _ h => h.exists⟩
  | findBlock t overrides name =>
    cases he
    exact ⟨_, rfl, .intro (Template.tandem_findBlock hr.1 hr.2 name) (fun _ _ h => h)
      fun _ _ => False.elim⟩
  | inheritedBlock t name =>
    cases he
    exact ⟨_, rfl, .intro (Template.tandem_inheritedBlock hr name) (fun _ _ h => h)
      fun _ _ => False.elim⟩
  | renderBlock b scope =>
    cases he
    exact ⟨_, rfl, .intro (Block.tandem_render hr.1 hr.2) (fun _ _ h => h) fun _ _ h => h⟩
  | render t parent c overrides =>
    cases he
    obtain ⟨ht, hparent, hc, hoverrides⟩ := hr
    refine ⟨_, rfl, .intro (Template.tandem_render ht hparent hc hoverrides) ?_
      fun _ _ h => h.exists⟩
    rintro r r' (⟨htext, rfl⟩ | ⟨hcause, htotal⟩)
    · exact ⟨⟨htext, fun _ => ⟨_, rfl⟩⟩, rfl⟩
    · exact ⟨⟨hcause, fun h => (htotal h).elim⟩, rfl⟩
  | mergeImports t c =>
    cases he
    exact ⟨_, rfl, .intro (Template.tandem_mergeImports hr.1 hr.2)
      (fun _ _ h => h.result_eq fun _ h => h) fun _ _ h => h.exists⟩
  | _ => cases he

/-! ## Whole runs -/

section
omit hosts
variable (env) (patience : Patience) (depth : Nat)

theorem run_gone {α : Type} {fails : α → Prop} {p : Program α} (h : p.Gone fails) (w : World) :
    ∃ a after, env.run patience depth p w = .done a after ∧ fails a := by
  induction h generalizing w with
  | done h => exact ⟨_, w, rfl, h⟩
  | @release t next _ ih =>
    have hanswer : env.answer patience depth (.releaseImports t) w = _ :=
      env.answer_onTheSpot patience depth rfl w
    rw [env.run_ask_done patience depth hanswer]
    exact ih _ _

theorem run_lost {β : Type} {c : Cause} (p : Program β) {w : World} (h : K.lost c w.reports) :
    (env.run patience depth p w).All fun after => K.lost c after.reports := by
  refine (env.run_reports patience depth p w).mono fun after hafter => ?_
  obtain ⟨more, hmore⟩ := hafter
  rw [← hmore]
  exact K.lost_append c w.reports more h

theorem run_ask_lost {β : Type} {c : Cause} {r : Request} (next : r.Answer → Program β) {w : World}
    (h : (env.answer patience depth r w).All fun after => K.lost c after.reports) :
    (env.run patience depth (.ask r next) w).All fun after => K.lost c after.reports := by
  cases ha : env.answer patience depth r w with
  | done a after =>
    rw [ha] at h
    rw [env.run_ask_done patience depth ha]
    exact env.run_lost patience depth (next a) h
  | pending after =>
    rw [ha] at h
    rw [env.run_ask_pending patience depth ha]
    exact h
  | tooDeep =>
    rw [env.run_ask_tooDeep patience depth ha]
    trivial

theorem run_astray {β : Type} {c : Cause} {p : Program β} (h : p.Astray K c) {w : World}
    (hreports : ∀ said ∈ w.reports, K.report said) :
    (env.run patience depth p w).All fun after => K.lost c after.reports := by
  obtain h | ⟨said, next, rfl, h⟩ := h
  · cases env.run patience depth p w with
    | done _ after | pending after => exact h after.reports
    | tooDeep => trivial
  · refine env.run_ask_lost patience depth next ?_
    rw [env.answer_onTheSpot patience depth rfl]
    exact h w.reports hreports

/-- What is done is done in parallel if that is so of the answers, one after the other. -/
theorem run_parallel_of_answers {α β : Type} {rel : α → β → Prop} {fails : Cause → α → Prop}
    (hanswers : ∀ r w, r.Fits K → w.Fits K →
      (K.hosts → env.Heeds r ∧ ∀ event ∈ env.inside patience depth r w, env.Heeds event) →
      Parallel K (r.Answers K) (r.FailsBy ·) (env.inside patience depth r w)
        (env.answer patience depth r w)
        (env.inside patience depth (r.adjust K.adjust) (w.adjust K.adjust))
        (env.answer patience depth (r.adjust K.adjust) (w.adjust K.adjust)))
    {p : Program α} {p' : Program β} (h : Program.Tandem K rel fails p p') {w : World}
    (hw : w.Fits K) (hheeds : K.hosts → ∀ event ∈ env.events patience depth p w, env.Heeds event) :
    Parallel K rel fails (env.events patience depth p w) (env.run patience depth p w)
      (env.events patience depth p' (w.adjust K.adjust))
      (env.run patience depth p' (w.adjust K.adjust)) := by
  -- The induction is on the programs.  It carries that the first state fits, and that the second
  -- one is the same up to settings.
  induction h generalizing w with
  | done h => exact .done h hw
  | @ask r next next' hr _ hgone ih =>
    have hasked := hanswers r w hr hw fun hhosts => by
      obtain ⟨more, hmore⟩ := env.events_ask patience depth next w
      have hheeds := hmore ▸ hheeds hhosts
      exact ⟨hheeds r List.mem_cons_self, fun event hevent =>
        hheeds event (List.mem_cons_of_mem r (List.mem_append_left more hevent))⟩
    generalize ho : env.answer patience depth r w = o at hasked
    generalize ho' : env.answer patience depth (r.adjust K.adjust) (w.adjust K.adjust) = o'
      at hasked
    generalize hinside' : env.inside patience depth (r.adjust K.adjust) (w.adjust K.adjust)
      = inside' at hasked
    cases hasked with
    | done hab hafter =>
      obtain ⟨ha, rfl⟩ := hab
      rw [env.events_ask_done patience depth ho] at hheeds
      rw [env.run_ask_done patience depth ho, env.run_ask_done patience depth ho',
        env.events_ask_done patience depth ho, env.events_ask_done patience depth ho', hinside']
      have hnext := ih _ ha hafter fun hhosts event hevent =>
        hheeds hhosts event (List.mem_cons_of_mem r (List.mem_append_right _ hevent))
      have hall := hnext.prepend (r :: env.inside patience depth r w)
      exact hall
    | pending hwaits hafter =>
      rw [env.run_ask_pending patience depth ho, env.run_ask_pending patience depth ho',
        env.events_ask_pending patience depth ho, env.events_ask_pending patience depth ho',
        hinside']
      exact (Parallel.pending hwaits hafter).prepend [r]
    | tooDeep =>
      rw [env.run_ask_tooDeep patience depth ho, env.run_ask_tooDeep patience depth ho',
        env.events_ask_tooDeep patience depth ho, env.events_ask_tooDeep patience depth ho',
        hinside']
      exact Parallel.tooDeep.prepend [r]
    | part hparts hfails hlost =>
      -- The program that is run for the answer has failed on the first side alone, so that the
      -- first side has only its end before it, while the second one goes on with anything.
      rw [env.run_ask_done patience depth ho]
      obtain ⟨a, after, hrun, ha⟩ := env.run_gone patience depth (hgone hparts _ _ hfails) _
      rw [hrun]
      exact .part hparts ha (env.run_ask_lost patience depth next' (ho' ▸ hlost))
  | part hparts hgone hastray =>
    obtain ⟨a, after, hrun, ha⟩ := env.run_gone patience depth hgone w
    rw [hrun]
    exact .part hparts ha (env.run_astray patience depth hastray hw.reports)

end

theorem answer_parallel (patience : Patience) (depth : Nat) (r : Request) (w : World)
    (hr : r.Fits K) (hw : w.Fits K)
    (hheeds : K.hosts → env.Heeds r ∧ ∀ event ∈ env.inside patience depth r w, env.Heeds event) :
    Parallel K (r.Answers K) (r.FailsBy ·) (env.inside patience depth r w)
      (env.answer patience depth r w)
      (env.inside patience depth (r.adjust K.adjust) (w.adjust K.adjust))
      (env.answer patience depth (r.adjust K.adjust) (w.adjust K.adjust)) := by
  induction depth generalizing r w with
  | zero =>
    cases he : env.errand? r with
    | none => exact answer_onTheSpot_parallel hosts patience 0 hr he hw
    | some e =>
      obtain ⟨e', he', -⟩ := errand_tandem hosts hr (fun hhosts => (hheeds hhosts).1) he
      rw [env.answer_errand_zero patience he, env.answer_errand_zero patience he']
      exact (.tooDeep : Parallel K _ _ [] _ ([].map _) _)
  | succ depth ih =>
    cases he : env.errand? r with
    | none =>
      rw [env.inside_onTheSpot patience (depth + 1) he,
        env.inside_onTheSpot patience (depth + 1) (errand?_adjust_eq_none he)]
      exact answer_onTheSpot_parallel hosts patience (depth + 1) hr he hw
    | some e =>
      obtain ⟨e', he', ⟨programs, answers, failsBy⟩⟩ :=
        errand_tandem hosts hr (fun hhosts => (hheeds hhosts).1) he
      -- What is run inside the answer is itself in tandem, and its answers are one level less deep.
      rw [env.inside_errand patience depth he] at hheeds
      rw [env.inside_errand patience depth he, env.inside_errand patience depth he',
        env.answer_errand_succ patience depth he, env.answer_errand_succ patience depth he']
      exact (env.run_parallel_of_answers patience depth ih programs hw
        fun hhosts => (hheeds hhosts).2).map answers failsBy

/-- **Programs in tandem make runs in parallel**, from states that are the same up to settings. -/
theorem run_parallel (patience : Patience) (depth : Nat) {α β : Type} {rel : α → β → Prop}
    {fails : Cause → α → Prop} {p : Program α} {p' : Program β}
    (h : Program.Tandem K rel fails p p') {w : World} (hw : w.Fits K)
    (hheeds : K.hosts → ∀ event ∈ env.events patience depth p w, env.Heeds event) :
    Parallel K rel fails (env.events patience depth p w) (env.run patience depth p w)
      (env.events patience depth p' (w.adjust K.adjust))
      (env.run patience depth p' (w.adjust K.adjust)) :=
  env.run_parallel_of_answers patience depth (answer_parallel hosts patience depth) h hw hheeds

end Environment

end
end Stencil
