import Stencil.Engine.Builtins
import Stencil.Proofs.Settings.Templates

/-!
# Extensions in tandem

The extensions that every environment has go in tandem whatever they are given.  Those of a host do
if they are given nothing that comes from a template: such an extension has nothing to ask of
renders, and what it makes holds no settings.
-/
namespace Stencil

/-! ## Built-in filters -/

namespace Filter
variable {K : Pairing} {input input' : Value} {args args' : List Value}

theorem tandem_raw (htext : ∀ s, K.text s) (hinput : K.values input input') :
    Attempt.Tandem K K.failing K.values (raw input args) (raw input' args') := by
  obtain ⟨hinput, rfl⟩ := hinput
  have hsafe (v : Value) : Attempt.Tandem K K.failing K.values (pure (.safe v.text))
      (pure (.safe (v.adjust K.adjust).text)) :=
    Attempt.tandem_pure ⟨htext _, by rw [Value.text_adjust]; rfl⟩
  cases input with
  | markup s safe => exact Attempt.tandem_pure ⟨hinput, rfl⟩
  | array identity items =>
    have h := hsafe (.array identity items)
    rw [Value.adjust_array] at h ⊢
    exact h
  | object identity entries =>
    have h := hsafe (.object identity entries)
    rw [Value.adjust_object] at h ⊢
    exact h
  | _ => exact hsafe _

theorem tandem_escape (hinput : K.values input input') (hargs : K.args args args') :
    Attempt.Tandem K K.failing K.values (escape input args) (escape input' args') := by
  obtain ⟨hinput, rfl⟩ := hinput
  obtain ⟨-, rfl⟩ := hargs
  cases args with
  | nil => exact Attempt.tandem_pure ⟨hinput.escaped .html, Value.escaped_adjust _ input .html⟩
  | cons v rest =>
    rw [List.map_cons, escape, escape, Value.text_adjust]
    cases Strategy.ofName? v.text with
    | none => exact Attempt.tandem_throw (K.cause_of_ne _ (by rintro ⟨⟩))
    | some strategy =>
      exact Attempt.tandem_pure ⟨hinput.escaped strategy, Value.escaped_adjust _ input strategy⟩

theorem tandem_arrow (name : String) (hargs : K.args args args') :
    Attempt.Tandem K K.failing K.values (liftM (arrow name args)) (liftM (arrow name args')) := by
  obtain ⟨hargs, rfl⟩ := hargs
  have hnone : Attempt.Tandem K K.failing K.values
      (throw (.runtime ("The \"" ++ name ++ "\" filter expects an arrow function")))
      (throw (.runtime ("The \"" ++ name ++ "\" filter expects an arrow function"))) :=
    Attempt.tandem_throw (K.cause_of_ne _ (by nofun))
  cases args with
  | nil => exact hnone
  | cons v rest =>
    have hv : v.Fits K := hargs v List.mem_cons_self
    cases v with
    | hostFunction identity => exact Attempt.tandem_pure ⟨hv, rfl⟩
    | lambda identity params body t c => exact Attempt.tandem_pure ⟨hv, rfl⟩
    | _ => exact hnone

theorem tandem_applyArrow {f f' : Value} (hf : K.values f f') {entries : List (Value × Value)}
    (hentries : ∀ entry ∈ entries, entry.1.Fits K ∧ entry.2.Fits K) :
    Attempt.Tandem K K.failing K.args (applyArrow f entries)
      (applyArrow f' (entries.map (Value.adjustPair K.adjust))) := by
  have hfrom {done done' : List Value} (hdone : K.args done done') :
      Attempt.Tandem K K.failing K.args
        (Attempt.sequenceFrom (fun entry => ExceptT.mk
          (Program.request (.invoke f none [entry.2, entry.1]))) done entries)
        (Attempt.sequenceFrom (fun entry => ExceptT.mk
          (Program.request (.invoke f' none [entry.2, entry.1]))) done'
          (entries.map (Value.adjustPair K.adjust))) := by
    obtain ⟨hf, rfl⟩ := hf
    induction entries generalizing done done' with
    | nil =>
      obtain ⟨hdone, rfl⟩ := hdone
      refine Attempt.tandem_pure ⟨fun v hv => hdone v (List.mem_reverse.mp hv), ?_⟩
      rw [List.map_reverse]
    | cons entry rest ih =>
      obtain ⟨⟨hkey, hvalue⟩, hrest⟩ := List.forall_mem_cons.mp hentries
      have hcall : K.Args [entry.2, entry.1] :=
        List.forall_mem_cons.mpr ⟨hvalue, List.forall_mem_cons.mpr ⟨hkey, List.forall_mem_nil _⟩⟩
      have hinvoke : Attempt.Tandem K K.failing K.values
          (ExceptT.mk (Program.request (.invoke f none [entry.2, entry.1])))
          (ExceptT.mk (Program.request (.invoke (f.adjust K.adjust) none
            [entry.2.adjust K.adjust, entry.1.adjust K.adjust]))) := by
        refine .ask (r := .invoke f none [entry.2, entry.1]) ⟨hf, nofun, hcall⟩ ?_ ?_
        · rintro (failure | v) hr
          · exact .done (.error hr)
          · exact .done (.ok ⟨hr, rfl⟩)
        · rintro - c _ ⟨failure, rfl, hcause⟩
          exact .done ⟨failure, rfl, hcause, trivial⟩
      exact hinvoke.bind fun v v' hv => ih hrest (Pairing.args_cons hv hdone)
  exact hfrom Pairing.args_nil

theorem tandem_collect (v : Value) {entries : List (Value × Value)}
    (hentries : ∀ entry ∈ entries, entry.1.Fits K ∧ entry.2.Fits K) :
    Attempt.Tandem K K.failing K.values (collect v entries)
      (collect (v.adjust K.adjust) (entries.map (Value.adjustPair K.adjust))) := by
  have hitems : K.Args (entries.map Prod.snd) := by
    intro v hv
    obtain ⟨entry, hentry, rfl⟩ := List.mem_map.mp hv
    exact (hentries entry hentry).2
  have hpairs : K.Variables (entries.map fun e => (e.1.text, e.2)) := by
    intro pair hpair
    obtain ⟨entry, hentry, rfl⟩ := List.mem_map.mp hpair
    exact (hentries entry hentry).2
  have harray (identity : Nat) : Attempt.Tandem K K.failing K.values
      (pure (.array identity (entries.map Prod.snd)))
      (pure (.array identity ((entries.map (Value.adjustPair K.adjust)).map Prod.snd))) := by
    refine Attempt.tandem_pure ⟨Value.Fits.array hitems identity, ?_⟩
    rw [Value.adjust_array, List.map_map, List.map_map]
    rfl
  have hobject (identity : Nat) : Attempt.Tandem K K.failing K.values
      (pure (.object identity (Dict.ofPairs (entries.map fun e => (e.1.text, e.2)))))
      (pure (.object identity (Dict.ofPairs
        ((entries.map (Value.adjustPair K.adjust)).map fun e => (e.1.text, e.2))))) := by
    refine Attempt.tandem_pure ⟨Value.Fits.object hpairs.ofPairs identity, ?_⟩
    rw [Value.adjust_object, Dict.mapValues_ofPairs, Dict.mapValues, List.map_map, List.map_map]
    refine congrArg (fun pairs => Value.object identity (Dict.ofPairs pairs))
      (List.map_congr_left fun entry _ => ?_)
    exact congrArg (·, entry.2.adjust K.adjust) (Value.text_adjust K.adjust entry.1)
  refine Attempt.tandem_ask_bind (r := .fresh) trivial (fun identity _ => ?_) fun _ _ => False.elim
  cases v with
  | object other members => exact hobject identity
  | _ => exact harray identity

theorem tandem_map (hinput : K.values input input') (hargs : K.args args args') :
    Attempt.Tandem K K.failing K.values (map input args) (map input' args') := by
  obtain ⟨hinput, rfl⟩ := hinput
  obtain ⟨hentries, hmap⟩ := hinput.entries
  refine (tandem_arrow "map" hargs).bind fun f f' hf => ?_
  dsimp only
  rw [hmap]
  refine (tandem_applyArrow hf hentries).bind ?_
  rintro results _ ⟨hresults, rfl⟩
  have hzip : ((input.entries?.getD []).map (Value.adjustPair K.adjust)).map Prod.fst
      = ((input.entries?.getD []).map Prod.fst).map (Value.adjust K.adjust) := by
    rw [List.map_map, List.map_map]
    rfl
  rw [hzip, List.zip_map]
  refine tandem_collect input fun entry hentry => ?_
  obtain ⟨hkey, hvalue⟩ := List.of_mem_zip hentry
  obtain ⟨other, hother, heq⟩ := List.mem_map.mp hkey
  exact ⟨heq ▸ (hentries other hother).1, hresults _ hvalue⟩

theorem tandem_select (hinput : K.values input input') (hargs : K.args args args') :
    Attempt.Tandem K K.failing K.values (select input args) (select input' args') := by
  obtain ⟨hinput, rfl⟩ := hinput
  obtain ⟨hentries, hmap⟩ := hinput.entries
  refine (tandem_arrow "filter" hargs).bind fun f f' hf => ?_
  dsimp only
  rw [hmap]
  refine (tandem_applyArrow hf hentries).bind ?_
  rintro verdicts _ ⟨-, rfl⟩
  let pick (pair : (Value × Value) × Value) : Option (Value × Value) :=
    if pair.2.isTruthy then some pair.1 else none
  have hpick : (((input.entries?.getD []).map (Value.adjustPair K.adjust)).zip
      (verdicts.map (Value.adjust K.adjust))).filterMap pick
        = (((input.entries?.getD []).zip verdicts).filterMap pick).map
          (Value.adjustPair K.adjust) := by
    rw [List.zip_map, List.filterMap_map, List.map_filterMap]
    refine congrArg (List.filterMap · _) (funext fun pair => ?_)
    show (if (pair.2.adjust K.adjust).isTruthy then some (Value.adjustPair K.adjust pair.1)
        else none)
      = (if pair.2.isTruthy then some pair.1 else none).map (Value.adjustPair K.adjust)
    rw [Value.isTruthy_adjust]
    split <;> rfl
  show Attempt.Tandem K K.failing K.values
    (collect input (((input.entries?.getD []).zip verdicts).filterMap pick))
    (collect (input.adjust K.adjust) ((((input.entries?.getD []).map
      (Value.adjustPair K.adjust)).zip (verdicts.map (Value.adjust K.adjust))).filterMap pick))
  rw [hpick]
  refine tandem_collect input fun entry hentry => ?_
  obtain ⟨pair, hpair, hsome⟩ := List.mem_filterMap.mp hentry
  have hsame : pair.1 = entry := by
    dsimp only [pick] at hsome
    split at hsome
    · exact Option.some.inj hsome
    · cases hsome
  exact hsame ▸ hentries pair.1 (List.of_mem_zip hpair).1

theorem tandem_builtin {name : String} {f : Filter} (h : builtins.find? name = some f)
    (hname : name = "raw" → ∀ s, K.text s) (hinput : K.values input input')
    (hargs : K.args args args') :
    Attempt.Tandem K K.failing K.values (f input args) (f input' args') := by
  have hmem := Dict.mem_of_find? h
  simp only [builtins, List.mem_cons, Prod.mk.injEq, List.not_mem_nil, or_false] at hmem
  rcases hmem with ⟨heq, rfl⟩ | ⟨-, rfl⟩ | ⟨-, rfl⟩ | ⟨-, rfl⟩ | ⟨-, rfl⟩
  · exact tandem_raw (hname heq) hinput
  · exact tandem_escape hinput hargs
  · exact tandem_escape hinput hargs
  · exact tandem_map hinput hargs
  · exact tandem_select hinput hargs

end Filter

/-! ## Built-in tests -/

namespace Test
variable {K : Pairing}

/-- A built-in test is a question whose answer has nothing to do with settings. -/
theorem builtin_adjust {name : String} {f : Test} (h : builtins.find? name = some f) :
    ∃ p, f = ofPredicate p ∧
      ∀ g v args, p (Value.adjust g v) (args.map (Value.adjust g)) = p v args := by
  have hmem := Dict.mem_of_find? h
  simp only [builtins, List.mem_cons, Prod.mk.injEq, List.not_mem_nil, or_false] at hmem
  rcases hmem with ⟨-, rfl⟩ | ⟨-, rfl⟩ | ⟨-, rfl⟩ | ⟨-, rfl⟩ | ⟨-, rfl⟩ | ⟨-, rfl⟩ | ⟨-, rfl⟩ |
    ⟨-, rfl⟩ | ⟨-, rfl⟩
  · exact ⟨_, rfl, fun g v args => by rw [Value.isUndefined_adjust]⟩
  · exact ⟨_, rfl, fun g v args => Value.isNone_adjust g v⟩
  · exact ⟨_, rfl, fun g v args => Value.isNone_adjust g v⟩
  · exact ⟨_, rfl, fun g v args => Value.isEmpty_adjust g v⟩
  · exact ⟨_, rfl, fun g v args => Value.isContainer_adjust g v⟩
  · exact ⟨_, rfl, fun g v args => by rw [Value.toNumber_adjust]⟩
  · exact ⟨_, rfl, fun g v args => by rw [Value.toNumber_adjust]⟩
  · refine ⟨_, rfl, fun g v args => ?_⟩
    rw [isDivisible, isDivisible, Value.toNumber_adjust]
    cases args with
    | nil => rfl
    | cons w rest =>
      rw [List.map_cons, List.head?_cons, List.head?_cons, Option.elim_some, Option.elim_some,
        Value.toNumber_adjust]
  · refine ⟨_, rfl, fun g v args => ?_⟩
    cases args with
    | nil => exact Value.strictEq_adjust g v .undefined
    | cons w rest => exact Value.strictEq_adjust g v w

theorem tandem_builtin {name : String} {f : Test} (h : builtins.find? name = some f)
    {input input' : Value} {args args' : List Value} (hinput : K.values input input')
    (hargs : K.args args args') :
    Attempt.Tandem K K.failing Eq (f input args) (f input' args') := by
  obtain ⟨p, rfl, hp⟩ := builtin_adjust h
  obtain ⟨-, rfl⟩ := hinput
  obtain ⟨-, rfl⟩ := hargs
  exact Attempt.tandem_pure (hp K.adjust input args).symm

end Test
end Stencil
