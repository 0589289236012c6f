import Stencil.Proofs.Settings.Functions

/-!
# Expressions in tandem

An expression goes in tandem with itself from related stacks.  The stack operations come first: each
takes related stacks to related results, or fails the same on both sides.
-/
namespace Stencil.Expr
open Rendering

/-! ## Stacks -/

/-- The item with other settings of the templates in it. -/
def Item.adjust (f : Options → Options) : Item → Item
  | .value v => .value (v.adjust f)
  | item => item

/-- A value on the stack fits. -/
def Item.Fits (K : Pairing) : Item → Prop
  | .value v => v.Fits K
  | _ => True

/-- A stack of items that fit, and the same with the other settings. -/
def sameStacks (K : Pairing) (s s' : Stack) : Prop :=
  (∀ item ∈ s, item.Fits K) ∧ s' = s.map (Item.adjust K.adjust)

section
variable {K : Pairing}

theorem stacks_nil : sameStacks K [] [] := ⟨List.forall_mem_nil _, rfl⟩

theorem stacks_cons (item : Item) (h : item.Fits K) {s s' : Stack} (hs : sameStacks K s s') :
    sameStacks K (item :: s) (item.adjust K.adjust :: s') := by
  obtain ⟨hs, rfl⟩ := hs
  exact ⟨List.forall_mem_cons.mpr ⟨h, hs⟩, rfl⟩

theorem stacks_push {v v' : Value} (hv : K.values v v') {s s' : Stack} (hs : sameStacks K s s') :
    sameStacks K (push s v) (push s' v') := by
  obtain ⟨hv, rfl⟩ := hv
  exact stacks_cons (.value v) hv hs

namespace Stack

theorem args_values {s s' : Stack} (h : sameStacks K s s') : K.args s.values s'.values := by
  obtain ⟨hs, rfl⟩ := h
  constructor
  · intro v hv
    obtain ⟨item, hitem, hvalue⟩ := List.mem_filterMap.mp hv
    have hfits := hs item (List.mem_reverse.mp hitem)
    cases item with
    | value other =>
      cases hvalue
      exact hfits
    | _ => cases hvalue
  · rw [values, values, ← List.map_reverse, List.filterMap_map, List.map_filterMap]
    refine congrArg (List.filterMap · s.reverse) (funext fun item => ?_)
    cases item <;> rfl

theorem values_getLast? {s s' : Stack} (h : sameStacks K s s') :
    (∀ v ∈ s.values.getLast?, v.Fits K)
      ∧ s'.values.getLast? = s.values.getLast?.map (Value.adjust K.adjust) := by
  obtain ⟨hargs, heq⟩ := args_values h
  rw [heq, List.getLast?_map]
  exact ⟨fun v hv => hargs v (List.mem_of_getLast? hv), rfl⟩

/-- The value that an expression leaves. -/
theorem values_last {s s' : Stack} (h : sameStacks K s s') :
    K.values (s.values.getLast?.getD .undefined) (s'.values.getLast?.getD .undefined) := by
  obtain ⟨hfits, heq⟩ := values_getLast? h
  rw [heq]
  cases hv : s.values.getLast? with
  | none => exact ⟨trivial, rfl⟩
  | some v => exact ⟨hfits v hv, rfl⟩

/-- The text of the value that an expression leaves. -/
theorem text_last {s s' : Stack} (h : sameStacks K s s') :
    s'.values.getLast?.elim "" Value.text = s.values.getLast?.elim "" Value.text := by
  rw [(values_getLast? h).2]
  cases s.values.getLast? with
  | none => rfl
  | some v => exact Value.text_adjust K.adjust v

theorem pop_results {s s' : Stack} (h : sameStacks K s s') :
    K.failing.Results (fun r r' => K.values r.1 r'.1 ∧ sameStacks K r.2 r'.2) s.pop s'.pop := by
  obtain ⟨hs, rfl⟩ := h
  cases s with
  | nil => exact .error (K.cause_of_ne _ (by nofun))
  | cons item rest =>
    obtain ⟨hitem, hrest⟩ := List.forall_mem_cons.mp hs
    cases item with
    | value v => exact .ok ⟨⟨hitem, rfl⟩, hrest, rfl⟩
    | _ => exact .error (K.cause_of_ne _ (by nofun))

theorem collectArray_results {items items' : List Value} (hitems : K.args items items')
    {s s' : Stack} (h : sameStacks K s s') :
    K.failing.Results (fun r r' => K.args r.1 r'.1 ∧ sameStacks K r.2 r'.2) (collectArray items s)
      (collectArray items' s') := by
  obtain ⟨hs, rfl⟩ := h
  induction s generalizing items items' with
  | nil => exact .error (K.cause_of_ne _ (by nofun))
  | cons item rest ih =>
    obtain ⟨hitem, hrest⟩ := List.forall_mem_cons.mp hs
    cases item with
    | value v => exact ih (Pairing.args_cons ⟨hitem, rfl⟩ hitems) hrest
    | arrayStart => exact .ok ⟨hitems, hrest, rfl⟩
    | objectStart | key name => exact .error (K.cause_of_ne _ (by nofun))

theorem collectObject_results {items items' : Stack} (hitems : sameStacks K items items')
    {s s' : Stack} (h : sameStacks K s s') :
    K.failing.Results (fun r r' => sameStacks K r.1 r'.1 ∧ sameStacks K r.2 r'.2)
      (collectObject items s) (collectObject items' s') := by
  obtain ⟨hs, rfl⟩ := h
  induction s generalizing items items' with
  | nil => exact .error (K.cause_of_ne _ (by nofun))
  | cons item rest ih =>
    obtain ⟨hitem, hrest⟩ := List.forall_mem_cons.mp hs
    cases item with
    | value v => exact ih (stacks_cons (.value v) hitem hitems) hrest
    | key name => exact ih (stacks_cons (.key name) trivial hitems) hrest
    | objectStart => exact .ok ⟨hitems, hrest, rfl⟩
    | arrayStart => exact .error (K.cause_of_ne _ (by nofun))

theorem entries_results {s s' : Stack} (h : sameStacks K s s') :
    K.failing.Results K.contexts s.entries s'.entries := by
  obtain ⟨hs, rfl⟩ := h
  fun_induction entries s with
  | case1 => exact .ok ⟨Dict.all_nil, rfl⟩
  | case2 name v rest ih =>
    obtain ⟨-, hs⟩ := List.forall_mem_cons.mp hs
    obtain ⟨hv, hrest⟩ := List.forall_mem_cons.mp hs
    have hmore := ih hrest
    show K.failing.Results K.contexts _
      (entries (.key name :: .value (v.adjust K.adjust) :: rest.map (Item.adjust K.adjust)))
    rw [entries]
    revert hmore
    generalize entries (rest.map (Item.adjust K.adjust)) = more'
    generalize entries rest = more
    rintro (⟨hmore, rfl⟩ | hcause)
    · exact .ok ⟨Dict.all_cons.mpr ⟨hv, hmore⟩, rfl⟩
    · exact .error hcause
  | case3 name rest hno =>
    cases rest with
    | nil => exact .error (K.cause_of_ne _ (by nofun))
    | cons item rest =>
      cases item with
      | value v => exact absurd rfl (hno v rest)
      | _ => exact .error (K.cause_of_ne _ (by nofun))
  | case4 s hnil hvalue hkey =>
    cases s with
    | nil => exact absurd rfl hnil
    | cons item rest =>
      cases item with
      | key name => exact absurd rfl (hkey name rest)
      | _ => exact .error (K.cause_of_ne _ (by nofun))

end Stack

/-! ## Operators and literals -/

theorem tandem_pop {s s' : Stack} (h : sameStacks K s s') :
    Tandem K K.failing (fun r r' => K.values r.1 r'.1 ∧ sameStacks K r.2 r'.2) (settle s.pop)
      (settle s'.pop) := tandem_settle (Stack.pop_results h)

theorem tandem_applyToStack {s s' : Stack} (h : sameStacks K s s') {f f' : Value → Rendering Value}
    (hf : ∀ v v', K.values v v' → Tandem K K.failing K.values (f v) (f' v')) :
    Tandem K K.failing (sameStacks K) (applyToStack s f) (applyToStack s' f') := by
  refine (tandem_pop h).bind fun r r' ⟨hv, hrest⟩ => (hf _ _ hv).bind fun v v' hv => ?_
  exact tandem_pure (stacks_push hv hrest)

/-- The conditional takes its operands from the stack one after the other. -/
theorem settle_choose (s : Stack) : (settle (choose s) : Rendering Stack) = do
    let (otherwise, s) ← settle s.pop
    let (then_, s) ← settle s.pop
    let (condition, s) ← settle s.pop
    return push s (if condition.isTruthy then then_ else otherwise) := by
  rw [choose]
  cases s.pop with
  | error failure => rfl
  | ok r =>
    obtain ⟨otherwise, s⟩ := r
    show settle (do
      let (then_, s) ← s.pop
      let (condition, s) ← s.pop
      return push s (if condition.isTruthy then then_ else otherwise)) = do
        let (then_, s) ← settle s.pop
        let (condition, s) ← settle s.pop
        return push s (if condition.isTruthy then then_ else otherwise)
    cases s.pop with
    | error failure => rfl
    | ok r =>
      obtain ⟨then_, s⟩ := r
      show settle (do
        let (condition, s) ← s.pop
        return push s (if condition.isTruthy then then_ else otherwise)) = do
          let (condition, s) ← settle s.pop
          return push s (if condition.isTruthy then then_ else otherwise)
      cases s.pop with
      | error failure => rfl
      | ok r => rfl

theorem tandem_choose {s s' : Stack} (h : sameStacks K s s') :
    Tandem K K.failing (sameStacks K) (settle (choose s)) (settle (choose s')) := by
  rw [settle_choose, settle_choose]
  refine (tandem_pop h).bind fun r r' hr => ?_
  obtain ⟨hotherwise, h⟩ := hr
  refine (tandem_pop h).bind fun r r' hr => ?_
  obtain ⟨hthen, h⟩ := hr
  refine (tandem_pop h).bind fun r r' hr => ?_
  obtain ⟨⟨-, heq⟩, h⟩ := hr
  refine tandem_pure (stacks_push ?_ h)
  rw [heq, Value.isTruthy_adjust]
  split
  · exact hthen
  · exact hotherwise

/-- No operator fails for want of a value that is to come. -/
theorem BinaryOp.cause_apply {op : BinaryOp} {identity : Nat} {a b : Value} {failure : Failure}
    (h : op.apply identity a b = .error failure) : failure.cause ≠ .pendingValue := by
  cases op with
  | range =>
    rw [BinaryOp.apply] at h
    cases hitems : Value.rangeItems a b with
    | ok items =>
      rw [hitems] at h
      cases h
    | error other =>
      rw [hitems] at h
      cases h
      rw [Value.rangeItems] at hitems
      dsimp only at hitems
      split at hitems
      · split at hitems
        · cases hitems
          rintro ⟨⟩
        · cases hitems
      · split at hitems
        · cases hitems
          rintro ⟨⟩
        · split at hitems
          · cases hitems
            rintro ⟨⟩
          · cases hitems
  | «matches» =>
    rw [BinaryOp.apply] at h
    cases hfound : Value.matchesPattern a b with
    | ok found =>
      rw [hfound] at h
      cases h
    | error other =>
      rw [hfound] at h
      cases h
      rw [Value.matchesPattern] at hfound
      dsimp only at hfound
      split at hfound
      · cases hfound
      · cases hfound
        rintro ⟨⟩
  | conditional =>
    cases h
    rintro ⟨⟩
  | _ => cases h

theorem tandem_apply (op : BinaryOp) (identity : Nat) {a a' b b' : Value} (ha : K.values a a')
    (hb : K.values b b') :
    Tandem K K.failing K.values (settle (op.apply identity a b))
      (settle (op.apply identity a' b')) := by
  obtain ⟨ha, rfl⟩ := ha
  obtain ⟨hb, rfl⟩ := hb
  rw [BinaryOp.apply_adjust]
  refine tandem_settle ?_
  cases h : op.apply identity a b with
  | ok v => exact .ok ⟨BinaryOp.within_apply ha hb h, rfl⟩
  | error failure => exact .error (K.cause_of_ne _ (BinaryOp.cause_apply h))

theorem tandem_applyBinary (op : BinaryOp) {s s' : Stack} (h : sameStacks K s s') :
    Tandem K K.failing (sameStacks K) (applyBinary op s) (applyBinary op s') := by
  refine (tandem_pop h).bind fun r r' ⟨hb, h⟩ => (tandem_pop h).bind fun r r' ⟨ha, h⟩ =>
    tandem_fresh.bind ?_
  rintro identity _ rfl
  exact (tandem_apply op identity ha hb).bind fun v v' hv => tandem_pure (stacks_push hv h)

theorem tandem_endArray {s s' : Stack} (h : sameStacks K s s') :
    Tandem K K.failing (sameStacks K) (endArray s) (endArray s') := by
  refine (tandem_settle (Stack.collectArray_results Pairing.args_nil h)).bind
    fun ⟨items, s⟩ ⟨items', s'⟩ ⟨hitems, hs⟩ => tandem_fresh.bind ?_
  rintro identity _ rfl
  obtain ⟨hitems, heq⟩ := hitems
  refine tandem_pure (stacks_push ⟨Value.Fits.array hitems identity, ?_⟩ hs)
  rw [Value.adjust_array, ← heq]

theorem tandem_endObject {s s' : Stack} (h : sameStacks K s s') :
    Tandem K K.failing (sameStacks K) (endObject s) (endObject s') := by
  refine (tandem_settle (Stack.collectObject_results stacks_nil h)).bind
    fun ⟨items, s⟩ ⟨items', s'⟩ ⟨hitems, hs⟩ =>
      (tandem_settle (Stack.entries_results hitems)).bind fun entries entries' hentries =>
        tandem_fresh.bind ?_
  rintro identity _ rfl
  obtain ⟨hentries, rfl⟩ := hentries
  refine tandem_pure (stacks_push ⟨Value.Fits.object hentries.ofPairs identity, ?_⟩ hs)
  rw [Value.adjust_object, Dict.mapValues_ofPairs]

theorem tandem_slice {v v' : Value} (h : K.values v v') (start stop : Option Int) :
    Tandem K K.failing K.values (do return v.slice (← fresh) start stop)
      (do return v'.slice (← fresh) start stop) := by
  obtain ⟨hv, rfl⟩ := h
  refine tandem_fresh.bind ?_
  rintro identity _ rfl
  exact tandem_pure ⟨hv.slice identity start stop, Value.slice_adjust _ v identity start stop⟩

end

/-! ## Expressions -/

mutual

theorem tandem_run {K : Pairing} (ts : List Token) (hts : tokensGuarded (∀ s, K.text s) ts)
    {s s' : Stack} (h : sameStacks K s s') :
    Tandem K K.failing (sameStacks K) (run ts s) (run ts s') := by
  cases ts with
  | nil => exact tandem_pure h
  | cons t rest =>
    rw [tokensGuarded] at hts
    have hrest {s s' : Stack} (h : sameStacks K s s') := tandem_run rest hts.2 h
    have hstep := (tandem_step t rest hts.1 h).bind fun _ _ h => hrest h
    -- A variable or a key takes the call parentheses behind it along. All else is one step.
    cases t with
    | «variable» name =>
      cases rest with
      | nil => exact hstep
      | cons next rest =>
        cases next with
        | group args call =>
          cases call with
          | false => exact hstep
          | true =>
            rw [tokensGuarded] at hts
            rw [run, run]
            refine (tandem_lookUpVariable name _).bind fun v v' hv => ?_
            rw [Pairing.isCallable_eq hv]
            split
            · exact (tandem_run args hts.2.1 stacks_nil).bind fun _ _ hargs =>
                (tandem_invoke hv receiver_none (Stack.args_values hargs)).bind fun _ _ hv =>
                  tandem_run rest hts.2.2 (stacks_push hv h)
            · exact hrest (stacks_push hv h)
        | _ => exact hstep
    | keyPeriod name =>
      cases rest with
      | nil => exact hstep
      | cons next rest =>
        cases next with
        | group args call =>
          cases call with
          | false => exact hstep
          | true =>
            rw [tokensGuarded] at hts
            rw [run, run]
            refine (tandem_pop h).bind fun r r' ⟨hobject, h⟩ =>
              (tandem_lookUpKey hobject name _ _).bind fun v v' hv => ?_
            rw [Pairing.isCallable_eq hv]
            split
            · exact (tandem_run args hts.2.1 stacks_nil).bind fun _ _ hargs =>
                (tandem_invoke hv (receiver_of hobject) (Stack.args_values hargs)).bind
                  fun _ _ hv => tandem_run rest hts.2.2 (stacks_push hv h)
            · exact tandem_run rest hts.2.2 (stacks_push hv h)
        | _ => exact hstep
    | _ => exact hstep
termination_by structural ts

theorem tandem_step {K : Pairing} (t : Token) (rest : List Token)
    (ht : t.Guarded (∀ s, K.text s)) {s s' : Stack} (h : sameStacks K s s') :
    Tandem K K.failing (sameStacks K) (step t rest s) (step t rest s') := by
  cases t with
  | number | string | bool | null =>
    refine tandem_pure (stacks_push ?_ h)
    exact ⟨trivial, rfl⟩
  | objectKey | arrayStart | objectStart =>
    refine tandem_pure (stacks_cons _ ?_ h)
    trivial
  | comma => exact tandem_pure h
  | context =>
    refine tandem_fresh.bind ?_
    rintro identity _ rfl
    refine tandem_context.bind ?_
    rintro c _ ⟨hc, rfl⟩
    exact tandem_pure
      (stacks_push ⟨Value.Fits.object hc identity, (Value.adjust_object _ _ _).symm⟩ h)
  | «variable» name =>
    refine (tandem_lookUpVariable name rest).bind fun v v' hv => ?_
    rw [Pairing.isCallable_eq hv]
    split
    · exact (tandem_invoke hv receiver_none Pairing.args_nil).bind fun _ _ hv =>
        tandem_pure (stacks_push hv h)
    · exact tandem_pure (stacks_push hv h)
  | lambda params body =>
    refine tandem_fresh.bind ?_
    rintro identity _ rfl
    refine tandem_template.bind ?_
    rintro t _ ⟨htemplate, rfl⟩
    refine tandem_context.bind ?_
    rintro c _ ⟨hc, rfl⟩
    exact tandem_pure (stacks_push
      ⟨Value.within_lambda.mpr ⟨⟨ht, htemplate⟩, hc⟩, (Value.adjust_lambda _ _ _ _ _ _).symm⟩ h)
  | function name params =>
    exact (tandem_arguments params ht).bind fun args args' hargs =>
      (tandem_callFunction name hargs).bind fun _ _ hv => tandem_pure (stacks_push hv h)
  | filter name params =>
    rw [Token.Guarded] at ht
    refine (tandem_pop h).bind fun r r' ⟨hinput, h⟩ =>
      (tandem_arguments params ht.2).bind fun args args' hargs => ?_
    exact (tandem_filter ht.1 hinput hargs).bind fun _ _ hv => tandem_pure (stacks_push hv h)
  | test name negated params =>
    refine (tandem_pop h).bind fun r r' ⟨hinput, h⟩ =>
      (tandem_arguments params ht).bind fun args args' hargs => ?_
    refine (tandem_test name hinput hargs).bind ?_
    rintro hit _ rfl
    refine tandem_pure (stacks_push ?_ h)
    exact ⟨trivial, rfl⟩
  | unary op =>
    rw [step, step]
    refine tandem_applyToStack h ?_
    rintro v _ ⟨hv, rfl⟩
    exact tandem_pure ⟨UnaryOp.within_apply op v, UnaryOp.apply_adjust _ op v⟩
  | binary op =>
    cases op with
    | conditional => exact tandem_choose h
    | _ => exact tandem_applyBinary _ h
  | computedKey tokens =>
    refine (tandem_run tokens ht stacks_nil).bind fun key key' hkey => ?_
    rw [Stack.text_last hkey]
    refine tandem_pure (stacks_cons _ ?_ h)
    trivial
  | arrayEnd => exact tandem_endArray h
  | objectEnd => exact tandem_endObject h
  | group tokens call =>
    cases call with
    | false =>
      exact (tandem_run tokens ht stacks_nil).bind fun inner inner' hinner =>
        tandem_pure (stacks_push (Stack.values_last hinner) h)
    | true =>
      exact (tandem_pop h).bind fun r r' ⟨hcallee, h⟩ =>
        (tandem_run tokens ht stacks_nil).bind fun args args' hargs =>
          (tandem_invoke hcallee receiver_none (Stack.args_values hargs)).bind fun _ _ hv =>
            tandem_pure (stacks_push hv h)
  | keyPeriod name =>
    rw [step, step]
    refine tandem_applyToStack h fun object object' hobject =>
      (tandem_lookUpKey hobject name _ _).bind fun v v' hv => ?_
    rw [Pairing.isCallable_eq hv]
    split
    · exact tandem_invoke hv (receiver_of hobject) Pairing.args_nil
    · exact tandem_pure hv
  | keyBrackets tokens params =>
    rw [Token.Guarded] at ht
    refine (tandem_pop h).bind fun r r' ⟨hobject, h⟩ =>
      (tandem_run tokens ht.1 stacks_nil).bind fun key key' hkey => ?_
    rw [Stack.text_last hkey]
    refine (tandem_lookUpKey hobject _ _ _).bind fun v v' hv => ?_
    rw [Pairing.isCallable_eq hv]
    split
    · exact (tandem_arguments params ht.2).bind fun args args' hargs =>
        (tandem_invoke hv (receiver_of hobject) hargs).bind fun _ _ hv =>
          tandem_pure (stacks_push hv h)
    · exact tandem_pure (stacks_push hv h)
  | slice start stop =>
    rw [step, step]
    exact tandem_applyToStack h fun _ _ hv => tandem_slice hv start stop
termination_by structural t

theorem tandem_arguments {K : Pairing} (params : Option (List Token))
    (hparams : paramsGuarded (∀ s, K.text s) params) :
    Tandem K K.failing K.args (arguments params) (arguments params) := by
  cases params with
  | none => exact tandem_pure Pairing.args_nil
  | some tokens =>
    rw [paramsGuarded] at hparams
    rw [arguments]
    exact (tandem_run tokens hparams stacks_nil).bind fun _ _ h => tandem_pure (Stack.args_values h)
termination_by structural params

end

section
variable {K : Pairing}

theorem stacks_seed {seed seed' : List Value} (h : K.args seed seed') :
    sameStacks K (seed.reverse.map .value) (seed'.reverse.map .value) := by
  obtain ⟨hseed, rfl⟩ := h
  constructor
  · intro item hitem
    obtain ⟨v, hv, rfl⟩ := List.mem_map.mp hitem
    exact hseed v (List.mem_reverse.mp hv)
  · rw [← List.map_reverse, List.map_map, List.map_map]
    rfl

theorem tandem_evaluateWith {e : Expr} (he : K.Tokens e) {seed seed' : List Value}
    (hseed : K.args seed seed') :
    Tandem K K.failing K.values (evaluateWith seed e) (evaluateWith seed' e) :=
  (tandem_run e he (stacks_seed hseed)).bind fun _ _ h => tandem_pure (Stack.values_last h)

theorem tandem_evaluate {e : Expr} (he : K.Tokens e) :
    Tandem K K.failing K.values (evaluate e) (evaluate e) :=
  tandem_evaluateWith he Pairing.args_nil

end
end Stencil.Expr
