import Mathlib.Data.List.Induction
import Stencil.Proofs.Expr.Tree
import Stencil.Proofs.Render.Laws
import Stencil.Render.Expression

/-!
# Compiled expressions evaluate like trees

`Tree.eval` evaluates a tree from left to right by recursion on the tree.  It needs no stack: the
value of a tree is what its evaluation ends in.  `run_tokens` says that running the tokens of a tree
is that evaluation, whatever lies on the stack and whatever follows, and that all that comes of it
is one more value on the stack.  Both sides are programs, so they ask for the same things in the
same order and fail with the same failure.

What follows a lookup is not without effect on it.  A variable that is tested next is not called,
and a lookup does not fail under strict variables if its path ends in a test for definition; `Next`
is what an evaluation has to know of what follows it.  Parentheses that follow a variable or a key
are its arguments, so that `Tree.eval` takes the call of a variable and of a key as one step.
-/
namespace Stencil.Expr
open Rendering

/-! ## Evaluating trees -/

/-- What follows a tree, as far as its lookups see it. -/
structure Next where
  /-- A test comes right after. -/
  tested : Bool := false
  /-- The path that goes on from here ends in a test for definition. -/
  defined : Bool := false

/-- The value of a variable. -/
def variableValue (name : String) (defined : Bool) : Rendering Value := do
  match (← context).find? name with
  | some v => return v
  | none =>
    if name = "_self" then return Value.macrosOf (← template) (← fresh)
    else if (← isStrict) && !defined then throw ⟨.undefinedVariable name, none⟩
    else return .undefined

/-- The value of a key.  If it can be called it is called, and only then are its arguments
evaluated. -/
def keyValue (object : Value) (name : String) (container : Container) (defined : Bool)
    (args : Rendering (List Value)) : Rendering Value := do
  let v ← lookUpKey object name container defined
  if v.isCallable then invoke v (some object) (← args) else return v

/-- The key that the last of some values names. -/
def lastKey (vs : List Value) : String := vs.getLast?.elim "" Value.text

mutual

/-- The value of a tree. -/
def Tree.eval : Tree → Next → Rendering Value
  | .number value, _ => return .number value
  | .string value, _ => return .string value
  | .bool value, _ => return .bool value
  | .null, _ => return .null
  | .context, _ => do return .object (← fresh) (← context)
  | .variable name, next => do
    let v ← variableValue name next.defined
    if v.isCallable && !next.tested then invoke v none [] else return v
  | .lambda params _ body, _ => do
    return .lambda (← fresh) params body.tokens (← template) (← context)
  | .function name args, _ => do callFunction name (← evalItems args)
  | .filter input name args, _ => do
    let v ← input.eval {}
    settle (← ask (.filter name v (← evalArgs args)))
  | .test input name negated args, _ => do
    let v ← input.eval ⟨true, name = "defined"⟩
    let hit ← settle (← ask (.test name v (← evalArgs args)))
    return .bool (hit != negated)
  | .keyPeriod container key, next => do
    let object ← container.eval ⟨false, next.defined⟩
    keyValue object key .object next.defined (pure [])
  | .keyBrackets container _ key args, next => do
    let object ← container.eval ⟨false, next.defined⟩
    let keys ← evalItems key
    keyValue object (lastKey keys) .array next.defined (evalArgs args)
  | .slice whole start stop, next => do
    let v ← whole.eval ⟨false, next.defined⟩
    return v.slice (← fresh) start stop
  | .call (.variable name) args, next => do
    let v ← variableValue name next.defined
    invoke v none (← evalItems args)
  | .call (.keyPeriod container key) args, next => do
    let object ← container.eval ⟨false, next.defined⟩
    keyValue object key .object next.defined (evalItems args)
  | .call callee args, next => do
    let v ← callee.eval ⟨false, next.defined⟩
    invoke v none (← evalItems args)
  | .unary op operand, _ => do return op.apply (← operand.eval {})
  | .binary op _ left right, _ => do
    let a ← left.eval {}
    let b ← right.eval {}
    settle (op.apply (← fresh) a b)
  | .conditional condition yes no, _ => do
    let c ← condition.eval {}
    let y ← yes.eval {}
    let n ← no.eval {}
    return if c.isTruthy then y else n
  | .group items, _ => do return (← evalItems items).getLast?.getD .undefined
  | .array items, _ => do
    let vs ← evalItems items
    return .array (← fresh) vs
  | .object entries, _ => do
    let kvs ← evalEntries entries
    return .object (← fresh) (Dict.ofPairs kvs)
termination_by structural t => t

/-- The values of trees. -/
def evalItems : List Tree → Rendering (List Value)
  | [] => return []
  | t :: rest => do
    let v ← t.eval {}
    return v :: (← evalItems rest)
termination_by structural l => l

/-- The values of optional arguments. -/
def evalArgs : Option (List Tree) → Rendering (List Value)
  | none => return []
  | some args => evalItems args
termination_by structural a => a

/-- The keys and values of entries. -/
def evalEntries : List Entry → Rendering (Dict Value)
  | [] => return []
  | e :: rest => do
    let kv ← e.eval
    return kv :: (← evalEntries rest)
termination_by structural l => l

/-- The key and the value of an entry. -/
def Entry.eval : Entry → Rendering (String × Value)
  | .plain key value => do return (key.text, ← value.eval {})
  | .computed key value => do
    let keys ← evalItems key
    return (lastKey keys, ← value.eval {})
termination_by structural e => e

end

/-! ## What follows a tree -/

/-- The token takes the parentheses right after it for its arguments. -/
def Token.takesCall : Token → Bool
  | .variable _ | .keyPeriod _ => true
  | _ => false

/-- Parentheses that call come next. -/
def startsCall : List Token → Bool
  | .group _ true :: _ => true
  | _ => false

/-- The tree ends in such a token. -/
def Tree.takesCall : Tree → Bool
  | .variable _ | .keyPeriod .. => true
  | _ => false

/-- What tokens tell the lookups before them. -/
def Next.of (rest : List Token) : Next := ⟨testComesNext rest, testedForDefinition rest⟩

/-- What follows has no effect on the lookups before it. -/
def Apart : List Token → Prop
  | .keyPeriod _ :: _ | .keyBrackets .. :: _ | .slice .. :: _ | .group _ true :: _
  | .test .. :: _ => False
  | _ => True

theorem next_of_apart {rest : List Token} (h : Apart rest) : Next.of rest = {} := by
  cases rest with
  | nil => rfl
  | cons t rest =>
    cases t with
    | group tokens call =>
      cases call with
      | true => cases h
      | false => rfl
    | keyPeriod | keyBrackets | slice | test => cases h
    | _ => rfl

theorem startsCall_of_apart {rest : List Token} (h : Apart rest) : startsCall rest = false := by
  unfold startsCall
  split
  · cases h
  · rfl

theorem Tree.apart_tokens (t : Tree) (rest : List Token) : Apart (t.tokens ++ rest) := by
  cases t with
  | filter input | test input | keyPeriod input | keyBrackets input | slice input | call input
  | unary _ input | binary _ _ input | conditional input =>
    rw [Tree.tokens, List.append_assoc]
    exact input.apart_tokens _
  | _ => trivial
termination_by structural t

theorem apart_moreTokens (ts : List Tree) {rest : List Token} (h : Apart rest) :
    Apart (moreTokens ts ++ rest) := by
  cases ts with
  | nil => exact h
  | cons t ts => trivial

theorem apart_moreEntryTokens (es : List Entry) {rest : List Token} (h : Apart rest) :
    Apart (moreEntryTokens es ++ rest) := by
  cases es with
  | nil => exact h
  | cons e es => trivial

/-! ## Values, arrays and objects on the stack -/

/-- The stack with values put on it one after the other. -/
def pushAll (stack : Stack) (vs : List Value) : Stack := vs.foldl push stack

/-- The stack with keys and values put on it. -/
def pushEntries (stack : Stack) (kvs : Dict Value) : Stack :=
  kvs.foldl (fun stack kv => push (.key kv.1 :: stack) kv.2) stack

theorem Stack.values_pushAll (stack : Stack) (vs : List Value) :
    Stack.values (pushAll stack vs) = Stack.values stack ++ vs := by
  induction vs generalizing stack with
  | nil => exact (List.append_nil _).symm
  | cons v vs ih =>
    have hpush : Stack.values (push stack v) = Stack.values stack ++ [v] := by
      simp [Stack.values, push]
    rw [pushAll, List.foldl_cons, ← pushAll, ih, hpush, List.append_assoc, List.singleton_append]

@[simp] theorem Stack.values_pushAll_nil (vs : List Value) :
    Stack.values (pushAll [] vs) = vs := values_pushAll [] vs

theorem Stack.collectArray_pushAll (items vs : List Value) (stack : Stack) :
    Stack.collectArray items (pushAll (.arrayStart :: stack) vs) = .ok (vs ++ items, stack) := by
  induction vs using List.reverseRecOn generalizing items with
  | nil => rfl
  | append_singleton vs v ih =>
    rw [pushAll, List.foldl_append, ← pushAll]
    exact (ih (v :: items)).trans (by rw [List.append_assoc, List.singleton_append])

/-- Keys and values in turn. -/
def entryItems (kvs : Dict Value) : Stack := kvs.flatMap fun kv => [.key kv.1, .value kv.2]

theorem Stack.collectObject_pushEntries (items : Stack) (kvs : Dict Value) (stack : Stack) :
    Stack.collectObject items (pushEntries (.objectStart :: stack) kvs)
      = .ok (entryItems kvs ++ items, stack) := by
  induction kvs using List.reverseRecOn generalizing items with
  | nil => rfl
  | append_singleton kvs kv ih =>
    rw [pushEntries, List.foldl_append, ← pushEntries]
    exact (ih (.key kv.1 :: .value kv.2 :: items)).trans (by simp [entryItems])

theorem Stack.entries_entryItems (kvs : Dict Value) : Stack.entries (entryItems kvs) = .ok kvs := by
  induction kvs with
  | nil => rfl
  | cons kv kvs ih =>
    show Stack.entries (.key kv.1 :: .value kv.2 :: entryItems kvs) = _
    rw [Stack.entries, ih]
    rfl

/-! ## One step -/

theorem run_cons {t : Token} {rest : List Token} (h : t.takesCall = false ∨ startsCall rest = false)
    (stack : Stack) : run (t :: rest) stack = step t rest stack >>= run rest := by
  rw [run.eq_def]
  split
  · next heq => cases heq
  · next heq =>
    obtain ⟨rfl, rfl⟩ := List.cons.inj heq
    rcases h with h | h <;> cases h
  · next heq =>
    obtain ⟨rfl, rfl⟩ := List.cons.inj heq
    rcases h with h | h <;> cases h
  · next heq =>
    obtain ⟨rfl, rfl⟩ := List.cons.inj heq
    rfl

theorem lookUpVariable_eq (name : String) (rest : List Token) :
    lookUpVariable name rest = variableValue name (testedForDefinition rest) := rfl

@[simp] theorem settle_pop_push (stack : Stack) (v : Value) :
    settle (Stack.pop (push stack v)) = pure (v, stack) := rfl

theorem applyToStack_push (stack : Stack) (v : Value) (f : Value → Rendering Value) :
    applyToStack (push stack v) f = f v >>= fun r => pure (push stack r) := by
  rw [applyToStack, settle_pop_push, pure_bind]

/-- Where nothing follows. -/
theorem run_of_append {ts : List Token} {stack : Stack} {f : Rendering Stack}
    (h : run (ts ++ []) stack = f) : run ts stack = f := by
  rwa [List.append_nil] at h

theorem applyBinary_push (op : BinaryOp) (stack : Stack) (a b : Value) :
    applyBinary op (push (push stack a) b)
      = fresh >>= fun identity => settle (op.apply identity a b) >>= fun r =>
          pure (push stack r) := rfl

theorem step_binary {op : BinaryOp} (proper : op ≠ .conditional) (rest : List Token)
    (stack : Stack) : step (.binary op) rest stack = applyBinary op stack := by
  cases op with
  | conditional => exact absurd rfl proper
  | _ => rfl

theorem step_conditional (rest : List Token) (stack : Stack) (condition yes no : Value) :
    step (.binary .conditional) rest (push (push (push stack condition) yes) no)
      = pure (push stack (if condition.isTruthy then yes else no)) := rfl

theorem arguments_of_run {ts : List Token} {items : Rendering (List Value)}
    (h : run (ts ++ []) [] = items >>= fun vs => run [] (pushAll [] vs)) :
    arguments (some ts) = items := by
  rw [arguments, run_of_append h]
  simp only [run, bind_assoc, pure_bind, Stack.values_pushAll_nil, bind_pure]

theorem step_group_call (args rest : List Token) (stack : Stack) (callee : Value) :
    step (.group args true) rest (push stack callee)
      = arguments (some args) >>= fun vs => invoke callee none vs >>= fun r =>
          pure (push stack r) := by
  rw [step, settle_pop_push, pure_bind, arguments]
  simp only [bind_assoc, pure_bind]

/-- A variable and the parentheses after it. -/
theorem run_variable_call (name : String) (args rest : List Token) (stack : Stack) :
    run (.variable name :: .group args true :: rest) stack
      = variableValue name (testedForDefinition rest) >>= fun v =>
          arguments (some args) >>= fun vs => invoke v none vs >>= fun r =>
            run rest (push stack r) := by
  rw [run, lookUpVariable_eq, testedForDefinition]
  refine bind_congr fun v => ?_
  split
  · simp only [arguments, bind_assoc, pure_bind]
  · rw [run_cons (.inl rfl), step_group_call]
    simp only [bind_assoc, pure_bind]

/-- A key and the parentheses after it. -/
theorem run_keyPeriod_call (key : String) (args rest : List Token) (stack : Stack)
    (object : Value) :
    run (.keyPeriod key :: .group args true :: rest) (push stack object)
      = keyValue object key .object (testedForDefinition rest) (arguments (some args))
          >>= fun r => run rest (push stack r) := by
  rw [run, settle_pop_push, pure_bind, keyValue, bind_assoc]
  refine bind_congr fun v => ?_
  split
  · simp only [arguments, bind_assoc, pure_bind]
  · rw [pure_bind]

/-- A call of anything but a variable or a key is a step of its own. -/
theorem Tree.eval_call {callee : Tree} (h : callee.takesCall = false) (args : List Tree)
    (next : Next) :
    (Tree.call callee args).eval next
      = callee.eval ⟨false, next.defined⟩ >>= fun v =>
          evalItems args >>= fun vs => invoke v none vs := by
  cases callee with
  | «variable» | keyPeriod => cases h
  | _ => rfl

/-! ## Whole trees -/

mutual

/-- **The invariant.**  The tokens of a tree put its value on the stack and leave alone what lies
below, unless parentheses follow that its last token takes. -/
theorem Tree.run_tokens_append (t : Tree) (rest : List Token)
    (h : t.takesCall = false ∨ startsCall rest = false) (stack : Stack) :
    run (t.tokens ++ rest) stack = t.eval (Next.of rest) >>= fun v => run rest (push stack v) := by
  cases t with
  | number value | string value | bool value | null =>
    exact run_cons (.inl rfl) stack
  | context =>
    rw [Tree.tokens, List.singleton_append, run_cons (.inl rfl), step, Tree.eval]
    simp only [bind_assoc, pure_bind]
  | «variable» name =>
    -- a variable takes parentheses right after it, so none may follow
    have hrest : startsCall rest = false := h.resolve_left nofun
    rw [Tree.tokens, List.singleton_append, run_cons (.inr hrest), step, Tree.eval,
      lookUpVariable_eq]
    simp only [bind_assoc]
    refine bind_congr fun v => ?_
    by_cases hcall : (v.isCallable && !testComesNext rest) = true
    · simp [Next.of, hcall]
    · simp [Next.of, hcall]
  | lambda params text body =>
    rw [Tree.tokens, List.singleton_append, run_cons (.inl rfl), step, Tree.eval]
    simp only [bind_assoc, pure_bind]
  | function name args =>
    rw [Tree.tokens, List.singleton_append, run_cons (.inl rfl), step,
      arguments_of_run (run_itemTokens args [] trivial []), Tree.eval]
    simp only [bind_assoc, pure_bind]
  | filter input name args =>
    rw [Tree.tokens, List.append_assoc, input.run_tokens_append _ (.inr rfl), Tree.eval]
    simp only [List.singleton_append, run_cons (t := .filter name _) (.inl rfl), step,
      settle_pop_push, run_argTokens, bind_assoc, pure_bind]
    rfl
  | test input name negated args =>
    rw [Tree.tokens, List.append_assoc, input.run_tokens_append _ (.inr rfl), Tree.eval]
    simp only [List.singleton_append, run_cons (t := .test name _ _) (.inl rfl), step,
      settle_pop_push, run_argTokens, bind_assoc, pure_bind]
    rfl
  | keyPeriod container key =>
    have hrest : startsCall rest = false := h.resolve_left nofun
    rw [Tree.tokens, List.append_assoc, container.run_tokens_append _ (.inr rfl), Tree.eval]
    simp only [List.singleton_append, run_cons (.inr hrest), step, applyToStack_push, bind_assoc,
      pure_bind, keyValue]
    rfl
  | keyBrackets container text key args =>
    have hkey := run_of_append (run_itemTokens key [] trivial [])
    rw [Tree.tokens, List.append_assoc, container.run_tokens_append _ (.inr rfl), Tree.eval]
    simp only [List.singleton_append, run_cons (t := .keyBrackets _ _) (.inl rfl), step,
      settle_pop_push, hkey, run, run_argTokens, bind_assoc, pure_bind, keyValue,
      Stack.values_pushAll_nil]
    refine bind_congr fun object => bind_congr fun vs => bind_congr fun v => ?_
    by_cases hcall : v.isCallable = true
    · simp [hcall]
    · simp [hcall]
  | slice whole start stop =>
    rw [Tree.tokens, List.append_assoc, whole.run_tokens_append _ (.inr rfl), Tree.eval]
    simp only [List.singleton_append, run_cons (t := .slice _ _) (.inl rfl), step,
      applyToStack_push, bind_assoc, pure_bind]
    rfl
  | call callee args =>
    have hargs := arguments_of_run (run_itemTokens args [] trivial [])
    -- the parentheses follow the tokens of the callee, whose last one may look at them
    have hcallee := callee.run_tokens_append (.group (itemTokens args) true :: rest)
    rw [Tree.tokens, List.append_assoc, List.singleton_append]
    cases hcall : callee.takesCall with
    | false =>
      rw [hcallee (.inl hcall) stack, Tree.eval_call hcall]
      simp only [run_cons (t := .group _ true) (.inl rfl), step_group_call, hargs, bind_assoc,
        pure_bind]
      rfl
    | true =>
      -- The last token of the callee takes the parentheses, so they are one step with it.
      cases callee with
      | «variable» name =>
        rw [Tree.tokens, List.singleton_append, run_variable_call, hargs, Tree.eval]
        simp only [bind_assoc]
        rfl
      | keyPeriod container key =>
        rw [Tree.tokens, List.append_assoc, List.singleton_append,
          container.run_tokens_append _ (.inr rfl), Tree.eval]
        simp only [run_keyPeriod_call, hargs, bind_assoc]
        rfl
      | _ => cases hcall
  | unary op operand =>
    rw [Tree.tokens, List.append_assoc, operand.run_tokens_append _ (.inr rfl), Tree.eval]
    simp only [List.singleton_append, run_cons (t := .unary op) (.inl rfl), step, applyToStack_push,
      bind_assoc, pure_bind]
    rfl
  | binary op proper left right =>
    -- what follows the left operand is the right one, which starts with no key, call or test
    have hapart := right.apart_tokens (.binary op :: rest)
    rw [Tree.tokens, List.append_assoc, List.append_assoc, List.singleton_append,
      left.run_tokens_append _ (.inr (startsCall_of_apart hapart)), next_of_apart hapart, Tree.eval]
    simp only [right.run_tokens_append (.binary op :: rest) (.inr rfl),
      run_cons (t := .binary op) (.inl rfl), step_binary proper, applyBinary_push, bind_assoc,
      pure_bind]
    rfl
  | conditional condition yes no =>
    have hyes := yes.apart_tokens (no.tokens ++ .binary .conditional :: rest)
    have hno := no.apart_tokens (.binary .conditional :: rest)
    rw [Tree.tokens, List.append_assoc, List.append_assoc, List.append_assoc, List.singleton_append,
      condition.run_tokens_append _ (.inr (startsCall_of_apart hyes)), next_of_apart hyes,
      Tree.eval]
    simp only [yes.run_tokens_append _ (.inr (startsCall_of_apart hno)), next_of_apart hno,
      no.run_tokens_append (.binary .conditional :: rest) (.inr rfl),
      run_cons (t := .binary .conditional) (.inl rfl), step_conditional, bind_assoc, pure_bind]
    rfl
  | group items =>
    have hitems := run_of_append (run_itemTokens items [] trivial [])
    rw [Tree.tokens, List.singleton_append, run_cons (.inl rfl), step, hitems, Tree.eval]
    simp only [run, bind_assoc, pure_bind, Stack.values_pushAll_nil]
  | array items =>
    rw [Tree.tokens, List.cons_append, run_cons (.inl rfl), step, pure_bind, List.append_assoc,
      List.singleton_append, run_itemTokens items (.arrayEnd :: rest) trivial, Tree.eval]
    simp only [run_cons (t := .arrayEnd) (.inl rfl), step, endArray, Stack.collectArray_pushAll,
      settle_ok, List.append_nil, bind_assoc, pure_bind]
  | object entries =>
    rw [Tree.tokens, List.cons_append, run_cons (.inl rfl), step, pure_bind, List.append_assoc,
      List.singleton_append, run_entryTokens entries (.objectEnd :: rest) trivial, Tree.eval]
    simp only [run_cons (t := .objectEnd) (.inl rfl), step, endObject,
      Stack.collectObject_pushEntries, Stack.entries_entryItems, settle_ok, List.append_nil,
      bind_assoc, pure_bind]
termination_by structural t

/-- Items put their values on the stack one after the other. -/
theorem run_itemTokens (ts : List Tree) (rest : List Token) (h : Apart rest) (stack : Stack) :
    run (itemTokens ts ++ rest) stack
      = evalItems ts >>= fun vs => run rest (pushAll stack vs) := by
  cases ts with
  | nil => rfl
  | cons t ts =>
    have hmore := apart_moreTokens ts h
    rw [itemTokens, List.append_assoc,
      t.run_tokens_append _ (.inr (startsCall_of_apart hmore)), next_of_apart hmore, evalItems]
    simp only [run_moreTokens ts rest h, bind_assoc, pure_bind]
    rfl
termination_by structural ts

theorem run_moreTokens (ts : List Tree) (rest : List Token) (h : Apart rest) (stack : Stack) :
    run (moreTokens ts ++ rest) stack
      = evalItems ts >>= fun vs => run rest (pushAll stack vs) := by
  cases ts with
  | nil => rfl
  | cons t ts =>
    have hmore := apart_moreTokens ts h
    rw [moreTokens, List.cons_append, run_cons (.inl rfl), step, pure_bind, List.append_assoc,
      t.run_tokens_append _ (.inr (startsCall_of_apart hmore)), next_of_apart hmore, evalItems]
    simp only [run_moreTokens ts rest h, bind_assoc, pure_bind]
    rfl
termination_by structural ts

theorem run_argTokens (args : Option (List Tree)) : arguments (argTokens args) = evalArgs args := by
  cases args with
  | none => rfl
  | some args =>
    rw [argTokens, arguments_of_run (run_itemTokens args [] trivial []), evalArgs]
termination_by structural args

theorem run_entryTokens (es : List Entry) (rest : List Token) (h : Apart rest) (stack : Stack) :
    run (entryTokens es ++ rest) stack
      = evalEntries es >>= fun kvs => run rest (pushEntries stack kvs) := by
  cases es with
  | nil => rfl
  | cons e es =>
    rw [entryTokens, List.append_assoc, e.run_tokens_append _ (apart_moreEntryTokens es h),
      evalEntries]
    simp only [run_moreEntryTokens es rest h, bind_assoc, pure_bind]
    rfl
termination_by structural es

theorem run_moreEntryTokens (es : List Entry) (rest : List Token) (h : Apart rest) (stack : Stack) :
    run (moreEntryTokens es ++ rest) stack
      = evalEntries es >>= fun kvs => run rest (pushEntries stack kvs) := by
  cases es with
  | nil => rfl
  | cons e es =>
    rw [moreEntryTokens, List.cons_append, run_cons (.inl rfl), step, pure_bind, List.append_assoc,
      e.run_tokens_append _ (apart_moreEntryTokens es h), evalEntries]
    simp only [run_moreEntryTokens es rest h, bind_assoc, pure_bind]
    rfl
termination_by structural es

/-- An entry puts its key on the stack and then its value. -/
theorem Entry.run_tokens_append (e : Entry) (rest : List Token) (h : Apart rest) (stack : Stack) :
    run (e.tokens ++ rest) stack
      = e.eval >>= fun kv => run rest (push (.key kv.1 :: stack) kv.2) := by
  cases e with
  | plain key value =>
    rw [Entry.tokens, List.cons_append, run_cons (.inl rfl), step, pure_bind,
      value.run_tokens_append _ (.inr (startsCall_of_apart h)), next_of_apart h, Entry.eval]
    simp only [bind_assoc, pure_bind]
  | computed key value =>
    have hkey := run_of_append (run_itemTokens key [] trivial [])
    rw [Entry.tokens, List.cons_append, run_cons (.inl rfl), step, hkey, Entry.eval]
    simp only [run, bind_assoc, pure_bind, Stack.values_pushAll_nil,
      value.run_tokens_append _ (.inr (startsCall_of_apart h)), next_of_apart h]
    rfl
termination_by structural e

end

/-- **Running is evaluating.**  Where what follows does not belong to the lookups of a tree, running
the tokens of the tree is its evaluation from left to right, and goes on with one more value on the
stack.  Programs are equal only if they ask for the same in the same order, so nothing of the tree
is evaluated twice or out of turn, and the first failure is the same. -/
theorem run_tokens (t : Tree) (rest : List Token) (h : Apart rest) (stack : Stack) :
    run (t.tokens ++ rest) stack = t.eval {} >>= fun v => run rest (push stack v) := by
  rw [t.run_tokens_append rest (.inr (startsCall_of_apart h)), next_of_apart h]

/-- Inside an array, what follows may be a comma and the end. -/
theorem run_tokens_comma :
    run [.variable "a", .keyPeriod "b", .comma, .arrayEnd] [.arrayStart]
      = (Tree.keyPeriod (.variable "a") "b").eval {} >>= fun v =>
          run [.comma, .arrayEnd] [.value v, .arrayStart] :=
  run_tokens (.keyPeriod (.variable "a") "b") [.comma, .arrayEnd] trivial [.arrayStart]

/-- A program may come to ask for something. -/
inductive Asks {α : Type} (wanted : Request) : Program α → Prop where
  | here (next : wanted.Answer → Program α) : Asks wanted (.ask wanted next)
  | later {r : Request} {next : r.Answer → Program α} (answer : r.Answer)
    (h : Asks wanted (next answer)) : Asks wanted (.ask r next)

/-- In `a.b(f())` the call of `f` is not evaluated if `a.b` is a text. -/
theorem run_keyPeriod_call_skips :
    let scope := Scope.start default [("a", .object 0 [("b", .string "x")])]
    Asks (.function "f" []) ((Tree.function "f" []).eval {} scope) ∧
      ¬ Asks (.function "f" [])
        (run (Tree.call (.keyPeriod (.variable "a") "b") [.function "f" []]).tokens [] scope) := by
  intro scope
  refine ⟨.here _, ?_⟩
  have hdone : run (Tree.call (.keyPeriod (.variable "a") "b") [.function "f" []]).tokens [] scope
      = .done (.ok [.value (.string "x")], scope) := by
    rfl
  rw [hdone]
  nofun

end Stencil.Expr
