import Stencil.Engine.Builtins
import Stencil.Proofs.Engine.Depth
import Stencil.Proofs.Expr.Evaluation
import Stencil.Proofs.Expr.PostfixOrder
import Stencil.Proofs.Settings.Adjust

/-!
# Paths and the test for definition

A path is a variable with keys and slices behind it.  Under strict variables a path fails at the
first of its lookups that finds nothing, unless it is tested for definition: then each of its
lookups sees the test at the end, over all that stands between, and what it does not find is
undefined and goes on so (`Path.run_eval`).  The test has an answer therefore, the one that it has
without strict variables (`Path.run_defined`).
-/
namespace Stencil

/-- The scope without strict variables. -/
def Scope.lenient (s : Scope) : Scope := { s with template := s.template.adjust Options.lenient }

namespace Expr

/-- A value that is written down. -/
inductive Literal where
  | number (value : Float)
  | string (value : String)
  | bool (value : Bool)
  | null

namespace Literal

def tree : Literal → Tree
  | .number value => .number value
  | .string value => .string value
  | .bool value => .bool value
  | .null => .null

def value : Literal → Value
  | .number value => .number value
  | .string value => .string value
  | .bool value => .bool value
  | .null => .null

end Literal

/-- A path.  A key may be followed by parentheses. -/
inductive Path where
  | variable (name : String)
  | key (path : Path) (name : String) (args : Option (List Tree))
  /-- A key in brackets, which `text` writes. -/
  | bracket (path : Path) (text : String) (literal : Literal) (args : Option (List Tree))
  | slice (path : Path) (start stop : Option Int)

namespace Path

/-- The path as an expression. -/
def tree : Path → Tree
  | .variable name => .variable name
  | .key path name none => .keyPeriod path.tree name
  | .key path name (some args) => .call (.keyPeriod path.tree name) args
  | .bracket path text literal args => .keyBrackets path.tree text [literal.tree] args
  | .slice path start stop => .slice path.tree start stop

/-- What the path comes to if nothing is called and no lookup fails, and the next free identity
behind it, where `next` is the one before it. -/
def value (s : Scope) (next : Nat) : Path → Value × Nat
  | .variable name =>
    match s.context.find? name with
    | some v => (v, next)
    | none =>
      if name = "_self" then (Value.macrosOf s.template next, next + 1) else (.undefined, next)
  | .key path name _ =>
    let (object, next) := path.value s next
    ((object.lookup? name).getD .undefined, next)
  | .bracket path _ literal _ =>
    let (object, next) := path.value s next
    ((object.lookup? literal.value.text).getD .undefined, next)
  | .slice path start stop =>
    let (whole, next) := path.value s next
    (whole.slice next start stop, next + 1)

/-- Nothing that is reached can be called. -/
def Plain (s : Scope) (next : Nat) : Path → Prop
  | .variable name => ((Path.variable name).value s next).1.isCallable = false
  | .key path name args =>
    path.Plain s next ∧ ((key path name args).value s next).1.isCallable = false
  | .bracket path text literal args =>
    path.Plain s next ∧ ((bracket path text literal args).value s next).1.isCallable = false
  | .slice path _ _ => path.Plain s next

/-- One of the lookups finds nothing. -/
def Misses (s : Scope) (next : Nat) : Path → Prop
  | .variable name => s.context.find? name = none ∧ name ≠ "_self"
  | .key path name _ => path.Misses s next ∨ (path.value s next).1.lookup? name = none
  | .bracket path _ literal _ =>
    path.Misses s next ∨ (path.value s next).1.lookup? literal.value.text = none
  | .slice path _ _ => path.Misses s next

end Path
end Expr

/-- The failure of a lookup. -/
def Cause.IsMiss : Cause → Prop
  | .undefinedVariable _ | .missingKey .. | .emptyContainerKey .. => True
  | _ => False

theorem Value.isMiss_missingKey (v : Value) (key : String) (container : Container) :
    (v.missingKey key container).cause.IsMiss := by
  unfold missingKey
  split <;> trivial

namespace Environment
variable {env : Environment} {patience : Patience} {depth : Nat} {α β : Type}

theorem run_bind_ok {a : Rendering α} {f : α → Rendering β} {x : α} {s mid : Scope}
    {w between : World} (h : env.run patience depth (a s) w = .done (.ok x, mid) between) :
    env.run patience depth ((a >>= f) s) w = env.run patience depth (f x mid) between :=
  run_bind_done h

theorem run_bind_error {a : Rendering α} {f : α → Rendering β} {failure : Failure} {s mid : Scope}
    {w between : World} (h : env.run patience depth (a s) w = .done (.error failure, mid) between) :
    env.run patience depth ((a >>= f) s) w = .done (.error failure, mid) between :=
  run_bind_done h

theorem run_fresh (s : Scope) (w : World) :
    env.run patience depth (Rendering.fresh s) w
      = .done (.ok w.next, s) { w with next := w.next + 1 } := by
  cases depth <;> rfl

end Environment

namespace Expr.Path
open Rendering Environment Value
variable (env : Environment) (patience : Patience) (depth : Nat)

/-- The lookups of a path do not fail: variables are not strict, a test for definition follows, or
nothing is missed. -/
def Spared (s : Scope) (defined : Bool) (misses : Prop) : Prop :=
  s.template.options.strictVariables = false ∨ defined = true ∨ ¬misses

namespace Spared
variable {s : Scope} {defined : Bool} {misses : Prop}

theorem mono {other : Prop} (h : Spared s defined misses) (himp : other → misses) :
    Spared s defined other := by
  rcases h with hlenient | htested | hnone
  · exact .inl hlenient
  · exact .inr (.inl htested)
  · exact .inr (.inr fun hmiss => hnone (himp hmiss))

theorem unchecked (h : Spared s defined misses) (hmiss : misses) :
    (s.template.options.strictVariables && !defined) = false := by
  rcases h with hlenient | htested | hnone
  · rw [hlenient, Bool.false_and]
  · rw [htested, Bool.not_true, Bool.and_false]
  · exact absurd hmiss hnone

end Spared

/-! ## Single lookups -/

theorem run_isStrict (s : Scope) (w : World) :
    env.run patience depth (isStrict s) w = .done (.ok s.template.options.strictVariables, s) w :=
  rfl

/-- A variable that nothing makes fail. -/
theorem run_variableValue {name : String} {s : Scope} {w : World} {defined : Bool}
    (h : Spared s defined ((Path.variable name).Misses s w.next)) :
    env.run patience depth (variableValue name defined s) w
      = .done (.ok ((Path.variable name).value s w.next).1, s)
          { w with next := ((Path.variable name).value s w.next).2 } := by
  have hcontext : env.run patience depth (context s) w = .done (.ok s.context, s) w := rfl
  rw [variableValue, run_bind_ok hcontext, Path.value]
  cases hfind : s.context.find? name with
  | some v => rfl
  | none =>
    dsimp only
    split
    · have htemplate : env.run patience depth (template s) w = .done (.ok s.template, s) w := rfl
      rw [run_bind_ok htemplate, run_bind_ok (run_fresh s w)]
      rfl
    · next hname =>
      rw [run_bind_ok (run_isStrict env patience depth s w), h.unchecked ⟨hfind, hname⟩]
      rfl

theorem run_variableValue_miss {name : String} {s : Scope} {w : World}
    (hstrict : s.template.options.strictVariables = true)
    (hmiss : (Path.variable name).Misses s w.next) :
    env.run patience depth (variableValue name false s) w
      = .done (.error ⟨.undefinedVariable name, none⟩, s) w := by
  have hcontext : env.run patience depth (context s) w = .done (.ok s.context, s) w := rfl
  have hisStrict := run_isStrict env patience depth s w
  rw [hstrict] at hisStrict
  rw [variableValue, run_bind_ok hcontext, hmiss.1]
  dsimp only
  rw [if_neg hmiss.2, run_bind_ok hisStrict]
  rfl

/-- A key of a value, where nothing makes it fail and what it finds cannot be called. -/
theorem run_keyValue {object : Value} {name : String} {container : Container} {defined : Bool}
    {s : Scope} {w : World} (args : Rendering (List Value))
    (hplain : ((object.lookup? name).getD .undefined).isCallable = false)
    (h : Spared s defined (object.lookup? name = none)) :
    env.run patience depth (keyValue object name container defined args s) w
      = .done (.ok ((object.lookup? name).getD .undefined), s) w := by
  have hlookup : env.run patience depth (lookUpKey object name container defined s) w
      = .done (.ok ((object.lookup? name).getD .undefined), s) w := by
    rw [lookUpKey]
    cases hfound : object.lookup? name with
    | some v => rfl
    | none =>
      dsimp only
      rw [run_bind_ok (run_isStrict env patience depth s w), h.unchecked hfound]
      rfl
  rw [keyValue, run_bind_ok hlookup, hplain]
  rfl

theorem run_keyValue_miss {object : Value} {name : String} {container : Container} {s : Scope}
    {w : World} (args : Rendering (List Value))
    (hstrict : s.template.options.strictVariables = true) (hmiss : object.lookup? name = none) :
    env.run patience depth (keyValue object name container false args s) w
      = .done (.error (object.missingKey name container), s) w := by
  have hisStrict := run_isStrict env patience depth s w
  rw [hstrict] at hisStrict
  have hlookup : env.run patience depth (lookUpKey object name container false s) w
      = .done (.error (object.missingKey name container), s) w := by
    rw [lookUpKey, hmiss]
    dsimp only
    rw [run_bind_ok hisStrict]
    rfl
  rw [keyValue, run_bind_error hlookup]

/-! ## Paths -/

theorem evalItems_literal (literal : Literal) :
    evalItems [literal.tree] = pure [literal.value] := by
  cases literal <;> rfl

/-- **A path that nothing makes fail** comes to its value: without strict variables, under a test
for definition, or if no lookup misses. -/
theorem run_eval (p : Path) {s : Scope} {w : World} (next : Next) (hplain : p.Plain s w.next)
    (h : Spared s next.defined (p.Misses s w.next)) :
    env.run patience (depth + 1) (p.tree.eval next s) w
      = .done (.ok (p.value s w.next).1, s) { w with next := (p.value s w.next).2 } := by
  -- Each part of the path sees the test at the end over all that stands between, so that what
  -- spares the whole spares its parts.
  induction p generalizing next with
  | «variable» name =>
    rw [tree, Tree.eval, run_bind_ok (run_variableValue env patience (depth + 1) h), hplain]
    rfl
  | key path name args ih =>
    obtain ⟨hpath, hvalue⟩ := hplain
    have hbefore := ih ⟨false, next.defined⟩ hpath (h.mono .inl)
    have hkey : Spared s next.defined _ := h.mono .inr
    cases args with
    | none =>
      rw [tree, Tree.eval, run_bind_ok hbefore]
      exact run_keyValue env patience (depth + 1) _ hvalue hkey
    | some args =>
      rw [tree, Tree.eval, run_bind_ok hbefore]
      exact run_keyValue env patience (depth + 1) _ hvalue hkey
  | bracket path text literal args ih =>
    obtain ⟨hpath, hvalue⟩ := hplain
    have hbefore := ih ⟨false, next.defined⟩ hpath (h.mono .inl)
    have hkey : Spared s next.defined _ := h.mono .inr
    rw [tree, Tree.eval, run_bind_ok hbefore, evalItems_literal, pure_bind]
    exact run_keyValue env patience (depth + 1) _ hvalue hkey
  | slice path start stop ih =>
    rw [tree, Tree.eval, run_bind_ok (ih ⟨false, next.defined⟩ hplain h),
      run_bind_ok (run_fresh s _)]
    rfl

/-- A path that is not tested fails under strict variables if one of its lookups misses. -/
theorem run_eval_miss (p : Path) {s : Scope} {w : World} {next : Next} (hplain : p.Plain s w.next)
    (hstrict : s.template.options.strictVariables = true) (hnext : next.defined = false)
    (hmiss : p.Misses s w.next) :
    ∃ failure after, failure.cause.IsMiss ∧
      env.run patience (depth + 1) (p.tree.eval next s) w = .done (.error failure, s) after := by
  induction p generalizing next with
  | «variable» name =>
    have hvariable := run_variableValue_miss env patience (depth + 1) hstrict hmiss
    exact ⟨⟨.undefinedVariable name, none⟩, w, trivial, by
      rw [tree, Tree.eval, hnext, run_bind_error hvariable]⟩
  | key path name args ih =>
    by_cases hpath : path.Misses s w.next
    · obtain ⟨failure, after, hcause, hrun⟩ := @ih ⟨false, next.defined⟩ hplain.1 hnext hpath
      refine ⟨failure, after, hcause, ?_⟩
      cases args with
      | none => rw [tree, Tree.eval, run_bind_error hrun]
      | some args => rw [tree, Tree.eval, run_bind_error hrun]
    · have hbefore := run_eval env patience depth path ⟨false, next.defined⟩ hplain.1
        (.inr (.inr hpath))
      have hlookup := hmiss.resolve_left hpath
      refine ⟨(path.value s w.next).1.missingKey name .object,
        { w with next := (path.value s w.next).2 }, isMiss_missingKey _ _ _, ?_⟩
      cases args with
      | none =>
        rw [tree, Tree.eval, run_bind_ok hbefore, hnext]
        exact run_keyValue_miss env patience (depth + 1) _ hstrict hlookup
      | some args =>
        rw [tree, Tree.eval, run_bind_ok hbefore, hnext]
        exact run_keyValue_miss env patience (depth + 1) _ hstrict hlookup
  | bracket path text literal args ih =>
    by_cases hpath : path.Misses s w.next
    · obtain ⟨failure, after, hcause, hrun⟩ := @ih ⟨false, next.defined⟩ hplain.1 hnext hpath
      exact ⟨failure, after, hcause, by rw [tree, Tree.eval, run_bind_error hrun]⟩
    · have hbefore := run_eval env patience depth path ⟨false, next.defined⟩ hplain.1
        (.inr (.inr hpath))
      have hlookup := hmiss.resolve_left hpath
      refine ⟨(path.value s w.next).1.missingKey literal.value.text .array,
        { w with next := (path.value s w.next).2 }, isMiss_missingKey _ _ _, ?_⟩
      rw [tree, Tree.eval, run_bind_ok hbefore, evalItems_literal, pure_bind, hnext]
      exact run_keyValue_miss env patience (depth + 1) _ hstrict hlookup
  | slice path start stop ih =>
    obtain ⟨failure, after, hcause, hrun⟩ := @ih ⟨false, next.defined⟩ hplain hnext hmiss
    exact ⟨failure, after, hcause, by rw [tree, Tree.eval, run_bind_error hrun]⟩

/-! ## With and without strict variables -/

/-- What is looked up without strict variables: the same, or the same up to that setting, since
`_self` has macros of the template. -/
def Relaxed (v relaxed : Value) : Prop := relaxed = v ∨ relaxed = v.adjust Options.lenient

namespace Relaxed
variable {v relaxed : Value}

theorem isCallable_eq (h : Relaxed v relaxed) : relaxed.isCallable = v.isCallable := by
  obtain rfl | rfl := h
  · rfl
  · exact isCallable_adjust _ v

theorem isUndefined_eq (h : Relaxed v relaxed) : relaxed.isUndefined = v.isUndefined := by
  obtain rfl | rfl := h
  · rfl
  · exact isUndefined_adjust _ v

theorem lookup (h : Relaxed v relaxed) (key : String) :
    Relaxed ((v.lookup? key).getD .undefined) ((relaxed.lookup? key).getD .undefined) := by
  obtain rfl | rfl := h
  · exact .inl rfl
  · rw [lookup?_adjust]
    cases v.lookup? key with
    | none => exact .inl rfl
    | some found => exact .inr rfl

theorem slice (h : Relaxed v relaxed) (identity : Nat) (start stop : Option Int) :
    Relaxed (v.slice identity start stop) (relaxed.slice identity start stop) := by
  obtain rfl | rfl := h
  · exact .inl rfl
  · exact .inr (slice_adjust _ v identity start stop)

end Relaxed

theorem value_lenient (p : Path) (s : Scope) (next : Nat) :
    Relaxed (p.value s next).1 (p.value s.lenient next).1 ∧
      (p.value s.lenient next).2 = (p.value s next).2 := by
  induction p with
  | «variable» name =>
    rw [value, value, show s.lenient.context = s.context from rfl]
    cases s.context.find? name with
    | some v => exact ⟨.inl rfl, rfl⟩
    | none =>
      dsimp only
      split
      · exact ⟨.inr (macrosOf_adjust _ s.template next), rfl⟩
      · exact ⟨.inl rfl, rfl⟩
  | key path name args ih => exact ⟨ih.1.lookup name, ih.2⟩
  | bracket path text literal args ih => exact ⟨ih.1.lookup literal.value.text, ih.2⟩
  | slice path start stop ih =>
    refine ⟨?_, congrArg (· + 1) ih.2⟩
    rw [value, value]
    dsimp only
    rw [ih.2]
    exact ih.1.slice _ start stop

theorem Plain.lenient {p : Path} {s : Scope} {next : Nat} (h : p.Plain s next) :
    p.Plain s.lenient next := by
  induction p with
  | «variable» name => exact (value_lenient _ s next).1.isCallable_eq.trans h
  | key path name args ih => exact ⟨ih h.1, (value_lenient _ s next).1.isCallable_eq.trans h.2⟩
  | bracket path text literal args ih =>
    exact ⟨ih h.1, (value_lenient _ s next).1.isCallable_eq.trans h.2⟩
  | slice path start stop ih => exact ih h

/-! ## The test -/

/-- A tree that is evaluated on its own. -/
theorem evaluate_tokens (t : Tree) : evaluate t.tokens = t.eval {} := by
  rw [evaluate, evaluateWith, run_of_append (t.run_tokens_append [] (.inr rfl) _)]
  simp only [List.reverse_nil, List.map_nil, bind_assoc, run, pure_bind]
  exact bind_pure (t.eval {})

/-- The path with the test for definition behind it. -/
def tested (p : Path) (negated : Bool) : Tree := .test p.tree "defined" negated none

theorem precedence_tree (p : Path) : p.tree.precedence = 0 := by
  cases p with
  | key path name args => cases args <;> rfl
  | _ => rfl

theorem wellFormed_tested {p : Path} (h : p.tree.WellFormed) (negated : Bool) :
    (p.tested negated).WellFormed :=
  ⟨p.precedence_tree, h, trivial⟩

/-- The test for definition answers for every value. -/
theorem run_isDefined (hdefined : env.tests.find? "defined" = Test.builtins.find? "defined")
    (v : Value) (s : Scope) (w : World) :
    env.run patience (depth + 1) (ask (.test "defined" v []) s) w
      = .done (.ok (.ok !v.isUndefined), s) w := by
  have htest : (env.test "defined" v []).run = .done (.ok !v.isUndefined) := by
    rw [Environment.test, hdefined]
    rfl
  have hanswer : env.answer patience (depth + 1) (.test "defined" v []) w
      = .done (.ok !v.isUndefined) w := by
    rw [Environment.answer, answerWith, htest]
    rfl
  exact run_ask_done env patience (depth + 1) hanswer

theorem run_eval_tested (hdefined : env.tests.find? "defined" = Test.builtins.find? "defined")
    (p : Path) (negated : Bool) {s : Scope} {w : World} (hplain : p.Plain s w.next) :
    env.run patience (depth + 1) ((p.tested negated).eval {} s) w
      = .done (.ok (.bool ((!(p.value s w.next).1.isUndefined) != negated)), s)
          { w with next := (p.value s w.next).2 } := by
  have hpath := run_eval env patience depth p ⟨true, decide ("defined" = "defined")⟩ hplain
    (.inr (.inl rfl))
  rw [tested, Tree.eval, run_bind_ok hpath]
  refine (run_bind_ok (run_isDefined env patience depth hdefined _ s _)).trans ?_
  rfl

/-- **The test for definition does not fail.**  Let nothing that a path reaches be callable.  Under
strict variables the test at its end gives whether the path comes to anything but undefined without
them, or the opposite if it is negated.  Without the test the path fails for a lookup that finds
nothing if there is one, and else comes to a value. -/
theorem run_defined (hdefined : env.tests.find? "defined" = Test.builtins.find? "defined")
    {p : Path} (hp : p.tree.WellFormed) {negated : Bool} {text tested : String}
    (htext : lexemes text.toList = .ok p.tree.lexemes)
    (htested : lexemes tested.toList = .ok (p.tree.lexemes ++ [.test "defined" negated]))
    {s : Scope} (hstrict : s.template.options.strictVariables = true) {w : World}
    (hplain : p.Plain s w.next) :
    ∃ path test, compile text = .ok path ∧ compile tested = .ok test ∧
      (∃ v after,
        env.run patience (depth + 1) (evaluate path s.lenient) w
          = .done (.ok v, s.lenient) after ∧
        env.run patience (depth + 1) (evaluate test s) w
          = .done (.ok (.bool ((!v.isUndefined) != negated)), s) after) ∧
      ((∃ failure after, failure.cause.IsMiss ∧
        env.run patience (depth + 1) (evaluate path s) w = .done (.error failure, s) after) ↔
        p.Misses s w.next) ∧
      (¬p.Misses s w.next → ∃ v after,
        env.run patience (depth + 1) (evaluate path s) w = .done (.ok v, s) after) := by
  refine ⟨p.tree.tokens, (p.tested negated).tokens, compile_eq_tokens hp htext,
    compile_eq_tokens (wellFormed_tested hp negated) htested, ?_, ?_, ?_⟩
  · obtain ⟨hrelaxed, hnext⟩ := p.value_lenient s w.next
    have hlenient := run_eval env patience depth p {} hplain.lenient (.inl rfl)
    have htest := run_eval_tested env patience depth hdefined p negated hplain
    rw [hnext] at hlenient
    rw [← hrelaxed.isUndefined_eq] at htest
    rw [evaluate_tokens, evaluate_tokens]
    exact ⟨_, _, hlenient, htest⟩
  · rw [evaluate_tokens]
    refine ⟨fun ⟨failure, after, _, hrun⟩ => ?_,
      run_eval_miss env patience depth p hplain hstrict rfl⟩
    by_contra hnone
    have hvalue := run_eval env patience depth p {} hplain (.inr (.inr hnone))
    cases hrun.symm.trans hvalue
  · intro hnone
    rw [evaluate_tokens]
    exact ⟨_, _, run_eval env patience depth p {} hplain (.inr (.inr hnone))⟩

/-- The name of the first two of no tags. -/
theorem run_defined_tags :
    let options : Options := { strictVariables := true }
    let s := Scope.start ⟨0, none, none, [], options⟩
      [("user", .object 0 [("tags", .array 1 [])])]
    let w : World := { next := 2 }
    ∃ path test, compile "user['tags'][:2].name()" = .ok path ∧
      compile "user['tags'][:2].name() is not defined" = .ok test ∧
      (∃ after, (Environment.standard options).run .immediate 1 (evaluate test s) w
        = .done (.ok (.bool true), s) after) ∧
      ∃ failure after, failure.cause.IsMiss ∧
        (Environment.standard options).run .immediate 1 (evaluate path s) w
          = .done (.error failure, s) after := by
  intro options s w
  let p : Path := .key (.slice (.bracket (.variable "user") "'tags'" (.string "tags") none)
    none (some 2)) "name" (some [])
  have hp : p.tree.WellFormed :=
    ⟨rfl, rfl, ⟨rfl, rfl, rfl, trivial, rfl, ⟨trivial, trivial⟩, trivial⟩, trivial⟩
  have htext : lexemes "user['tags'][:2].name()".toList = .ok p.tree.lexemes := rfl
  have htested : lexemes "user['tags'][:2].name() is not defined".toList
      = .ok (p.tree.lexemes ++ [.test "defined" true]) := rfl
  obtain ⟨path, test, hpath, htest, ⟨v, after, hlenient, hrun⟩, hmiss, -⟩ :=
    run_defined (.standard options) .immediate 0 rfl hp htext htested (s := s) rfl
      (w := w) ⟨⟨rfl, rfl⟩, rfl⟩
  obtain rfl : path = p.tree.tokens := Except.ok.inj (hpath.symm.trans (compile_eq_tokens hp htext))
  obtain rfl : v = .undefined := by
    rw [evaluate_tokens] at hlenient
    cases hlenient
    rfl
  exact ⟨_, test, hpath, htest, ⟨_, hrun⟩, hmiss.mpr (.inr rfl)⟩

end Expr.Path
end Stencil
