import Stencil.Proofs.Expr.Paths
import Stencil.Proofs.Expr.Steps

/-!
# Slices

A slice takes the part of an array or of a text between two places, which its bounds give from the
start or, if they are negative, from the end, limited to the ends (`part`).  A bound is written with
any number of digits (`Bound`).  One that is no integer of 64 bits is read as if it were not there,
so a bound far beyond one end stands for the other end where it should stand for the near one
(`run_slice`, `run_slice_beyond`).
-/
namespace Stencil.Expr
open Text

/-! ## Places -/

/-- Where a bound lies among `length` places: from the start or, if it is negative, from the end,
and no further than both. -/
def position (length : Nat) (bound : Int) : Nat :=
  (max 0 (min (length : Int) (if bound < 0 then length + bound else bound))).toNat

theorem position_le (length : Nat) (bound : Int) : position length bound ≤ length := by
  unfold position
  omega

/-- The items from one place up to another, all of them if neither bound is given. -/
def part {α : Type} (items : List α) (start stop : Option Int) : List α :=
  let low := start.elim 0 (position items.length)
  let high := stop.elim items.length (position items.length)
  (items.drop low).take (high - low)

theorem slicePlace_eq (length : Nat) (bound : Int) :
    Value.slicePlace length bound = position length bound := by
  unfold Value.slicePlace position
  split <;> omega

theorem sliceOf_eq {α : Type} (items : List α) (start stop : Option Int) :
    Value.sliceOf items start stop = part items start stop := by
  have hplace : Value.slicePlace items.length = position items.length :=
    funext (slicePlace_eq items.length)
  rw [Value.sliceOf, part, hplace, List.drop_take]

/-! ## Bounds -/

/-- A bound as it is written: digits with an optional sign. -/
structure Bound where
  negative : Bool
  digits : List Char
  ne_nil : digits ≠ []
  ascii : digits.all Char.isDigit = true

namespace Bound

def text (b : Bound) : List Char := (if b.negative then ['-'] else []) ++ b.digits

def value (b : Bound) : Int :=
  if b.negative then -(Number.digitsValue b.digits : Int) else Number.digitsValue b.digits

/-- The bound as a slice has it: none if it is no integer of 64 bits. -/
def counted (b : Bound) : Option Int :=
  if Number.minWord ≤ b.value ∧ b.value ≤ Number.maxWord then some b.value else none

variable (b : Bound)

theorem isDigit {c : Char} (hc : c ∈ b.digits) : Text.isDigit c = true := by
  have hdigit := List.all_eq_true.mp b.ascii c hc
  have halphanum : c.isAlphanum = true := by rw [Char.isAlphanum, hdigit, Bool.or_true]
  rw [Text.isDigit, if_pos (toNat_of_isAlphanum halphanum).2, hdigit]

theorem digits_isEmpty : b.digits.isEmpty = false := List.isEmpty_eq_false_iff.mpr b.ne_nil

/-- The first digit is no sign. -/
theorem exists_cons : ∃ c tail, b.digits = c :: tail ∧ c ≠ '-' ∧ c ≠ '+' := by
  obtain ⟨c, tail, hdigits⟩ := List.exists_cons_of_ne_nil b.ne_nil
  have hc := List.all_eq_true.mp b.ascii c (hdigits ▸ List.mem_cons_self)
  refine ⟨c, tail, hdigits, ?_, ?_⟩ <;> rintro rfl <;> cases hc

theorem readWord?_text : Number.readWord? b.text = b.counted := by
  have hlimit : Number.twoTo 63 = 9223372036854775808 := by decide
  have hleast : Number.minWord = -9223372036854775808 := by decide
  have hgreatest : Number.maxWord = 9223372036854775807 := by decide
  by_cases hsign : b.negative = true
  · have htext : b.text = '-' :: b.digits := by rw [text, if_pos hsign]; rfl
    have hvalue : b.value = -(Number.digitsValue b.digits : Int) := if_pos hsign
    rw [htext, counted, hvalue, hleast, hgreatest, Number.readWord?, b.digits_isEmpty, b.ascii,
      hlimit]
    simp only [Bool.not_false, Bool.true_and, decide_eq_true_eq]
    by_cases hfits : Number.digitsValue b.digits ≤ 9223372036854775808
    · rw [if_pos hfits, if_pos (by omega)]
    · rw [if_neg hfits, if_neg (by omega)]
  · obtain ⟨c, tail, hdigits, hdash, hplus⟩ := b.exists_cons
    have htext : b.text = c :: tail := by rw [text, if_neg hsign, hdigits]; rfl
    have hvalue : b.value = Number.digitsValue b.digits := if_neg hsign
    have hindex : Number.readIndex? (9223372036854775808) (c :: tail) =
        if Number.digitsValue b.digits < 9223372036854775808
        then some (Number.digitsValue b.digits) else none := by
      have hall := b.ascii
      rw [hdigits] at hall ⊢
      unfold Number.readIndex?
      split
      · next heq => exact absurd (List.cons.inj heq).1 hplus
      · simp only [List.isEmpty_cons, hall, Bool.not_false, Bool.true_and, decide_eq_true_eq]
    rw [htext, counted, hvalue, hleast, hgreatest, Number.readWord?, hlimit, hindex]
    · by_cases hfits : Number.digitsValue b.digits < 9223372036854775808
      · rw [if_pos hfits, if_pos (by omega)]
        rfl
      · rw [if_neg hfits, if_neg (by omega)]
        rfl
    · intro ds heq
      exact hdash (List.cons.inj heq).1

/-- An optional bound as it is written. -/
def written : Option Bound → List Char
  | none => []
  | some b => b.text

/-- A bound without a sign. -/
theorem bound_unsigned {cs : List Char} (h : ∀ rest, cs ≠ '-' :: rest) :
    Found.bound cs =
      (Number.readWord? (cs.takeWhile Text.isDigit), cs.dropWhile Text.isDigit) := by
  unfold Found.bound
  split
  next sign rest heq =>
    split at heq
    · exact absurd rfl (h _)
    · cases heq
      rfl

/-- A bound is read whole in front of what is no digit. -/
theorem bound_written (b : Option Bound) {c : Char} (hdash : c ≠ '-')
    (hdigit : Text.isDigit c = false) (cs : List Char) :
    Found.bound (written b ++ c :: cs) = (b.bind counted, c :: cs) := by
  have hc : ¬ Text.isDigit c = true := Bool.eq_false_iff.mp hdigit
  cases b with
  | none =>
    rw [written, List.nil_append, bound_unsigned fun rest heq => hdash (List.cons.inj heq).1,
      List.takeWhile_cons_of_neg hc, List.dropWhile_cons_of_neg hc]
    rfl
  | some b =>
    have htake : (b.digits ++ c :: cs).takeWhile Text.isDigit = b.digits := by
      rw [List.takeWhile_append_of_pos fun d hd => b.isDigit hd, List.takeWhile_cons_of_neg hc,
        List.append_nil]
    have hdrop : (b.digits ++ c :: cs).dropWhile Text.isDigit = c :: cs := by
      rw [List.dropWhile_append_of_pos fun d hd => b.isDigit hd, List.dropWhile_cons_of_neg hc]
    have hread := b.readWord?_text
    by_cases hnegative : b.negative = true
    · have htext : b.text = '-' :: b.digits := by rw [text, if_pos hnegative]; rfl
      rw [htext] at hread
      rw [written, htext, List.cons_append, Found.bound]
      simp only [List.singleton_append, htake, hdrop, hread]
      rfl
    · have htext : b.text = b.digits := by rw [text, if_neg hnegative]; rfl
      obtain ⟨d, tail, hdigits, hd, -⟩ := b.exists_cons
      have hunsigned : ∀ rest, b.digits ++ c :: cs ≠ '-' :: rest := by
        rw [hdigits]
        exact fun rest heq => hd (List.cons.inj heq).1
      rw [htext] at hread
      rw [written, htext, bound_unsigned hunsigned, htake, hdrop, hread]
      rfl

end Bound

/-! ## Slices of variables -/

/-- A variable with two bounds behind it, as it is written. -/
def sliceText (name : String) (start stop : Option Bound) : String :=
  name ++ "[" ++ String.ofList (Bound.written start) ++ ":" ++
    String.ofList (Bound.written stop) ++ "]"

theorem slice?_written (start stop : Option Bound) :
    Found.slice? ('[' :: (Bound.written start ++ ':' :: (Bound.written stop ++ [']']))) =
      some (.slice (start.bind Bound.counted) (stop.bind Bound.counted), []) := by
  have hopen (cs : List Char) : after? ['['] ('[' :: cs) = some cs := rfl
  have hcolon (cs : List Char) : after? [':'] (':' :: cs) = some cs := rfl
  have hclose : after? [']'] [']'] = some [] := rfl
  have hstart := Bound.bound_written start (by decide : ':' ≠ '-') (by decide)
    (Bound.written stop ++ [']'])
  have hstop := Bound.bound_written stop (by decide : ']' ≠ '-') (by decide) []
  simp only [Found.slice?, Option.bind_eq_bind, hopen, Option.bind_some, hstart, hcolon, hstop,
    hclose]

theorem compile_slice {name : String} (hname : IsName name) (start stop : Option Bound) :
    compile (sliceText name start stop) =
      .ok (Tree.slice (.variable name) (start.bind Bound.counted)
        (stop.bind Bound.counted)).tokens := by
  have hls : Lexes [] (name.toList ++ '[' :: (Bound.written start ++ ':' ::
      (Bound.written stop ++ [']'])))
      [.variable name, .slice (start.bind Bound.counted) (stop.bind Bound.counted)] :=
    .named hname (nextLexeme_variable hname (by decide) (by decide) (by decide) rfl)
      (.bare (by decide) (nextLexeme_slice (slice?_written start stop) name []) (.done rfl))
  have htext : (sliceText name start stop).toList = name.toList ++ '[' ::
      (Bound.written start ++ ':' :: (Bound.written stop ++ [']'])) := by
    simp [sliceText]
  have hformed : (Tree.slice (.variable name) (start.bind Bound.counted)
      (stop.bind Bound.counted)).WellFormed := ⟨rfl, trivial⟩
  refine compile_eq_tokens hformed ?_
  rw [htext]
  exact hls.lexemes

/-- What a slice of a variable comes to. -/
theorem run_eval_slice (env : Environment) (patience : Patience) (depth : Nat) {name : String}
    (start stop : Option Int) {s : Scope} (w : World) {v : Value}
    (hv : s.context.find? name = some v) (hcall : v.isCallable = false) :
    env.run patience (depth + 1) (evaluate (Tree.slice (.variable name) start stop).tokens s) w =
      .done (.ok (v.slice w.next start stop), s) { w with next := w.next + 1 } := by
  have hvalue : (Path.variable name).value s w.next = (v, w.next) := by rw [Path.value, hv]
  have hplain : (Path.slice (.variable name) start stop).Plain s w.next := by
    rw [Path.Plain, Path.Plain, hvalue]
    exact hcall
  have hfound : ¬ (Path.slice (.variable name) start stop).Misses s w.next := by
    rw [Path.Misses, Path.Misses, hv]
    exact fun hmiss => Option.some_ne_none v hmiss.1
  have hrun := Path.run_eval env patience depth (.slice (.variable name) start stop) {} hplain
    (.inr (.inr hfound))
  rw [Path.value, hvalue] at hrun
  rw [Path.evaluate_tokens]
  exact hrun

/-- **Slices mean what they say**, as far as 64 bits go.  However the bounds are written, a slice of
a variable compiles, and of an array or a text it takes the part between the places of its bounds,
none of them beyond the end; a bound that is no integer of 64 bits counts as not given. -/
theorem run_slice (env : Environment) (patience : Patience) (depth : Nat) {name : String}
    (hname : IsName name) (start stop : Option Bound) :
    (∀ length bound, Value.slicePlace length bound = position length bound ∧
      position length bound ≤ length) ∧
    ∃ x, compile (sliceText name start stop) = .ok x ∧
      ∀ (s : Scope) (w : World),
        (∀ identity items, s.context.find? name = some (.array identity items) →
          env.run patience (depth + 1) (evaluate x s) w =
            .done (.ok (.array w.next
                (part items (start.bind Bound.counted) (stop.bind Bound.counted))), s)
              { w with next := w.next + 1 }) ∧
        (∀ t, s.context.find? name = some (.string t) →
          env.run patience (depth + 1) (evaluate x s) w =
            .done (.ok (.string (String.ofList
                (part t.toList (start.bind Bound.counted) (stop.bind Bound.counted)))), s)
              { w with next := w.next + 1 }) := by
  refine ⟨fun length bound => ⟨slicePlace_eq length bound, position_le length bound⟩, _,
    compile_slice hname start stop, fun s w => ⟨fun identity items hv => ?_, fun t hv => ?_⟩⟩
  · rw [run_eval_slice env patience depth _ _ w hv rfl, Value.slice, sliceOf_eq]
  · rw [run_eval_slice env patience depth _ _ w hv rfl, Value.slice, sliceOf_eq]

/-- The last two of three items. -/
theorem run_slice_last :
    let last : Bound := ⟨true, ['2'], by decide, by decide⟩
    let s := Scope.start ⟨0, none, none, [], {}⟩
      [("xs", .array 0 [.string "a", .string "b", .string "c"])]
    let w : World := { next := 1 }
    ∃ x, compile (sliceText "xs" (some last) none) = .ok x ∧
      (Environment.standard {}).run .immediate 1 (evaluate x s) w =
        .done (.ok (.array 1 [.string "b", .string "c"]), s) { w with next := 2 } := by
  intro last s w
  have hname : IsName "xs" := ⟨by decide, by decide⟩
  obtain ⟨-, x, hx, hrun⟩ := run_slice (.standard {}) .immediate 0 hname (some last) none
  exact ⟨x, hx, (hrun s w).1 0 [.string "a", .string "b", .string "c"] rfl⟩

/-- From far behind the end, all of the items are taken, where there are none. -/
theorem run_slice_beyond :
    let s := Scope.start ⟨0, none, none, [], {}⟩ [("xs", .array 0 [.string "a", .string "b"])]
    let w : World := { next := 1 }
    compile "xs[99999999999999999999:]" = .ok [.variable "xs", .slice none none] ∧
      (Environment.standard {}).run .immediate 1
          (evaluate [.variable "xs", .slice none none] s) w =
        .done (.ok (.array 1 [.string "a", .string "b"]), s) { w with next := 2 } ∧
      part [Value.string "a", Value.string "b"] (some 99999999999999999999) none = [] := by
  intro s w
  refine ⟨rfl, ?_, rfl⟩
  exact run_eval_slice (.standard {}) .immediate 0 none none w
    (v := .array 0 [.string "a", .string "b"]) rfl rfl

end Stencil.Expr
