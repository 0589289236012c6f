import Stencil.Proofs.Literals.Functions
import Stencil.Proofs.Settings.Expressions

/-!
# Literals on the stack

The starts of literals that wait on the stack of an evaluation are those that the tokens so far have
left open (`Stack.Holds`).  Each token keeps it so: the end of a literal finds its start above all
others, since it does so in the tokens.  What is evaluated for the sake of one token, on a stack of
its own, is sound and leaves nothing open.  So a sound expression ends on a stack without starts,
and does not fail for want of one (`conserves_run`).
-/
namespace Stencil.Expr
open Rendering

variable {P : Expr → Prop}

/-! ## Stacks -/

/-- A value on the stack holds only such expressions. -/
def Item.Holds (P : Expr → Prop) : Item → Prop
  | .value v => v.Holds P
  | _ => True

namespace Stack

/-- The literals whose starts are on the stack, the last one first. -/
def opens (s : Stack) : List Pending := s.filterMap fun
  | .arrayStart => some .arrayStart
  | .objectStart => some .objectStart
  | _ => none

/-- The literals that are open on the stack, and what its values hold. -/
structure Holds (P : Expr → Prop) (around : List Pending) (s : Stack) : Prop where
  items : ∀ item ∈ s, item.Holds P
  opens : s.opens = around

/-- No start of a literal is left on the stack. -/
def Closed (s : Stack) : Prop := .arrayStart ∉ s ∧ .objectStart ∉ s

theorem Holds.closed {s : Stack} (h : s.Holds P []) : s.Closed := by
  have hnone := List.filterMap_eq_nil_iff.mp h.opens
  constructor
  · intro hmem
    cases hnone _ hmem
  · intro hmem
    cases hnone _ hmem

theorem holds_nil : Holds P [] [] := ⟨List.forall_mem_nil _, rfl⟩

section
variable {around : List Pending} {s : Stack} (h : s.Holds P around)
include h

/-- A value or a key opens nothing. -/
theorem Holds.cons (item : Item) (hitem : item.Holds P)
    (hopens : Stack.opens (item :: s) = Stack.opens s) : Holds P around (item :: s) :=
  ⟨List.forall_mem_cons.mpr ⟨hitem, h.items⟩, hopens.trans h.opens⟩

theorem Holds.push {v : Value} (hv : v.Holds P) : Holds P around (push s v) := h.cons _ hv rfl

theorem Holds.values : ∀ v ∈ s.values, v.Holds P := by
  intro v hv
  obtain ⟨item, hitem, hvalue⟩ := List.mem_filterMap.mp hv
  have hholds := h.items item (List.mem_reverse.mp hitem)
  cases item with
  | value other =>
    cases hvalue
    exact hholds
  | _ => cases hvalue

/-- The value that an expression leaves. -/
theorem Holds.last : (s.values.getLast?.getD .undefined).Holds P := by
  cases hlast : s.values.getLast? with
  | none => trivial
  | some v => exact h.values v (List.mem_of_getLast? hlast)

theorem Holds.pop : Yields Cause.Balanced (fun r => r.1.Holds P ∧ Holds P around r.2) s.pop := by
  cases s with
  | nil => exact ⟨by decide, by decide⟩
  | cons item rest =>
    obtain ⟨hitem, hrest⟩ := List.forall_mem_cons.mp h.items
    cases item with
    | value v => exact ⟨hitem, hrest, h.opens⟩
    | _ => exact ⟨by decide, by decide⟩

end

/-- The end of an array finds the start. -/
theorem Holds.collectArray {around : List Pending} {s : Stack}
    (h : s.Holds P (.arrayStart :: around)) {items : List Value} (hitems : ∀ v ∈ items, v.Holds P) :
    Yields Cause.Balanced (fun r => (∀ v ∈ r.1, v.Holds P) ∧ Holds P around r.2)
      (collectArray items s) := by
  -- an empty stack, or an object started above the array, is not what `h.opens` says
  induction s generalizing items with
  | nil => cases h.opens
  | cons item rest ih =>
    obtain ⟨hitem, hrest⟩ := List.forall_mem_cons.mp h.items
    cases item with
    | value v => exact ih ⟨hrest, h.opens⟩ (List.forall_mem_cons.mpr ⟨hitem, hitems⟩)
    | arrayStart => exact ⟨hitems, hrest, (List.cons.inj h.opens).2⟩
    | objectStart => cases h.opens
    | key name => exact Cause.balanced_reason (by simp)

/-- The end of an object finds the start. -/
theorem Holds.collectObject {around : List Pending} {s : Stack}
    (h : s.Holds P (.objectStart :: around)) {items : Stack}
    (hitems : ∀ item ∈ items, item.Holds P) :
    Yields Cause.Balanced (fun r => (∀ item ∈ r.1, item.Holds P) ∧ Holds P around r.2)
      (collectObject items s) := by
  induction s generalizing items with
  | nil => cases h.opens
  | cons item rest ih =>
    obtain ⟨hitem, hrest⟩ := List.forall_mem_cons.mp h.items
    have hmore := List.forall_mem_cons.mpr ⟨hitem, hitems⟩
    cases item with
    | value v => exact ih ⟨hrest, h.opens⟩ hmore
    | key name => exact ih ⟨hrest, h.opens⟩ hmore
    | objectStart => exact ⟨hitems, hrest, (List.cons.inj h.opens).2⟩
    | arrayStart => cases h.opens

theorem yields_entries {s : Stack} (h : ∀ item ∈ s, item.Holds P) :
    Yields Cause.Balanced (Dict.All (Value.Holds P)) s.entries := by
  fun_induction entries s with
  | case1 => exact Dict.all_nil
  | case2 name v rest ih =>
    obtain ⟨hv, hrest⟩ := List.forall_mem_cons.mp (List.forall_mem_cons.mp h).2
    exact (ih hrest).bind fun more hmore => Dict.all_cons.mpr ⟨hv, hmore⟩
  | case3 => exact Cause.balanced_of_ne (by rintro _ ⟨⟩)
  | case4 => exact ⟨by decide, by decide⟩

end Stack

/-! ## Operators and literals -/

theorem yields_rangeItems (a b : Value) :
    Yields Cause.Balanced (fun _ => True) (Value.rangeItems a b) := by
  unfold Value.rangeItems
  dsimp only
  split
  · split
    · exact Cause.balanced_of_ne (by rintro _ ⟨⟩)
    · trivial
  · split
    · exact Cause.balanced_of_ne (by rintro _ ⟨⟩)
    · split
      · exact Cause.balanced_of_ne (by rintro _ ⟨⟩)
      · trivial

theorem yields_matchesPattern (a b : Value) :
    Yields Cause.Balanced (fun _ => True) (Value.matchesPattern a b) := by
  unfold Value.matchesPattern
  dsimp only
  split
  · trivial
  · exact Cause.balanced_of_ne (by rintro _ ⟨⟩)

theorem BinaryOp.yields_apply (op : BinaryOp) (identity : Nat) {a b : Value} (ha : a.Holds P)
    (hb : b.Holds P) : Yields Cause.Balanced (Value.Holds P) (op.apply identity a b) := by
  -- what a result holds is known (`within_apply`), so only the causes are gone through
  have hcause : Yields Cause.Balanced (fun _ => True) (op.apply identity a b) := by
    cases op with
    | range => exact (yields_rangeItems a b).bind fun _ _ => trivial
    | «matches» => exact (yields_matchesPattern a b).bind fun _ _ => trivial
    | conditional => exact Cause.balanced_of_ne (by rintro _ ⟨⟩)
    | _ => trivial
  cases h : op.apply identity a b with
  | ok v => exact BinaryOp.within_apply ha hb h
  | error failure =>
    rw [h] at hcause
    exact hcause

section
variable {around : List Pending} {s : Stack} (h : s.Holds P around)
include h

theorem conserves_pop :
    Conserves P (fun r => r.1.Holds P ∧ Stack.Holds P around r.2) (settle s.pop) :=
  gives_settle h.pop

theorem conserves_applyToStack {f : Value → Rendering Value}
    (hf : ∀ v : Value, v.Holds P → Conserves P (Value.Holds P) (f v)) :
    Conserves P (Stack.Holds P around) (applyToStack s f) :=
  (conserves_pop h).bind fun r hr => (hf r.1 hr.1).bind fun _ hv => gives_pure (hr.2.push hv)

theorem conserves_choose : Conserves P (Stack.Holds P around) (settle (choose s)) := by
  rw [settle_choose]
  refine (conserves_pop h).bind fun otherwise hotherwise => (conserves_pop hotherwise.2).bind
    fun then_ hthen => (conserves_pop hthen.2).bind fun condition hcondition =>
      gives_pure (hcondition.2.push ?_)
  split
  · exact hthen.1
  · exact hotherwise.1

theorem conserves_applyBinary (op : BinaryOp) :
    Conserves P (Stack.Holds P around) (applyBinary op s) :=
  (conserves_pop h).bind fun _ hb => (conserves_pop hb.2).bind fun _ ha => conserves_fresh.bind
    fun identity _ => (gives_settle (op.yields_apply identity ha.1 hb.1)).bind fun _ hv =>
      gives_pure (ha.2.push hv)

end

theorem conserves_endArray {around : List Pending} {s : Stack}
    (h : s.Holds P (.arrayStart :: around)) : Conserves P (Stack.Holds P around) (endArray s) :=
  (gives_settle (h.collectArray (List.forall_mem_nil _))).bind fun _ hr => conserves_fresh.bind
    fun _ _ => gives_pure (hr.2.push (Value.holds_array _ hr.1))

theorem conserves_endObject {around : List Pending} {s : Stack}
    (h : s.Holds P (.objectStart :: around)) : Conserves P (Stack.Holds P around) (endObject s) :=
  (gives_settle (h.collectObject (List.forall_mem_nil _))).bind fun _ hr =>
    (gives_settle (Stack.yields_entries hr.1)).bind fun _ hentries => conserves_fresh.bind
      fun _ _ => gives_pure (hr.2.push (Value.holds_object _ hentries.ofPairs))

theorem conserves_keyPeriod (name : String) (rest : List Token) {object : Value}
    (hobject : object.Holds P) : Conserves P (Value.Holds P) (do
      let v ← lookUpKey object name .object (testedForDefinition rest)
      if v.isCallable then invoke v (some object) [] else return v) := by
  refine (conserves_lookUpKey hobject name _ _).bind fun v hv => ?_
  split
  · exact conserves_invoke hv (holds_receiver hobject) (List.forall_mem_nil _)
  · exact gives_pure hv

/-! ## Expressions -/

mutual

/-- **Sound tokens evaluate without failing for a literal**, and the literals that are open on the
stack behind them are those that they leave open. -/
theorem conserves_run (hP : ∀ e, Sound e → P e) (ts : List Token) (hinside : ∀ t ∈ ts, t.Sound)
    {around within : List Pending} (hword : crossAll around ts = some within) {s : Stack}
    (h : s.Holds P around) : Conserves P (Stack.Holds P within) (run ts s) := by
  cases ts with
  | nil =>
    obtain rfl := Option.some.inj hword
    exact gives_pure h
  | cons t rest =>
    obtain ⟨ht, hrest⟩ := List.forall_mem_cons.mp hinside
    rw [crossAll_cons] at hword
    obtain ⟨mid, hcross, hword⟩ := Option.bind_eq_some_iff.mp hword
    have hbehind {s : Stack} (h : s.Holds P mid) := conserves_run hP rest hrest hword h
    have hstep := (conserves_step hP t rest ht hcross h).bind fun _ hs => hbehind hs
    -- a variable or a key takes the call parentheses behind it along; all else is one step
    cases t with
    | «variable» name =>
      cases rest with
      | nil => exact hstep
      | cons next rest =>
        cases next with
        | group args call =>
          cases call with
          | false => exact hstep
          | true =>
            obtain rfl := Option.some.inj hcross
            obtain ⟨hgroup, hrest⟩ := List.forall_mem_cons.mp hrest
            obtain ⟨hargs, hargsInside⟩ := hgroup args List.mem_cons_self
            rw [run]
            refine (conserves_lookUpVariable name _).bind fun v hv => ?_
            split
            · exact (conserves_run hP args hargsInside (hargs.crossAll_eq []) Stack.holds_nil).bind
                fun _ hs => (conserves_invoke hv holds_noReceiver hs.values).bind fun _ hv =>
                  conserves_run hP rest hrest hword (h.push hv)
            · exact hbehind (h.push hv)
        | _ => exact hstep
    | keyPeriod name =>
      cases rest with
      | nil => exact hstep
      | cons next rest =>
        cases next with
        | group args call =>
          cases call with
          | false => exact hstep
          | true =>
            obtain rfl := Option.some.inj hcross
            obtain ⟨hgroup, hrest⟩ := List.forall_mem_cons.mp hrest
            obtain ⟨hargs, hargsInside⟩ := hgroup args List.mem_cons_self
            rw [run]
            refine (conserves_pop h).bind fun r hr => (conserves_lookUpKey hr.1 name _ _).bind
              fun v hv => ?_
            split
            · exact (conserves_run hP args hargsInside (hargs.crossAll_eq []) Stack.holds_nil).bind
                fun _ hs => (conserves_invoke hv (holds_receiver hr.1) hs.values).bind fun _ hv =>
                  conserves_run hP rest hrest hword (hr.2.push hv)
            · exact conserves_run hP rest hrest hword (hr.2.push hv)
        | _ => exact hstep
    | _ => exact hstep
termination_by structural ts

theorem conserves_step (hP : ∀ e, Sound e → P e) (t : Token) (rest : List Token) (ht : t.Sound)
    {around within : List Pending} (hcross : t.cross around = some within) {s : Stack}
    (h : s.Holds P around) : Conserves P (Stack.Holds P within) (step t rest s) := by
  cases t with
  | arrayStart =>
    obtain rfl := Option.some.inj hcross
    exact gives_pure ⟨List.forall_mem_cons.mpr ⟨trivial, h.items⟩, congrArg (_ :: ·) h.opens⟩
  | objectStart =>
    obtain rfl := Option.some.inj hcross
    exact gives_pure ⟨List.forall_mem_cons.mpr ⟨trivial, h.items⟩, congrArg (_ :: ·) h.opens⟩
  | arrayEnd =>
    obtain rfl := Token.cross_arrayEnd hcross
    exact conserves_endArray h
  | objectEnd =>
    obtain rfl := Token.cross_objectEnd hcross
    exact conserves_endObject h
  | number | string | bool | null =>
    obtain rfl := Option.some.inj hcross
    exact gives_pure (h.push trivial)
  | objectKey name =>
    obtain rfl := Option.some.inj hcross
    exact gives_pure (h.cons (.key name) trivial rfl)
  | comma =>
    obtain rfl := Option.some.inj hcross
    exact gives_pure h
  | context =>
    obtain rfl := Option.some.inj hcross
    exact conserves_fresh.bind fun identity _ => conserves_context.bind fun c hc =>
      gives_pure (h.push (Value.holds_object _ hc))
  | «variable» name =>
    obtain rfl := Option.some.inj hcross
    refine (conserves_lookUpVariable name rest).bind fun v hv => ?_
    split
    · exact (conserves_invoke hv holds_noReceiver (List.forall_mem_nil _)).bind fun _ hv =>
        gives_pure (h.push hv)
    · exact gives_pure (h.push hv)
  | lambda params body =>
    obtain rfl := Option.some.inj hcross
    have hbody : P body := hP body (ht body List.mem_cons_self)
    exact conserves_fresh.bind fun identity _ => conserves_template.bind fun t ht =>
      conserves_context.bind fun c hc =>
        gives_pure (h.push (Value.within_lambda.mpr ⟨⟨hbody, ht⟩, hc⟩))
  | function name params =>
    obtain rfl := Option.some.inj hcross
    exact (conserves_arguments hP params ht).bind fun args hargs =>
      (conserves_callFunction hP name hargs).bind fun _ hv => gives_pure (h.push hv)
  | filter name params =>
    obtain rfl := Option.some.inj hcross
    exact (conserves_pop h).bind fun r hr => (conserves_arguments hP params ht).bind
      fun args hargs => (conserves_filter name hr.1 hargs).bind fun _ hv =>
        gives_pure (hr.2.push hv)
  | test name negated params =>
    obtain rfl := Option.some.inj hcross
    exact (conserves_pop h).bind fun r hr => (conserves_arguments hP params ht).bind
      fun args hargs => (conserves_test name hr.1 hargs).bind fun _ _ =>
        gives_pure (hr.2.push trivial)
  | unary op =>
    obtain rfl := Option.some.inj hcross
    exact conserves_applyToStack h fun v _ => gives_pure (UnaryOp.within_apply op v)
  | binary op =>
    obtain rfl := Option.some.inj hcross
    cases op with
    | conditional => exact conserves_choose h
    | _ => exact conserves_applyBinary h _
  | computedKey tokens =>
    obtain rfl := Option.some.inj hcross
    obtain ⟨hkey, hkeyInside⟩ := ht tokens List.mem_cons_self
    exact (conserves_run hP tokens hkeyInside (hkey.crossAll_eq []) Stack.holds_nil).bind fun _ _ =>
      gives_pure (h.cons (.key _) trivial rfl)
  | group tokens call =>
    obtain rfl := Option.some.inj hcross
    obtain ⟨hgroup, hgroupInside⟩ := ht tokens List.mem_cons_self
    have hrun := conserves_run hP tokens hgroupInside (hgroup.crossAll_eq []) Stack.holds_nil
    cases call with
    | false => exact hrun.bind fun _ hs => gives_pure (h.push hs.last)
    | true =>
      exact (conserves_pop h).bind fun r hr => hrun.bind fun _ hs =>
        (conserves_invoke hr.1 holds_noReceiver hs.values).bind fun _ hv =>
          gives_pure (hr.2.push hv)
  | keyPeriod name =>
    obtain rfl := Option.some.inj hcross
    exact conserves_applyToStack h fun object hobject => conserves_keyPeriod name rest hobject
  | keyBrackets tokens params =>
    obtain rfl := Option.some.inj hcross
    obtain ⟨hsound, hparams⟩ := List.forall_mem_cons.mp ht
    obtain ⟨hkey, hkeyInside⟩ := hsound
    refine (conserves_pop h).bind fun r hr =>
      (conserves_run hP tokens hkeyInside (hkey.crossAll_eq []) Stack.holds_nil).bind fun key _ =>
        (conserves_lookUpKey hr.1 _ _ _).bind fun v hv => ?_
    split
    · exact (conserves_arguments hP params hparams).bind fun args hargs =>
        (conserves_invoke hv (holds_receiver hr.1) hargs).bind fun _ hv => gives_pure (hr.2.push hv)
    · exact gives_pure (hr.2.push hv)
  | slice start stop =>
    obtain rfl := Option.some.inj hcross
    rw [step]
    exact conserves_applyToStack h fun v hv => conserves_fresh.bind fun identity _ =>
      gives_pure (hv.slice identity start stop)
termination_by structural t

theorem conserves_arguments (hP : ∀ e, Sound e → P e) (params : Option (List Token))
    (hparams : ∀ tokens ∈ params.toList, Sound tokens) :
    Conserves P (fun args => ∀ v ∈ args, v.Holds P) (arguments params) := by
  cases params with
  | none => exact gives_pure (List.forall_mem_nil _)
  | some tokens =>
    obtain ⟨hword, hinside⟩ := hparams tokens List.mem_cons_self
    rw [arguments]
    exact (conserves_run hP tokens hinside (hword.crossAll_eq []) Stack.holds_nil).bind fun _ hs =>
      gives_pure hs.values
termination_by structural params

end

end Stencil.Expr
