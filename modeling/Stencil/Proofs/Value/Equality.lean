import Mathlib.Data.List.Perm.Subperm
import Stencil.Proofs.Dict
import Stencil.Value.Document
import Stencil.Value.Operators

/-!
# Loose equality from both sides

Loose equality asks its questions in an order and looks at the left value first: whether one of the
two is missing, then whether both are containers of one kind, then functions, texts and numbers.
None of the answers depends on which value stands on the left (`Value.looseEq_comm`).  For objects
only the entries of the left one are looked up in the other; as both have as many entries, and each
key once (`Value.Keyed`), no key of the other is left over, so that two objects are equal if they
have the same keys with equal values (`Value.looseEq_object_iff`).
-/
namespace Stencil

/-! ## Numbers -/

namespace Number
open Float.Model (UnpackedFloat)

/-- The order of two floats is reversed from the other side. -/
theorem swap_compare (x y : UnpackedFloat) : (x.compare y).map Ordering.swap = y.compare x := by
  cases x with
  | notANumber => cases y <;> rfl
  | infinity s =>
    cases y with
    | infinity t => cases s <;> cases t <;> rfl
    | _ => cases s <;> rfl
  | zero s =>
    cases y with
    | infinity t => cases t <;> rfl
    | finite t n f hn => cases t <;> rfl
    | _ => rfl
  | finite s m e hm =>
    cases y with
    | notANumber => rfl
    | infinity t => cases s <;> cases t <;> rfl
    | zero t => cases s <;> rfl
    | finite t n f hn =>
      have hswap : ((compare e f).then (compare m n)).swap = (compare f e).then (compare n m) := by
        rw [Ordering.swap_then, Int.compare_swap, Nat.compare_swap]
      cases s with
      | positive =>
        cases t with
        | positive => exact congrArg some hswap
        | negative => rfl
      | negative =>
        cases t with
        | positive => rfl
        | negative => exact congrArg (fun o => some o.swap) hswap

theorem beq_comm (x y : Float) : (x == y) = (y == x) := by
  have hswap := swap_compare x.toModel.unpack y.toModel.unpack
  show (x.toModel.unpack.compare y.toModel.unpack == some .eq)
    = (y.toModel.unpack.compare x.toModel.unpack == some .eq)
  rw [← hswap]
  cases x.toModel.unpack.compare y.toModel.unpack with
  | none => rfl
  | some o => cases o <;> rfl

end Number

/-! ## Dictionaries with the same keys -/

namespace Dict
variable {α : Type} {R S : α → α → Prop} {d e : Dict α}

/-- Two dictionaries bind the same names, in whatever order, and the values of each name are
related. -/
def Agree (R : α → α → Prop) (d e : Dict α) : Prop :=
  (∀ name, name ∈ d.keys ↔ name ∈ e.keys) ∧
    ∀ name v w, d.find? name = some v → e.find? name = some w → R v w

theorem Agree.swap (h : Agree R d e)
    (hswap : ∀ name v w, d.find? name = some v → e.find? name = some w → R v w → S w v) :
    Agree S e d := by
  refine ⟨fun name => (h.1 name).symm, fun name w v hw hv => ?_⟩
  exact hswap name v w hv hw (h.2 name v w hv hw)

/-- Between dictionaries of one size it is enough to look up the names of one of them: by counting,
the other has no name left. -/
theorem agree_iff_lookups (hd : d.Distinct) (he : e.Distinct) :
    Agree R d e ↔
      d.length = e.length ∧ ∀ entry ∈ d, ∃ w, e.find? entry.1 = some w ∧ R entry.2 w := by
  constructor
  · intro h
    have hperm : d.keys.Perm e.keys := (List.perm_ext_iff_of_nodup hd he).mpr h.1
    have hlength := hperm.length_eq
    rw [keys, keys, List.length_map, List.length_map] at hlength
    refine ⟨hlength, fun entry hentry => ?_⟩
    have hkey : entry.1 ∈ d.keys := List.mem_map_of_mem hentry
    obtain ⟨w, hw⟩ := mem_keys_iff.mp ((h.1 entry.1).mp hkey)
    exact ⟨w, hw, h.2 entry.1 entry.2 w (hd.find?_of_mem hentry) hw⟩
  · rintro ⟨hlength, hlookups⟩
    have hsubset : d.keys ⊆ e.keys := by
      intro name hname
      obtain ⟨v, hv⟩ := mem_keys_iff.mp hname
      obtain ⟨w, hw, -⟩ := hlookups (name, v) (mem_of_find? hv)
      exact mem_keys_iff.mpr ⟨w, hw⟩
    have hle : e.keys.length ≤ d.keys.length := by
      rw [keys, keys, List.length_map, List.length_map]
      exact Nat.le_of_eq hlength.symm
    have hperm := (List.subperm_of_subset hd hsubset).perm_of_length_le hle
    refine ⟨fun name => hperm.mem_iff, fun name v w hv hw => ?_⟩
    obtain ⟨w', hw', hR⟩ := hlookups (name, v) (mem_of_find? hv)
    rw [hw] at hw'
    exact Option.some.inj hw' ▸ hR

end Dict

namespace Value
open Stencil.Expr (BinaryOp)

/-! ## Objects with distinct keys -/

/-- Every object in the value has each of its keys once, as all dictionaries have that are made by
binding names. -/
inductive Keyed : Value → Prop where
  | plain {v : Value} (h : v.isContainer = false) : Keyed v
  | array {identity : Nat} {items : List Value} (h : ∀ v ∈ items, Keyed v) :
    Keyed (.array identity items)
  | object {identity : Nat} {entries : List (String × Value)} (distinct : Dict.Distinct entries)
    (h : ∀ entry ∈ entries, Keyed entry.2) : Keyed (.object identity entries)

theorem Keyed.items {identity : Nat} {items : List Value} (h : Keyed (.array identity items)) :
    ∀ v ∈ items, Keyed v := by
  cases h with
  | plain h => cases h
  | array h => exact h

theorem Keyed.distinct {identity : Nat} {entries : List (String × Value)}
    (h : Keyed (.object identity entries)) : Dict.Distinct entries := by
  cases h with
  | plain h => cases h
  | object distinct _ => exact distinct

theorem Keyed.entries {identity : Nat} {entries : List (String × Value)}
    (h : Keyed (.object identity entries)) : Dict.All Keyed entries := by
  cases h with
  | plain h => cases h
  | object _ h => exact h

mutual

/-- Values out of documents have distinct keys, also where a document repeats one. -/
theorem keyed_ofJson (next : Nat) (j : Json) : Keyed (ofJson next j).1 := by
  match j with
  | .null | .bool _ | .int _ | .float _ | .str _ => exact .plain rfl
  | .arr items => exact .array (keyed_ofItems (next + 1) items)
  | .obj members =>
    refine .object (Dict.distinct_nil.merge _) ?_
    exact Dict.All.ofPairs (keyed_ofMembers (next + 1) members)

theorem keyed_ofItems (next : Nat) (items : List Json) :
    ∀ v ∈ (ofItems next items).1, Keyed v := by
  match items with
  | [] => exact List.forall_mem_nil _
  | j :: rest => exact List.forall_mem_cons.mpr ⟨keyed_ofJson next j, keyed_ofItems _ rest⟩

theorem keyed_ofMembers (next : Nat) (members : List (String × Json)) :
    Dict.All Keyed (ofMembers next members).1 := by
  match members with
  | [] => exact Dict.all_nil
  | (_, j) :: rest => exact Dict.all_cons.mpr ⟨keyed_ofJson next j, keyed_ofMembers _ rest⟩

end

/-! ## Values that are not containers of one kind -/

/-- The first two questions about numbers and truth values are cases of the last one. -/
theorem looseEqSimple_eq (a b : Value) : looseEqSimple a b =
    if a.isNone || b.isNone then a.isNone && b.isNone
    else match a.functionIdentity?, b.functionIdentity? with
      | some i, some j => i == j
      | _, _ =>
        match a.string?, b.string? with
        | some s, some t => s == t
        | _, _ => a.isScalar && b.isScalar && a.toNumber == b.toNumber := by
  unfold looseEqSimple
  split
  · rfl
  · split
    · rfl
    · next x y _ => cases x <;> cases y <;> decide
    · rfl

theorem looseEqSimple_comm (a b : Value) : looseEqSimple a b = looseEqSimple b a := by
  rw [looseEqSimple_eq, looseEqSimple_eq, Bool.or_comm, Bool.and_comm]
  by_cases hnone : (b.isNone || a.isNone) = true
  · rw [if_pos hnone, if_pos hnone]
  rw [if_neg hnone, if_neg hnone]
  have hnumbers : (a.isScalar && b.isScalar && a.toNumber == b.toNumber)
      = (b.isScalar && a.isScalar && b.toNumber == a.toNumber) := by
    rw [Number.beq_comm, Bool.and_comm a.isScalar]
  have htexts : (match a.string?, b.string? with
        | some s, some t => s == t
        | _, _ => a.isScalar && b.isScalar && a.toNumber == b.toNumber)
      = match b.string?, a.string? with
        | some s, some t => s == t
        | _, _ => b.isScalar && a.isScalar && b.toNumber == a.toNumber := by
    rw [hnumbers]
    cases a.string? <;> cases b.string? <;> simp [BEq.comm]
  rw [htexts]
  cases a.functionIdentity? <;> cases b.functionIdentity? <;> simp [BEq.comm]

theorem looseEq_plain {a : Value} (h : a.isContainer = false) (b : Value) :
    a.looseEq b = looseEqSimple a b := by
  cases a with
  | array => cases h
  | object => cases h
  | _ => rfl

theorem looseEq_plain_right (a : Value) {b : Value} (h : b.isContainer = false) :
    a.looseEq b = looseEqSimple a b := by
  cases b with
  | array => cases h
  | object => cases h
  | _ => cases a <;> rfl

/-! ## Arrays and objects -/

theorem looseEqItems_comm {as bs : List Value}
    (h : ∀ a ∈ as, ∀ b ∈ bs, a.looseEq b = b.looseEq a) :
    looseEqItems as bs = looseEqItems bs as := by
  induction as generalizing bs with
  | nil => cases bs <;> rfl
  | cons a as ih =>
    cases bs with
    | nil => rfl
    | cons b bs =>
      have hrest := ih fun x hx y hy =>
        h x (List.mem_cons_of_mem a hx) y (List.mem_cons_of_mem b hy)
      rw [looseEqItems, looseEqItems, h a List.mem_cons_self b List.mem_cons_self, hrest]

theorem looseEqEntries_iff (xs ys : Dict Value) :
    looseEqEntries xs ys = true ↔
      ∀ entry ∈ xs, ∃ w, ys.find? entry.1 = some w ∧ entry.2.looseEq w = true := by
  induction xs with
  | nil => simp [looseEqEntries]
  | cons entry rest ih =>
    obtain ⟨key, v⟩ := entry
    rw [looseEqEntries, looseEqEntry, Bool.and_eq_true, ih, List.forall_mem_cons]
    refine and_congr_left fun _ => ?_
    cases ys.find? key with
    | none => simp
    | some w => simp

/-- Two objects are equal if they have the same keys with equal values, in whatever order. -/
theorem looseEq_object_iff {i j : Nat} {xs ys : Dict Value} (hxs : xs.Distinct)
    (hys : ys.Distinct) :
    (Value.object i xs).looseEq (.object j ys) = true ↔
      Dict.Agree (fun v w => v.looseEq w = true) xs ys := by
  rw [Dict.agree_iff_lookups hxs hys, ← looseEqEntries_iff]
  show (xs.length == ys.length && looseEqEntries xs ys) = true ↔ _
  rw [Bool.and_eq_true, beq_iff_eq]

theorem Keyed.looseEq_swap {a b : Value} (ha : a.Keyed) (hb : b.Keyed) :
    a.looseEq b = b.looseEq a := by
  -- on what the left value is made of; a container of another kind, or none, is on either side a
  -- matter of simple equality, to which it does not matter what is in a container
  induction ha generalizing b with
  | plain h => rw [looseEq_plain h, looseEq_plain_right b h, looseEqSimple_comm]
  | @array i items h ih =>
    cases b with
    | array j others =>
      exact looseEqItems_comm fun v hv w hw => ih v hv (hb.items w hw)
    | object j others => rfl
    | _ => exact looseEqSimple_comm (.array 0 []) _
  | @object i entries distinct h ih =>
    cases b with
    | object j others =>
      rw [Bool.eq_iff_iff, looseEq_object_iff distinct hb.distinct,
        looseEq_object_iff hb.distinct distinct]
      have hpair (name : String) (v w : Value) (hv : Dict.find? entries name = some v)
          (hw : Dict.find? others name = some w) : v.looseEq w = w.looseEq v :=
        ih (name, v) (Dict.mem_of_find? hv) (hb.entries.find? hw)
      constructor
      · intro hagree
        exact hagree.swap fun name v w hv hw heq => hpair name v w hv hw ▸ heq
      · intro hagree
        exact hagree.swap fun name w v hw hv heq => (hpair name v w hv hw).symm ▸ heq
    | array j others => rfl
    | _ => exact looseEqSimple_comm (.object 0 []) _

/-- A value that is looked for among others may stand on either side of the comparisons. -/
theorem Keyed.any_looseEq_comm {α : Type} {a : Value} (ha : a.Keyed) (value : α → Value)
    {l : List α} (hl : ∀ x ∈ l, (value x).Keyed) :
    (l.any fun x => a.looseEq (value x)) = l.any fun x => (value x).looseEq a := by
  rw [Bool.eq_iff_iff, List.any_eq_true, List.any_eq_true]
  refine exists_congr fun x => and_congr_right fun hx => ?_
  rw [ha.looseEq_swap (hl x hx)]

/-- To the operators that compare two values loosely it does not matter which stands on the left. -/
structure EqualEitherWay (a b : Value) : Prop where
  comm : a.looseEq b = b.looseEq a
  eq : ∀ identity, BinaryOp.eq.apply identity a b = BinaryOp.eq.apply identity b a
  ne : ∀ identity, BinaryOp.ne.apply identity a b = BinaryOp.ne.apply identity b a
  isIn_array : ∀ identity i items, b = .array i items →
    BinaryOp.isIn.apply identity a b = .ok (.bool (items.any fun item => a.looseEq item)) ∧
      BinaryOp.isIn.apply identity a b = .ok (.bool (items.any fun item => item.looseEq a))
  isIn_object : ∀ identity i entries, b = .object i entries →
    BinaryOp.isIn.apply identity a b = .ok (.bool (entries.any fun e => a.looseEq e.2)) ∧
      BinaryOp.isIn.apply identity a b = .ok (.bool (entries.any fun e => e.2.looseEq a))
  objects : ∀ i j xs ys, a = .object i xs → b = .object j ys →
    (a.looseEq b = true ↔ Dict.Agree (fun v w => v.looseEq w = true) xs ys)

/-- **Loose equality is symmetric**, whatever the two values are and however they are nested. -/
theorem looseEq_comm {a b : Value} (ha : a.Keyed) (hb : b.Keyed) : EqualEitherWay a b where
  comm := ha.looseEq_swap hb
  eq identity := by rw [BinaryOp.apply, BinaryOp.apply, ha.looseEq_swap hb]
  ne identity := by rw [BinaryOp.apply, BinaryOp.apply, ha.looseEq_swap hb]
  isIn_array := by
    rintro identity i items rfl
    refine ⟨?_, rfl⟩
    rw [ha.any_looseEq_comm (fun item => item) hb.items]
    rfl
  isIn_object := by
    rintro identity i entries rfl
    refine ⟨?_, rfl⟩
    rw [ha.any_looseEq_comm Prod.snd hb.entries]
    rfl
  objects := by
    rintro i j xs ys rfl rfl
    exact looseEq_object_iff ha.distinct hb.distinct

/-- Two objects with their entries in different orders and numbers for texts in one another's
place. -/
theorem looseEq_comm_reordered :
    let a := (ofJson 0 (.obj [("x", .int 1), ("y", .arr [.str "2", .bool true, .null])])).1
    let b := (ofJson 2 (.obj [("y", .arr [.int 2, .str "1", .null]), ("x", .str "1.0")])).1
    a.Keyed ∧ b.Keyed ∧ a.looseEq b = true ∧ EqualEitherWay a b := by
  intro a b
  have ha : a.Keyed := keyed_ofJson 0 _
  have hb : b.Keyed := keyed_ofJson 2 _
  exact ⟨ha, hb, by decide +kernel, looseEq_comm ha hb⟩

end Value
end Stencil
