import Stencil.Value.Operators

/-!
# Ranges and their reverses

The range between two values goes up or down, by integers or by characters.  Which of the two, and
whether there is a range at all, is the same from either end, and the range from the other end is
the reverse (`Value.range_reverse`).  Numbers are cut off and brought into 64 bits first, so that
nothing on the way leaves the integers of a machine (`Number.IsWord.distance_lt`,
`Number.IsWord.between`).
-/
namespace Stencil

namespace Number

/-- An integer of 64 bits. -/
def IsWord (n : Int) : Prop := minWord ≤ n ∧ n ≤ maxWord

theorem minWord_eq : minWord = -9223372036854775808 := by decide

theorem maxWord_eq : maxWord = 9223372036854775807 := by decide

theorem isWord_clamp (n : Int) : IsWord (max minWord (min maxWord n)) := by
  rw [IsWord, minWord_eq, maxWord_eq]
  omega

theorem toWord_of_isFinite {x : Float} (h : isFinite x = true) :
    toWord x = max minWord (min maxWord (truncate x)) := by
  have hnan : isNaN x = false := by
    rw [isFinite, decide_eq_true_eq] at h
    simp only [isNaN, Bool.and_eq_false_iff, beq_eq_false_iff_ne]
    exact .inl (Nat.ne_of_lt h)
  rw [toWord, hnan, if_neg Bool.false_ne_true, if_pos h]

/-- The distance of two integers of 64 bits has 64 bits without a sign. -/
theorem IsWord.distance_lt {i j : Int} (hi : IsWord i) (hj : IsWord j) :
    (i - j).natAbs < twoTo 64 := by
  have htwo : twoTo 64 = 18446744073709551616 := by decide
  rw [IsWord, minWord_eq, maxWord_eq] at hi hj
  rw [htwo]
  omega

/-- What lies on the way from one integer of 64 bits to another is one too. -/
theorem IsWord.between {i j : Int} (hi : IsWord i) (hj : IsWord j) {k : Nat}
    (hk : k ≤ (i - j).natAbs) : IsWord (i + (j - i).sign * k) := by
  rw [IsWord, minWord_eq, maxWord_eq] at hi hj ⊢
  rcases Int.lt_trichotomy i j with hlt | rfl | hlt
  · rw [Int.sign_eq_one_of_pos (by omega)]
    omega
  · rw [Int.sub_self, Int.sign_zero, Int.zero_mul, Int.add_zero]
    exact hi
  · rw [Int.sign_eq_neg_one_of_neg (by omega)]
    omega

end Number

namespace Value
open Stencil.Expr (BinaryOp)

/-! ## Integers in a row -/

theorem integersBetween_of_le {a b : Int} (h : a ≤ b) : integersBetween a b =
    (List.range ((a - b).natAbs + 1)).map fun (i : Nat) => a + i := by
  rw [integersBetween]
  simp only [if_pos h, Int.min_eq_left h]

theorem integersBetween_reverse (a b : Int) :
    integersBetween b a = (integersBetween a b).reverse := by
  have hdistance : (b - a).natAbs = (a - b).natAbs := by omega
  rcases Int.lt_trichotomy a b with hlt | rfl | hlt
  · simp only [integersBetween, if_pos (Int.le_of_lt hlt), if_neg (Int.not_le.mpr hlt), hdistance,
      Int.min_comm]
  · simp [integersBetween]
  · simp only [integersBetween, if_pos (Int.le_of_lt hlt), if_neg (Int.not_le.mpr hlt), hdistance,
      Int.min_comm, List.reverse_reverse]

theorem length_integersBetween (a b : Int) :
    (integersBetween a b).length = (a - b).natAbs + 1 := by
  rw [integersBetween]
  split <;> simp

theorem getElem?_integersBetween (a b : Int) {k : Nat} (hk : k ≤ (a - b).natAbs) :
    (integersBetween a b)[k]? = some (a + (b - a).sign * k) := by
  by_cases h : a ≤ b
  · have hsign : (b - a).sign * k = k := by
      rcases Int.lt_or_eq_of_le h with hlt | rfl
      · rw [Int.sign_eq_one_of_pos (by omega), Int.one_mul]
      · have hzero : k = 0 := by omega
        rw [hzero, Int.natCast_zero, Int.mul_zero]
    rw [integersBetween_of_le h, List.getElem?_map, List.getElem?_range (by omega), Option.map_some,
      hsign]
  · have hsign : (b - a).sign = -1 := Int.sign_eq_neg_one_of_neg (by omega)
    have hlength := length_integersBetween b a
    rw [integersBetween_reverse, List.getElem?_reverse (by omega), hlength,
      integersBetween_of_le (by omega), List.getElem?_map, List.getElem?_range (by omega),
      Option.map_some, hsign]
    congr 1
    omega

theorem mem_integersBetween {a b n : Int} :
    n ∈ integersBetween a b ↔ a ≤ n ∧ n ≤ b ∨ b ≤ n ∧ n ≤ a := by
  have hup {a b : Int} (h : a ≤ b) : n ∈ integersBetween a b ↔ a ≤ n ∧ n ≤ b := by
    rw [integersBetween_of_le h, List.mem_map]
    constructor
    · rintro ⟨i, hi, rfl⟩
      rw [List.mem_range] at hi
      omega
    · rintro ⟨hlo, hhi⟩
      exact ⟨(n - a).toNat, List.mem_range.mpr (by omega), by omega⟩
  by_cases h : a ≤ b
  · rw [hup h]
    omega
  · rw [integersBetween_reverse, List.mem_reverse, hup (by omega)]
    omega

theorem pairwise_integersBetween {a b : Int} (h : a ≤ b) :
    (integersBetween a b).Pairwise (· < ·) := by
  rw [integersBetween_of_le h, List.pairwise_map]
  exact List.pairwise_lt_range.imp fun hlt => by omega

/-! ## Characters in a row -/

theorem charsBetween_reverse (c d : Char) : charsBetween d c = (charsBetween c d).reverse := by
  rw [charsBetween, integersBetween_reverse, List.filterMap_reverse, charsBetween]

theorem mem_charsBetween {c d e : Char} :
    e ∈ charsBetween c d ↔ c ≤ e ∧ e ≤ d ∨ d ≤ e ∧ e ≤ c := by
  have hle (x y : Char) : x ≤ y ↔ (x.toNat : Int) ≤ y.toNat := Int.ofNat_le.symm
  rw [charsBetween, List.mem_filterMap, hle, hle, hle, hle, ← mem_integersBetween]
  constructor
  · rintro ⟨n, hn, he⟩
    have hnonneg : (e.toNat : Int) = n := by
      rw [Text.charOf?_eq_some_iff.mp he]
      have hn := mem_integersBetween.mp hn
      omega
    exact hnonneg ▸ hn
  · intro he
    exact ⟨e.toNat, he, Text.charOf?_eq_some_iff.mpr rfl⟩

theorem pairwise_charsBetween {c d : Char} (h : c ≤ d) :
    (charsBetween c d).Pairwise (· < ·) := by
  have hle : (c.toNat : Int) ≤ d.toNat := Int.ofNat_le.mpr h
  rw [charsBetween, List.pairwise_filterMap]
  refine (pairwise_integersBetween hle).imp_of_mem fun hn hm hlt x hx y hy => ?_
  have hx := Text.charOf?_eq_some_iff.mp hx
  have hy := Text.charOf?_eq_some_iff.mp hy
  have hn := mem_integersBetween.mp hn
  show x.toNat < y.toNat
  omega

theorem length_charsBetween_le (c d : Char) :
    (charsBetween c d).length ≤ ((c.toNat : Int) - d.toNat).natAbs + 1 := by
  rw [← length_integersBetween]
  exact List.length_filterMap_le _ _

/-! ## Ranges -/

/-- The number of the value without its fraction, brought into 64 bits. -/
def saturated (v : Value) : Int :=
  max Number.minWord (min Number.maxWord (Number.truncate v.toNumber))

theorem saturated_isWord (v : Value) : Number.IsWord v.saturated :=
  Number.isWord_clamp (Number.truncate v.toNumber)

/-- There is a range between the values: they are two single characters or two finite numbers, and
near enough to one another. -/
def HasRange (a b : Value) : Prop :=
  match a.singleChar?, b.singleChar? with
  | some c, some d => ((c.toNat : Int) - d.toNat).natAbs < maxRangeLength
  | _, _ => Number.isFinite a.toNumber = true ∧ Number.isFinite b.toNumber = true ∧
    (a.saturated - b.saturated).natAbs < maxRangeLength

/-- What stands between the values, both included. -/
def itemsTo (a b : Value) : List Value :=
  match a.singleChar?, b.singleChar? with
  | some c, some d => (charsBetween c d).map fun e => .string e.toString
  | _, _ => (integersBetween a.saturated b.saturated).map fun n => .number (Float.ofInt n)

section
variable {a b : Value} {c d : Char}

theorem hasRange_of_chars (ha : a.singleChar? = some c) (hb : b.singleChar? = some d) :
    HasRange a b ↔ ((c.toNat : Int) - d.toNat).natAbs < maxRangeLength := by
  rw [HasRange, ha, hb]

theorem hasRange_of_numbers (h : a.singleChar? = none ∨ b.singleChar? = none) :
    HasRange a b ↔ Number.isFinite a.toNumber = true ∧ Number.isFinite b.toNumber = true ∧
      (a.saturated - b.saturated).natAbs < maxRangeLength := by
  rw [HasRange]
  split
  · next ha hb => simp [ha, hb] at h
  · rfl

theorem itemsTo_of_chars (ha : a.singleChar? = some c) (hb : b.singleChar? = some d) :
    a.itemsTo b = (charsBetween c d).map fun e => .string e.toString := by
  rw [itemsTo, ha, hb]

theorem itemsTo_of_numbers (h : a.singleChar? = none ∨ b.singleChar? = none) : a.itemsTo b =
    (integersBetween a.saturated b.saturated).map fun n => .number (Float.ofInt n) := by
  rw [itemsTo]
  split
  · next ha hb => simp [ha, hb] at h
  · rfl

/-- Two values are two single characters, or one of them is none. -/
theorem chars_or_numbers (a b : Value) :
    (∃ c d, a.singleChar? = some c ∧ b.singleChar? = some d) ∨
      (a.singleChar? = none ∨ b.singleChar? = none) := by
  cases ha : a.singleChar? with
  | none => exact .inr (.inl rfl)
  | some c =>
    cases hb : b.singleChar? with
    | none => exact .inr (.inr rfl)
    | some d => exact .inl ⟨c, d, rfl, rfl⟩

theorem HasRange.swap (h : HasRange a b) : HasRange b a := by
  rcases chars_or_numbers a b with ⟨c, d, ha, hb⟩ | hnone
  · rw [hasRange_of_chars ha hb] at h
    rw [hasRange_of_chars hb ha]
    omega
  · rw [hasRange_of_numbers hnone] at h
    rw [hasRange_of_numbers hnone.symm]
    obtain ⟨ha, hb, hnear⟩ := h
    exact ⟨hb, ha, by omega⟩

theorem itemsTo_reverse (a b : Value) : b.itemsTo a = (a.itemsTo b).reverse := by
  rcases chars_or_numbers a b with ⟨c, d, ha, hb⟩ | hnone
  · rw [itemsTo_of_chars ha hb, itemsTo_of_chars hb ha, charsBetween_reverse, List.map_reverse]
  · rw [itemsTo_of_numbers hnone, itemsTo_of_numbers hnone.symm, integersBetween_reverse,
      List.map_reverse]

/-- A range is made of what stands between the values if there is one, and fails if not. -/
theorem rangeItems_spec (a b : Value) :
    HasRange a b ∧ rangeItems a b = .ok (a.itemsTo b) ∨
      ¬ HasRange a b ∧ ∃ e, rangeItems a b = .error e := by
  rcases chars_or_numbers a b with ⟨c, d, ha, hb⟩ | hnone
  · rw [hasRange_of_chars ha hb, itemsTo_of_chars ha hb, rangeItems, ha, hb]
    simp only
    split
    · next hfar => exact .inr ⟨Nat.not_lt.mpr hfar, _, rfl⟩
    · next hnear => exact .inl ⟨Nat.not_le.mp hnear, rfl⟩
  · rw [hasRange_of_numbers hnone, itemsTo_of_numbers hnone, rangeItems]
    split
    · next ha hb => simp [ha, hb] at hnone
    · dsimp only
      split
      · next hinfinite =>
        rw [Bool.not_eq_true', Bool.and_eq_false_iff] at hinfinite
        refine .inr ⟨fun h => ?_, _, rfl⟩
        rcases hinfinite with ha | hb
        · exact absurd h.1 (by rw [ha]; exact Bool.false_ne_true)
        · exact absurd h.2.1 (by rw [hb]; exact Bool.false_ne_true)
      · next hfinite =>
        rw [Bool.not_eq_true', Bool.not_eq_false, Bool.and_eq_true] at hfinite
        rw [Number.toWord_of_isFinite hfinite.1, Number.toWord_of_isFinite hfinite.2]
        split
        · next hfar => exact .inr ⟨fun h => Nat.not_lt.mpr hfar h.2.2, _, rfl⟩
        · next hnear => exact .inl ⟨⟨hfinite.1, hfinite.2, Nat.not_le.mp hnear⟩, rfl⟩

theorem range_eq_ok_iff {identity : Nat} {v : Value} :
    BinaryOp.range.apply identity a b = .ok v ↔
      HasRange a b ∧ v = .array identity (a.itemsTo b) := by
  rw [BinaryOp.apply]
  rcases rangeItems_spec a b with ⟨hrange, hitems⟩ | ⟨hnone, e, herror⟩
  · rw [hitems, and_iff_right hrange]
    exact ⟨fun h => (Except.ok.inj h).symm, fun h => congrArg Except.ok h.symm⟩
  · rw [herror, iff_false_intro fun h : HasRange a b ∧ _ => hnone h.1, iff_false]
    exact nofun

theorem range_eq_error_iff {identity : Nat} :
    (∃ e, BinaryOp.range.apply identity a b = .error e) ↔ ¬ HasRange a b := by
  rw [BinaryOp.apply]
  rcases rangeItems_spec a b with ⟨hrange, hitems⟩ | ⟨hnone, e, herror⟩
  · rw [hitems]
    exact iff_of_false (fun ⟨_, h⟩ => nomatch h) fun hnone => hnone hrange
  · rw [herror]
    exact iff_of_true ⟨e, rfl⟩ hnone

end

/-- The items are the integers from `i` to `j` as numbers, one after the other. -/
structure Counts (i j : Int) (items : List Value) : Prop where
  length : items.length = (i - j).natAbs + 1
  item : ∀ k ≤ (i - j).natAbs, items[k]? = some (.number (Float.ofInt (i + (j - i).sign * k)))

/-- The items are the characters from `c` to `d`, all of them, one after the other. -/
def Spells (c d : Char) (items : List Value) : Prop :=
  ∃ cs : List Char, items = cs.map (fun e => .string e.toString) ∧
    (∀ e, e ∈ cs ↔ c ≤ e ∧ e ≤ d ∨ d ≤ e ∧ e ≤ c) ∧
    (c ≤ d → cs.Pairwise (· < ·)) ∧ (d ≤ c → cs.Pairwise (· > ·))

theorem counts_integersBetween (i j : Int) :
    Counts i j ((integersBetween i j).map fun n => .number (Float.ofInt n)) := by
  refine ⟨by rw [List.length_map, length_integersBetween], fun k hk => ?_⟩
  rw [List.getElem?_map, getElem?_integersBetween i j hk, Option.map_some]

theorem spells_charsBetween (c d : Char) :
    Spells c d ((charsBetween c d).map fun e => .string e.toString) := by
  refine ⟨_, rfl, fun e => mem_charsBetween, pairwise_charsBetween, fun h => ?_⟩
  rw [charsBetween_reverse, List.pairwise_reverse]
  exact pairwise_charsBetween h

theorem length_itemsTo_le {a b : Value} (h : HasRange a b) :
    (a.itemsTo b).length ≤ maxRangeLength := by
  rcases chars_or_numbers a b with ⟨c, d, ha, hb⟩ | hnone
  · rw [hasRange_of_chars ha hb] at h
    rw [itemsTo_of_chars ha hb, List.length_map]
    exact Nat.le_trans (length_charsBetween_le c d) h
  · rw [hasRange_of_numbers hnone] at h
    rw [itemsTo_of_numbers hnone, List.length_map, length_integersBetween]
    exact h.2.2

/-- What holds of the range between two values, seen from both ends. -/
structure RangeLaws (a b : Value) : Prop where
  error_iff : ∀ m n, (∃ e, BinaryOp.range.apply m a b = .error e) ↔
    ∃ e, BinaryOp.range.apply n b a = .error e
  /-- A range fails only between ends that are too far apart, or not finite. -/
  ok_iff : ∀ m, (∃ v, BinaryOp.range.apply m a b = .ok v) ↔ HasRange a b
  reverse : ∀ m n v, BinaryOp.range.apply m a b = .ok v →
    ∃ items, v = .array m items ∧ BinaryOp.range.apply n b a = .ok (.array n items.reverse)
  numbers : ∀ m items, (a.singleChar? = none ∨ b.singleChar? = none) →
    BinaryOp.range.apply m a b = .ok (.array m items) → Counts a.saturated b.saturated items
  chars : ∀ m items c d, a.singleChar? = some c → b.singleChar? = some d →
    BinaryOp.range.apply m a b = .ok (.array m items) → Spells c d items
  length_le : ∀ m items, BinaryOp.range.apply m a b = .ok (.array m items) →
    items.length ≤ Number.twoTo 20
  /-- The ends, their distance, and all that lies between them fit into 64 bits. -/
  words : Number.IsWord a.saturated ∧ Number.IsWord b.saturated ∧
    (a.saturated - b.saturated).natAbs < Number.twoTo 64 ∧
    ∀ k : Nat, k ≤ (a.saturated - b.saturated).natAbs →
      Number.IsWord (a.saturated + (b.saturated - a.saturated).sign * k)
  /-- The distance of two characters fits into 32 bits. -/
  codePoints : ∀ c d, a.singleChar? = some c → b.singleChar? = some d →
    ((c.toNat : Int) - d.toNat).natAbs < Number.twoTo 32

/-- **Ranges are bounded and reversible**, between any two values. -/
theorem range_reverse (a b : Value) : RangeLaws a b where
  error_iff m n := by
    rw [range_eq_error_iff, range_eq_error_iff]
    exact not_congr ⟨HasRange.swap, HasRange.swap⟩
  ok_iff m := by
    simp only [range_eq_ok_iff]
    exact ⟨fun ⟨_, h⟩ => h.1, fun h => ⟨_, h, rfl⟩⟩
  reverse m n v h := by
    obtain ⟨hrange, rfl⟩ := range_eq_ok_iff.mp h
    refine ⟨a.itemsTo b, rfl, range_eq_ok_iff.mpr ⟨hrange.swap, ?_⟩⟩
    exact congrArg (Value.array n) (itemsTo_reverse a b).symm
  numbers m items hnone h := by
    obtain ⟨-, hv⟩ := range_eq_ok_iff.mp h
    rw [(Value.array.inj hv).2, itemsTo_of_numbers hnone]
    exact counts_integersBetween a.saturated b.saturated
  chars m items c d ha hb h := by
    obtain ⟨-, hv⟩ := range_eq_ok_iff.mp h
    rw [(Value.array.inj hv).2, itemsTo_of_chars ha hb]
    exact spells_charsBetween c d
  length_le m items h := by
    obtain ⟨hrange, hv⟩ := range_eq_ok_iff.mp h
    rw [(Value.array.inj hv).2]
    exact length_itemsTo_le hrange
  words := by
    have ha := saturated_isWord a
    have hb := saturated_isWord b
    exact ⟨ha, hb, ha.distance_lt hb, fun k hk => ha.between hb hk⟩
  codePoints c d _ _ := by
    have hc := c.val.toNat_lt
    have hd := d.val.toNat_lt
    have htwo : Number.twoTo 32 = 4294967296 := by decide
    show ((c.val.toNat : Int) - d.val.toNat).natAbs < Number.twoTo 32
    rw [htwo]
    omega

end Value
end Stencil
