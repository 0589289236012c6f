import Mathlib.Data.List.DropRight
import Mathlib.Data.List.TakeWhile
import Stencil.Proofs.Text.Quotes

/-!
# Blanks at the end of a text

Readers take no notice of the blanks at the end of a text: on texts that differ in them alone
(`EndsAlike`) they read the same and leave texts that differ in them alone (`Steady`).
-/
namespace Stencil.Text

/-! ## Characters that are not blank -/

/-- The ranges of two tables have nothing in common. -/
def disjointRanges (table other : List (Nat × Nat)) : Bool :=
  table.all fun range => other.all fun range' => range.2 < range'.1 || range'.2 < range.1

theorem inRanges_of_disjoint {table other : List (Nat × Nat)} {n : Nat}
    (hdisjoint : disjointRanges table other = true) (h : inRanges table n = true) :
    inRanges other n = false := by
  rw [inRanges, List.any_eq_true] at h
  obtain ⟨range, hmem, hrange⟩ := h
  rw [inRanges, List.any_eq_false]
  intro range' hmem'
  have hapart := List.all_eq_true.mp (List.all_eq_true.mp hdisjoint range hmem) range' hmem'
  simp only [Bool.and_eq_true, Bool.or_eq_true, decide_eq_true_eq] at hrange hapart ⊢
  omega

/-- In ASCII only a space and what comes before it can be blank. -/
theorem toNat_le_of_isBlank {c : Char} (h : isBlank c = true) (hc : c.toNat < 0x80) :
    c.toNat ≤ 0x20 := by
  have hascii : inRanges [(0x21, 0x7F)] c.toNat = false := inRanges_of_disjoint (by decide) h
  simp only [inRanges, List.any_cons, List.any_nil, Bool.or_false, Bool.and_eq_false_iff,
    decide_eq_false_iff_not] at hascii
  omega

/-- The letters and digits of ASCII come after the space and before the end of ASCII. -/
theorem toNat_of_isAlphanum {c : Char} (h : c.isAlphanum = true) :
    0x20 < c.toNat ∧ c.toNat < 0x80 := by
  have hval : c.toNat = c.val.toNat := rfl
  have hranges : ((decide (65 ≤ c.val ∧ c.val ≤ 90) ||
      decide (97 ≤ c.val) && decide (c.val ≤ 122)) ||
        (decide (48 ≤ c.val) && decide (c.val ≤ 57))) = true := h
  simp only [Bool.or_eq_true, Bool.and_eq_true, decide_eq_true_eq, UInt32.le_iff_toNat_le,
    UInt32.reduceToNat] at hranges
  omega

theorem isAlphanum_of_toNat_le {c : Char} (h : c.toNat ≤ 0x20) : c.isAlphanum = false :=
  Bool.eq_false_iff.mpr fun halphanum => absurd (toNat_of_isAlphanum halphanum).1 (Nat.not_lt.mpr h)

theorem isBlank_of_isWord {c : Char} (h : isWord c = true) : isBlank c = false := by
  rw [Bool.eq_false_iff]
  intro hblank
  rw [isWord] at h
  split at h
  · next hascii =>
    have hle := toNat_le_of_isBlank hblank hascii
    rw [isAlphanum_of_toNat_le hle, Bool.false_or, decide_eq_true_eq] at h
    obtain rfl := h
    exact absurd hle (by decide)
  · exact Bool.noConfusion (h.symm.trans (inRanges_of_disjoint (by decide +kernel) hblank))

theorem isBlank_of_isDigit {c : Char} (h : isDigit c = true) : isBlank c = false := by
  rw [Bool.eq_false_iff]
  intro hblank
  rw [isDigit] at h
  split at h
  · next hascii =>
    have halphanum := isAlphanum_of_toNat_le (toNat_le_of_isBlank hblank hascii)
    rw [Char.isAlphanum, h, Bool.or_true] at halphanum
    cases halphanum
  · exact Bool.noConfusion (h.symm.trans (inRanges_of_disjoint (by decide +kernel) hblank))

theorem isWord_of_isAlphanum {c : Char} (h : c.isAlphanum = true) : isWord c = true := by
  rw [isWord, if_pos (toNat_of_isAlphanum h).2, h]
  rfl

theorem isWord_of_isNameStart {c : Char} (h : isNameStart c = true) : isWord c = true := by
  rw [isNameStart, Bool.or_eq_true, decide_eq_true_eq] at h
  obtain halpha | rfl := h
  · refine isWord_of_isAlphanum ?_
    rw [Char.isAlphanum, halpha]
    rfl
  · decide

theorem trimStart_trimStart (cs : List Char) : trimStart (trimStart cs) = trimStart cs :=
  List.dropWhile_idempotent isBlank cs

/-! ## Texts that end alike -/

/-- The texts are the same up to blanks at their ends. -/
inductive EndsAlike : List Char → List Char → Prop where
  | blank {cs ds : List Char} (hcs : ∀ c ∈ cs, isBlank c = true)
    (hds : ∀ c ∈ ds, isBlank c = true) : EndsAlike cs ds
  | cons (c : Char) {cs ds : List Char} (h : EndsAlike cs ds) : EndsAlike (c :: cs) (c :: ds)

namespace EndsAlike
variable {cs ds : List Char}

theorem symm (h : EndsAlike cs ds) : EndsAlike ds cs := by
  induction h with
  | blank hcs hds => exact .blank hds hcs
  | cons c _ ih => exact .cons c ih

theorem append_blanks (cs : List Char) {blanks : List Char} (h : ∀ c ∈ blanks, isBlank c = true) :
    EndsAlike (cs ++ blanks) cs := by
  induction cs with
  | nil => exact .blank h (List.forall_mem_nil _)
  | cons c cs ih => exact .cons c ih

/-- Either all of both texts is blank or they start with the same character. -/
theorem all_blank (h : EndsAlike cs ds) (hcs : ∀ c ∈ cs, isBlank c = true) :
    ∀ c ∈ ds, isBlank c = true := by
  induction h with
  | blank _ hds => exact hds
  | cons c _ ih =>
    obtain ⟨hc, hcs⟩ := List.forall_mem_cons.mp hcs
    exact List.forall_mem_cons.mpr ⟨hc, ih hcs⟩

theorem trimStart (h : EndsAlike cs ds) : EndsAlike (trimStart cs) (trimStart ds) := by
  induction h with
  | blank hcs hds =>
    rw [Text.trimStart, Text.trimStart, List.dropWhile_eq_nil_iff.mpr hcs,
      List.dropWhile_eq_nil_iff.mpr hds]
    exact .blank (List.forall_mem_nil _) (List.forall_mem_nil _)
  | cons c h ih =>
    rw [Text.trimStart, Text.trimStart, List.dropWhile_cons, List.dropWhile_cons]
    split
    · exact ih
    · exact .cons c h

theorem trimEnd_eq (h : EndsAlike cs ds) : trimEnd cs = trimEnd ds := by
  refine congrArg List.reverse ?_
  induction h with
  | blank hcs hds =>
    rw [List.dropWhile_eq_nil_iff.mpr fun c hc => hcs c (List.mem_reverse.mp hc),
      List.dropWhile_eq_nil_iff.mpr fun c hc => hds c (List.mem_reverse.mp hc)]
  | cons c _ ih =>
    rw [List.reverse_cons, List.reverse_cons, List.dropWhile_append, List.dropWhile_append, ih]

theorem trim_eq (h : EndsAlike cs ds) : trim cs = trim ds := h.trimStart.trimEnd_eq

theorem trimStart_eq_nil (h : EndsAlike cs ds) (hcs : Text.trimStart cs = []) :
    Text.trimStart ds = [] :=
  List.dropWhile_eq_nil_iff.mpr (h.all_blank (List.dropWhile_eq_nil_iff.mp hcs))

theorem takeWhile_eq {p : Char → Bool} (hp : ∀ {c}, p c = true → isBlank c = false)
    (h : EndsAlike cs ds) : cs.takeWhile p = ds.takeWhile p := by
  have hnone {cs : List Char} (hcs : ∀ c ∈ cs, isBlank c = true) : cs.takeWhile p = [] := by
    cases cs with
    | nil => rfl
    | cons c cs =>
      refine List.takeWhile_cons_of_neg fun hc => ?_
      exact Bool.noConfusion ((hp hc).symm.trans (hcs c List.mem_cons_self))
  induction h with
  | blank hcs hds => rw [hnone hcs, hnone hds]
  | cons c _ ih => rw [List.takeWhile_cons, List.takeWhile_cons, ih]

theorem dropWhile (p : Char → Bool) (h : EndsAlike cs ds) :
    EndsAlike (cs.dropWhile p) (ds.dropWhile p) := by
  induction h with
  | blank hcs hds =>
    exact .blank (fun c hc => hcs c ((List.dropWhile_suffix p).mem hc))
      fun c hc => hds c ((List.dropWhile_suffix p).mem hc)
  | cons c h ih =>
    rw [List.dropWhile_cons, List.dropWhile_cons]
    split
    · exact ih
    · exact .cons c h

end EndsAlike

/-! ## Readers -/

/-- The reader takes no notice of blanks at the end. -/
structure Steady {α : Type} (read : List Char → Option (α × List Char)) : Prop where
  alike : ∀ {cs ds : List Char}, EndsAlike cs ds → ∀ {a : α} {rest : List Char},
    read cs = some (a, rest) → ∃ rest', EndsAlike rest rest' ∧ read ds = some (a, rest')

theorem wordEndsBefore_eq {cs ds : List Char} (h : EndsAlike cs ds) :
    wordEndsBefore cs = wordEndsBefore ds := by
  have hnone {cs : List Char} (hcs : ∀ c ∈ cs, isBlank c = true) : wordEndsBefore cs = true := by
    cases cs with
    | nil => rfl
    | cons c cs =>
      rw [wordEndsBefore, List.head?_cons, Option.any_some, Bool.not_eq_true', Bool.eq_false_iff]
      exact fun hc => Bool.noConfusion ((isBlank_of_isWord hc).symm.trans
        (hcs c List.mem_cons_self))
  cases h with
  | blank hcs hds => rw [hnone hcs, hnone hds]
  | cons c _ => rfl

/-- The text has no blanks. -/
def Solid (cs : List Char) : Prop := ∀ c ∈ cs, isBlank c = false

instance (cs : List Char) : Decidable (Solid cs) :=
  List.decidableBAll (fun c => isBlank c = false) cs

theorem after?_alike {word cs ds rest : List Char} (hword : Solid word)
    (h : EndsAlike cs ds) (hrest : after? word cs = some rest) :
    ∃ rest', EndsAlike rest rest' ∧ after? word ds = some rest' := by
  induction word generalizing cs ds with
  | nil => exact ⟨ds, Option.some.inj hrest ▸ h, rfl⟩
  | cons w word ih =>
    obtain ⟨hw, hword⟩ := List.forall_mem_cons.mp hword
    cases h with
    | blank hcs hds =>
      cases cs with
      | nil => cases hrest
      | cons c cs =>
        rw [after?] at hrest
        split at hrest
        · next hwc =>
          exact Bool.noConfusion (hw.symm.trans (hwc ▸ hcs c List.mem_cons_self))
        · cases hrest
    | cons c h =>
      rw [after?] at hrest ⊢
      split at hrest
      · next hwc =>
        rw [if_pos hwc]
        exact ih hword h hrest
      · cases hrest

/-- Blanks, and something after them. -/
theorem afterBlanks?_alike {cs ds rest : List Char} (h : EndsAlike cs ds)
    (hrest : afterBlanks? cs = some rest) (hne : rest ≠ []) :
    ∃ rest', EndsAlike rest rest' ∧ afterBlanks? ds = some rest' := by
  cases h with
  | blank hcs hds =>
    cases cs with
    | nil => cases hrest
    | cons c cs =>
      rw [afterBlanks?] at hrest
      split at hrest
      · obtain ⟨-, hcs⟩ := List.forall_mem_cons.mp hcs
        rw [trimStart, List.dropWhile_eq_nil_iff.mpr hcs] at hrest
        exact absurd (Option.some.inj hrest).symm hne
      · cases hrest
  | cons c h =>
    rw [afterBlanks?] at hrest ⊢
    split at hrest
    · next hc =>
      rw [if_pos hc]
      exact ⟨_, Option.some.inj hrest ▸ h.trimStart, rfl⟩
    · cases hrest

namespace Steady
variable {α β γ : Type} {read other : List Char → Option (α × List Char)}

theorem eq_none {cs ds : List Char} (h : Steady read) (halike : EndsAlike cs ds)
    (hnone : read cs = none) : read ds = none := by
  cases hread : read ds with
  | none => rfl
  | some found =>
    obtain ⟨_, _, hsome⟩ := h.alike halike.symm hread
    cases hnone.symm.trans hsome

theorem map (h : Steady read) (f : α → β) :
    Steady fun cs => (read cs).map fun found => (f found.1, found.2) := by
  refine ⟨fun halike _ _ hb => ?_⟩
  obtain ⟨⟨a, after⟩, hread, hfound⟩ := Option.map_eq_some_iff.mp hb
  obtain ⟨rfl, rfl⟩ := Prod.mk.inj hfound
  obtain ⟨rest', hrest, hread'⟩ := h.alike halike hread
  exact ⟨rest', hrest, Option.map_eq_some_iff.mpr ⟨_, hread', rfl⟩⟩

/-- The first of two readers that reads something. -/
theorem orElse (h : Steady read) (h' : Steady other) :
    Steady fun cs => (read cs).or (other cs) := by
  refine ⟨fun {cs ds} halike a rest hread => ?_⟩
  cases hfirst : read cs with
  | some found =>
    rw [hfirst] at hread
    obtain rfl := Option.some.inj hread
    obtain ⟨rest', hrest, hread'⟩ := h.alike halike hfirst
    exact ⟨rest', hrest, by rw [hread', Option.some_or]⟩
  | none =>
    rw [hfirst] at hread
    rw [h.eq_none halike hfirst, Option.none_or]
    exact h'.alike halike hread

/-- The first of a list of readers that reads something. -/
theorem findSome? {items : List γ} {read : γ → List Char → Option (α × List Char)}
    (h : ∀ x ∈ items, Steady (read x)) : Steady fun cs => items.findSome? (read · cs) := by
  induction items with
  | nil => exact ⟨fun _ _ _ hread => nomatch hread⟩
  | cons x items ih =>
    obtain ⟨hx, hitems⟩ := List.forall_mem_cons.mp h
    have heq : (fun cs => (x :: items).findSome? (read · cs))
        = fun cs => (read x cs).or (items.findSome? (read · cs)) := by
      funext cs
      rw [List.findSome?_cons]
      cases read x cs <;> rfl
    rw [heq]
    exact hx.orElse (ih hitems)

theorem filter (h : Steady read) (p : α → Bool) :
    Steady fun cs => (read cs).filter fun found => p found.1 := by
  refine ⟨fun halike a rest hread => ?_⟩
  obtain ⟨hread, hp⟩ := Option.filter_eq_some_iff.mp hread
  obtain ⟨rest', hrest, hread'⟩ := h.alike halike hread
  exact ⟨rest', hrest, Option.filter_eq_some_iff.mpr ⟨hread', hp⟩⟩

theorem bind (h : Steady read) {next : α → List Char → Option (β × List Char)}
    (hnext : ∀ a, Steady (next a)) :
    Steady fun cs => (read cs).bind fun found => next found.1 found.2 := by
  refine ⟨fun halike b rest hb => ?_⟩
  obtain ⟨⟨a, after⟩, hread, hb⟩ := Option.bind_eq_some_iff.mp hb
  obtain ⟨after', hafter, hread'⟩ := h.alike halike hread
  obtain ⟨rest', hrest, hb'⟩ := (hnext a).alike hafter hb
  exact ⟨rest', hrest, Option.bind_eq_some_iff.mpr ⟨_, hread', hb'⟩⟩

theorem trimmed (h : Steady read) : Steady fun cs => read (trimStart cs) :=
  ⟨fun halike _ _ hread => h.alike halike.trimStart hread⟩

theorem afterWord (h : Steady read) (word : List Char) (hword : Solid word) :
    Steady fun cs => (after? word cs).bind read := by
  refine ⟨fun halike a rest hread => ?_⟩
  obtain ⟨after, hafter, hread⟩ := Option.bind_eq_some_iff.mp hread
  obtain ⟨after', halike', hafter'⟩ := after?_alike hword halike hafter
  obtain ⟨rest', hrest, hread'⟩ := h.alike halike' hread
  exact ⟨rest', hrest, Option.bind_eq_some_iff.mpr ⟨_, hafter', hread'⟩⟩

theorem afterBlanks (h : Steady read) (hnil : read [] = none) :
    Steady fun cs => (afterBlanks? cs).bind read := by
  refine ⟨fun halike a rest hread => ?_⟩
  obtain ⟨after, hafter, hread⟩ := Option.bind_eq_some_iff.mp hread
  have hne : after ≠ [] := by
    rintro rfl
    cases hnil.symm.trans hread
  obtain ⟨after', halike', hafter'⟩ := afterBlanks?_alike halike hafter hne
  obtain ⟨rest', hrest, hread'⟩ := h.alike halike' hread
  exact ⟨rest', hrest, Option.bind_eq_some_iff.mpr ⟨_, hafter', hread'⟩⟩

/-- One reader behind a word, and another one if it is not there. -/
theorem afterWordOr (h : Steady read) (h' : Steady other) (word : List Char)
    (hword : Solid word) :
    Steady fun cs => (after? word cs).elim (other cs) read := by
  refine ⟨fun {cs ds} halike a rest hread => ?_⟩
  cases hafter : after? word cs with
  | some after =>
    obtain ⟨after', halike', hafter'⟩ := after?_alike hword halike hafter
    rw [hafter, Option.elim_some] at hread
    rw [hafter', Option.elim_some]
    exact h.alike halike' hread
  | none =>
    have hnone : after? word ds = none := by
      cases hafter' : after? word ds with
      | none => rfl
      | some after =>
        obtain ⟨_, _, hsome⟩ := after?_alike hword halike.symm hafter'
        cases hafter.symm.trans hsome
    rw [hafter, Option.elim_none] at hread
    rw [hnone, Option.elim_none]
    exact h'.alike halike hread

end Steady

theorem after?_singleton_none {c : Char} {cs : List Char} (h : ∀ rest, cs ≠ c :: rest) :
    after? [c] cs = none := by
  cases cs with
  | nil => rfl
  | cons d cs =>
    rw [after?, if_neg]
    rintro rfl
    exact h cs rfl

/-- Nothing is read. -/
theorem steady_some {α : Type} (a : α) : Steady fun cs => some (a, cs) := by
  refine ⟨fun halike b rest hb => ?_⟩
  obtain ⟨rfl, rfl⟩ := Prod.mk.inj (Option.some.inj hb)
  exact ⟨_, halike, rfl⟩

theorem steady_none {α : Type} : Steady fun _ => (none : Option (α × List Char)) :=
  ⟨fun _ _ _ hread => nomatch hread⟩

/-- All characters of a class in front. -/
theorem steady_takeWhile {p : Char → Bool} (hp : ∀ {c}, p c = true → isBlank c = false) :
    Steady fun cs => some (cs.takeWhile p, cs.dropWhile p) := by
  refine ⟨fun halike b rest hb => ?_⟩
  obtain ⟨rfl, rfl⟩ := Prod.mk.inj (Option.some.inj hb)
  exact ⟨_, halike.dropWhile p, by rw [halike.takeWhile_eq hp]⟩

theorem steady_name? : Steady name? := by
  refine ⟨fun {cs ds} h name rest hname => ?_⟩
  cases h with
  | blank hcs hds =>
    cases cs with
    | nil => cases hname
    | cons c cs =>
      rw [name?, nameWith?] at hname
      split at hname
      · next hc =>
        exact Bool.noConfusion ((isBlank_of_isWord (isWord_of_isNameStart hc)).symm.trans
          (hcs c List.mem_cons_self))
      · cases hname
  | cons c h =>
    rw [name?, nameWith?] at hname ⊢
    split at hname
    · next hc =>
      obtain ⟨rfl, rfl⟩ := Prod.mk.inj (Option.some.inj hname)
      rw [if_pos hc, h.takeWhile_eq isBlank_of_isWord]
      exact ⟨_, h.dropWhile isWord, rfl⟩
    · cases hname

theorem toBoundary_blank (atComma : Bool) (q : Quoting) (depth : Nat) {cs : List Char}
    (h : ∀ c ∈ cs, isBlank c = true) : toBoundary atComma q depth cs = (cs, []) := by
  induction cs generalizing q with
  | nil => rw [toBoundary]
  | cons c cs ih =>
    obtain ⟨hc, hcs⟩ := List.forall_mem_cons.mp h
    have hne {d : Char} (hd : isBlank d = false) : c ≠ d := by
      rintro rfl
      exact Bool.noConfusion (hd.symm.trans hc)
    cases q with
    | outside =>
      have hopening : isOpening c = false := by
        simp [isOpening, hne (d := '(') (by decide), hne (d := '[') (by decide),
          hne (d := '\x7b') (by decide)]
      have hclosing : isClosing c = false := by
        simp [isClosing, hne (d := ')') (by decide), hne (d := ']') (by decide),
          hne (d := '\x7d') (by decide)]
      have hcomma : (decide (c = ',') && atComma && decide (depth = 0)) = false := by
        simp [hne (d := ',') (by decide)]
      simp only [toBoundary, hopening, hclosing, hcomma, Bool.false_eq_true, if_false, ih _ hcs]
    | inside quote => simp only [toBoundary, ih _ hcs]
    | escaped quote => simp only [toBoundary, ih _ hcs]

theorem toBoundary_alike (atComma : Bool) (q : Quoting) (depth : Nat) {cs ds : List Char}
    (h : EndsAlike cs ds) :
    EndsAlike (toBoundary atComma q depth cs).1 (toBoundary atComma q depth ds).1 ∧
      EndsAlike (toBoundary atComma q depth cs).2 (toBoundary atComma q depth ds).2 := by
  induction h generalizing q depth with
  | blank hcs hds =>
    rw [toBoundary_blank atComma q depth hcs, toBoundary_blank atComma q depth hds]
    exact ⟨.blank hcs hds, .blank (List.forall_mem_nil _) (List.forall_mem_nil _)⟩
  | cons c h ih =>
    have hgo (q : Quoting) (depth : Nat) :=
      And.intro (EndsAlike.cons c (ih q depth).1) (ih q depth).2
    have hstop : EndsAlike [] [] := .blank (List.forall_mem_nil _) (List.forall_mem_nil _)
    cases q with
    | outside =>
      simp only [toBoundary]
      split
      · exact hgo _ _
      · split
        · cases depth with
          | zero => exact ⟨hstop, .cons c h⟩
          | succ depth => exact hgo _ _
        · split
          · exact ⟨hstop, .cons c h⟩
          · exact hgo _ _
    | inside quote => exact hgo _ _
    | escaped quote => exact hgo _ _

end Stencil.Text
