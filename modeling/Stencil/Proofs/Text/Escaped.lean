import Stencil.Escape
import Stencil.Text.Spaceless

/-!
# Characters that escaping takes out

Whatever place a text is escaped for, nothing is left of the characters that can start or end
markup or end a quoted attribute (`Strategy.not_mem_escape`).  Taking blanks out of a text, on the
other hand, puts no character into it.
-/
namespace Stencil

namespace Text

/-! ## Digits -/

theorem mem_hex {n : Nat} {c : Char} (h : c ∈ hex n) : ∃ d < 16, c = Nat.digitChar d := by
  induction n using Nat.strongRecOn with
  | ind n ih =>
    rw [hex, Nat.toDigits_eq_if (by decide)] at h
    split at h
    · next hn => exact ⟨n, hn, List.mem_singleton.mp h⟩
    · next hn =>
      rcases List.mem_append.mp h with hrest | hlast
      · exact ih (n / 16) (Nat.div_lt_self (by omega) (by decide)) hrest
      · exact ⟨n % 16, Nat.mod_lt n (by decide), List.mem_singleton.mp hlast⟩

theorem isAlphanum_of_mem_upperHex {n : Nat} {c : Char} (h : c ∈ upperHex n) :
    c.isAlphanum = true := by
  have hdigits : ∀ d < 16, (Nat.digitChar d).toUpper.isAlphanum = true := by decide
  obtain ⟨digit, hdigit, rfl⟩ := List.mem_map.mp h
  obtain ⟨d, hd, rfl⟩ := mem_hex hdigit
  exact hdigits d hd

theorem isAlphanum_of_mem_paddedHex {width n : Nat} {c : Char} (h : c ∈ paddedHex width n) :
    c.isAlphanum = true := by
  rcases List.mem_append.mp h with hzero | hdigit
  · rw [List.eq_of_mem_replicate hzero]
    decide
  · exact isAlphanum_of_mem_upperHex hdigit

/-! ## Blanks -/

theorem mem_of_mem_trim {cs : List Char} {c : Char} (h : c ∈ trim cs) : c ∈ cs := by
  have hend : c ∈ (trimStart cs).reverse :=
    (List.dropWhile_suffix isBlank).mem (List.mem_reverse.mp h)
  exact (List.dropWhile_suffix isBlank).mem (List.mem_reverse.mp hend)

theorem mem_of_mem_closeGaps {held : Option (List Char)} {cs : List Char} {c : Char}
    (h : c ∈ closeGaps held cs) : c ∈ held.getD [] ∨ c ∈ cs := by
  induction cs generalizing held with
  | nil =>
    rw [closeGaps] at h
    exact .inl (List.mem_reverse.mp h)
  | cons d cs ih =>
    -- What comes behind `d` holds nothing, or only blanks that stood before it.
    have hrest (hmem : c ∈ closeGaps (if d = '>' then some [] else none) cs) : c ∈ d :: cs := by
      rcases ih hmem with hheld | hcs
      · split at hheld <;> cases hheld
      · exact List.mem_cons_of_mem d hcs
    cases held with
    | none =>
      rcases List.mem_cons.mp h with rfl | hmem
      · exact .inr List.mem_cons_self
      · exact .inr (hrest hmem)
    | some held =>
      rw [closeGaps] at h
      split at h
      · rcases ih h with hheld | hcs
        · rcases List.mem_cons.mp hheld with rfl | hmem
          · exact .inr List.mem_cons_self
          · exact .inl hmem
        · exact .inr (List.mem_cons_of_mem d hcs)
      · split at h
        · rcases List.mem_cons.mp h with rfl | hmem
          · exact .inr List.mem_cons_self
          · rcases ih hmem with hheld | hcs
            · cases hheld
            · exact .inr (List.mem_cons_of_mem d hcs)
        · rcases List.mem_append.mp h with hheld | hmem
          · exact .inl (List.mem_reverse.mp hheld)
          · rcases List.mem_cons.mp hmem with rfl | hmem
            · exact .inr List.mem_cons_self
            · exact .inr (hrest hmem)

/-- Nothing comes into a text by taking blanks out. -/
theorem mem_of_mem_spaceless {cs : List Char} {c : Char} (h : c ∈ spaceless cs) : c ∈ cs :=
  (mem_of_mem_closeGaps (mem_of_mem_trim h)).resolve_left List.not_mem_nil

end Text

namespace Strategy
open Text

/-- The characters that can start or end markup, or end a quoted attribute. -/
def delimiters : List Char := ['<', '>', '"', '\'']

theorem not_mem_delimiters {c : Char} (h : c.isAlphanum = true) : c ∉ delimiters := by
  intro hc
  have hnone : delimiters.all (!·.isAlphanum) = true := rfl
  have hnot := List.all_eq_true.mp hnone c hc
  rw [h] at hnot
  cases hnot

/-- The characters of a text that is known. -/
theorem not_mem_delimiters_all {cs : List Char} (h : cs.all (!delimiters.contains ·) = true) :
    ∀ d ∈ cs, d ∉ delimiters := by
  intro d hd hmem
  have hnot := List.all_eq_true.mp h d hd
  rw [List.contains_iff_mem.mpr hmem] at hnot
  cases hnot

/-- A character that is kept. -/
theorem not_mem_delimiters_kept {c : Char} (h : c ∉ delimiters) : ∀ d ∈ [c], d ∉ delimiters :=
  List.forall_mem_singleton.mpr h

/-- A mark and digits behind it. -/
theorem not_mem_delimiters_append (mark : List Char) {digits : List Char}
    (hmark : ∀ d ∈ mark, d ∉ delimiters) (hdigits : ∀ d ∈ digits, d.isAlphanum = true) :
    ∀ d ∈ mark ++ digits, d ∉ delimiters := by
  intro d hd
  rcases List.mem_append.mp hd with hd | hd
  · exact hmark d hd
  · exact not_mem_delimiters (hdigits d hd)

theorem not_mem_htmlChar (c : Char) : ∀ d ∈ htmlChar c, d ∉ delimiters := by
  unfold htmlChar
  split
  · exact not_mem_delimiters_all rfl
  · exact not_mem_delimiters_all rfl
  · exact not_mem_delimiters_all rfl
  · exact not_mem_delimiters_all rfl
  · exact not_mem_delimiters_all rfl
  · next _ hless hgreater hquote happ =>
    exact not_mem_delimiters_kept (by simpa [delimiters] using ⟨hless, hgreater, hquote, happ⟩)

theorem not_mem_htmlAttrChar (c : Char) : ∀ d ∈ htmlAttrChar c, d ∉ delimiters := by
  unfold htmlAttrChar
  split
  · exact not_mem_delimiters_all rfl
  · exact not_mem_delimiters_all rfl
  · exact not_mem_delimiters_all rfl
  · exact not_mem_delimiters_all rfl
  · split
    · next hkept =>
      refine not_mem_delimiters_kept ?_
      rcases Bool.or_eq_true_iff.mp hkept with hplain | hwide
      · exact not_mem_delimiters hplain
      · have hnarrow : delimiters.all (fun d => !decide (0x80 ≤ d.toNat)) = true := rfl
        intro hc
        have hnot := List.all_eq_true.mp hnarrow c hc
        rw [hwide] at hnot
        cases hnot
    · intro d hd
      rcases List.mem_append.mp hd with hd | hd
      · exact not_mem_delimiters_append "&#x".toList (not_mem_delimiters_all rfl)
          (fun _ => isAlphanum_of_mem_paddedHex) d hd
      · rw [List.mem_singleton.mp hd]
        decide

theorem not_mem_jsChar (c : Char) : ∀ d ∈ jsChar c, d ∉ delimiters := by
  unfold jsChar
  split
  · next hkept =>
    refine not_mem_delimiters_kept ?_
    simp only [Bool.or_eq_true, decide_eq_true_eq] at hkept
    rcases hkept with ((hplain | rfl) | rfl) | rfl
    · exact not_mem_delimiters hplain
    · decide
    · decide
    · decide
  · split
    · exact not_mem_delimiters_append ['\\', 'x'] (not_mem_delimiters_all rfl)
        fun _ => isAlphanum_of_mem_paddedHex
    · intro d hd
      obtain ⟨unit, -, hd⟩ := List.mem_flatMap.mp hd
      exact not_mem_delimiters_append ['\\', 'u'] (not_mem_delimiters_all rfl)
        (fun _ => isAlphanum_of_mem_paddedHex) d hd

theorem not_mem_cssChar (c : Char) : ∀ d ∈ cssChar c, d ∉ delimiters := by
  unfold cssChar
  split
  · next hplain => exact not_mem_delimiters_kept (not_mem_delimiters hplain)
  · intro d hd
    rcases List.mem_append.mp hd with hd | hd
    · exact not_mem_delimiters_append ['\\'] (not_mem_delimiters_all rfl)
        (fun _ => isAlphanum_of_mem_upperHex) d hd
    · rw [List.mem_singleton.mp hd]
      decide

theorem not_mem_urlChar (c : Char) : ∀ d ∈ urlChar c, d ∉ delimiters := by
  unfold urlChar
  split
  · next hkept =>
    refine not_mem_delimiters_kept ?_
    simp only [Bool.or_eq_true, decide_eq_true_eq] at hkept
    rcases hkept with (((hplain | rfl) | rfl) | rfl) | rfl
    · exact not_mem_delimiters hplain
    · decide
    · decide
    · decide
    · decide
  · intro d hd
    obtain ⟨byte, -, hd⟩ := List.mem_flatMap.mp hd
    exact not_mem_delimiters_append ['%'] (not_mem_delimiters_all rfl)
      (fun _ => isAlphanum_of_mem_paddedHex) d hd

theorem not_mem_escapeChar (strategy : Strategy) (c : Char) :
    ∀ d ∈ strategy.escapeChar c, d ∉ delimiters := by
  cases strategy with
  | html => exact not_mem_htmlChar c
  | js => exact not_mem_jsChar c
  | css => exact not_mem_cssChar c
  | url => exact not_mem_urlChar c
  | htmlAttr => exact not_mem_htmlAttrChar c

/-- **No escaping leaves a delimiter.** -/
theorem not_mem_escape (strategy : Strategy) (cs : List Char) {d : Char} (h : d ∈ delimiters) :
    d ∉ strategy.escape cs := by
  intro hd
  obtain ⟨c, -, hd⟩ := List.mem_flatMap.mp hd
  exact not_mem_escapeChar strategy c d hd h

end Strategy
end Stencil
