import Stencil.Text.Nesting
import Stencil.Text.Word

/-!
# What readers leave

Readers of text give back the text that they have not read.  It is the end of the text that they
started with, and what was cut out of the text is no longer than the text.
-/
namespace Stencil.Text

theorem trimStart_suffix (cs : List Char) : trimStart cs <:+ cs := List.dropWhile_suffix _

theorem trimEnd_length_le (cs : List Char) : (trimEnd cs).length ≤ cs.length := by
  have h := (List.dropWhile_suffix (l := cs.reverse) isBlank).length_le
  simpa [trimEnd] using h

theorem trim_length_le (cs : List Char) : (trim cs).length ≤ cs.length :=
  Nat.le_trans (trimEnd_length_le _) (trimStart_suffix cs).length_le

/-- What follows a word is what the text is once the word is taken off. -/
theorem after?_eq_some {word cs rest : List Char} (h : after? word cs = some rest) :
    cs = word ++ rest := by
  induction word generalizing cs with
  | nil => exact Option.some.inj h
  | cons w word ih =>
    cases cs with
    | nil => cases h
    | cons c cs =>
      rw [after?] at h
      split at h
      · next hwc => rw [ih h, hwc, List.cons_append]
      · cases h

theorem after?_suffix {word cs rest : List Char} (h : after? word cs = some rest) : rest <:+ cs :=
  ⟨word, (after?_eq_some h).symm⟩

theorem afterBlanks?_suffix {cs rest : List Char} (h : afterBlanks? cs = some rest) :
    rest <:+ cs := by
  cases cs with
  | nil => cases h
  | cons c cs =>
    rw [afterBlanks?] at h
    split at h
    · rw [← Option.some.inj h]
      exact (trimStart_suffix cs).trans (List.suffix_cons c cs)
    · cases h

/-- The two parts at a boundary are the whole text. -/
theorem toBoundary_append (atComma : Bool) (q : Quoting) (depth : Nat) (cs : List Char) :
    (toBoundary atComma q depth cs).1 ++ (toBoundary atComma q depth cs).2 = cs := by
  induction cs generalizing q depth with
  | nil => rw [toBoundary, List.nil_append]
  | cons c cs ih =>
    cases q with
    | outside =>
      simp only [toBoundary]
      split
      · exact congrArg (c :: ·) (ih _ _)
      · split
        · cases depth with
          | zero => rfl
          | succ depth => exact congrArg (c :: ·) (ih _ _)
        · split
          · rfl
          · exact congrArg (c :: ·) (ih _ _)
    | inside quote => exact congrArg (c :: ·) (ih _ _)
    | escaped quote => exact congrArg (c :: ·) (ih _ _)

theorem toBoundary_suffix (atComma : Bool) (q : Quoting) (depth : Nat) (cs : List Char) :
    (toBoundary atComma q depth cs).2 <:+ cs :=
  ⟨_, toBoundary_append atComma q depth cs⟩

theorem toBoundary_length_le (atComma : Bool) (q : Quoting) (depth : Nat) (cs : List Char) :
    (toBoundary atComma q depth cs).1.length ≤ cs.length := by
  have h := congrArg List.length (toBoundary_append atComma q depth cs)
  rw [List.length_append] at h
  omega

end Stencil.Text
