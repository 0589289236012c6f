import Stencil.Proofs.Text.Remainder

/-!
# Quotes in a text

A scan of a text for quotes is in one of three states behind each character (`Quoting`).  A text
without quotes leaves it where it is: it ends no string and starts none (`foldl_outside_iff`).  Most
readers pass over a text that has no brackets either (`Passes`).
-/
namespace Stencil.Text

/-- What a text is inside of is a quote. -/
def IsAtQuote : Quoting → Prop
  | .outside => True
  | .inside quote | .escaped quote => isQuote quote = true

theorem IsAtQuote.step {q : Quoting} (hq : IsAtQuote q) (c : Char) : IsAtQuote (q.step c) := by
  cases q with
  | outside =>
    rw [Quoting.step]
    split
    · next hquote => exact hquote
    · trivial
  | inside quote =>
    rw [Quoting.step]
    split
    · exact hq
    · split
      · trivial
      · exact hq
  | escaped quote => exact hq

theorem isAtQuote_foldl {q : Quoting} (hq : IsAtQuote q) (cs : List Char) :
    IsAtQuote (cs.foldl Quoting.step q) := by
  induction cs generalizing q with
  | nil => exact hq
  | cons c cs ih => exact ih (hq.step c)

/-- A character that is no quote neither starts a string nor ends one. -/
theorem step_outside_iff {q : Quoting} (hq : IsAtQuote q) {c : Char} (hc : isQuote c = false) :
    q.step c = .outside ↔ q = .outside := by
  cases q with
  | outside => simp [Quoting.step, hc]
  | inside quote =>
    have hne : c ≠ quote := by
      rintro rfl
      exact absurd hq (by simp [IsAtQuote, hc])
    simp only [Quoting.step, if_neg hne]
    split <;> simp
  | escaped quote => simp [Quoting.step]

/-! ## Texts without quotes -/

/-- No character of the text is a quote. -/
def Unquoted (cs : List Char) : Prop := ∀ c ∈ cs, isQuote c = false

instance (cs : List Char) : Decidable (Unquoted cs) :=
  List.decidableBAll (fun c => isQuote c = false) cs

theorem unquoted_append {cs ds : List Char} : Unquoted (cs ++ ds) ↔ Unquoted cs ∧ Unquoted ds :=
  List.forall_mem_append

/-- A text without quotes ends no string and starts none. -/
theorem foldl_outside_iff {q : Quoting} (hq : IsAtQuote q) {cs : List Char} (h : Unquoted cs) :
    cs.foldl Quoting.step q = .outside ↔ q = .outside := by
  induction cs generalizing q with
  | nil => rfl
  | cons c cs ih =>
    obtain ⟨hc, hcs⟩ := List.forall_mem_cons.mp h
    exact (ih (hq.step c) hcs).trans (step_outside_iff hq hc)

/-! ## The end of a scan -/

/-- How a scan that starts outside quotes ends. -/
def scan (cs : List Char) : Quoting := cs.foldl Quoting.step .outside

theorem scan_append (cs ds : List Char) : scan (cs ++ ds) = ds.foldl Quoting.step (scan cs) :=
  List.foldl_append

theorem isAtQuote_scan (cs : List Char) : IsAtQuote (scan cs) :=
  isAtQuote_foldl (q := .outside) trivial cs

theorem scan_of_unquoted {cs : List Char} (h : Unquoted cs) : scan cs = .outside :=
  (foldl_outside_iff (q := .outside) trivial h).mpr rfl

/-- A text without quotes in front changes nothing. -/
theorem scan_unquoted_append {cs : List Char} (h : Unquoted cs) (ds : List Char) :
    scan (cs ++ ds) = scan ds := by
  rw [scan_append, scan_of_unquoted h]
  rfl

/-- A text without quotes behind closes nothing and opens nothing. -/
theorem scan_append_unquoted (cs : List Char) {ds : List Char} (h : Unquoted ds) :
    scan (cs ++ ds) = .outside ↔ scan cs = .outside := by
  rw [scan_append]
  exact foldl_outside_iff (isAtQuote_scan cs) h

/-! ## Quotes and brackets -/

/-- The character opens or closes a string or a bracket. -/
def isMark (c : Char) : Bool := isQuote c || isOpening c || isClosing c

/-- All such characters. -/
def marks : List Char := ['"', '\'', '(', '[', '\x7b', ')', ']', '\x7d']

theorem mem_marks {c : Char} (h : isMark c = true) : c ∈ marks := by
  simp only [isMark, isQuote, isOpening, isClosing, Bool.or_eq_true, decide_eq_true_eq] at h
  rcases h with ((rfl | rfl) | ((rfl | rfl) | rfl)) | ((rfl | rfl) | rfl) <;> decide

/-- A class that has none of them. -/
theorem isMark_of_class {p : Char → Bool} (hp : marks.all (!p ·) = true) {c : Char}
    (h : p c = true) : isMark c = false := by
  cases hmark : isMark c with
  | false => rfl
  | true =>
    have hnot := List.all_eq_true.mp hp c (mem_marks hmark)
    rw [h] at hnot
    cases hnot

theorem isMark_of_isBlank {c : Char} (h : isBlank c = true) : isMark c = false :=
  isMark_of_class (by decide) h

theorem isMark_of_isWord {c : Char} (h : isWord c = true) : isMark c = false :=
  isMark_of_class (by decide) h

theorem isMark_of_isDigit {c : Char} (h : isDigit c = true) : isMark c = false :=
  isMark_of_class (by decide) h

theorem isQuote_of_isMark {c : Char} (h : isMark c = false) : isQuote c = false := by
  rw [isMark, Bool.or_assoc, Bool.or_eq_false_iff] at h
  exact h.1

theorem isQuote_of_isBlank {c : Char} (h : isBlank c = true) : isQuote c = false :=
  isQuote_of_isMark (isMark_of_isBlank h)

/-- No character of the text opens or closes a string or a bracket. -/
def Unmarked (cs : List Char) : Prop := ∀ c ∈ cs, isMark c = false

instance (cs : List Char) : Decidable (Unmarked cs) :=
  List.decidableBAll (fun c => isMark c = false) cs

theorem Unmarked.unquoted {cs : List Char} (h : Unmarked cs) : Unquoted cs :=
  fun c hc => isQuote_of_isMark (h c hc)

theorem unmarked_append {cs ds : List Char} : Unmarked (cs ++ ds) ↔ Unmarked cs ∧ Unmarked ds :=
  List.forall_mem_append

/-! ## Passing over a text without quotes and brackets -/

/-- What is left of a text when a part without quotes and brackets is taken off. -/
def Passes (cs rest : List Char) : Prop := ∃ piece, Unmarked piece ∧ cs = piece ++ rest

namespace Passes
variable {cs mid rest : List Char}

theorem refl (cs : List Char) : Passes cs cs := ⟨[], List.forall_mem_nil _, rfl⟩

theorem trans (h : Passes cs mid) (h' : Passes mid rest) : Passes cs rest := by
  obtain ⟨piece, hpiece, rfl⟩ := h
  obtain ⟨more, hmore, rfl⟩ := h'
  exact ⟨piece ++ more, unmarked_append.mpr ⟨hpiece, hmore⟩, (List.append_assoc ..).symm⟩

theorem cons {c : Char} (hc : isMark c = false) (cs : List Char) : Passes (c :: cs) cs :=
  ⟨[c], List.forall_mem_singleton.mpr hc, rfl⟩

theorem length_le (h : Passes cs rest) : rest.length ≤ cs.length := by
  obtain ⟨piece, -, rfl⟩ := h
  rw [List.length_append]
  omega

end Passes

theorem passes_dropWhile {p : Char → Bool} (hp : ∀ {c}, p c = true → isMark c = false)
    (cs : List Char) : Passes cs (cs.dropWhile p) :=
  ⟨cs.takeWhile p, fun c hc => hp (List.all_eq_true.mp List.all_takeWhile c hc),
    List.takeWhile_append_dropWhile.symm⟩

theorem passes_trimStart (cs : List Char) : Passes cs (trimStart cs) :=
  passes_dropWhile isMark_of_isBlank cs

theorem passes_afterBlanks? {cs rest : List Char} (h : afterBlanks? cs = some rest) :
    Passes cs rest := by
  cases cs with
  | nil => cases h
  | cons c cs =>
    rw [afterBlanks?] at h
    split at h
    · next hc =>
      rw [← Option.some.inj h]
      exact (Passes.cons (isMark_of_isBlank hc) cs).trans (passes_trimStart cs)
    · cases h

theorem passes_after? {word cs rest : List Char} (hword : Unmarked word)
    (h : after? word cs = some rest) : Passes cs rest :=
  ⟨word, hword, after?_eq_some h⟩

/-- Something is taken off, and it has no quotes and no brackets. -/
structure Takes (cs rest : List Char) : Prop where
  passes : Passes cs rest
  shorter : rest.length < cs.length

namespace Takes
variable {cs mid rest : List Char}

theorem trans (h : Takes cs mid) (h' : Passes mid rest) : Takes cs rest :=
  ⟨h.passes.trans h', Nat.lt_of_le_of_lt h'.length_le h.shorter⟩

theorem cons {c : Char} (hc : isMark c = false) (cs : List Char) : Takes (c :: cs) cs :=
  ⟨.cons hc cs, Nat.lt_succ_self _⟩

end Takes

theorem takes_after? {word cs rest : List Char} (hword : Unmarked word) (hne : word ≠ [])
    (h : after? word cs = some rest) : Takes cs rest := by
  refine ⟨passes_after? hword h, ?_⟩
  have hpos := List.length_pos_iff.mpr hne
  rw [after?_eq_some h, List.length_append]
  omega

theorem takes_name? {cs name rest : List Char} (h : name? cs = some (name, rest)) :
    Takes cs rest := by
  cases cs with
  | nil => cases h
  | cons c cs =>
    rw [name?, nameWith?] at h
    split at h
    · next hc =>
      obtain ⟨-, rfl⟩ := Prod.mk.inj (Option.some.inj h)
      exact (Takes.cons (isMark_of_class (by decide) hc) cs).trans
        (passes_dropWhile isMark_of_isWord cs)
    · cases h

/-! ## Trimming -/

theorem trimEnd_spec (cs : List Char) :
    ∃ blanks, (∀ c ∈ blanks, isBlank c = true) ∧ cs = trimEnd cs ++ blanks := by
  refine ⟨(cs.reverse.takeWhile isBlank).reverse, fun c hc => ?_, ?_⟩
  · exact List.all_eq_true.mp List.all_takeWhile c (List.mem_reverse.mp hc)
  · rw [trimEnd, ← List.reverse_append, List.takeWhile_append_dropWhile, List.reverse_reverse]

theorem scan_trim (cs : List Char) : scan (trim cs) = .outside ↔ scan cs = .outside := by
  obtain ⟨blanks, hblanks, heq⟩ := trimEnd_spec (trimStart cs)
  obtain ⟨front, hfront, hcs⟩ := passes_trimStart cs
  conv => rhs; rw [hcs, scan_unquoted_append hfront.unquoted, heq]
  exact (scan_append_unquoted _ fun c hc => isQuote_of_isBlank (hblanks c hc)).symm

end Stencil.Text
