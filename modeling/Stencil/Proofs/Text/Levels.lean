import Stencil.Proofs.Text.Quotes

/-!
# Brackets in a text

A scan for brackets keeps count of those that are open and passes over what stands in strings
(`Level`).  It does not look at the kinds of brackets, only at whether one is opened or closed.  A
text is balanced if the scan ends where it started and closes nothing on the way that the text does
not open (`Balanced`); then the search for a boundary runs over all of it, inside any other text
(`toBoundary_balanced`).
-/
namespace Stencil.Text

/-- Where a scan for brackets stands: with regard to quotes, and how many brackets are open. -/
structure Level where
  quoting : Quoting
  depth : Nat
  deriving DecidableEq, Repr

namespace Level

/-- Outside strings and brackets. -/
def outside : Level := ⟨.outside, 0⟩

/-- Read one character.  A closing bracket that nothing opens is no step. -/
def step? (l : Level) (c : Char) : Option Level :=
  match l.quoting with
  | .outside =>
    if isOpening c then some ⟨.outside, l.depth + 1⟩
    else if isClosing c then
      match l.depth with
      | 0 => none
      | depth + 1 => some ⟨.outside, depth⟩
    else some ⟨Quoting.step .outside c, l.depth⟩
  | q => some ⟨q.step c, l.depth⟩

/-- Read a text. -/
def after? (l : Level) (cs : List Char) : Option Level := cs.foldlM step? l

@[simp] theorem after?_nil (l : Level) : l.after? [] = some l := rfl

@[simp] theorem after?_cons (l : Level) (c : Char) (cs : List Char) :
    l.after? (c :: cs) = (l.step? c).bind (after? · cs) := by
  rw [after?, List.foldlM_cons]
  rfl

theorem after?_append (l : Level) (cs ds : List Char) :
    l.after? (cs ++ ds) = (l.after? cs).bind (after? · ds) := by
  rw [after?, List.foldlM_append]
  rfl

theorem after?_append_of {l mid : Level} {cs : List Char} (h : l.after? cs = some mid)
    (ds : List Char) : l.after? (cs ++ ds) = mid.after? ds := by
  rw [after?_append, h, Option.bind_some]

/-- Inside a string brackets do not count. -/
theorem step?_string (quote : Char) (depth : Nat) (c : Char) :
    step? ⟨.inside quote, depth⟩ c = some ⟨Quoting.step (.inside quote) c, depth⟩ := rfl

theorem step?_escaped (quote : Char) (depth : Nat) (c : Char) :
    step? ⟨.escaped quote, depth⟩ c = some ⟨.inside quote, depth⟩ := rfl

theorem step?_inside {q : Quoting} (hq : q ≠ .outside) (depth : Nat) (c : Char) :
    step? ⟨q, depth⟩ c = some ⟨q.step c, depth⟩ := by
  cases q with
  | outside => exact absurd rfl hq
  | inside quote => rfl
  | escaped quote => rfl

/-- A quote starts a string. -/
theorem step?_quote {c : Char} (hc : isQuote c = true) (depth : Nat) :
    step? ⟨.outside, depth⟩ c = some ⟨.inside c, depth⟩ := by
  simp only [isQuote, Bool.or_eq_true, decide_eq_true_eq] at hc
  rcases hc with rfl | rfl <;> rfl

/-- A character that opens or closes nothing. -/
theorem step?_unmarked {c : Char} (hc : isMark c = false) (depth : Nat) :
    step? ⟨.outside, depth⟩ c = some ⟨.outside, depth⟩ := by
  simp only [isMark, Bool.or_eq_false_iff] at hc
  obtain ⟨⟨hquote, hopening⟩, hclosing⟩ := hc
  simp [step?, Quoting.step, hquote, hopening, hclosing]

theorem after?_unmarked {cs : List Char} (h : Unmarked cs) (depth : Nat) :
    after? ⟨.outside, depth⟩ cs = some ⟨.outside, depth⟩ := by
  induction cs with
  | nil => rfl
  | cons c cs ih =>
    obtain ⟨hc, hcs⟩ := List.forall_mem_cons.mp h
    rw [after?_cons, step?_unmarked hc, Option.bind_some, ih hcs]

/-- The scan for brackets is one for quotes. -/
theorem quoting_step? {l l' : Level} {c : Char} (h : l.step? c = some l') :
    l'.quoting = l.quoting.step c := by
  obtain ⟨q, depth⟩ := l
  by_cases hq : q = .outside
  · subst hq
    simp only [step?] at h
    split at h
    · next hopening =>
      have hquote : isQuote c = false := by
        simp only [isOpening, Bool.or_eq_true, decide_eq_true_eq] at hopening
        rcases hopening with (rfl | rfl) | rfl <;> decide
      obtain rfl := Option.some.inj h
      simp [Quoting.step, hquote]
    · split at h
      · next hclosing =>
        have hquote : isQuote c = false := by
          simp only [isClosing, Bool.or_eq_true, decide_eq_true_eq] at hclosing
          rcases hclosing with (rfl | rfl) | rfl <;> decide
        cases depth with
        | zero => cases h
        | succ depth =>
          obtain rfl := Option.some.inj h
          simp [Quoting.step, hquote]
      · rw [← Option.some.inj h]
  · rw [step?_inside hq] at h
    rw [← Option.some.inj h]

theorem quoting_after? {l l' : Level} {cs : List Char} (h : l.after? cs = some l') :
    l'.quoting = cs.foldl Quoting.step l.quoting := by
  induction cs generalizing l with
  | nil => rw [← Option.some.inj h, List.foldl_nil]
  | cons c cs ih =>
    rw [after?_cons] at h
    obtain ⟨mid, hstep, h⟩ := Option.bind_eq_some_iff.mp h
    rw [ih h, quoting_step? hstep, List.foldl_cons]

/-! ## More open brackets -/

/-- The same with more brackets open. -/
def raise (l : Level) (more : Nat) : Level := ⟨l.quoting, l.depth + more⟩

theorem step?_raise {l l' : Level} {c : Char} (h : l.step? c = some l') (more : Nat) :
    (l.raise more).step? c = some (l'.raise more) := by
  obtain ⟨q, depth⟩ := l
  by_cases hq : q = .outside
  · subst hq
    simp only [step?, raise] at h ⊢
    by_cases hopening : isOpening c = true
    · rw [if_pos hopening] at h ⊢
      rw [← Option.some.inj h, Nat.add_right_comm]
    · rw [if_neg hopening] at h ⊢
      by_cases hclosing : isClosing c = true
      · rw [if_pos hclosing] at h ⊢
        cases depth with
        | zero => cases h
        | succ depth => rw [← Option.some.inj h, Nat.succ_add]
      · rw [if_neg hclosing] at h ⊢
        rw [← Option.some.inj h]
  · rw [step?_inside hq] at h
    rw [raise, step?_inside hq, ← Option.some.inj h, raise]

/-- What is open around a text does not matter to it. -/
theorem after?_raise {l l' : Level} {cs : List Char} (h : l.after? cs = some l') (more : Nat) :
    (l.raise more).after? cs = some (l'.raise more) := by
  induction cs generalizing l with
  | nil => rw [← Option.some.inj h, after?_nil]
  | cons c cs ih =>
    rw [after?_cons] at h ⊢
    obtain ⟨mid, hstep, h⟩ := Option.bind_eq_some_iff.mp h
    rw [step?_raise hstep more, Option.bind_some, ih h]

end Level

/-! ## Balanced texts -/

/-- The brackets of the text are closed in the text, all of them and no others, and so are its
strings. -/
def Balanced (cs : List Char) : Prop := Level.outside.after? cs = some Level.outside

instance (cs : List Char) : Decidable (Balanced cs) :=
  inferInstanceAs (Decidable (_ = _))

theorem Balanced.scan_eq {cs : List Char} (h : Balanced cs) : scan cs = .outside :=
  (Level.quoting_after? h).symm

theorem Balanced.after? {cs : List Char} (h : Balanced cs) (depth : Nat) :
    Level.after? ⟨.outside, depth⟩ cs = some ⟨.outside, depth⟩ := by
  have hraised := Level.after?_raise h depth
  simpa only [Level.raise, Level.outside, Nat.zero_add] using hraised

theorem balanced_of_unmarked {cs : List Char} (h : Unmarked cs) : Balanced cs :=
  Level.after?_unmarked h 0

theorem Balanced.append {cs ds : List Char} (hcs : Balanced cs) (hds : Balanced ds) :
    Balanced (cs ++ ds) := by
  rw [Balanced, Level.after?_append_of hcs, hds]

/-- A text without quotes and brackets in front changes nothing. -/
theorem balanced_unmarked_append {cs : List Char} (h : Unmarked cs) (ds : List Char) :
    Balanced (cs ++ ds) ↔ Balanced ds := by
  rw [Balanced, Level.after?_append_of (balanced_of_unmarked h), Balanced]

/-- Nor does one behind. -/
theorem balanced_append_unmarked (cs : List Char) {ds : List Char} (h : Unmarked ds) :
    Balanced (cs ++ ds) ↔ Balanced cs := by
  constructor
  · intro hall
    rw [Balanced, Level.after?_append] at hall
    obtain ⟨⟨q, depth⟩, hcs, hds⟩ := Option.bind_eq_some_iff.mp hall
    have hquoting : q = scan cs := Level.quoting_after? hcs
    have hend : ds.foldl Quoting.step q = .outside := (Level.quoting_after? hds).symm
    have hq : q = .outside := by
      rw [hquoting] at hend ⊢
      exact (foldl_outside_iff (isAtQuote_scan cs) h.unquoted).mp hend
    subst hq
    rw [Level.after?_unmarked h] at hds
    rw [Balanced, hcs, hds]
  · intro hcs
    exact hcs.append (balanced_of_unmarked h)

theorem balanced_trim (cs : List Char) : Balanced (trim cs) ↔ Balanced cs := by
  obtain ⟨blanks, hblanks, heq⟩ := trimEnd_spec (trimStart cs)
  obtain ⟨front, hfront, hcs⟩ := passes_trimStart cs
  conv => rhs; rw [hcs, balanced_unmarked_append hfront, heq]
  exact (balanced_append_unmarked _ fun c hc => isMark_of_isBlank (hblanks c hc)).symm

/-! ## Parts of a text -/

/-- The part of a text in front of `rest` closes `closed` brackets that are open before it, leaves
`opened` in their place, and ends outside strings. -/
def Crosses (closed opened : Nat) (cs rest : List Char) : Prop :=
  ∃ piece, cs = piece ++ rest ∧
    ∀ depth, Level.after? ⟨.outside, depth + closed⟩ piece = some ⟨.outside, depth + opened⟩

theorem Crosses.trans {a b c : Nat} {cs mid rest : List Char} (h : Crosses a b cs mid)
    (h' : Crosses b c mid rest) : Crosses a c cs rest := by
  obtain ⟨piece, rfl, hpiece⟩ := h
  obtain ⟨more, rfl, hmore⟩ := h'
  refine ⟨piece ++ more, (List.append_assoc ..).symm, fun depth => ?_⟩
  rw [Level.after?_append_of (hpiece depth), hmore depth]

theorem Passes.crosses {cs rest : List Char} (h : Passes cs rest) (around : Nat) :
    Crosses around around cs rest := by
  obtain ⟨piece, hpiece, rfl⟩ := h
  exact ⟨piece, rfl, fun depth => Level.after?_unmarked hpiece (depth + around)⟩

theorem Balanced.crosses {cs : List Char} (h : Balanced cs) (around : Nat) (rest : List Char) :
    Crosses around around (cs ++ rest) rest :=
  ⟨cs, rfl, fun depth => h.after? (depth + around)⟩

theorem crosses_opening {c : Char} (hc : isOpening c = true) (rest : List Char) :
    Crosses 0 1 (c :: rest) rest := by
  refine ⟨[c], rfl, fun depth => ?_⟩
  rw [Level.after?_cons, Level.step?]
  simp only [if_pos hc, Nat.add_zero, Option.bind_some, Level.after?_nil]

theorem crosses_closing {c : Char} (hopening : isOpening c = false) (hc : isClosing c = true)
    (rest : List Char) : Crosses 1 0 (c :: rest) rest := by
  refine ⟨[c], rfl, fun depth => ?_⟩
  rw [Level.after?_cons, Level.step?]
  simp only [hopening, hc, Bool.false_eq_true, if_true, if_false, Nat.add_zero, Option.bind_some,
    Level.after?_nil]

/-! ## The search for a boundary -/

/-- No comma of the text ends it, read from `l`: each stands in a string or in brackets. -/
def CommasInside (l : Level) (cs : List Char) : Prop :=
  ∀ n < cs.length, cs[n]? = some ',' → l.after? (cs.take n) ≠ some .outside

instance (l : Level) (cs : List Char) : Decidable (CommasInside l cs) :=
  Nat.decidableBallLT cs.length fun n _ =>
    cs[n]? = some ',' → l.after? (cs.take n) ≠ some .outside

theorem CommasInside.head {l : Level} {c : Char} {cs : List Char} (h : CommasInside l (c :: cs))
    (hc : c = ',') : l ≠ .outside := by
  intro hl
  exact h 0 (Nat.zero_lt_succ _) (by rw [hc]; rfl) (by rw [hl]; rfl)

theorem CommasInside.tail {l l' : Level} {c : Char} {cs : List Char}
    (h : CommasInside l (c :: cs)) (hstep : l.step? c = some l') : CommasInside l' cs := by
  intro n hn hcomma
  have hall := h (n + 1) (Nat.succ_lt_succ hn) hcomma
  rwa [List.take_succ_cons, Level.after?_cons, hstep, Option.bind_some] at hall

/-- The search goes on behind a character that the scan reads, unless it is a comma that counts. -/
theorem toBoundary_step {atComma : Bool} {l l' : Level} {c : Char} (h : l.step? c = some l')
    (hcomma : atComma = true → c = ',' → l ≠ .outside) (cs : List Char) :
    toBoundary atComma l.quoting l.depth (c :: cs) =
      (c :: (toBoundary atComma l'.quoting l'.depth cs).1,
        (toBoundary atComma l'.quoting l'.depth cs).2) := by
  obtain ⟨q, depth⟩ := l
  by_cases hq : q = .outside
  · subst hq
    simp only [Level.step?] at h
    simp only [toBoundary]
    by_cases hopening : isOpening c = true
    · rw [if_pos hopening] at h ⊢
      rw [← Option.some.inj h]
    · rw [if_neg hopening] at h ⊢
      by_cases hclosing : isClosing c = true
      · rw [if_pos hclosing] at h ⊢
        cases depth with
        | zero => cases h
        | succ depth => rw [← Option.some.inj h]
      · rw [if_neg hclosing] at h ⊢
        rw [← Option.some.inj h, if_neg]
        intro hends
        simp only [Bool.and_eq_true, decide_eq_true_eq] at hends
        obtain ⟨⟨hc, hat⟩, hdepth⟩ := hends
        exact hcomma hat hc (by rw [hdepth]; rfl)
  · rw [Level.step?_inside hq] at h
    rw [← Option.some.inj h]
    cases q with
    | outside => exact absurd rfl hq
    | inside quote => rfl
    | escaped quote => rfl

/-- The search for a boundary runs over a text that closes nothing but what is open. -/
theorem toBoundary_append_of {atComma : Bool} {l l' : Level} {cs : List Char}
    (h : l.after? cs = some l') (hcommas : atComma = true → CommasInside l cs)
    (rest : List Char) :
    toBoundary atComma l.quoting l.depth (cs ++ rest) =
      (cs ++ (toBoundary atComma l'.quoting l'.depth rest).1,
        (toBoundary atComma l'.quoting l'.depth rest).2) := by
  induction cs generalizing l with
  | nil => rw [← Option.some.inj h, List.nil_append, List.nil_append]
  | cons c cs ih =>
    rw [Level.after?_cons] at h
    obtain ⟨mid, hstep, h⟩ := Option.bind_eq_some_iff.mp h
    rw [List.cons_append, toBoundary_step hstep fun hat hc => (hcommas hat).head hc,
      ih h fun hat => (hcommas hat).tail hstep, List.cons_append]

/-- The character ends the search outside strings and brackets. -/
def isBoundary (atComma : Bool) (c : Char) : Bool := isClosing c || (c = ',' && atComma)

theorem toBoundary_of_isBoundary {atComma : Bool} {c : Char} (hc : isBoundary atComma c = true)
    (cs : List Char) : toBoundary atComma .outside 0 (c :: cs) = ([], c :: cs) := by
  have hopening : isOpening c ≠ true := by
    intro hopening
    simp only [isOpening, Bool.or_eq_true, decide_eq_true_eq] at hopening
    rcases hopening with (rfl | rfl) | rfl <;> simp [isBoundary, isClosing] at hc
  simp only [toBoundary]
  rw [if_neg hopening]
  by_cases hclosing : isClosing c = true
  · rw [if_pos hclosing]
  · rw [isBoundary, Bool.or_eq_true_iff, or_iff_right hclosing] at hc
    rw [if_neg hclosing, hc, decide_true, Bool.and_true, if_pos rfl]

/-- A balanced text is cut out whole in front of a boundary. -/
theorem toBoundary_balanced (atComma : Bool) {cs : List Char} (h : Balanced cs)
    (hcommas : atComma = true → CommasInside .outside cs) {c : Char}
    (hc : isBoundary atComma c = true) (rest : List Char) :
    toBoundary atComma .outside 0 (cs ++ c :: rest) = (cs, c :: rest) := by
  have hall := toBoundary_append_of h hcommas (c :: rest)
  rwa [Level.outside, toBoundary_of_isBoundary hc, List.append_nil] at hall

end Stencil.Text
