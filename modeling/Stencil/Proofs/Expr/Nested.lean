import Stencil.Expr.Postfix
import Stencil.Proofs.Text.Levels

/-!
# Texts inside expressions

Two lexemes hold a text that is compiled on its own: a function written in the expression holds its
body, and a key in brackets what stands between the brackets.  Such a text is shorter than the text
that it was read from (`nested_length_lt`), so the bound on the depth of `compileWith` is never
reached, and `compile` satisfies the equation that one would like to define it by (`compile_eq`).
-/
namespace Stencil.Expr
open Text

/-- The text inside a lexeme that is compiled on its own. -/
def Lexeme.nested? : Lexeme → Option String
  | .lambda _ body => some body
  | .keyBrackets text => some text
  | _ => none

/-- How many brackets a lexeme opens. -/
def Kind.opens : Kind → Nat
  | .subexprStart | .paramStart | .arrayStart | .objectStart => 1
  | _ => 0

/-- How many brackets a lexeme closes. -/
def Kind.closes : Kind → Nat
  | .subexprEnd | .paramEnd | .arrayEnd | .objectEnd => 1
  | _ => 0

/-! ## One lexeme -/

/-- A lexeme read at the start of a text.  What is left is shorter than the text, and so is a text
inside the lexeme.  The lexeme has whole strings and the brackets of its kind, unless a text inside
is not balanced. -/
structure Reads (cs : List Char) (l : Lexeme) (rest : List Char) : Prop where
  shorter : rest.length < cs.length
  nested : ∀ s ∈ l.nested?, s.length < cs.length
  levels : (∀ s ∈ l.nested?, Balanced s.toList) → Crosses l.kind.closes l.kind.opens cs rest

namespace Found

/-- A lexeme with no text inside. -/
theorem reads_of_crosses {cs rest : List Char} {l : Lexeme} (hl : l.nested? = none)
    (hshorter : rest.length < cs.length) (hcrosses : Crosses l.kind.closes l.kind.opens cs rest) :
    Reads cs l rest :=
  ⟨hshorter, fun s hs => (by rw [hl] at hs; cases hs), fun _ => hcrosses⟩

/-- The lexeme has no text inside and is no bracket. -/
abbrev Simple (l : Lexeme) : Prop := l.nested? = none ∧ l.kind.closes = 0 ∧ l.kind.opens = 0

theorem reads_plain {cs rest : List Char} {l : Lexeme} (h : Takes cs rest) (hl : Simple l) :
    Reads cs l rest := by
  obtain ⟨hnested, hcloses, hopens⟩ := hl
  refine reads_of_crosses hnested h.shorter ?_
  rw [hcloses, hopens]
  exact h.passes.crosses 0

/-- A word to be tried: it is not empty and has no quotes and no brackets. -/
abbrev Plain (word : List Char) : Prop := Unmarked word ∧ word ≠ []

theorem takes_words? {words : List (List Char)} {cs rest : List Char} (hne : words ≠ [])
    (hwords : ∀ word ∈ words, Plain word) (h : words? words cs = some rest) : Takes cs rest := by
  fun_induction words? words cs with
  | case1 => exact absurd rfl hne
  | case2 cs word =>
    obtain ⟨hword, hne⟩ := hwords _ List.mem_cons_self
    exact takes_after? hword hne h
  | case3 cs word more hmore ih =>
    obtain ⟨next, hnext, h⟩ := Option.bind_eq_some_iff.mp h
    obtain ⟨trimmed, htrimmed, h⟩ := Option.bind_eq_some_iff.mp h
    obtain ⟨hword, hne⟩ := hwords _ List.mem_cons_self
    have hrest := ih trimmed hmore (fun w hw => hwords w (List.mem_cons_of_mem _ hw)) h
    exact (takes_after? hword hne hnext).trans ((passes_afterBlanks? htrimmed).trans hrest.passes)

theorem takes_wholeWord? {alternatives : List (List Char)} {cs word rest : List Char}
    (hwords : ∀ word ∈ alternatives, Plain word)
    (h : wholeWord? alternatives cs = some (word, rest)) : Takes cs rest := by
  obtain ⟨w, hmem, hw⟩ := List.exists_of_findSome?_eq_some h
  split at hw
  · next r hr =>
    split at hw
    · obtain ⟨_, rfl⟩ := Prod.mk.inj (Option.some.inj hw)
      exact takes_after? (hwords w hmem).1 (hwords w hmem).2 hr
    · cases hw
  · cases hw

theorem takes_testName? {cs name rest : List Char} (h : testName? cs = some (name, rest)) :
    Takes cs rest := by
  obtain ⟨⟨first, tail⟩, hfirst, h⟩ := Option.bind_eq_some_iff.mp h
  have htail := takes_name? hfirst
  simp only at h
  split at h
  · next word after hsecond =>
    obtain ⟨_, rfl⟩ := Prod.mk.inj (Option.some.inj h)
    obtain ⟨blanks, hblanks, hsecond⟩ := Option.bind_eq_some_iff.mp hsecond
    obtain ⟨w, hmem, hw⟩ := List.exists_of_findSome?_eq_some hsecond
    obtain ⟨r, hr, hw⟩ := Option.map_eq_some_iff.mp hw
    obtain ⟨_, rfl⟩ := Prod.mk.inj hw
    have hword : ∀ word ∈ ["as".toList, "by".toList], Unmarked word := by decide
    exact htail.trans ((passes_afterBlanks? hblanks).trans (passes_after? (hword w hmem) hr))
  · obtain ⟨_, rfl⟩ := Prod.mk.inj (Option.some.inj h)
    exact htail

theorem test?_reads {cs rest : List Char} {l : Lexeme} (h : test? cs = some (l, rest)) :
    Reads cs l rest := by
  obtain ⟨tail, htail, h⟩ := Option.bind_eq_some_iff.mp h
  obtain ⟨word, hword, hblanks⟩ := Option.bind_eq_some_iff.mp htail
  have htaken : Takes cs tail :=
    (takes_after? (by decide) (by decide) hword).trans (passes_afterBlanks? hblanks)
  simp only at h
  split at h
  · next name after hnegated =>
    obtain ⟨rfl, rfl⟩ := Prod.mk.inj (Option.some.inj h)
    obtain ⟨second, hsecond, hname⟩ := Option.bind_eq_some_iff.mp hnegated
    obtain ⟨_, hnot, hblanks⟩ := Option.bind_eq_some_iff.mp hsecond
    exact reads_plain (htaken.trans ((passes_after? (by decide) hnot).trans
      ((passes_afterBlanks? hblanks).trans (takes_testName? hname).passes))) ⟨rfl, rfl, rfl⟩
  · obtain ⟨⟨name, after⟩, hname, h⟩ := Option.bind_eq_some_iff.mp h
    obtain ⟨rfl, rfl⟩ := Prod.mk.inj (Option.some.inj h)
    exact reads_plain (htaken.trans (takes_testName? hname).passes) ⟨rfl, rfl, rfl⟩

theorem char?_reads {wanted : Char} {lexeme l : Lexeme} {cs rest : List Char}
    (h : char? wanted lexeme cs = some (l, rest)) (hl : lexeme.nested? = none)
    (hwanted : ∀ rest, Crosses lexeme.kind.closes lexeme.kind.opens (wanted :: rest) rest) :
    Reads cs l rest := by
  cases cs with
  | nil => cases h
  | cons c cs =>
    simp only [char?] at h
    split at h
    · next hc =>
      obtain ⟨rfl, rfl⟩ := Prod.mk.inj (Option.some.inj h)
      exact reads_of_crosses hl (Nat.lt_succ_self _) (hc ▸ hwanted cs)
    · cases h

/-- What is left after the digits of a number and its fraction. -/
theorem passes_fraction (digits : List Char) :
    Passes digits (match digits with
      | '.' :: tail =>
        if (tail.takeWhile isDigit).isEmpty then ([], digits)
        else ('.' :: tail.takeWhile isDigit, tail.dropWhile isDigit)
      | rest => ([], rest)).2 := by
  split
  · next tail =>
    split
    · exact .refl _
    · exact (Passes.cons (by decide) tail).trans (passes_dropWhile isMark_of_isDigit tail)
  · exact .refl _

/-- Digits take at least one character. -/
theorem takes_digits {cs : List Char} (h : (cs.takeWhile isDigit).isEmpty = false) :
    Takes cs (cs.dropWhile isDigit) := by
  refine ⟨passes_dropWhile isMark_of_isDigit cs, ?_⟩
  have hlength := congrArg List.length (cs.takeWhile_append_dropWhile (p := isDigit))
  have hpos := List.length_pos_iff.mpr (List.isEmpty_eq_false_iff.mp h)
  rw [List.length_append] at hlength
  omega

/-- A sign that may be there. -/
theorem passes_sign {cs sign tail : List Char}
    (h : (match cs with
      | '-' :: rest => (['-'], rest)
      | rest => ([], rest)) = (sign, tail)) : Passes cs tail := by
  split at h
  · rw [← (Prod.mk.inj h).2]
    exact .cons (by decide) _
  · exact (Prod.mk.inj h).2 ▸ .refl _

theorem number?_reads {cs rest : List Char} {l : Lexeme} (h : number? cs = some (l, rest)) :
    Reads cs l rest := by
  unfold number? at h
  split at h
  next sign tail hsign =>
    have htail := passes_sign hsign
    simp only [Option.ite_none_left_eq_some, Bool.not_eq_true] at h
    have hdigits := takes_digits h.1
    obtain ⟨value, _, h⟩ := Option.bind_eq_some_iff.mp h.2
    obtain ⟨rfl, rfl⟩ := Prod.mk.inj (Option.some.inj h)
    have hrest := hdigits.trans (passes_fraction _)
    exact reads_plain ⟨htail.trans hrest.passes, Nat.lt_of_lt_of_le hrest.shorter htail.length_le⟩
      ⟨rfl, rfl, rfl⟩

theorem wordOperator?_reads {cs rest : List Char} {l : Lexeme}
    (h : wordOperator? cs = some (l, rest)) : Reads cs l rest := by
  obtain ⟨words, hmem, hw⟩ := List.exists_of_findSome?_eq_some h
  have hplain : ∀ words ∈ wordOperators, words ≠ [] ∧ ∀ word ∈ words, Plain word := by decide
  split at hw
  · next r hr =>
    split at hw
    · obtain ⟨rfl, rfl⟩ := Prod.mk.inj (Option.some.inj hw)
      exact reads_plain (takes_words? (hplain words hmem).1 (hplain words hmem).2 hr)
        ⟨rfl, rfl, rfl⟩
    · cases hw
  · cases hw

theorem binary?_reads {before : List Lexeme} {cs rest : List Char} {l : Lexeme}
    (h : binary? before cs = some (l, rest)) : Reads cs l rest := by
  unfold binary? at h
  split at h
  · next found hfound =>
    exact wordOperator?_reads (hfound.trans h)
  · obtain ⟨symbol, hmem, hs⟩ := List.exists_of_findSome?_eq_some h
    obtain ⟨r, hr, hs⟩ := Option.map_eq_some_iff.mp hs
    have hplain : ∀ symbol ∈ symbolOperators, Plain symbol := by decide
    have htakes := takes_after? (hplain symbol hmem).1 (hplain symbol hmem).2 hr
    split at hs
    all_goals
      obtain ⟨rfl, rfl⟩ := Prod.mk.inj hs
      exact reads_plain htakes ⟨rfl, rfl, rfl⟩

/-- The rest of a string takes its closing quote, and only then is it outside. -/
theorem stringRest?_spec {quote : Char} (hquote : isQuote quote = true)
    {cs value rest : List Char} (h : stringRest? quote cs = some (value, rest)) :
    rest.length < cs.length ∧ ∃ piece, cs = piece ++ rest ∧
      ∀ depth, Level.after? ⟨.inside quote, depth⟩ piece = some ⟨.outside, depth⟩ := by
  fun_induction stringRest? quote cs generalizing value with
  | case1 => cases h
  | case2 c cs ih =>
    obtain ⟨⟨tail, after⟩, htail, h⟩ := Option.map_eq_some_iff.mp h
    obtain ⟨_, rfl⟩ := Prod.mk.inj h
    obtain ⟨hlength, piece, rfl, hpiece⟩ := ih htail
    refine ⟨Nat.lt_succ_of_lt (Nat.lt_succ_of_lt hlength), '\\' :: c :: piece, rfl, fun depth => ?_⟩
    have hbackslash : Quoting.step (.inside quote) '\\' = .escaped quote := by
      rw [Quoting.step, if_pos rfl]
    rw [Level.after?_cons, Level.step?_string, Option.bind_some, hbackslash, Level.after?_cons,
      Level.step?_escaped, Option.bind_some]
    exact hpiece depth
  | case3 cs hescape =>
    obtain ⟨_, rfl⟩ := Prod.mk.inj (Option.some.inj h)
    have hne : quote ≠ '\\' := by
      rintro rfl
      cases hquote
    have hends : Quoting.step (.inside quote) quote = .outside := by
      rw [Quoting.step, if_neg hne, if_pos rfl]
    refine ⟨Nat.lt_succ_self _, [quote], rfl, fun depth => ?_⟩
    rw [Level.after?_cons, Level.step?_string, Option.bind_some, hends, Level.after?_nil]
  | case4 => cases h
  | case5 c cs hescape hc hbackslash ih =>
    obtain ⟨⟨tail, after⟩, htail, h⟩ := Option.map_eq_some_iff.mp h
    obtain ⟨_, rfl⟩ := Prod.mk.inj h
    obtain ⟨hlength, piece, rfl, hpiece⟩ := ih htail
    have hstays : Quoting.step (.inside quote) c = .inside quote := by
      rw [Quoting.step, if_neg hbackslash, if_neg hc]
    refine ⟨Nat.lt_succ_of_lt hlength, c :: piece, rfl, fun depth => ?_⟩
    rw [Level.after?_cons, Level.step?_string, Option.bind_some, hstays]
    exact hpiece depth

theorem string?_reads {cs rest : List Char} {l : Lexeme} (h : string? cs = some (l, rest)) :
    Reads cs l rest := by
  cases cs with
  | nil => cases h
  | cons c cs =>
    simp only [string?, Option.ite_none_right_eq_some] at h
    obtain ⟨hquote, h⟩ := h
    obtain ⟨⟨value, after⟩, hvalue, h⟩ := Option.map_eq_some_iff.mp h
    obtain ⟨rfl, rfl⟩ := Prod.mk.inj h
    obtain ⟨hlength, piece, rfl, hpiece⟩ := stringRest?_spec hquote hvalue
    refine reads_of_crosses rfl (Nat.lt_succ_of_lt hlength) ⟨c :: piece, rfl, fun depth => ?_⟩
    rw [Level.after?_cons, Level.step?_quote hquote, Option.bind_some]
    exact hpiece depth

theorem passes_moreParams (fuel : Nat) (cs : List Char) : Passes cs (moreParams fuel cs).2 := by
  induction fuel generalizing cs with
  | zero => exact .refl cs
  | succ fuel ih =>
    rw [moreParams]
    split
    · next tail hcs =>
      split
      · next name after hname =>
        have htail : Passes cs tail := (passes_trimStart cs).trans (hcs ▸ .cons (by decide) tail)
        have hafter := (takes_name? hname).passes.trans (ih after)
        exact htail.trans ((passes_trimStart tail).trans hafter)
      · exact .refl cs
    · exact .refl cs

/-- Parameters have the parentheses around them, if there are any. -/
theorem params?_crosses {cs rest : List Char} {names : List (List Char)}
    (h : params? cs = some (names, rest)) :
    rest.length < cs.length ∧ Crosses 0 0 cs rest := by
  unfold params? at h
  split at h
  · next tail =>
    split at h
    next found after hfound =>
      have hafter : Passes tail after := by
        split at hfound
        · next name more hname =>
          rw [← (Prod.mk.inj hfound).2]
          exact (passes_trimStart tail).trans
            ((takes_name? hname).passes.trans (passes_moreParams _ _))
        · exact (Prod.mk.inj hfound).2 ▸ .refl tail
      obtain ⟨r, hr, h⟩ := Option.map_eq_some_iff.mp h
      obtain ⟨_, rfl⟩ := Prod.mk.inj h
      have hnames := hafter.trans (passes_trimStart after)
      have hlength := hnames.length_le
      have hclosing := after?_eq_some hr
      rw [hclosing] at hnames hlength
      rw [List.length_append, List.length_singleton, Nat.add_comm] at hlength
      refine ⟨Nat.lt_succ_of_lt hlength, ?_⟩
      exact (crosses_opening rfl tail).trans ((hnames.crosses 1).trans (crosses_closing rfl rfl r))
  · obtain ⟨⟨name, after⟩, hname, h⟩ := Option.map_eq_some_iff.mp h
    obtain ⟨_, rfl⟩ := Prod.mk.inj h
    have htakes := takes_name? hname
    exact ⟨htakes.shorter, htakes.passes.crosses 0⟩

theorem lambda?_reads {cs rest : List Char} {l : Lexeme} (h : lambda? cs = some (l, rest)) :
    Reads cs l rest := by
  obtain ⟨⟨names, tail⟩, hparams, h⟩ := Option.bind_eq_some_iff.mp h
  obtain ⟨body, hbody, h⟩ := Option.bind_eq_some_iff.mp h
  obtain ⟨hlength, hcrosses⟩ := params?_crosses hparams
  have harrow : Passes tail body :=
    (passes_trimStart tail).trans (passes_after? (by decide) hbody)
  have hlt : body.length < cs.length := Nat.lt_of_le_of_lt harrow.length_le hlength
  simp only [Option.ite_none_left_eq_some] at h
  obtain ⟨rfl, rfl⟩ := Prod.mk.inj (Option.some.inj h.2)
  refine ⟨?_, ?_, fun hnested => ?_⟩
  · exact Nat.lt_of_le_of_lt (toBoundary_suffix _ _ _ body).length_le hlt
  · intro s hs
    obtain rfl := Option.mem_some.mp hs
    have htrim := trim_length_le (toBoundary true .outside 0 body).1
    have hinner := toBoundary_length_le true .outside 0 body
    rw [String.length_ofList]
    omega
  · have hbalanced := hnested _ rfl
    rw [String.toList_ofList, balanced_trim] at hbalanced
    have hinner := hbalanced.crosses 0 (toBoundary true .outside 0 body).2
    rw [toBoundary_append] at hinner
    exact hcrosses.trans ((harrow.crosses 0).trans hinner)

theorem close?_reads {opener : Kind} {lexeme l : Lexeme} {before : List Lexeme}
    {cs rest : List Char} (hl : lexeme.nested? = none) (hcloses : lexeme.kind.closes = 1)
    (hopens : lexeme.kind.opens = 0) (h : close? opener lexeme before cs = some (l, rest)) :
    Reads cs l rest := by
  simp only [close?, Option.ite_none_right_eq_some] at h
  refine char?_reads h.2 hl fun rest => ?_
  rw [hcloses, hopens]
  exact crosses_closing rfl rfl rest

theorem paramStart?_reads {before : List Lexeme} {cs rest : List Char} {l : Lexeme}
    (h : paramStart? before cs = some (l, rest)) : Reads cs l rest := by
  cases before with
  | nil => cases h
  | cons prev before =>
    simp only [paramStart?, Option.ite_none_left_eq_some] at h
    exact char?_reads h.2 rfl (crosses_opening rfl)

theorem passes_bound (cs : List Char) : Passes cs (bound cs).2 := by
  unfold bound
  split
  next sign tail hsign =>
    exact (passes_sign hsign).trans (passes_dropWhile isMark_of_isDigit tail)

theorem slice?_reads {cs rest : List Char} {l : Lexeme} (h : slice? cs = some (l, rest)) :
    Reads cs l rest := by
  obtain ⟨inner, hinner, h⟩ := Option.bind_eq_some_iff.mp h
  obtain ⟨second, hsecond, h⟩ := Option.bind_eq_some_iff.mp h
  obtain ⟨last, hlast, h⟩ := Option.bind_eq_some_iff.mp h
  obtain ⟨rfl, rfl⟩ := Prod.mk.inj (Option.some.inj h)
  obtain rfl := after?_eq_some hinner
  have hbounds : Passes inner (bound second).2 := (passes_bound inner).trans
    ((passes_after? (by decide) hsecond).trans (passes_bound second))
  have hclosing : (bound second).2 = ']' :: last := after?_eq_some hlast
  rw [hclosing] at hbounds
  have hlength := hbounds.length_le
  refine reads_of_crosses rfl (Nat.lt_succ_of_lt hlength) ?_
  exact (crosses_opening rfl inner).trans ((hbounds.crosses 1).trans (crosses_closing rfl rfl last))

theorem filter?_reads {cs rest : List Char} {l : Lexeme} (h : filter? cs = some (l, rest)) :
    Reads cs l rest := by
  obtain ⟨tail, htail, h⟩ := Option.bind_eq_some_iff.mp h
  obtain ⟨⟨name, after⟩, hname, h⟩ := Option.bind_eq_some_iff.mp h
  obtain ⟨rfl, rfl⟩ := Prod.mk.inj (Option.some.inj h)
  exact reads_plain ((takes_after? (by decide) (by decide) htail).trans
    ((passes_trimStart tail).trans (takes_name? hname).passes)) ⟨rfl, rfl, rfl⟩

theorem function?_reads {cs rest : List Char} {l : Lexeme} (h : function? cs = some (l, rest)) :
    Reads cs l rest := by
  obtain ⟨⟨name, after⟩, hname, h⟩ := Option.bind_eq_some_iff.mp h
  simp only at h
  split at h
  · next tail hafter =>
    simp only [Option.ite_none_left_eq_some] at h
    obtain ⟨rfl, rfl⟩ := Prod.mk.inj (Option.some.inj h.2)
    exact reads_plain ((takes_name? hname).trans (hafter ▸ passes_trimStart after)) ⟨rfl, rfl, rfl⟩
  · cases h

theorem variableName?_reads {cs rest : List Char} {l : Lexeme}
    (h : variableName? cs = some (l, rest)) : Reads cs l rest := by
  obtain ⟨⟨name, after⟩, hname, h⟩ := Option.bind_eq_some_iff.mp h
  simp only [Option.ite_none_left_eq_some] at h
  obtain ⟨rfl, rfl⟩ := Prod.mk.inj (Option.some.inj h.2)
  exact reads_plain (takes_name? hname) ⟨rfl, rfl, rfl⟩

theorem keyPeriod?_reads {cs rest : List Char} {l : Lexeme} (h : keyPeriod? cs = some (l, rest)) :
    Reads cs l rest := by
  obtain ⟨tail, htail, h⟩ := Option.bind_eq_some_iff.mp h
  simp only [Option.ite_none_left_eq_some] at h
  obtain ⟨rfl, rfl⟩ := Prod.mk.inj (Option.some.inj h.2)
  exact reads_plain ((takes_after? (by decide) (by decide) htail).trans
    (passes_dropWhile isMark_of_isWord tail)) ⟨rfl, rfl, rfl⟩

theorem keyBrackets?_reads {cs rest : List Char} {l : Lexeme}
    (h : keyBrackets? cs = some (l, rest)) : Reads cs l rest := by
  obtain ⟨inner, hinner, h⟩ := Option.bind_eq_some_iff.mp h
  obtain ⟨last, hlast, h⟩ := Option.bind_eq_some_iff.mp h
  simp only [Option.ite_none_left_eq_some] at h
  obtain ⟨rfl, rfl⟩ := Prod.mk.inj (Option.some.inj h.2)
  obtain rfl := after?_eq_some hinner
  have hclosing := after?_eq_some hlast
  have hwhole := toBoundary_append false .outside 0 inner
  have hlength := congrArg List.length hwhole
  simp only [hclosing, List.length_append, List.length_singleton] at hlength
  refine ⟨?_, ?_, fun hnested => ?_⟩
  · rw [List.length_append, List.length_singleton]
    omega
  · intro s hs
    obtain rfl := Option.mem_some.mp hs
    have htrim := trim_length_le (toBoundary false .outside 0 inner).1
    rw [String.length_ofList, List.length_append, List.length_singleton]
    omega
  · have hbalanced := hnested _ rfl
    rw [String.toList_ofList, balanced_trim] at hbalanced
    have hkey := hbalanced.crosses 1 (toBoundary false .outside 0 inner).2
    rw [hwhole, hclosing] at hkey
    exact (crosses_opening rfl inner).trans (hkey.trans (crosses_closing rfl rfl last))

theorem constant?_reads {alternatives : List String} {lexeme l : Lexeme} {cs rest : List Char}
    (hwords : ∀ word ∈ alternatives.map String.toList, Plain word) (hl : Simple lexeme)
    (h : constant? alternatives lexeme cs = some (l, rest)) : Reads cs l rest := by
  obtain ⟨⟨word, after⟩, hword, h⟩ := Option.map_eq_some_iff.mp h
  obtain ⟨rfl, rfl⟩ := Prod.mk.inj h
  exact reads_plain (takes_wholeWord? hwords hword) hl

/-- Whatever kind of lexeme is read, it reads a part of the text. -/
theorem ofKind?_reads {before : List Lexeme} {cs rest : List Char} {l : Lexeme} {k : Kind}
    (h : ofKind? before cs k = some (l, rest)) : Reads cs l rest := by
  cases k with
  | test => exact test?_reads h
  | number => exact number?_reads h
  | binary => exact binary?_reads h
  | unary =>
    obtain ⟨⟨word, after⟩, hword, h⟩ := Option.map_eq_some_iff.mp h
    obtain ⟨rfl, rfl⟩ := Prod.mk.inj h
    exact reads_plain (takes_wholeWord? (by decide) hword) ⟨rfl, rfl, rfl⟩
  | string => exact string?_reads h
  | lambda => exact lambda?_reads h
  | subexprEnd | paramEnd => exact close?_reads rfl rfl rfl h
  | paramStart => exact paramStart?_reads h
  | slice => exact slice?_reads h
  | filter => exact filter?_reads h
  | function => exact function?_reads h
  | «variable» => exact variableName?_reads h
  | keyPeriod => exact keyPeriod?_reads h
  | keyBrackets => exact keyBrackets?_reads h
  | null | context => exact constant?_reads (by decide) ⟨rfl, rfl, rfl⟩ h
  | bool =>
    simp only [ofKind?] at h
    split at h
    · next found hfound => exact constant?_reads (by decide) ⟨rfl, rfl, rfl⟩ (hfound.trans h)
    · exact constant?_reads (by decide) ⟨rfl, rfl, rfl⟩ h
  | comma => exact char?_reads h rfl fun rest => (Passes.cons rfl rest).crosses 0
  | subexprStart | arrayStart | objectStart => exact char?_reads h rfl (crosses_opening rfl)
  | arrayEnd | objectEnd => exact char?_reads h rfl (crosses_closing rfl rfl)

end Found

/-! ## All lexemes of a text -/

theorem nextLexeme_reads {before : List Lexeme} {offset : Nat} {cs rest : List Char} {l : Lexeme}
    (h : nextLexeme before offset cs = .ok (l, rest)) : Reads cs l rest := by
  unfold nextLexeme at h
  simp only at h
  split at h
  · next taken hfind =>
    obtain rfl := Except.ok.inj h
    obtain ⟨k, _, hk⟩ := List.mem_filterMap.mp (List.mem_of_find?_eq_some hfind)
    exact Found.ofKind?_reads hk
  · cases h

theorem lexemesFrom_nested {fuel offset : Nat} {before ls : List Lexeme} {cs : List Char}
    (h : lexemesFrom fuel before offset cs = .ok ls) :
    ∀ l ∈ ls, l ∈ before ∨ ∀ s ∈ l.nested?, s.length < cs.length := by
  induction fuel generalizing before offset cs with
  | zero =>
    obtain rfl := Except.ok.inj h
    exact fun l hl => Or.inl (List.mem_reverse.mp hl)
  | succ fuel ih =>
    rw [lexemesFrom] at h
    split at h
    · obtain rfl := Except.ok.inj h
      exact fun l hl => Or.inl (List.mem_reverse.mp hl)
    · split at h
      · cases h
      · next taken after hnext =>
        have hreads := nextLexeme_reads hnext
        have hblanks := (trimStart_suffix cs).length_le
        intro l hl
        rcases ih h l hl with hbefore | hnested
        · rcases List.mem_cons.mp hbefore with rfl | hbefore
          · exact Or.inr fun s hs => Nat.lt_of_lt_of_le (hreads.nested s hs) hblanks
          · exact Or.inl hbefore
        · refine Or.inr fun s hs => Nat.lt_of_lt_of_le (hnested s hs) ?_
          exact Nat.le_trans (Nat.le_of_lt hreads.shorter) hblanks

/-- The texts inside the lexemes of a text are shorter than the text. -/
theorem nested_length_lt {cs : List Char} {ls : List Lexeme} (h : lexemes cs = .ok ls) :
    ∀ l ∈ ls, ∀ s ∈ l.nested?, s.length < cs.length := by
  intro l hl
  rcases lexemesFrom_nested h l hl with hl | hl
  · cases hl
  · exact hl

/-! ## The equation of `compile` -/

theorem Yard.step_congr {f g : String → Except Failure Expr} {l : Lexeme}
    (h : ∀ s ∈ l.nested?, f s = g s) (y : Yard) : Yard.step f y l = Yard.step g y l := by
  cases l with
  | lambda params body => rw [Yard.step, Yard.step, h body rfl]
  | keyBrackets text => rw [Yard.step, Yard.step, h text rfl]
  | _ => rfl

theorem foldlM_step_congr {f g : String → Except Failure Expr} {ls : List Lexeme}
    (h : ∀ l ∈ ls, ∀ s ∈ l.nested?, f s = g s) (y : Yard) :
    ls.foldlM (Yard.step f) y = ls.foldlM (Yard.step g) y := by
  induction ls generalizing y with
  | nil => rfl
  | cons l ls ih =>
    rw [List.foldlM_cons, List.foldlM_cons, Yard.step_congr (h l List.mem_cons_self) y]
    exact congrArg _ (funext fun y => ih (fun l hl => h l (List.mem_cons_of_mem _ hl)) y)

theorem ofLexemes_congr {f g : String → Except Failure Expr} {ls : List Lexeme}
    (h : ∀ l ∈ ls, ∀ s ∈ l.nested?, f s = g s) (text : String) :
    ofLexemes f text ls = ofLexemes g text ls := by
  rw [ofLexemes, ofLexemes, foldlM_step_congr h]

/-- Any depth beyond the length of a text compiles it in the same way. -/
theorem compileWith_congr {m n : Nat} {text : String} (hm : text.length < m)
    (hn : text.length < n) : compileWith m text = compileWith n text := by
  induction m generalizing n text with
  | zero => exact absurd hm (Nat.not_lt_zero _)
  | succ m ih =>
    cases n with
    | zero => exact absurd hn (Nat.not_lt_zero _)
    | succ n =>
      rw [compileWith, compileWith]
      cases hls : lexemes text.toList with
      | error e => rfl
      | ok ls =>
        refine ofLexemes_congr (fun l hl s hs => ?_) text
        have hlt := nested_length_lt hls l hl s hs
        rw [String.length_toList] at hlt
        exact ih (by omega) (by omega)

/-- An expression is compiled by reading its lexemes and putting operators behind their operands,
where the texts inside it are compiled in the same way. -/
theorem compile_eq (text : String) :
    compile text = lexemes text.toList >>= ofLexemes compile text := by
  rw [compile, compileWith]
  cases hls : lexemes text.toList with
  | error e => rfl
  | ok ls =>
    refine ofLexemes_congr (fun l hl s hs => ?_) text
    have hlt := nested_length_lt hls l hl s hs
    rw [String.length_toList] at hlt
    exact compileWith_congr hlt (Nat.lt_succ_self _)

end Stencil.Expr
