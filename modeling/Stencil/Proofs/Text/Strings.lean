import Stencil.Proofs.Text.Quotes

/-!
# Where strings end

A string is a quote, a body and the same quote again, where a backslash in the body takes the next
character with it (`IsString`).  Behind an opening quote either some string ends or none does
(`staysInside_or_body`).

The search for a boundary and the splitting at commas both keep to the states of `Quoting`.  What
they make of a text while they are in one of the states is seen from what they return for all texts
that it is the front of (`BoundaryReads`, `SplitReads`); and by that, either of them is in a string
exactly from the first character of a string to its last (`StringReader.readsString_iff`).
-/
namespace Stencil.Text

/-! ## Strings and their bodies -/

/-- What can stand between the quotes of a string: any character behind a backslash, and any other
than the quote. -/
inductive StringBody (quote : Char) : List Char → Prop where
  | nil : StringBody quote []
  | escape (c : Char) {cs : List Char} (h : StringBody quote cs) :
    StringBody quote ('\\' :: c :: cs)
  | plain {c : Char} {cs : List Char} (hquote : c ≠ quote) (hbackslash : c ≠ '\\')
    (h : StringBody quote cs) : StringBody quote (c :: cs)

/-- A string with its quotes. -/
def IsString (text : List Char) : Prop :=
  ∃ quote body, isQuote quote = true ∧ StringBody quote body ∧ text = quote :: (body ++ [quote])

theorem string_append (quote : Char) (body rest : List Char) :
    quote :: (body ++ [quote]) ++ rest = quote :: (body ++ quote :: rest) := by
  rw [List.cons_append, List.append_assoc, List.singleton_append]

theorem backslash_ne_quote {quote : Char} (hquote : isQuote quote = true) : quote ≠ '\\' := by
  rintro rfl
  cases hquote

/-- A scan for quotes is inside of a string before the text, at all places in it, and behind it. -/
def StaysInside : Quoting → List Char → Prop
  | q, [] => q ≠ .outside
  | q, c :: cs => q ≠ .outside ∧ StaysInside (q.step c) cs

theorem StaysInside.ne_outside {q : Quoting} {cs : List Char} (h : StaysInside q cs) :
    q ≠ .outside := by
  cases cs with
  | nil => exact h
  | cons c cs => exact h.1

theorem staysInside_append {q : Quoting} {cs ds : List Char} :
    StaysInside q (cs ++ ds) ↔ StaysInside q cs ∧ StaysInside (cs.foldl Quoting.step q) ds := by
  induction cs generalizing q with
  | nil => exact ⟨fun h => ⟨h.ne_outside, h⟩, fun h => h.2⟩
  | cons c cs ih => rw [List.cons_append, StaysInside, StaysInside, ih, and_assoc, List.foldl_cons]

theorem StaysInside.of_front {q : Quoting} {front cs : List Char} (h : StaysInside q cs)
    (hfront : front <+: cs) : StaysInside q front := by
  obtain ⟨rest, rfl⟩ := hfront
  exact (staysInside_append.mp h).1

theorem StaysInside.foldl_ne_outside {q : Quoting} {cs : List Char} (h : StaysInside q cs) :
    cs.foldl Quoting.step q ≠ .outside := by
  rw [← List.append_nil cs] at h
  exact (staysInside_append.mp h).2

section
variable {quote : Char}

theorem step_backslash (quote : Char) : Quoting.step (.inside quote) '\\' = .escaped quote := by
  rw [Quoting.step, if_pos rfl]

theorem step_plain {c : Char} (hquote : c ≠ quote) (hbackslash : c ≠ '\\') :
    Quoting.step (.inside quote) c = .inside quote := by
  rw [Quoting.step, if_neg hbackslash, if_neg hquote]

theorem step_quote (hquote : isQuote quote = true) :
    Quoting.step (.inside quote) quote = .outside := by
  rw [Quoting.step, if_neg (backslash_ne_quote hquote), if_pos rfl]

/-- A body neither ends the string nor leaves an escape open. -/
theorem StringBody.scans {body : List Char} (h : StringBody quote body) :
    StaysInside (.inside quote) body ∧ body.foldl Quoting.step (.inside quote) = .inside quote := by
  induction h with
  | nil => exact ⟨nofun, rfl⟩
  | escape c h ih =>
    rw [List.foldl_cons, step_backslash, List.foldl_cons]
    refine ⟨⟨nofun, ?_⟩, ih.2⟩
    rw [step_backslash]
    exact ⟨nofun, ih.1⟩
  | plain hquote hbackslash h ih =>
    rw [List.foldl_cons, step_plain hquote hbackslash]
    refine ⟨⟨nofun, ?_⟩, ih.2⟩
    rw [step_plain hquote hbackslash]
    exact ih.1

/-- Behind an opening quote the string ends, or it does not end at all. -/
theorem staysInside_or_body (quote : Char) : ∀ cs : List Char,
    StaysInside (.inside quote) cs ∨ ∃ body rest, StringBody quote body ∧ cs = body ++ quote :: rest
  | [] => .inl nofun
  | c :: cs => by
    by_cases hbackslash : c = '\\'
    · subst hbackslash
      cases cs with
      | nil =>
        refine .inl ⟨nofun, ?_⟩
        rw [step_backslash]
        exact nofun
      | cons d cs =>
        rcases staysInside_or_body quote cs with hinside | ⟨body, rest, hbody, rfl⟩
        · refine .inl ⟨nofun, ?_⟩
          rw [step_backslash]
          exact ⟨nofun, hinside⟩
        · exact .inr ⟨'\\' :: d :: body, rest, .escape d hbody, rfl⟩
    · by_cases hquote : c = quote
      · exact .inr ⟨[], cs, .nil, by rw [hquote, List.nil_append]⟩
      · rcases staysInside_or_body quote cs with hinside | ⟨body, rest, hbody, rfl⟩
        · refine .inl ⟨nofun, ?_⟩
          rw [step_plain hquote hbackslash]
          exact hinside
        · exact .inr ⟨c :: body, rest, .plain hquote hbackslash hbody, rfl⟩

/-- A front of a string stands inside of it behind its opening quote, unless it is all of it. -/
theorem staysInside_of_front {body front : List Char} (hbody : StringBody quote body)
    (hfront : front <+: body ++ [quote]) (hne : front ≠ body ++ [quote]) :
    StaysInside (.inside quote) front := by
  rcases List.prefix_concat_iff.mp hfront with heq | hfront
  · exact absurd heq hne
  · exact hbody.scans.1.of_front hfront

end

/-! ## Readers that mind strings -/

/-- The search for a boundary gets from `q` to `q'` over the text, whatever follows it. -/
def BoundaryReads (q : Quoting) (text : List Char) (q' : Quoting) : Prop :=
  ∀ atComma depth rest, toBoundary atComma q depth (text ++ rest) =
    (text ++ (toBoundary atComma q' depth rest).1, (toBoundary atComma q' depth rest).2)

/-- The splitting at commas gets from `q` to `q'` over the text, whatever follows it. -/
def SplitReads (q : Quoting) (text : List Char) (q' : Quoting) : Prop :=
  ∀ depth rest, atCommas q depth (text ++ rest) = (atCommas q' depth rest).modifyHead (text ++ ·)

/-- A reader is in a string from the first character of the text to the last, and outside behind
it. -/
structure ReadsString (reads : Quoting → List Char → Quoting → Prop) (text : List Char) :
    Prop where
  nonempty : text ≠ []
  ends : reads .outside text .outside
  within : ∀ front, front <+: text → front ≠ [] → front ≠ text →
    ∃ q, q ≠ .outside ∧ reads .outside front q

/-- A reader enters a string at a quote, takes the steps of `Quoting` in it, and can be told by what
it does behind a text whether it is in a string there. -/
structure StringReader (reads : Quoting → List Char → Quoting → Prop) : Prop where
  nil : ∀ q, reads q [] q
  append : ∀ {q q' q'' cs ds}, reads q cs q' → q' ≠ .outside → reads q' ds q'' →
    reads q (cs ++ ds) q''
  opens : ∀ {quote}, isQuote quote = true → reads .outside [quote] (.inside quote)
  step : ∀ {q} c, q ≠ .outside → reads q [c] (q.step c)
  outside : ∀ {cs q q'}, reads .outside cs q → reads .outside cs q' → q = .outside → q' = .outside

namespace StringReader
variable {reads : Quoting → List Char → Quoting → Prop} (h : StringReader reads)
include h

theorem reads_of_staysInside {q : Quoting} {cs : List Char} (hinside : StaysInside q cs) :
    reads q cs (cs.foldl Quoting.step q) := by
  induction cs generalizing q with
  | nil => exact h.nil q
  | cons c cs ih => exact h.append (h.step c hinside.1) hinside.2.ne_outside (ih hinside.2)

/-- The reader is inside behind an opening quote and a text that does not end the string. -/
theorem reads_front {quote : Char} (hquote : isQuote quote = true) {front : List Char}
    (hinside : StaysInside (.inside quote) front) :
    reads .outside (quote :: front) (front.foldl Quoting.step (.inside quote)) :=
  h.append (h.opens hquote) nofun (h.reads_of_staysInside hinside)

theorem reads_string {quote : Char} (hquote : isQuote quote = true) {body : List Char}
    (hbody : StringBody quote body) : reads .outside (quote :: (body ++ [quote])) .outside := by
  have hfront := h.reads_front hquote hbody.scans.1
  rw [hbody.scans.2] at hfront
  have hlast := h.step (q := .inside quote) quote nofun
  rw [step_quote hquote] at hlast
  exact h.append hfront nofun hlast

/-- In a text that starts with a quote, the reader leaves the string with its last character. -/
theorem readsString_iff {text : List Char} (hquote : text.head?.all isQuote = true) :
    ReadsString reads text ↔ IsString text := by
  constructor
  · intro hreads
    cases text with
    | nil => exact absurd rfl hreads.nonempty
    | cons quote cs =>
      have hquote : isQuote quote = true := hquote
      rcases staysInside_or_body quote cs with hinside | ⟨body, rest, hbody, rfl⟩
      · exact absurd (h.outside hreads.ends (h.reads_front hquote hinside) rfl)
          hinside.foldl_ne_outside
      · have hfront : quote :: (body ++ [quote]) <+: quote :: (body ++ quote :: rest) :=
          ⟨rest, string_append quote body rest⟩
        by_cases heq : quote :: (body ++ [quote]) = quote :: (body ++ quote :: rest)
        · exact ⟨quote, body, hquote, hbody, heq.symm⟩
        · obtain ⟨q, hq, hwithin⟩ := hreads.within _ hfront (List.cons_ne_nil _ _) heq
          exact absurd (h.outside (h.reads_string hquote hbody) hwithin rfl) hq
  · rintro ⟨quote, body, hquote, hbody, rfl⟩
    refine ⟨List.cons_ne_nil _ _, h.reads_string hquote hbody, fun front hfront hnil hne => ?_⟩
    cases front with
    | nil => exact absurd rfl hnil
    | cons c front =>
      obtain ⟨rfl, hfront⟩ := List.cons_prefix_cons.mp hfront
      have hinside := staysInside_of_front hbody hfront fun heq => hne (heq ▸ rfl)
      exact ⟨_, hinside.foldl_ne_outside, h.reads_front hquote hinside⟩

end StringReader

theorem not_bracket_of_isQuote {quote : Char} (hquote : isQuote quote = true) :
    isOpening quote = false ∧ isClosing quote = false ∧ quote ≠ ',' := by
  simp only [isQuote, Bool.or_eq_true, decide_eq_true_eq] at hquote
  rcases hquote with rfl | rfl <;> decide

theorem stringReader_boundary : StringReader BoundaryReads where
  nil q atComma depth rest := rfl
  append h _ h' atComma depth rest := by
    rw [List.append_assoc, h, h', List.append_assoc]
  opens {quote} hquote atComma depth rest := by
    obtain ⟨hopening, hclosing, hcomma⟩ := not_bracket_of_isQuote hquote
    simp [toBoundary, hopening, hclosing, hcomma, Quoting.step, hquote]
  step {q} c hq atComma depth rest := by
    cases q with
    | outside => exact absurd rfl hq
    | inside quote => rfl
    | escaped quote => rfl
  outside {cs q q'} h h' hq := by
    -- a closing bracket ends the search only outside of strings
    have heq := (h false 0 [')']).symm.trans (h' false 0 [')'])
    subst hq
    cases q' with
    | outside => rfl
    | inside quote => simp [toBoundary, isOpening, isClosing] at heq
    | escaped quote => simp [toBoundary, isOpening, isClosing] at heq

theorem atCommas_ne_nil (q : Quoting) (depth : Nat) (cs : List Char) :
    atCommas q depth cs ≠ [] := by
  cases cs with
  | nil => exact List.cons_ne_nil _ _
  | cons c cs =>
    simp only [atCommas]
    repeat' split
    all_goals exact List.cons_ne_nil _ _

theorem atCommas_inside {q : Quoting} (hq : q ≠ .outside) (depth : Nat) (c : Char)
    (cs : List Char) :
    atCommas q depth (c :: cs) = (atCommas (q.step c) depth cs).modifyHead (c :: ·) := by
  have hne := atCommas_ne_nil (q.step c) depth cs
  cases q with
  | outside => exact absurd rfl hq
  | inside quote =>
    simp only [atCommas]
    split
    · next hnil => exact absurd hnil hne
    · next hparts => rw [hparts, List.modifyHead_cons]
  | escaped quote =>
    simp only [atCommas]
    split
    · next hnil => exact absurd hnil hne
    · next hparts => rw [hparts, List.modifyHead_cons]

theorem stringReader_split : StringReader SplitReads where
  nil q depth rest := by
    cases hparts : atCommas q depth rest <;> simp [hparts]
  append h _ h' depth rest := by
    rw [List.append_assoc, h, h', List.modifyHead_modifyHead]
    simp [Function.comp_def]
  opens {quote} hquote depth rest := by
    obtain ⟨hopening, hclosing, hcomma⟩ := not_bracket_of_isQuote hquote
    obtain ⟨part, parts, hparts⟩ :=
      List.exists_cons_of_ne_nil (atCommas_ne_nil (.inside quote) depth rest)
    simp [atCommas, hopening, hclosing, hcomma, Quoting.step, hquote, hparts]
  step {q} c hq depth rest := by
    rw [List.singleton_append, atCommas_inside hq]
    rfl
  outside {cs q q'} h h' hq := by
    -- a comma splits only outside of strings
    have heq := congrArg List.length ((h 0 [',']).symm.trans (h' 0 [',']))
    rw [List.length_modifyHead, List.length_modifyHead, hq] at heq
    cases q' with
    | outside => rfl
    | inside quote => cases heq
    | escaped quote => cases heq

end Stencil.Text
