import Mathlib.Tactic.TFAE
import Stencil.Proofs.Expr.Trailing
import Stencil.Proofs.Source.Closers
import Stencil.Proofs.Text.Strings

/-!
# One extent for every string

Four readers pass over strings.  The one of expressions takes a backslash and the next character as
a pair; the one of tags looks back from each quote and counts backslashes (`EndsAtQuote`); and the
search for a boundary and the splitting at commas remember whether the last character was an open
backslash.  They agree on where the string at the start of a text ends, and on whether it does
(`strings_agree`).
-/
namespace Stencil.Source
open Text

/-! ## Strings of expressions -/

section
variable {quote : Char} (hquote : isQuote quote = true)
include hquote

theorem stringRest?_iff {cs rest : List Char} :
    (∃ value, Expr.Found.stringRest? quote cs = some (value, rest)) ↔
      ∃ body, StringBody quote body ∧ cs = body ++ quote :: rest := by
  constructor
  · rintro ⟨value, h⟩
    fun_induction Expr.Found.stringRest? quote cs generalizing value with
    | case1 => cases h
    | case2 c cs ih =>
      obtain ⟨⟨tail, after⟩, htail, h⟩ := Option.map_eq_some_iff.mp h
      obtain ⟨-, rfl⟩ := Prod.mk.inj h
      obtain ⟨body, hbody, rfl⟩ := ih tail htail
      exact ⟨'\\' :: c :: body, .escape c hbody, rfl⟩
    | case3 cs hescape =>
      obtain ⟨-, rfl⟩ := Prod.mk.inj (Option.some.inj h)
      exact ⟨[], .nil, rfl⟩
    | case4 => cases h
    | case5 c cs hescape hc hbackslash ih =>
      obtain ⟨⟨tail, after⟩, htail, h⟩ := Option.map_eq_some_iff.mp h
      obtain ⟨-, rfl⟩ := Prod.mk.inj h
      obtain ⟨body, hbody, rfl⟩ := ih tail htail
      exact ⟨c :: body, .plain hc hbackslash hbody, rfl⟩
  · rintro ⟨body, hbody, rfl⟩
    induction hbody with
    | nil =>
      refine ⟨[], ?_⟩
      rw [List.nil_append, Expr.Found.stringRest?_cons quote (backslash_ne_quote hquote),
        if_pos rfl]
    | @escape c body hbody ih =>
      obtain ⟨value, hvalue⟩ := ih
      refine ⟨Expr.Found.unescape c ++ value, ?_⟩
      rw [List.cons_append, List.cons_append, Expr.Found.stringRest?, hvalue, Option.map_some]
    | @plain c body hc hbackslash hbody ih =>
      obtain ⟨value, hvalue⟩ := ih
      refine ⟨c :: value, ?_⟩
      rw [List.cons_append, Expr.Found.stringRest?_cons quote hbackslash, if_neg hc, hvalue,
        Option.map_some]

theorem string?_iff {cs rest : List Char} :
    (∃ value, Expr.Found.string? (quote :: cs) = some (.string value, rest)) ↔
      ∃ body, StringBody quote body ∧ cs = body ++ quote :: rest := by
  rw [← stringRest?_iff hquote, Expr.Found.string?, if_pos hquote]
  constructor
  · rintro ⟨value, h⟩
    obtain ⟨⟨text, after⟩, htext, h⟩ := Option.map_eq_some_iff.mp h
    obtain ⟨-, rfl⟩ := Prod.mk.inj h
    exact ⟨text, htext⟩
  · rintro ⟨text, htext⟩
    exact ⟨String.ofList text, by rw [htext, Option.map_some]⟩

theorem string?_eq_none_iff {cs : List Char} :
    Expr.Found.string? (quote :: cs) = none ↔
      ∀ body rest, StringBody quote body → cs ≠ body ++ quote :: rest := by
  constructor
  · rintro hnone body rest hbody heq
    obtain ⟨value, hvalue⟩ := (string?_iff hquote).mpr ⟨body, hbody, heq⟩
    rw [hnone] at hvalue
    cases hvalue
  · intro hnever
    cases hfound : Expr.Found.string? (quote :: cs) with
    | none => rfl
    | some found =>
      rw [Expr.Found.string?, if_pos hquote] at hfound
      obtain ⟨⟨value, rest⟩, hvalue, -⟩ := Option.map_eq_some_iff.mp hfound
      obtain ⟨body, hbody, heq⟩ := (stringRest?_iff hquote).mp ⟨value, hvalue⟩
      exact absurd heq (hnever body rest hbody)

/-! ## Strings of tags -/

/-- Backslashes are counted no farther back than to the quote that opens the string. -/
theorem isEscaped_append_quote (before : List Char) :
    isEscaped (before ++ [quote]) = isEscaped before := by
  have hne := backslash_ne_quote hquote
  rw [isEscaped, isEscaped, List.takeWhile_append]
  split
  · next hall =>
    rw [List.takeWhile_cons_of_neg (by simpa using hne), List.append_nil, hall]
  · rfl

/-- A character that does not end the string is kept as read. -/
theorem open_of_ne_outside {before : List Char} {c : Char}
    (h : (quoting (some (quote, before))).step c ≠ .outside) :
    (c = quote && !isEscaped before) = false := by
  rw [← Bool.not_eq_true]
  intro hcloses
  rw [quoting_inside hquote, if_pos hcloses] at h
  exact h rfl

/-- Inside of a string, the scan for a closer keeps what it has read. -/
theorem foldl_quoting {before front : List Char}
    (hinside : StaysInside (quoting (some (quote, before))) front) :
    front.foldl Quoting.step (quoting (some (quote, before))) =
      quoting (some (quote, front.reverse ++ before)) := by
  induction front generalizing before with
  | nil => rfl
  | cons c front ih =>
    obtain ⟨-, hfront⟩ := hinside
    have hopen := open_of_ne_outside hquote hfront.ne_outside
    rw [quoting_inside hquote, hopen] at hfront
    rw [List.foldl_cons, quoting_inside hquote, hopen, List.reverse_cons, List.append_assoc]
    exact ih hfront

end

theorem quoting_start (quote : Char) : quoting (some (quote, [])) = .inside quote := by
  simp [quoting, isEscaped]

/-- Where a string still goes on behind a quote of its own kind, that quote is escaped. -/
theorem isEscaped_of_staysInside {quote : Char} (hquote : isQuote quote = true)
    {front : List Char} (hinside : StaysInside (.inside quote) (front ++ [quote])) :
    isEscaped (quote :: front).reverse = true := by
  rw [← quoting_start] at hinside
  obtain ⟨hfront, hquoted⟩ := staysInside_append.mp hinside
  rw [foldl_quoting hquote hfront, List.append_nil] at hquoted
  have hopen := open_of_ne_outside hquote hquoted.2
  rw [List.reverse_cons, isEscaped_append_quote hquote]
  simpa using hopen

/-- The quote that ends a string is not escaped. -/
theorem not_isEscaped_of_body {quote : Char} (hquote : isQuote quote = true) {body : List Char}
    (hbody : StringBody quote body) : isEscaped (quote :: body).reverse = false := by
  obtain ⟨hinside, hends⟩ := hbody.scans
  rw [← quoting_start] at hinside
  rw [← quoting_start, foldl_quoting hquote hinside, List.append_nil, quoting_start,
    quoting] at hends
  rw [List.reverse_cons, isEscaped_append_quote hquote]
  split at hends
  · cases hends
  · next hopen => rwa [Bool.not_eq_true] at hopen

/-- A text ends at the quote that closes its string, by the count of backslashes: behind the opening
quote, only its last character is a quote of the same kind with an even number of backslashes right
before it. -/
def EndsAtQuote (text : List Char) : Prop :=
  ∃ quote body, isQuote quote = true ∧ text = quote :: (body ++ [quote]) ∧
    isEscaped (quote :: body).reverse = false ∧
    ∀ front, front ++ [quote] <+: body → isEscaped (quote :: front).reverse = true

theorem endsAtQuote_iff {text : List Char} : EndsAtQuote text ↔ IsString text := by
  constructor
  · rintro ⟨quote, body, hquote, rfl, hlast, hfirst⟩
    refine ⟨quote, body, hquote, ?_, rfl⟩
    rcases staysInside_or_body quote (body ++ [quote]) with hinside | ⟨front, rest, hfront, heq⟩
    · rw [isEscaped_of_staysInside hquote hinside] at hlast
      cases hlast
    · have hprefix : front ++ [quote] <+: body ++ [quote] := ⟨rest, by simp [heq]⟩
      rcases List.prefix_concat_iff.mp hprefix with hall | hprefix
      · rwa [← List.append_cancel_right hall]
      · -- the front would end at a quote before the last
        have hescaped := hfirst front hprefix
        rw [not_isEscaped_of_body hquote hfront] at hescaped
        cases hescaped
  · rintro ⟨quote, body, hquote, hbody, rfl⟩
    refine ⟨quote, body, hquote, rfl, not_isEscaped_of_body hquote hbody, fun front hfront => ?_⟩
    exact isEscaped_of_staysInside hquote (hbody.scans.1.of_front hfront)

/-- The scan for the closer of a tag gets from `q` to `q'` over the text, whatever follows it, if
the closer is anywhere in what it has before it when it is not in a string. -/
def TagReads (q : Quoting) (text : List Char) (q' : Quoting) : Prop :=
  ∀ string, quoting string = q → (∀ s ∈ string, isQuote s.1 = true) →
    ∃ string', quoting string' = q' ∧ (∀ s ∈ string', isQuote s.1 = true) ∧
      ∀ d ∈ delimiters, ∀ offset rest, (string = none → d.closer <:+: text ++ rest) →
        upToCloser d.closer offset string (text ++ rest) =
          (upToCloser d.closer offset string' rest).map fun found => (text ++ found.1, found.2)

theorem indexOf?_isNone_of_infix {needle cs : List Char} (h : needle <:+: cs) :
    (indexOf? needle cs).isNone = false := by
  obtain ⟨before, after, rfl⟩ := h
  have hstands : needle <+: (before ++ needle ++ after).drop before.length := by
    rw [List.append_assoc, List.drop_left]
    exact List.prefix_append needle after
  obtain ⟨first, -, hfirst⟩ := exists_indexOf?_le hstands
  rw [hfirst]
  rfl

/-- No tag closes with a quote. -/
theorem not_closer_prefix {d : Delimiter} (hd : d ∈ delimiters) {quote : Char}
    (hquote : isQuote quote = true) (cs : List Char) : ¬ d.closer <+: quote :: cs := by
  have hall : (delimiters.all fun d => d.closer.head?.any fun c => !isQuote c) = true := by decide
  obtain ⟨c, hhead, hc⟩ := (Option.any_eq_true _ _).mp (List.all_eq_true.mp hall d hd)
  obtain ⟨tail, htail⟩ := List.head?_eq_some_iff.mp hhead
  rw [htail, List.cons_prefix_cons]
  rintro ⟨rfl, -⟩
  rw [hquote] at hc
  cases hc

theorem quoting_eq_outside_iff {string : Option (Char × List Char)} :
    quoting string = .outside ↔ string = none := by
  cases string with
  | none => exact ⟨fun _ => rfl, fun _ => rfl⟩
  | some s =>
    obtain ⟨quote, before⟩ := s
    refine ⟨fun h => ?_, nofun⟩
    rw [quoting] at h
    split at h <;> cases h

theorem bind_cons_eq_map (c : Char) (result : Except Cause (List Char × List Char)) :
    (do let (body, rest) ← result; .ok (c :: body, rest)) =
      result.map fun found => ([c] ++ found.1, found.2) := by
  cases result <;> rfl

theorem stringReader_tag : StringReader TagReads where
  nil q string hq hstring := by
    refine ⟨string, hq, hstring, fun d _ offset rest _ => ?_⟩
    rw [List.nil_append]
    cases upToCloser d.closer offset string rest <;> rfl
  append {q q' q'' cs ds} h hq' h' string hq hstring := by
    obtain ⟨string', hstring', hquotes', hreads⟩ := h string hq hstring
    obtain ⟨string'', hstring'', hquotes'', hreads'⟩ := h' string' hstring' hquotes'
    refine ⟨string'', hstring'', hquotes'', fun d hd offset rest hcloser => ?_⟩
    have hcloser' : string' = none → d.closer <:+: ds ++ rest := fun hnone =>
      absurd (hstring'.symm.trans (quoting_eq_outside_iff.mpr hnone)) hq'
    rw [List.append_assoc] at hcloser
    rw [List.append_assoc, hreads d hd offset (ds ++ rest) hcloser,
      hreads' d hd offset rest hcloser']
    cases upToCloser d.closer offset string'' rest <;> simp [Except.map]
  opens {quote} hquote string hq hstring := by
    obtain rfl := quoting_eq_outside_iff.mp hq
    refine ⟨some (quote, []), quoting_start quote, ?_, fun d hd offset rest hcloser => ?_⟩
    · rintro _ ⟨⟩
      exact hquote
    · have hnot := not_closer_prefix hd hquote rest
      have hrest : d.closer <:+: rest := (List.infix_cons_iff.mp (hcloser rfl)).resolve_left hnot
      rw [← List.isPrefixOf_iff_prefix] at hnot
      rw [List.singleton_append, upToCloser, if_neg hnot, indexOf?_isNone_of_infix hrest,
        Bool.and_false, if_pos hquote]
      exact bind_cons_eq_map quote _
  step {q} c hq string hstring hquotes := by
    cases string with
    | none => exact absurd hstring.symm hq
    | some s =>
      obtain ⟨quote, before⟩ := s
      have hquote := hquotes _ rfl
      let string := if c = quote && !isEscaped before then none else some (quote, c :: before)
      refine ⟨string, ?_, ?_, fun d hd offset rest _ => ?_⟩
      · rw [← hstring, quoting_inside hquote]
      · simp only [string]
        split
        · rintro _ ⟨⟩
        · rintro _ ⟨⟩
          exact hquote
      · rw [List.singleton_append, upToCloser]
        exact bind_cons_eq_map c _
  outside {cs q q'} h h' hq := by
    obtain ⟨string, hstring, -, hreads⟩ := h none rfl (by rintro _ ⟨⟩)
    obtain ⟨string', hstring', hquotes', hreads'⟩ := h' none rfl (by rintro _ ⟨⟩)
    -- the closer itself ends the body only outside of strings
    have hd := Mark.output.delimiter_mem false false
    have hcloser := (List.suffix_append cs (Mark.output.closer false)).isInfix
    have heq := (hreads _ hd 0 _ fun _ => hcloser).symm.trans (hreads' _ hd 0 _ fun _ => hcloser)
    rw [hq, quoting_eq_outside_iff] at hstring
    subst hstring
    cases string' with
    | none => exact hstring'.symm
    | some s =>
      obtain ⟨quote, before⟩ := s
      have hquote := hquotes' _ rfl
      have hne : '\x7d' ≠ quote := by
        rintro rfl
        cases hquote
      simp [Mark.delimiter, Mark.closer, upToCloser, hne, Except.map, bind, Except.bind] at heq

/-! ## One extent -/

section
variable {quote : Char} (hquote : isQuote quote = true) {cs : List Char}

theorem isString_iff_of_front {read : List Char} (hread : read <+: quote :: cs) :
    IsString read ↔
      isQuote quote = true ∧ ∃ body, StringBody quote body ∧ read = quote :: (body ++ [quote]) := by
  constructor
  · rintro ⟨c, body, hc, hbody, rfl⟩
    obtain ⟨rfl, -⟩ := List.cons_prefix_cons.mp hread
    exact ⟨hc, body, hbody, rfl⟩
  · rintro ⟨hquote, body, hbody, rfl⟩
    exact ⟨quote, body, hquote, hbody, rfl⟩

include hquote

theorem readsString_iff_of_front {reads : Quoting → List Char → Quoting → Prop}
    (h : StringReader reads) {read : List Char} (hread : read <+: quote :: cs) :
    ReadsString reads read ↔ IsString read := by
  refine h.readsString_iff ?_
  cases read with
  | nil => rfl
  | cons c read =>
    obtain ⟨rfl, -⟩ := List.cons_prefix_cons.mp hread
    exact hquote

/-- A string of an expression is the front of the text that is a string. -/
theorem string?_iff_isString {read rest : List Char} (hcut : quote :: cs = read ++ rest) :
    (∃ value, Expr.Found.string? (quote :: cs) = some (.string value, rest)) ↔ IsString read := by
  rw [string?_iff hquote, isString_iff_of_front ⟨rest, hcut.symm⟩]
  constructor
  · rintro ⟨body, hbody, rfl⟩
    rw [← string_append] at hcut
    exact ⟨hquote, body, hbody, (List.append_cancel_right hcut).symm⟩
  · rintro ⟨-, body, hbody, rfl⟩
    rw [string_append] at hcut
    exact ⟨body, hbody, (List.cons.inj hcut).2⟩

/-- There is no string in front of the text for the reader of expressions if there is none by any
other account of what a string is. -/
theorem string?_eq_none_iff_of_isString {IsRead : List Char → Prop}
    (h : ∀ read, read <+: quote :: cs → (IsRead read ↔ IsString read)) :
    Expr.Found.string? (quote :: cs) = none ↔
      ∀ read, read <+: quote :: cs → ¬ IsRead read := by
  rw [string?_eq_none_iff hquote]
  constructor
  · intro hnever read hread his
    obtain ⟨-, body, hbody, rfl⟩ := (isString_iff_of_front hread).mp ((h read hread).mp his)
    obtain ⟨rest, hrest⟩ := hread
    rw [string_append] at hrest
    exact hnever body rest hbody (List.cons.inj hrest).2.symm
  · rintro hnever body rest hbody rfl
    have hread : quote :: (body ++ [quote]) <+: quote :: (body ++ quote :: rest) :=
      ⟨rest, string_append quote body rest⟩
    exact hnever _ hread ((h _ hread).mpr ⟨quote, body, hquote, hbody, rfl⟩)

end

/-- What the scans return for a text that no string ends in, from its opening quote on. -/
structure RunsOn (text : List Char) : Prop where
  tag : ∀ d ∈ delimiters, d.closer <:+: text → ∀ offset,
    upToCloser d.closer offset none text = .error .unclosedString
  boundary : ∀ atComma depth, toBoundary atComma .outside depth text = (text, [])
  split : ∀ depth, atCommas .outside depth text = [text]

theorem runsOn_of_staysInside {quote : Char} (hquote : isQuote quote = true) {cs : List Char}
    (hinside : StaysInside (.inside quote) cs) : RunsOn (quote :: cs) where
  tag d hd hcloser offset := by
    obtain ⟨string, hstring, -, hreads⟩ :=
      stringReader_tag.reads_front hquote hinside none rfl (by rintro _ ⟨⟩)
    have hread := hreads d hd offset [] fun _ => by rwa [List.append_nil]
    rw [List.append_nil] at hread
    rw [hread]
    cases string with
    | none => exact absurd hstring.symm hinside.foldl_ne_outside
    | some s => rfl
  boundary atComma depth := by
    have hread := stringReader_boundary.reads_front hquote hinside atComma depth []
    rwa [List.append_nil, toBoundary, List.append_nil] at hread
  split depth := by
    have hread := stringReader_split.reads_front hquote hinside depth []
    rwa [List.append_nil, atCommas, List.modifyHead_cons, List.append_nil] at hread

/-- The readers agree on the string at the start of a text: on each front of the text, whether it is
the string; on whether there is one; and if there is none, they all run on to the end. -/
structure StringsAgree (quote : Char) (cs : List Char) : Prop where
  extent : ∀ read rest, quote :: cs = read ++ rest →
    [IsString read,
      ∃ value, Expr.Found.string? (quote :: cs) = some (.string value, rest),
      EndsAtQuote read,
      ReadsString TagReads read,
      ReadsString BoundaryReads read,
      ReadsString SplitReads read].TFAE
  unclosed :
    [Expr.Found.string? (quote :: cs) = none,
      ∀ read, read <+: quote :: cs → ¬ EndsAtQuote read,
      ∀ read, read <+: quote :: cs → ¬ ReadsString TagReads read,
      ∀ read, read <+: quote :: cs → ¬ ReadsString BoundaryReads read,
      ∀ read, read <+: quote :: cs → ¬ ReadsString SplitReads read].TFAE
  runsOn : Expr.Found.string? (quote :: cs) = none → RunsOn (quote :: cs)

/-- A string in front of a text has one extent for all who read it. -/
theorem strings_agree {quote : Char} (hquote : isQuote quote = true) (cs : List Char) :
    StringsAgree quote cs where
  extent read rest hcut := by
    have hread : read <+: quote :: cs := ⟨rest, hcut.symm⟩
    tfae_have 2 ↔ 1 := string?_iff_isString hquote hcut
    tfae_have 3 ↔ 1 := endsAtQuote_iff
    tfae_have 4 ↔ 1 := readsString_iff_of_front hquote stringReader_tag hread
    tfae_have 5 ↔ 1 := readsString_iff_of_front hquote stringReader_boundary hread
    tfae_have 6 ↔ 1 := readsString_iff_of_front hquote stringReader_split hread
    tfae_finish
  unclosed := by
    have hreads {reads} (h : StringReader reads) :=
      @string?_eq_none_iff_of_isString quote hquote cs (ReadsString reads)
        fun read hread => readsString_iff_of_front hquote h hread
    tfae_have 1 ↔ 2 := string?_eq_none_iff_of_isString hquote fun read _ => endsAtQuote_iff
    tfae_have 1 ↔ 3 := hreads stringReader_tag
    tfae_have 1 ↔ 4 := hreads stringReader_boundary
    tfae_have 1 ↔ 5 := hreads stringReader_split
    tfae_finish
  runsOn hnone := by
    rcases staysInside_or_body quote cs with hinside | ⟨body, rest, hbody, rfl⟩
    · exact runsOn_of_staysInside hquote hinside
    · exact absurd rfl ((string?_eq_none_iff hquote).mp hnone body rest hbody)

/-- Of the text `"a\\" b"`, with two backslashes before its second quote, all of them take the first
five characters for a string. -/
theorem strings_agree_escaped_backslash :
    isQuote '"' = true ∧ StringsAgree '"' "a\\\\\" b\"".toList ∧
      Expr.Found.string? "\"a\\\\\" b\"".toList = some (.string "a\\", " b\"".toList) :=
  ⟨by decide, strings_agree (by decide) _, rfl⟩

end Stencil.Source
