import Stencil.Proofs.Expr.Nested
import Stencil.Proofs.Text.Trailing

/-!
# Blanks at the ends of an expression

An expression is the same with blanks at its ends or without (`compile_trim`).  Blanks in front are
passed over before the first lexeme is read.  Those at the end change nothing that is read, since
no lexeme starts with a blank or ends with one, except for a text inside, which is trimmed.
-/
namespace Stencil.Expr
open Text

namespace Found

theorem words?_nil {words : List (List Char)} (hwords : ∀ word ∈ words, Solid word ∧ word ≠ [])
    (hne : words ≠ []) : words? words [] = none := by
  obtain ⟨word, more, rfl⟩ := List.exists_cons_of_ne_nil hne
  obtain ⟨c, word, rfl⟩ := List.exists_cons_of_ne_nil (hwords _ List.mem_cons_self).2
  cases more with
  | nil => rfl
  | cons next more => rfl

theorem words?_alike {words : List (List Char)} (hwords : ∀ word ∈ words, Solid word ∧ word ≠ [])
    {cs ds rest : List Char} (h : EndsAlike cs ds) (hrest : words? words cs = some rest) :
    ∃ rest', EndsAlike rest rest' ∧ words? words ds = some rest' := by
  fun_induction words? words cs generalizing ds with
  | case1 cs => exact ⟨ds, Option.some.inj hrest ▸ h, rfl⟩
  | case2 cs word => exact after?_alike (hwords _ List.mem_cons_self).1 h hrest
  | case3 cs word more hmore ih =>
    obtain ⟨next, hnext, hrest⟩ := Option.bind_eq_some_iff.mp hrest
    obtain ⟨trimmed, htrimmed, hrest⟩ := Option.bind_eq_some_iff.mp hrest
    obtain ⟨hword, hwords⟩ := List.forall_mem_cons.mp hwords
    have hne : trimmed ≠ [] := by
      rintro rfl
      cases hrest.symm.trans (words?_nil hwords hmore)
    obtain ⟨next', halike, hnext'⟩ := after?_alike hword.1 h hnext
    obtain ⟨trimmed', halike', htrimmed'⟩ := afterBlanks?_alike halike htrimmed hne
    obtain ⟨rest', hrest', hread⟩ := ih trimmed hwords halike' hrest
    refine ⟨rest', hrest', ?_⟩
    rw [words?, hnext']
    · simp only [Option.bind_some, htrimmed', hread, Option.bind_eq_bind]
    · exact hmore

theorem steady_wholeWord? (alternatives : List (List Char))
    (hwords : ∀ word ∈ alternatives, Solid word ∧ word ≠ []) :
    Steady (wholeWord? alternatives) := by
  refine Steady.findSome? fun word hword => ⟨fun {cs ds} h found rest hread => ?_⟩
  split at hread
  · next after hafter =>
    split at hread
    · next hends =>
      obtain ⟨rfl, rfl⟩ := Prod.mk.inj (Option.some.inj hread)
      obtain ⟨rest', hrest, hafter'⟩ := after?_alike (hwords word hword).1 h hafter
      refine ⟨rest', hrest, ?_⟩
      rw [hafter']
      exact if_pos ((wordEndsBefore_eq hrest).symm.trans hends)
    · cases hread
  · cases hread

theorem steady_testName? : Steady testName? := by
  have hwords : ∀ word ∈ ["as".toList, "by".toList], Solid word := by decide
  -- The second word of the name, if there is one.
  have hsecond : Steady fun cs => (afterBlanks? cs).bind fun tail =>
      ["as".toList, "by".toList].findSome? fun word =>
        (after? word tail).map fun rest => (word, rest) := by
    refine Steady.afterBlanks (Steady.findSome? fun word hword => ?_) rfl
    have hword := (steady_some word).afterWord word (hwords word hword)
    simpa only [Option.map_eq_bind, Function.comp_def] using hword
  have hname (name : List Char) := (hsecond.map (name ++ ' ' :: ·)).orElse (steady_some name)
  have heq : testName? = fun cs => (name? cs).bind fun found =>
      (((afterBlanks? found.2).bind fun tail =>
        ["as".toList, "by".toList].findSome? fun word =>
          (after? word tail).map fun rest => (word, rest)).map
            fun second => (found.1 ++ ' ' :: second.1, second.2)).or (some found) := by
    funext cs
    rw [testName?]
    refine congrArg _ (funext fun found => ?_)
    dsimp only
    generalize ((afterBlanks? found.2).bind _ : Option (List Char × List Char)) = second
    cases second <;> rfl
  rw [heq]
  exact steady_name?.bind hname

theorem steady_test? : Steady test? := by
  have hnot : Steady fun cs => ((after? "not".toList cs).bind afterBlanks?).bind testName? := by
    simpa only [Option.bind_assoc] using
      (steady_testName?.afterBlanks rfl).afterWord "not".toList (by decide)
  have hrest := (hnot.map fun name => Lexeme.test (String.ofList name) true).orElse
    (steady_testName?.map fun name => Lexeme.test (String.ofList name) false)
  have hafter := (hrest.afterBlanks rfl).afterWord "is".toList (by decide)
  have heq : test? = fun cs => (after? "is".toList cs).bind fun cs =>
      (afterBlanks? cs).bind fun cs =>
      ((((after? "not".toList cs).bind afterBlanks?).bind testName?).map
          fun found => (Lexeme.test (String.ofList found.1) true, found.2)).or
        ((testName? cs).map fun found => (Lexeme.test (String.ofList found.1) false, found.2)) := by
    funext cs
    rw [test?, Option.bind_eq_bind, Option.bind_assoc]
    refine congrArg _ (funext fun cs => congrArg _ (funext fun cs => ?_))
    dsimp only
    cases ((after? "not".toList cs).bind afterBlanks?).bind testName? with
    | some found => rfl
    | none => cases testName? cs <;> rfl
  rw [heq]
  exact hafter

theorem steady_char? {wanted : Char} (lexeme : Lexeme) (hwanted : isBlank wanted = false) :
    Steady (char? wanted lexeme) := by
  refine ⟨fun {cs ds} h l rest hread => ?_⟩
  cases h with
  | blank hcs hds =>
    cases cs with
    | nil => cases hread
    | cons c cs =>
      rw [char?] at hread
      split at hread
      · next hc => exact Bool.noConfusion (hwanted.symm.trans (hc ▸ hcs c List.mem_cons_self))
      · cases hread
  | cons c h =>
    rw [char?] at hread ⊢
    split at hread
    · next hc =>
      obtain ⟨rfl, rfl⟩ := Prod.mk.inj (Option.some.inj hread)
      exact ⟨_, h, if_pos hc⟩
    · cases hread



/-- A sign that may be there. -/
theorem steady_sign : Steady fun cs => some (match cs with
    | '-' :: rest => (['-'], rest)
    | rest => ([], rest)) := by
  have hsigned := (steady_some ['-']).afterWordOr (steady_some []) ['-'] (by decide)
  refine cast (congrArg Steady (funext fun cs => ?_)) hsigned
  split
  · rfl
  · next hnone => rw [after?_singleton_none fun rest => hnone rest, Option.elim_none]

/-- A fraction that may be there. -/
theorem steady_fraction : Steady fun digits => some (match digits with
    | '.' :: tail =>
      if (tail.takeWhile isDigit).isEmpty then ([], digits)
      else ('.' :: tail.takeWhile isDigit, tail.dropWhile isDigit)
    | rest => ([], rest)) := by
  have hsome (digits : List Char) : Steady fun cs =>
      if digits.isEmpty then none else some ('.' :: digits, cs) := by
    split
    · exact steady_none
    · exact steady_some ('.' :: digits)
  have hfraction := (((steady_takeWhile isBlank_of_isDigit).bind hsome).afterWord ['.']
    (by decide)).orElse (steady_some [])
  refine cast (congrArg Steady (funext fun cs => ?_)) hfraction
  split
  · next tail =>
    simp only [after?, if_pos, Option.bind_some]
    split <;> rfl
  · next hnone =>
    rw [after?_singleton_none fun rest => hnone rest, Option.bind_none, Option.none_or]

theorem steady_number? : Steady number? := by
  have hvalue (sign whole fraction : List Char) : Steady fun rest =>
      (Number.read? (sign ++ whole ++ fraction)).bind fun value =>
        some (Lexeme.number value, rest) := by
    cases Number.read? (sign ++ whole ++ fraction) with
    | none => exact steady_none
    | some value => exact steady_some (Lexeme.number value)
  have hfraction (sign whole : List Char) := steady_fraction.bind (hvalue sign whole)
  have hwhole (sign whole : List Char) : Steady fun rest =>
      if whole.isEmpty then none else (some (match rest with
        | '.' :: tail =>
          if (tail.takeWhile isDigit).isEmpty then ([], rest)
          else ('.' :: tail.takeWhile isDigit, tail.dropWhile isDigit)
        | rest => ([], rest))).bind fun found =>
          (Number.read? (sign ++ whole ++ found.1)).bind fun value =>
            some (Lexeme.number value, found.2) := by
    split
    · exact steady_none
    · exact hfraction sign whole
  exact steady_sign.bind fun sign => (steady_takeWhile isBlank_of_isDigit).bind (hwhole sign)

theorem steady_wordOperator? : Steady wordOperator? := by
  have hwords : ∀ words ∈ wordOperators, ∀ word ∈ words, Solid word ∧ word ≠ [] := by decide
  refine Steady.findSome? fun words hmem => ⟨fun {cs ds} h found rest hread => ?_⟩
  split at hread
  · next after hafter =>
    split at hread
    · next hends =>
      obtain ⟨rfl, rfl⟩ := Prod.mk.inj (Option.some.inj hread)
      obtain ⟨rest', hrest, hafter'⟩ := words?_alike (hwords words hmem) h hafter
      refine ⟨rest', hrest, ?_⟩
      rw [hafter']
      exact if_pos ((wordEndsBefore_eq hrest).symm.trans hends)
    · cases hread
  · cases hread

theorem steady_binary? (before : List Lexeme) : Steady (binary? before) := by
  have hwords : ∀ symbol ∈ symbolOperators, Solid symbol := by decide
  have hsymbols : Steady fun cs => symbolOperators.findSome? fun symbol =>
      (after? symbol cs).map fun rest =>
        if (symbol = ['-'] || symbol = ['+']) && expectsValue before then
          (Lexeme.unary (String.ofList symbol), rest)
        else (.binary (String.ofList symbol), rest) := by
    refine Steady.findSome? fun symbol hmem => ?_
    have hread (l : Lexeme) := (steady_some l).afterWord _ (hwords symbol hmem)
    split
    · simpa only [Option.map_eq_bind, Function.comp_def] using hread _
    · simpa only [Option.map_eq_bind, Function.comp_def] using hread _
  have heq : binary? before = fun cs => (wordOperator? cs).or
      (symbolOperators.findSome? fun symbol => (after? symbol cs).map fun rest =>
        if (symbol = ['-'] || symbol = ['+']) && expectsValue before then
          (Lexeme.unary (String.ofList symbol), rest)
        else (.binary (String.ofList symbol), rest)) := by
    funext cs
    rw [binary?]
    cases wordOperator? cs <;> rfl
  rw [heq]
  exact steady_wordOperator?.orElse hsymbols

theorem stringRest?_cons (quote : Char) {c : Char} (hc : c ≠ '\\') (cs : List Char) :
    stringRest? quote (c :: cs) = if c = quote then some ([], cs)
      else (stringRest? quote cs).map fun found => (c :: found.1, found.2) := by
  rw [stringRest?]
  · rw [if_neg hc]
  · exact fun _ _ heq _ => hc heq

theorem stringRest?_blank {quote : Char} (hquote : isQuote quote = true) {cs : List Char}
    (h : ∀ c ∈ cs, isBlank c = true) : stringRest? quote cs = none := by
  induction cs with
  | nil => rfl
  | cons c cs ih =>
    obtain ⟨hc, hcs⟩ := List.forall_mem_cons.mp h
    have hbackslash : c ≠ '\\' := by
      rintro rfl
      cases hc
    have hne : c ≠ quote := by
      rintro rfl
      exact Bool.noConfusion ((isQuote_of_isBlank hc).symm.trans hquote)
    rw [stringRest?_cons quote hbackslash, if_neg hne, ih hcs]
    rfl

theorem steady_stringRest? {quote : Char} (hquote : isQuote quote = true) :
    Steady (stringRest? quote) := by
  have hne : quote ≠ '\\' := by
    rintro rfl
    cases hquote
  refine ⟨fun {cs ds} h value rest hread => ?_⟩
  fun_induction stringRest? quote cs generalizing ds value rest with
  | case1 => cases hread
  | case2 c cs ih =>
    obtain ⟨⟨tail, after⟩, htail, hfound⟩ := Option.map_eq_some_iff.mp hread
    obtain ⟨rfl, rfl⟩ := Prod.mk.inj hfound
    cases h with
    | blank hcs _ => exact absurd (hcs _ List.mem_cons_self) (by decide)
    | cons _ h =>
      cases h with
      | blank hcs _ =>
        rw [stringRest?_blank hquote fun d hd => hcs d (List.mem_cons_of_mem c hd)] at htail
        cases htail
      | cons _ h =>
        obtain ⟨rest', hrest, hread'⟩ := ih h _ _ htail
        exact ⟨rest', hrest, by rw [stringRest?, hread', Option.map_some]⟩
  | case3 cs _ =>
    obtain ⟨rfl, rfl⟩ := Prod.mk.inj (Option.some.inj hread)
    cases h with
    | blank hcs _ =>
      have hblank := isQuote_of_isBlank (hcs quote List.mem_cons_self)
      exact Bool.noConfusion (hblank.symm.trans hquote)
    | cons _ h => exact ⟨_, h, by rw [stringRest?_cons quote hne, if_pos rfl]⟩
  | case4 => cases hread
  | case5 c cs _ hc hbackslash ih =>
    obtain ⟨⟨tail, after⟩, htail, hfound⟩ := Option.map_eq_some_iff.mp hread
    obtain ⟨rfl, rfl⟩ := Prod.mk.inj hfound
    cases h with
    | blank hcs _ =>
      rw [stringRest?_blank hquote fun d hd => hcs d (List.mem_cons_of_mem c hd)] at htail
      cases htail
    | cons _ h =>
      obtain ⟨rest', hrest, hread'⟩ := ih h _ _ htail
      refine ⟨rest', hrest, ?_⟩
      rw [stringRest?_cons quote hbackslash, if_neg hc, hread', Option.map_some]

theorem steady_string? : Steady string? := by
  refine ⟨fun {cs ds} h l rest hread => ?_⟩
  cases h with
  | blank hcs hds =>
    cases cs with
    | nil => cases hread
    | cons c cs =>
      simp only [string?, Option.ite_none_right_eq_some] at hread
      exact Bool.noConfusion ((isQuote_of_isBlank (hcs c List.mem_cons_self)).symm.trans hread.1)
  | cons c h =>
    simp only [string?, Option.ite_none_right_eq_some] at hread ⊢
    obtain ⟨hquote, hread⟩ := hread
    obtain ⟨rest', hrest, hread'⟩ := ((steady_stringRest? hquote).map
      fun value => Lexeme.string (String.ofList value)).alike h hread
    exact ⟨rest', hrest, hquote, hread'⟩

/-- A comma and a name. -/
def nextParam? (cs : List Char) : Option (List Char × List Char) :=
  (after? [','] (trimStart cs)).bind fun rest => name? (trimStart rest)

theorem steady_nextParam? : Steady nextParam? :=
  (steady_name?.trimmed.afterWord [','] (by decide)).trimmed

theorem nextParam?_shorter {cs name rest : List Char} (h : nextParam? cs = some (name, rest)) :
    rest.length < cs.length := by
  obtain ⟨tail, htail, hname⟩ := Option.bind_eq_some_iff.mp h
  have htail := takes_after? (by decide) (by decide) htail
  have hrest := htail.trans ((passes_trimStart tail).trans (takes_name? hname).passes)
  exact Nat.lt_of_lt_of_le hrest.shorter (passes_trimStart cs).length_le

theorem moreParams_succ (fuel : Nat) (cs : List Char) : moreParams (fuel + 1) cs
    = (nextParam? cs).elim ([], cs) fun found =>
      (found.1 :: (moreParams fuel found.2).1, (moreParams fuel found.2).2) := by
  rw [moreParams, nextParam?]
  split
  · next rest heq =>
    rw [heq]
    simp only [after?, if_pos, Option.bind_some]
    split
    · next name rest hname => rw [hname, Option.elim_some]
    · next hname => rw [hname, Option.elim_none]
  · next hnone =>
    rw [after?_singleton_none fun rest => hnone rest, Option.bind_none, Option.elim_none]

/-- More fuel than the text is long makes no difference. -/
theorem moreParams_alike {fuel fuel' : Nat} {cs ds : List Char} (h : EndsAlike cs ds)
    (hcs : cs.length ≤ fuel) (hds : ds.length ≤ fuel') :
    (moreParams fuel cs).1 = (moreParams fuel' ds).1 ∧
      EndsAlike (moreParams fuel cs).2 (moreParams fuel' ds).2 := by
  have hend {fuel : Nat} {cs : List Char} (hnone : nextParam? cs = none) :
      moreParams fuel cs = ([], cs) := by
    cases fuel with
    | zero => rfl
    | succ fuel => rw [moreParams_succ, hnone, Option.elim_none]
  induction fuel generalizing fuel' cs ds with
  | zero =>
    obtain rfl := List.length_eq_zero_iff.mp (Nat.le_zero.mp hcs)
    rw [hend (steady_nextParam?.eq_none h rfl)]
    exact ⟨rfl, h⟩
  | succ fuel ih =>
    cases hnext : nextParam? cs with
    | none =>
      rw [hend hnext, hend (steady_nextParam?.eq_none h hnext)]
      exact ⟨rfl, h⟩
    | some found =>
      obtain ⟨name, rest⟩ := found
      obtain ⟨rest', hrest, hnext'⟩ := steady_nextParam?.alike h hnext
      have hshorter := nextParam?_shorter hnext
      have hshorter' := nextParam?_shorter hnext'
      obtain ⟨more, rfl⟩ := Nat.exists_eq_succ_of_ne_zero (n := fuel') (by omega)
      obtain ⟨hnames, hafter⟩ := @ih more rest rest' hrest (by omega) (by omega)
      rw [moreParams_succ, moreParams_succ, hnext, hnext', Option.elim_some, Option.elim_some]
      exact ⟨congrArg (name :: ·) hnames, hafter⟩

theorem steady_moreParams : Steady fun cs => some (moreParams cs.length cs) := by
  refine ⟨fun {cs ds} h names rest hread => ?_⟩
  obtain ⟨hnames, hrest⟩ := moreParams_alike h (Nat.le_refl _) (Nat.le_refl _)
  rw [Option.some.inj hread] at hnames hrest
  exact ⟨_, hrest, congrArg some (Prod.ext hnames.symm rfl)⟩

theorem steady_params? : Steady params? := by
  have hnames := (steady_name?.trimmed.bind fun name =>
    steady_moreParams.map (name :: ·)).orElse (steady_some [])
  have hparams := (hnames.bind fun names =>
    ((steady_some names).afterWord [')'] (by decide)).trimmed).afterWordOr
      (steady_name?.map fun name => [name]) ['('] (by decide)
  refine cast (congrArg Steady (funext fun cs => ?_)) hparams
  unfold params?
  split
  · next tail =>
    simp only [after?, if_pos, Option.elim_some]
    cases name? (trimStart tail) with
    | none => simp only [Option.bind_none, Option.none_or, Option.bind_some, Option.map_eq_bind,
        Function.comp_def]
    | some found => simp only [Option.bind_some, Option.some_or, Option.map_eq_bind,
        Function.comp_def]
  · next hnone => rw [after?_singleton_none fun rest => hnone rest, Option.elim_none]

theorem steady_lambda? : Steady lambda? := by
  have hbody (names : List (List Char)) : Steady fun cs =>
      if (trim (toBoundary true .outside 0 cs).1).isEmpty then none
      else some (Lexeme.lambda (names.map String.ofList)
        (String.ofList (trim (toBoundary true .outside 0 cs).1)),
          (toBoundary true .outside 0 cs).2) := by
    refine ⟨fun {cs ds} h l rest hread => ?_⟩
    obtain ⟨hinner, hrest⟩ := toBoundary_alike true .outside 0 h
    rw [hinner.trim_eq] at hread
    split at hread
    · cases hread
    · next hne =>
      obtain ⟨rfl, rfl⟩ := Prod.mk.inj (Option.some.inj hread)
      exact ⟨_, hrest, if_neg hne⟩
  exact steady_params?.bind fun names =>
    ((hbody names).afterWord "=>".toList (by decide)).trimmed

theorem steady_close? (opener : Kind) (lexeme : Lexeme) (before : List Lexeme) :
    Steady (close? opener lexeme before) := by
  by_cases hopen : openParen? 0 before = some opener
  · have heq : close? opener lexeme before = char? ')' lexeme := funext fun cs => if_pos hopen
    exact heq ▸ steady_char? lexeme (by decide)
  · have heq : close? opener lexeme before = fun _ => none := funext fun cs => if_neg hopen
    exact heq ▸ steady_none

theorem steady_paramStart? (before : List Lexeme) : Steady (paramStart? before) := by
  cases before with
  | nil => exact steady_none
  | cons prev before =>
    by_cases hreserved : isReserved prev.word = true
    · have heq : paramStart? (prev :: before) = fun _ => none := funext fun cs => if_pos hreserved
      exact heq ▸ steady_none
    · have heq : paramStart? (prev :: before) = char? '(' .paramStart :=
        funext fun cs => if_neg hreserved
      exact heq ▸ steady_char? .paramStart (by decide)

theorem steady_bound : Steady fun cs => some (bound cs) :=
  steady_sign.bind fun sign => (steady_takeWhile isBlank_of_isDigit).bind fun digits =>
    steady_some (Number.readWord? (sign ++ digits))

theorem steady_slice? : Steady slice? := by
  have hend (start stop : Option Int) :=
    (steady_some (Lexeme.slice start stop)).afterWord [']'] (by decide)
  have hstop (start : Option Int) := (steady_bound.bind (hend start)).afterWord [':']
    (by decide)
  exact (steady_bound.bind hstop).afterWord ['['] (by decide)

theorem steady_filter? : Steady filter? :=
  (steady_name?.bind fun name => steady_some (Lexeme.filter (String.ofList name))).trimmed.afterWord
    ['|'] (by decide)

theorem steady_function? : Steady function? := by
  have hopening (name : List Char) : Steady fun tail =>
      if isReserved (String.ofList name) then none
      else some (Lexeme.function (String.ofList name), '(' :: tail) := by
    refine ⟨fun h l rest hread => ?_⟩
    split at hread
    · cases hread
    · next hfree =>
      obtain ⟨rfl, rfl⟩ := Prod.mk.inj (Option.some.inj hread)
      exact ⟨_, .cons '(' h, if_neg hfree⟩
  have heq : function? = fun cs => (name? cs).bind fun found =>
      (after? ['('] (trimStart found.2)).bind fun tail =>
        if isReserved (String.ofList found.1) then none
        else some (Lexeme.function (String.ofList found.1), '(' :: tail) := by
    funext cs
    rw [function?]
    refine congrArg _ (funext fun found => ?_)
    dsimp only
    cases trimStart found.2 with
    | nil => rfl
    | cons c tail =>
      by_cases hc : c = '('
      · subst hc
        rfl
      · simp [after?, hc, Ne.symm hc]
  rw [heq]
  exact steady_name?.bind fun name => ((hopening name).afterWord ['('] (by decide)).trimmed

theorem steady_variableName? : Steady variableName? := by
  have hname (name : List Char) : Steady fun cs =>
      if isReserved (String.ofList name) then none
      else some (Lexeme.variable (String.ofList name), cs) := by
    split
    · exact steady_none
    · exact steady_some (Lexeme.variable (String.ofList name))
  exact steady_name?.bind hname

theorem steady_keyPeriod? : Steady keyPeriod? := by
  have hkey (key : List Char) : Steady fun cs =>
      if key.isEmpty then none else some (Lexeme.keyPeriod (String.ofList key), cs) := by
    split
    · exact steady_none
    · exact steady_some (Lexeme.keyPeriod (String.ofList key))
  exact ((steady_takeWhile isBlank_of_isWord).bind hkey).afterWord ['.'] (by decide)

theorem steady_keyBrackets? : Steady keyBrackets? := by
  have hinner : Steady fun cs => some (trim (toBoundary false .outside 0 cs).1,
      (toBoundary false .outside 0 cs).2) := by
    refine ⟨fun {cs ds} h key rest hread => ?_⟩
    obtain ⟨hinner, hrest⟩ := toBoundary_alike false .outside 0 h
    obtain ⟨rfl, rfl⟩ := Prod.mk.inj (Option.some.inj hread)
    exact ⟨_, hrest, by rw [hinner.trim_eq]⟩
  have hkey (key : List Char) : Steady fun cs =>
      if key.isEmpty || (key.contains ':' && !key.head?.any isQuote) then none
      else some (Lexeme.keyBrackets (String.ofList key), cs) := by
    split
    · exact steady_none
    · exact steady_some (Lexeme.keyBrackets (String.ofList key))
  exact (hinner.bind fun key => (hkey key).afterWord [']'] (by decide)).afterWord
    ['['] (by decide)

theorem steady_constant? (alternatives : List String) (lexeme : Lexeme)
    (hwords : ∀ word ∈ alternatives.map String.toList, Solid word ∧ word ≠ []) :
    Steady (constant? alternatives lexeme) :=
  (steady_wholeWord? _ hwords).map fun _ => lexeme

/-- Whatever kind of lexeme is read, blanks at the end are not noticed. -/
theorem steady_ofKind? (before : List Lexeme) (k : Kind) :
    Steady fun cs => ofKind? before cs k := by
  cases k with
  | test => exact steady_test?
  | number => exact steady_number?
  | binary => exact steady_binary? before
  | unary =>
    exact (steady_wholeWord? ["not".toList] (by decide)).map fun _ => Lexeme.unary "not"
  | string => exact steady_string?
  | lambda => exact steady_lambda?
  | subexprEnd | paramEnd => exact steady_close? _ _ before
  | paramStart => exact steady_paramStart? before
  | slice => exact steady_slice?
  | filter => exact steady_filter?
  | function => exact steady_function?
  | «variable» => exact steady_variableName?
  | keyPeriod => exact steady_keyPeriod?
  | keyBrackets => exact steady_keyBrackets?
  | null | context => exact steady_constant? _ _ (by decide)
  | bool =>
    have hbool := (steady_constant? ["true", "TRUE"] (.bool true)
      (by decide)).orElse (steady_constant? ["false", "FALSE"] (.bool false)
        (by decide))
    refine cast (congrArg Steady (funext fun cs => ?_)) hbool
    rw [ofKind?]
    cases constant? ["true", "TRUE"] (.bool true) cs <;> rfl
  | comma | subexprStart | arrayStart | arrayEnd | objectStart | objectEnd =>
    exact steady_char? _ (by decide)

end Found

/-! ## All lexemes of a text -/

theorem find?_filterMap_eq_findSome? {α β : Type} (items : List α) (f : α → Option β)
    (p : β → Bool) : (items.filterMap f).find? p = items.findSome? fun x => (f x).filter p := by
  induction items with
  | nil => rfl
  | cons x items ih =>
    rw [List.filterMap_cons, List.findSome?_cons, ← ih]
    cases f x with
    | none => rfl
    | some y =>
      rw [Option.filter_some]
      dsimp only
      rw [List.find?_cons]
      cases p y <;> rfl

/-- The first lexeme that may stand there. -/
theorem nextLexeme_alike {before : List Lexeme} {offset : Nat} (offset' : Nat)
    {cs ds rest : List Char} {l : Lexeme} (h : EndsAlike cs ds)
    (hread : nextLexeme before offset cs = .ok (l, rest)) :
    ∃ rest', EndsAlike rest rest' ∧ nextLexeme before offset' ds = .ok (l, rest') := by
  have htaken : Steady fun cs => Kind.all.findSome? fun k =>
      (Found.ofKind? before cs k).filter fun found => mayFollow before found.1.kind :=
    Steady.findSome? fun k _ =>
      (Found.steady_ofKind? before k).filter fun l => mayFollow before l.kind
  have heq (cs : List Char) : (Kind.all.filterMap (Found.ofKind? before cs)).find?
      (fun found => mayFollow before found.1.kind) = Kind.all.findSome? fun k =>
        (Found.ofKind? before cs k).filter fun found => mayFollow before found.1.kind :=
    find?_filterMap_eq_findSome? Kind.all _ _
  rw [nextLexeme] at hread ⊢
  simp only [heq] at hread ⊢
  split at hread
  · next taken hfirst =>
    obtain rfl := Except.ok.inj hread
    obtain ⟨rest', hrest, hfirst'⟩ := htaken.alike h hfirst
    exact ⟨rest', hrest, by rw [hfirst']⟩
  · cases hread

theorem lexemesFrom_alike {fuel fuel' offset offset' : Nat} {before ls : List Lexeme}
    {cs ds : List Char} (h : EndsAlike (trimStart cs) (trimStart ds)) (hfuel : cs.length < fuel)
    (hfuel' : ds.length < fuel') (hread : lexemesFrom fuel before offset cs = .ok ls) :
    lexemesFrom fuel' before offset' ds = .ok ls := by
  induction fuel generalizing fuel' offset offset' before cs ds with
  | zero => exact absurd hfuel (Nat.not_lt_zero _)
  | succ fuel ih =>
    obtain ⟨more, rfl⟩ := Nat.exists_eq_succ_of_ne_zero (n := fuel') (by omega)
    rw [lexemesFrom] at hread ⊢
    split at hread
    · next hend =>
      have hend' := h.trimStart_eq_nil (by rw [List.isEmpty_iff.mp hend]; rfl)
      rw [trimStart_trimStart] at hend'
      rw [hend']
      exact hread
    · next hne =>
      have hne' : (trimStart ds).isEmpty = false := by
        rw [List.isEmpty_eq_false_iff]
        intro hend'
        have hend := h.symm.trimStart_eq_nil (by rw [hend']; rfl)
        rw [trimStart_trimStart] at hend
        exact hne (List.isEmpty_iff.mpr hend)
      rw [hne']
      split at hread
      · cases hread
      · next taken after hnext =>
        obtain ⟨after', halike, hnext'⟩ := nextLexeme_alike
          (offset' + byteLength (ds.takeWhile isBlank)) h hnext
        have hshorter := (nextLexeme_reads hnext).shorter
        have hshorter' := (nextLexeme_reads hnext').shorter
        have hblanks := (passes_trimStart cs).length_le
        have hblanks' := (passes_trimStart ds).length_le
        simp only [Bool.false_eq_true, if_false, hnext']
        exact ih halike.trimStart (by omega) (by omega) hread

theorem finish_congr {y : Yard} {text : String} (text' : String) {x : Expr}
    (h : y.finish text = .ok x) : y.finish text' = .ok x := by
  rw [Yard.finish] at h ⊢
  split at h
  · exact h
  · cases h

/-- What is compiled does not depend on the blanks at the ends. -/
theorem compile_congr {text text' : String}
    (h : EndsAlike (trimStart text.toList) (trimStart text'.toList)) {x : Expr}
    (hx : compile text = .ok x) : compile text' = .ok x := by
  rw [compile_eq] at hx ⊢
  obtain ⟨ls, hls, hx⟩ := exists_of_bind hx
  obtain ⟨y, hy, hx⟩ := exists_of_bind hx
  have hls' : lexemes text'.toList = .ok ls :=
    lexemesFrom_alike h (Nat.lt_succ_self _) (Nat.lt_succ_self _) hls
  rw [hls']
  show ofLexemes compile text' ls = .ok x
  rw [ofLexemes, hy]
  exact finish_congr text' hx

/-- **An expression is the same with blanks at its ends or without.** -/
theorem compile_trim {cs : List Char} {x : Expr} :
    compile (String.ofList (trim cs)) = .ok x ↔ compile (String.ofList cs) = .ok x := by
  have halike : EndsAlike (trimStart cs) (trimStart (trim cs)) := by
    obtain ⟨blanks, hblanks, heq⟩ := trimEnd_spec (trimStart cs)
    have h := EndsAlike.append_blanks (trim cs) hblanks
    rw [show trim cs ++ blanks = trimStart cs from heq.symm] at h
    simpa only [trimStart_trimStart] using h.trimStart
  constructor
  · exact compile_congr (by simpa only [String.toList_ofList] using halike.symm)
  · exact compile_congr (by simpa only [String.toList_ofList] using halike)

end Stencil.Expr
