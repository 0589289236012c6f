import Stencil.Proofs.Expr.Names

/-!
# Reading lexeme by lexeme

The lexemes of a text are read one after the other, and neither the bound on their number nor the
place of the text matters to that (`Lexes`).  Behind a name, brackets and commas are what they are
by the lexeme before them: this gives the lexemes of a call, of a key and of a slice.
-/
namespace Stencil.Expr
open Text

/-! ## Runs -/

/-- The lexemes are those of the text, behind the lexemes `before`, the last one first. -/
inductive Lexes : List Lexeme → List Char → List Lexeme → Prop where
  | done {before : List Lexeme} {cs : List Char} : trimStart cs = [] → Lexes before cs []
  | next {before ls : List Lexeme} {cs rest : List Char} {l : Lexeme} :
    (∀ offset, nextLexeme before offset (trimStart cs) = .ok (l, rest)) →
      Lexes (l :: before) rest ls → Lexes before cs (l :: ls)

/-- Where no blanks are, nothing is passed over. -/
theorem Lexes.bare {before ls : List Lexeme} {c : Char} {cs rest : List Char} {l : Lexeme}
    (hc : isBlank c = false) (hnext : ∀ offset, nextLexeme before offset (c :: cs) = .ok (l, rest))
    (hrest : Lexes (l :: before) rest ls) : Lexes before (c :: cs) (l :: ls) := by
  refine .next (fun offset => ?_) hrest
  rw [trimStart, List.dropWhile_cons_of_neg (Bool.eq_false_iff.mp hc)]
  exact hnext offset

theorem Lexes.lexemesFrom {before ls : List Lexeme} {cs : List Char} (h : Lexes before cs ls)
    {fuel offset : Nat} (hfuel : cs.length < fuel) :
    lexemesFrom fuel before offset cs = .ok (before.reverse ++ ls) := by
  induction h generalizing fuel offset with
  | done hcs =>
    obtain ⟨more, rfl⟩ := Nat.exists_eq_succ_of_ne_zero (Nat.ne_zero_of_lt hfuel)
    rw [Expr.lexemesFrom, hcs, List.append_nil]
    rfl
  | @next before ls cs rest l hnext hrest ih =>
    obtain ⟨more, rfl⟩ := Nat.exists_eq_succ_of_ne_zero (Nat.ne_zero_of_lt hfuel)
    have hshorter := (nextLexeme_reads (hnext 0)).shorter
    have hblanks := (passes_trimStart cs).length_le
    have hne : (trimStart cs).isEmpty = false :=
      List.isEmpty_eq_false_iff.mpr (List.ne_nil_of_length_pos (by omega))
    rw [Expr.lexemesFrom, hne]
    simp only [Bool.false_eq_true, if_false, hnext]
    rw [ih (by omega), List.reverse_cons, List.append_assoc]
    rfl

theorem Lexes.lexemes {cs : List Char} {ls : List Lexeme} (h : Lexes [] cs ls) :
    lexemes cs = .ok ls :=
  h.lexemesFrom (Nat.lt_succ_self _)

theorem Lexes.compile {text : String} {cs : List Char} {ls : List Lexeme} (h : Lexes [] cs ls)
    (htext : text.toList = cs) : compile text = ofLexemes Expr.compile text ls := by
  rw [compile_eq, htext, h.lexemes]
  rfl

/-- The first of the lexemes found that may stand there is taken. -/
theorem nextLexeme_of_found {before : List Lexeme} {cs : List Char}
    {found : List (Lexeme × List Char)} (h : Kind.all.filterMap (Found.ofKind? before cs) = found)
    {taken : Lexeme × List Char}
    (hfirst : found.find? (fun one => mayFollow before one.1.kind) = some taken) (offset : Nat) :
    nextLexeme before offset cs = .ok taken := by
  rw [nextLexeme, h, hfirst]

theorem nextLexeme_of_head {before : List Lexeme} {cs : List Char} {taken : Lexeme × List Char}
    {more : List (Lexeme × List Char)}
    (h : Kind.all.filterMap (Found.ofKind? before cs) = taken :: more)
    (hfollow : mayFollow before taken.1.kind = true) (offset : Nat) :
    nextLexeme before offset cs = .ok taken :=
  nextLexeme_of_found h (List.find?_cons_of_pos hfollow) offset

/-! ## Names -/

section Names
variable {name : String} {before : List Lexeme} {rest : List Char} (hname : IsName name)
include hname

theorem IsName.trimStart_append (rest : List Char) :
    trimStart (name.toList ++ rest) = name.toList ++ rest := by
  obtain ⟨c, tail, hchars, hstart, -⟩ := hname.exists_cons
  have hblank : ¬ isBlank c = true :=
    Bool.eq_false_iff.mp (isBlank_of_isWord (isWord_of_isNameStart hstart))
  rw [hchars, List.cons_append, trimStart, List.dropWhile_cons_of_neg hblank]

theorem Lexes.named {ls : List Lexeme} {cs : List Char} {l : Lexeme}
    (hnext : ∀ offset, nextLexeme before offset (name.toList ++ cs) = .ok (l, rest))
    (hrest : Lexes (l :: before) rest ls) : Lexes before (name.toList ++ cs) (l :: ls) := by
  refine .next (fun offset => ?_) hrest
  rw [hname.trimStart_append]
  exact hnext offset

theorem params?_name (hrest : Stops rest) :
    Found.params? (name.toList ++ rest) = some ([name.toList], rest) := by
  obtain ⟨c, tail, hchars, hstart, -⟩ := hname.exists_cons
  unfold Found.params?
  split
  · next heq =>
    rw [hchars] at heq
    obtain rfl := (List.cons.inj heq).1
    cases hstart
  · rw [hname.name?_append hrest]
    rfl

/-- The only kinds of lexemes that are there, one by one. -/
theorem filterMap_name_eq (hrest : Stops rest) {lambda function : Found}
    (hlambda : Found.lambda? (name.toList ++ rest) = lambda)
    (hfunction : Found.function? (name.toList ++ rest) = function) :
    Kind.all.filterMap (Found.ofKind? before (name.toList ++ rest)) =
      lambda.toList ++ function.toList ++ [(.variable name, rest)] := by
  have hvariable : Found.variableName? (name.toList ++ rest) = some (.variable name, rest) := by
    simp only [Found.variableName?, hname.name?_append hrest, Option.bind_eq_bind,
      Option.bind_some, String.ofList_toList, hname.free, Bool.false_eq_true, if_false]
  rw [Found.filterMap_name hname hrest]
  simp only [List.filterMap_cons, List.filterMap_nil, Found.ofKind?, hlambda, hfunction, hvariable]
  cases lambda <;> cases function <;> rfl

theorem lambda?_name (hrest : Stops rest) (harrow : after? "=>".toList (trimStart rest) = none) :
    Found.lambda? (name.toList ++ rest) = none := by
  rw [Found.lambda?, params?_name hname hrest]
  simp only [Option.bind_eq_bind, Option.bind_some, harrow, Option.bind_none]

/-- In front of a parenthesis a name is that of a function. -/
theorem nextLexeme_function {cs : List Char} (hfollow : mayFollow before .function = true)
    (offset : Nat) : nextLexeme before offset (name.toList ++ '(' :: cs) =
      .ok (.function name, '(' :: cs) := by
  have hstops : Stops ('(' :: cs) := .of_cons (by decide) (by decide) (by decide) cs
  have hfunction : Found.function? (name.toList ++ '(' :: cs) =
      some (.function name, '(' :: cs) := by
    have hparen : trimStart ('(' :: cs) = '(' :: cs := rfl
    simp only [Found.function?, hname.name?_append hstops, Option.bind_eq_bind, Option.bind_some,
      hparen, String.ofList_toList, hname.free, Bool.false_eq_true, if_false]
  exact nextLexeme_of_head
    (filterMap_name_eq hname hstops (lambda?_name hname hstops rfl) hfunction) hfollow offset

/-- In front of most other characters it is that of a variable. -/
theorem nextLexeme_variable {c : Char} {cs : List Char} (hblank : isBlank c = false)
    (hword : isWord c = false) (hc : c ∉ ['-', '(', '='])
    (hfollow : mayFollow before .variable = true) (offset : Nat) :
    nextLexeme before offset (name.toList ++ c :: cs) = .ok (.variable name, c :: cs) := by
  simp only [List.mem_cons, List.not_mem_nil, or_false, not_or] at hc
  obtain ⟨hdash, hparen, hequals⟩ := hc
  have hstops : Stops (c :: cs) := .of_cons hblank hword hdash cs
  have htrim : trimStart (c :: cs) = c :: cs :=
    List.dropWhile_cons_of_neg (Bool.eq_false_iff.mp hblank)
  have hlambda : Found.lambda? (name.toList ++ c :: cs) = none := by
    refine lambda?_name hname hstops ?_
    rw [htrim]
    exact if_neg (Ne.symm hequals)
  have hfunction : Found.function? (name.toList ++ c :: cs) = none := by
    simp only [Found.function?, hname.name?_append hstops, Option.bind_eq_bind, Option.bind_some,
      htrim]
    split
    · next heq => exact absurd (List.cons.inj heq).1 hparen
    · rfl
  exact nextLexeme_of_head (filterMap_name_eq hname hstops hlambda hfunction) hfollow offset

/-- In front of an arrow it is the parameter of a function, with all that the search for its end
passes over. -/
theorem nextLexeme_lambda {body inner left : List Char}
    (harrow : trimStart rest = '=' :: '>' :: body)
    (hbody : toBoundary true .outside 0 body = (inner, left)) (hne : trim inner ≠ [])
    (hfollow : mayFollow before .lambda = true) (offset : Nat) :
    nextLexeme before offset (name.toList ++ rest) =
      .ok (.lambda [name] (String.ofList (trim inner)), left) := by
  have hstops : Stops rest := by
    intro c hc
    rw [harrow] at hc
    obtain rfl := Option.some.inj hc
    decide
  have hlambda : Found.lambda? (name.toList ++ rest) =
      some (.lambda [name] (String.ofList (trim inner)), left) := by
    have hafter : after? "=>".toList ('=' :: '>' :: body) = some body := rfl
    rw [Found.lambda?, params?_name hname hstops]
    simp only [Option.bind_eq_bind, Option.bind_some, harrow, hafter, hbody, List.isEmpty_iff,
      if_neg hne, List.map_cons, List.map_nil, String.ofList_toList]
  exact nextLexeme_of_head (filterMap_name_eq hname hstops hlambda rfl) hfollow offset

end Names

/-! ## Brackets and commas -/

section Brackets
variable {name : String} {before : List Lexeme} {cs rest : List Char} {l : Lexeme}

theorem kind_of_lambda? (h : Found.lambda? cs = some (l, rest)) : l.kind = .lambda := by
  obtain ⟨⟨names, tail⟩, -, h⟩ := Option.bind_eq_some_iff.mp h
  obtain ⟨body, -, h⟩ := Option.bind_eq_some_iff.mp h
  simp only [Option.ite_none_left_eq_some] at h
  rw [← (Prod.mk.inj (Option.some.inj h.2)).1]
  rfl

/-- Behind the name of a function its arguments start. -/
theorem nextLexeme_paramStart (hname : IsName name) (before : List Lexeme) (cs : List Char)
    (offset : Nat) :
    nextLexeme (.function name :: before) offset ('(' :: cs) = .ok (.paramStart, cs) := by
  have hparam : Found.paramStart? (.function name :: before) ('(' :: cs) =
      some (.paramStart, cs) := by
    rw [Found.paramStart?, Lexeme.word, hname.free]
    rfl
  have hsub : Found.char? '(' .subexprStart ('(' :: cs) = some (.subexprStart, cs) := rfl
  have hkinds : Kind.all.filter (Kind.initial · '(') = [.lambda, .subexprStart, .paramStart] := by
    decide
  refine nextLexeme_of_found (Found.filterMap_initial hkinds _ _) ?_ offset
  simp only [List.filterMap_cons, List.filterMap_nil, Found.ofKind?, hparam, hsub]
  cases hlambda : Found.lambda? ('(' :: cs) with
  | none => rfl
  | some found =>
    have hkind : found.1.kind = .lambda := kind_of_lambda? hlambda
    have hnot : mayFollow (.function name :: before) found.1.kind = false := by
      rw [hkind]
      rfl
    dsimp only
    rw [List.find?_cons, hnot]
    rfl

/-- A parenthesis closes the arguments if they are what is open. -/
theorem nextLexeme_paramEnd (hopen : Found.openParen? 0 before = some .paramStart)
    (hfollow : mayFollow before .paramEnd = true) (cs : List Char) (offset : Nat) :
    nextLexeme before offset (')' :: cs) = .ok (.paramEnd, cs) := by
  have hsub : Found.close? .subexprStart .subexprEnd before (')' :: cs) = none := by
    rw [Found.close?, hopen]
    rfl
  have hparam : Found.close? .paramStart .paramEnd before (')' :: cs) = some (.paramEnd, cs) := by
    rw [Found.close?, hopen]
    rfl
  have hkinds : Kind.all.filter (Kind.initial · ')') = [.subexprEnd, .paramEnd] := by decide
  have hfound : Kind.all.filterMap (Found.ofKind? before (')' :: cs)) = [(.paramEnd, cs)] := by
    rw [Found.filterMap_initial hkinds]
    simp only [List.filterMap_cons, List.filterMap_nil, Found.ofKind?, hparam, hsub]
  exact nextLexeme_of_head hfound hfollow offset

theorem nextLexeme_comma (hfollow : mayFollow before .comma = true) (cs : List Char)
    (offset : Nat) : nextLexeme before offset (',' :: cs) = .ok (.comma, cs) := by
  have hcomma : Found.char? ',' .comma (',' :: cs) = some (.comma, cs) := rfl
  have hkinds : Kind.all.filter (Kind.initial · ',') = [.comma] := by decide
  have hfound : Kind.all.filterMap (Found.ofKind? before (',' :: cs)) = [(.comma, cs)] := by
    rw [Found.filterMap_initial hkinds]
    simp only [List.filterMap_cons, List.filterMap_nil, Found.ofKind?, hcomma]
  exact nextLexeme_of_head hfound hfollow offset

/-- What a bracket can be. -/
theorem filterMap_bracket (before : List Lexeme) (cs : List Char) :
    Kind.all.filterMap (Found.ofKind? before ('[' :: cs)) =
      (Found.slice? ('[' :: cs)).toList ++ (.arrayStart, cs) ::
        (Found.keyBrackets? ('[' :: cs)).toList := by
  have harray : Found.char? '[' .arrayStart ('[' :: cs) = some (.arrayStart, cs) := rfl
  rw [Found.filterMap_initial (by decide : _ = [Kind.slice, .arrayStart, .keyBrackets])]
  simp only [List.filterMap_cons, List.filterMap_nil, Found.ofKind?, harray]
  cases Found.slice? ('[' :: cs) <;> cases Found.keyBrackets? ('[' :: cs) <;> rfl

/-- Behind a variable, a bracket starts a slice if one is there. -/
theorem nextLexeme_slice {start stop : Option Int}
    (h : Found.slice? ('[' :: cs) = some (.slice start stop, rest)) (name : String)
    (before : List Lexeme) (offset : Nat) :
    nextLexeme (.variable name :: before) offset ('[' :: cs) = .ok (.slice start stop, rest) := by
  have hfound := filterMap_bracket (.variable name :: before) cs
  rw [h] at hfound
  exact nextLexeme_of_head hfound rfl offset

/-- Otherwise it starts a key. -/
theorem nextLexeme_keyBrackets {key : String} (hslice : Found.slice? ('[' :: cs) = none)
    (h : Found.keyBrackets? ('[' :: cs) = some (.keyBrackets key, rest)) (name : String)
    (before : List Lexeme) (offset : Nat) :
    nextLexeme (.variable name :: before) offset ('[' :: cs) = .ok (.keyBrackets key, rest) := by
  refine nextLexeme_of_found (filterMap_bracket _ cs) ?_ offset
  rw [hslice, h]
  rfl

/-- If neither is there, a list would be, which cannot follow. -/
theorem nextLexeme_bracket_error (hslice : Found.slice? ('[' :: cs) = none)
    (hkey : Found.keyBrackets? ('[' :: cs) = none) (name : String) (before : List Lexeme)
    (offset : Nat) :
    nextLexeme (.variable name :: before) offset ('[' :: cs) =
      .error ⟨.unparseableExpression
        (misplaced (.variable name :: before) .arrayStart offset ['[']), none⟩ := by
  have hlength : ('[' :: cs).length - cs.length = 1 := by
    rw [List.length_cons]
    omega
  rw [nextLexeme, filterMap_bracket, hslice, hkey]
  show Except.error _ = _
  simp only [Option.toList_none, List.nil_append, List.isEmpty_cons, Bool.false_eq_true, if_false,
    List.map_cons, List.map_nil, hlength, List.take_succ_cons, List.take_zero]
  rfl

/-- A text that starts with a name cannot be read if what follows cannot stand there. -/
theorem lexemes_name_error (hname : IsName name) {c : Char} {failure : Failure}
    (hblank : isBlank c = false)
    (hfirst : ∀ offset, nextLexeme [] offset (name.toList ++ c :: cs) =
      .ok (.variable name, c :: cs))
    (herror : nextLexeme [.variable name] (byteLength name.toList) (c :: cs) = .error failure) :
    lexemes (name.toList ++ c :: cs) = .error failure := by
  obtain ⟨d, tail, hchars, hstart, -⟩ := hname.exists_cons
  have hd : ¬ isBlank d = true :=
    Bool.eq_false_iff.mp (isBlank_of_isWord (isWord_of_isNameStart hstart))
  have hc : ¬ isBlank c = true := Bool.eq_false_iff.mp hblank
  have hfront : (name.toList ++ c :: cs).takeWhile isBlank = [] := by
    rw [hchars, List.cons_append, List.takeWhile_cons_of_neg hd]
  have hne : (name.toList ++ c :: cs).isEmpty = false := by
    rw [hchars]
    rfl
  have htaken : (name.toList ++ c :: cs).take
      ((name.toList ++ c :: cs).length - (c :: cs).length) = name.toList := by
    rw [List.length_append, Nat.add_sub_cancel, List.take_left']
    rfl
  have hoffset : 0 + byteLength [] = 0 := rfl
  obtain ⟨fuel, hfuel⟩ : ∃ fuel, (name.toList ++ c :: cs).length = fuel + 1 :=
    ⟨(name.toList ++ cs).length, by simp only [List.length_append, List.length_cons]; omega⟩
  rw [lexemes, hfuel, lexemesFrom, hname.trimStart_append, hfront, hne, hoffset]
  simp only [Bool.false_eq_true, if_false, hfirst, htaken, Nat.zero_add]
  rw [lexemesFrom, trimStart, List.dropWhile_cons_of_neg hc, List.takeWhile_cons_of_neg hc,
    List.isEmpty_cons]
  simp only [Bool.false_eq_true, if_false, byteLength, Nat.add_zero, herror]

end Brackets

end Stencil.Expr
