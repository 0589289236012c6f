import Stencil.Proofs.Expr.Balance
import Stencil.Proofs.Expr.PostfixOrder
import Stencil.Proofs.Expr.Steps

/-!
# Expressions inside expressions

The body of a function and a key in brackets are cut out of the text by a search for their end and
compiled on their own.  Since a text that compiles is balanced, the search finds all of it: a body
is cut exactly, whatever it is, if its commas stand in brackets or strings (`compile_call_lambda`).
A key is cut just as exactly; but one with a colon in it is given up, unless it starts with a quote
(`compile_key`).
-/
namespace Stencil.Expr
open Text

variable {a f x y e : String} {inside : Expr}

/-- A text that compiles is passed over whole by a search for the bracket behind it. -/
theorem toBoundary_of_compile (h : compile e = .ok inside) {c : Char} (hc : isClosing c = true)
    (rest : List Char) :
    toBoundary false .outside 0 (e.toList ++ c :: rest) = (e.toList, c :: rest) :=
  toBoundary_balanced false (balanced_of_compile h) nofun (by rw [isBoundary, hc]; rfl) rest

/-! ## Bodies -/

/-- The text of a body, cut out with the blank in front of it. -/
theorem toBoundary_body (h : compile e = .ok inside) (hcommas : CommasInside .outside e.toList)
    {c : Char} (hc : isBoundary true c = true) (rest : List Char) :
    toBoundary true .outside 0 (' ' :: (e.toList ++ c :: rest)) = (' ' :: e.toList, c :: rest) := by
  have hcut := toBoundary_balanced true (balanced_of_compile h) (fun _ => hcommas) hc rest
  have hblank (cs : List Char) : toBoundary true .outside 0 (' ' :: cs) =
    (' ' :: (toBoundary true .outside 0 cs).1, (toBoundary true .outside 0 cs).2) := rfl
  rw [hblank, hcut]

/-- The lexemes of a function in the arguments of another, up to the end of its body. -/
theorem lexes_call_lambda (hf : IsName f) (hx : IsName x) (he : compile e = .ok inside)
    (hblank : e.toList.all isBlank = false) (hcommas : CommasInside .outside e.toList)
    {c : Char} (hc : isBoundary true c = true) {rest : List Char} {ls : List Lexeme}
    (hrest : Lexes [.lambda [x] (String.ofList (trim e.toList)), .paramStart, .function f]
      (c :: rest) ls) :
    Lexes [] (f.toList ++ '(' :: (x.toList ++ ' ' :: '=' :: '>' :: ' ' :: (e.toList ++ c :: rest)))
      (.function f :: .paramStart :: .lambda [x] (String.ofList (trim e.toList)) :: ls) := by
  have htrim : trim (' ' :: e.toList) = trim e.toList := by
    rw [trim, trimStart_cons (by decide), trim]
  have hbody (offset : Nat) :
      nextLexeme [.paramStart, .function f] offset
          (trimStart (x.toList ++ ' ' :: '=' :: '>' :: ' ' :: (e.toList ++ c :: rest))) =
        .ok (.lambda [x] (String.ofList (trim e.toList)), c :: rest) := by
    rw [hx.trimStart_append, ← htrim]
    refine nextLexeme_lambda hx ?_ (toBoundary_body he hcommas hc rest) ?_ rfl offset
    · rw [trimStart_cons (by decide)]
      rfl
    · rw [htrim]
      exact trim_ne_nil hblank
  refine .named hf (nextLexeme_function hf rfl) ?_
  exact .bare (by decide) (nextLexeme_paramStart hf [] _) (.next hbody hrest)

/-- What such a call compiles to, with an argument behind the first one or without. -/
theorem ofLexemes_call_lambda {body : String} (hbody : compile body = .ok inside)
    (f x text : String) {ls : List Lexeme} {tokens : List Token}
    (hls : ls = [.paramEnd] ∧ tokens = [] ∨
      ∃ y, ls = [.comma, .variable y, .paramEnd] ∧ tokens = [.comma, .variable y]) :
    ofLexemes compile text (.function f :: .paramStart :: .lambda [x] body :: ls) =
      .ok [.function f (some (.lambda [x] inside :: tokens))] := by
  have hstep (y : Yard) :
      Yard.step compile y (.lambda [x] body) = .ok (y.push (.lambda [x] inside)) := by
    rw [Yard.step, hbody]
    rfl
  have hfeed : (⟨[], []⟩ : Yard).feed
      (.function f :: .paramStart :: .lambda [x] body :: ls) =
        .ok ⟨[.token (.function f (some (.lambda [x] inside :: tokens)))], []⟩ := by
    rw [Yard.feed_cons rfl, Yard.feed_cons rfl, Yard.feed_cons (hstep _)]
    rcases hls with ⟨rfl, rfl⟩ | ⟨y, rfl, rfl⟩ <;> rfl
  exact ofLexemes_of_owes hfeed ⟨[], [_], rfl, List.forall_mem_nil _, rfl⟩ text

/-- **Bodies are cut exactly.**  A text that compiles is balanced, so the search for a closing
bracket passes over all of it.  If it is not blank and no comma in it stands outside brackets and
strings, it is the body of a function in front of a closing bracket and of a comma. -/
theorem compile_call_lambda (he : compile e = .ok inside) :
    Balanced e.toList ∧
    (∀ c rest, isClosing c = true →
      toBoundary false .outside 0 (e.toList ++ c :: rest) = (e.toList, c :: rest)) ∧
    (e.toList.all isBlank = false → CommasInside .outside e.toList → ∀ f x y,
      IsName f → IsName x → IsName y →
        compile (f ++ "(" ++ x ++ " => " ++ e ++ ")") =
          .ok [.function f (some [.lambda [x] inside])] ∧
        compile (f ++ "(" ++ x ++ " => " ++ e ++ ", " ++ y ++ ")") =
          .ok [.function f (some [.lambda [x] inside, .comma, .variable y])]) := by
  refine ⟨balanced_of_compile he, fun c rest hc => toBoundary_of_compile he hc rest, ?_⟩
  intro hblank hcommas f x y hf hx hy
  have hbody : compile (String.ofList (trim e.toList)) = .ok inside := by
    rw [compile_trim, String.ofList_toList, he]
  constructor
  · have hend : Lexes [.lambda [x] (String.ofList (trim e.toList)), .paramStart, .function f] [')']
        [.paramEnd] :=
      .bare (by decide) (nextLexeme_paramEnd rfl rfl []) (.done rfl)
    have hls := lexes_call_lambda hf hx he hblank hcommas (by decide) hend
    exact (hls.compile (by simp)).trans (ofLexemes_call_lambda hbody f x _ (.inl ⟨rfl, rfl⟩))
  · have hvariable (before : List Lexeme) (offset : Nat) :
        nextLexeme (.comma :: before) offset (trimStart (' ' :: (y.toList ++ [')']))) =
          .ok (.variable y, [')']) := by
      rw [trimStart_cons (by decide), hy.trimStart_append]
      exact nextLexeme_variable hy (by decide) (by decide) (by decide) rfl offset
    have hend : Lexes [.lambda [x] (String.ofList (trim e.toList)), .paramStart, .function f]
        (',' :: ' ' :: (y.toList ++ [')'])) [.comma, .variable y, .paramEnd] :=
      .bare (by decide) (nextLexeme_comma rfl _)
        (.next (hvariable _) (.bare (by decide) (nextLexeme_paramEnd rfl rfl []) (.done rfl)))
    have hls := lexes_call_lambda hf hx he hblank hcommas (by decide) hend
    exact (hls.compile (by simp)).trans (ofLexemes_call_lambda hbody f x _ (.inr ⟨y, rfl, rfl⟩))

/-- A body with commas and brackets in brackets and in strings. -/
theorem compile_call_lambda_nested :
    IsName "f" ∧ IsName "x" ∧ IsName "y" ∧
    CommasInside .outside "g(x, '),') ~ '('".toList ∧
    compile "g(x, '),') ~ '('" =
      .ok [.function "g" (some [.variable "x", .comma, .string "),"]), .string "(",
        .binary .concat] ∧
    compile ("f" ++ "(" ++ "x" ++ " => " ++ "g(x, '),') ~ '('" ++ ", " ++ "y" ++ ")") =
      .ok [.function "f" (some [.lambda ["x"]
        [.function "g" (some [.variable "x", .comma, .string "),"]), .string "(",
          .binary .concat], .comma, .variable "y"])] := by
  have hf : IsName "f" := ⟨by decide, by decide⟩
  have hx : IsName "x" := ⟨by decide, by decide⟩
  have hy : IsName "y" := ⟨by decide, by decide⟩
  have hcommas : CommasInside .outside "g(x, '),') ~ '('".toList := by decide
  have he : compile "g(x, '),') ~ '('" =
      .ok [.function "g" (some [.variable "x", .comma, .string "),"]), .string "(",
        .binary .concat] := rfl
  refine ⟨hf, hx, hy, hcommas, he, ?_⟩
  exact ((compile_call_lambda he).2.2 (by decide) hcommas "f" "x" "y" hf hx hy).2

/-! ## Keys -/

/-- Each colon of the text stands in a string. -/
def ColonsQuoted (cs : List Char) : Prop :=
  ∀ n < cs.length, cs[n]? = some ':' → scan (cs.take n) ≠ .outside

instance (cs : List Char) : Decidable (ColonsQuoted cs) :=
  Nat.decidableBallLT cs.length fun n _ => cs[n]? = some ':' → scan (cs.take n) ≠ .outside

/-- Such a text in brackets is no slice. -/
theorem slice?_key {cs : List Char} (h : ColonsQuoted cs) (rest : List Char) :
    Found.slice? ('[' :: (cs ++ ']' :: rest)) = none := by
  by_contra hsome
  obtain ⟨found, hfound⟩ := Option.ne_none_iff_exists'.mp hsome
  obtain ⟨second, hsecond, -⟩ := Option.bind_eq_some_iff.mp hfound
  obtain ⟨piece, hpiece, heq⟩ := Found.passes_bound (cs ++ ']' :: rest)
  have hcolon : (Found.bound (cs ++ ']' :: rest)).2 = ':' :: second := after?_eq_some hsecond
  rw [hcolon] at heq
  rcases List.append_eq_append_iff.mp heq with ⟨back, rfl, hback⟩ | ⟨back, rfl, hback⟩
  · cases back with
    | nil => cases (List.cons.inj hback).1
    | cons d back =>
      obtain rfl := (List.cons.inj hback).1
      cases hpiece ']' (List.mem_append_right _ List.mem_cons_self)
  · cases back with
    | nil => cases (List.cons.inj hback).1
    | cons d back =>
      obtain rfl := (List.cons.inj hback).1
      have hlength : piece.length < (piece ++ ':' :: back).length := by
        rw [List.length_append, List.length_cons]
        omega
      refine h piece.length hlength (by simp) ?_
      rw [List.take_left']
      · exact scan_of_unquoted hpiece.unquoted
      · rfl

/-- A key with a colon in it is given up if it does not start with a quote. -/
def GivenUp (cs : List Char) : Prop := ':' ∈ cs ∧ (trim cs).head?.any isQuote = false

instance (cs : List Char) : Decidable (GivenUp cs) :=
  inferInstanceAs (Decidable (_ ∧ _))

theorem mem_trim_iff {c : Char} (hc : isBlank c = false) (cs : List Char) :
    c ∈ trim cs ↔ c ∈ cs := by
  obtain ⟨front, back, hfront, hback, heq⟩ := trim_spec cs
  have hnot {blanks : List Char} (h : ∀ d ∈ blanks, isBlank d = true) : c ∉ blanks := by
    intro hmem
    rw [h c hmem] at hc
    cases hc
  conv => rhs; rw [heq]
  simp [hnot hfront, hnot hback]

/-- How a key in brackets is read. -/
theorem keyBrackets?_key (he : compile e = .ok inside) (hblank : e.toList.all isBlank = false)
    (rest : List Char) :
    Found.keyBrackets? ('[' :: (e.toList ++ ']' :: rest)) =
      if GivenUp e.toList then none
      else some (.keyBrackets (String.ofList (trim e.toList)), rest) := by
  have hopen : after? ['['] ('[' :: (e.toList ++ ']' :: rest)) = some (e.toList ++ ']' :: rest) :=
    rfl
  have hclose : after? [']'] (']' :: rest) = some rest := rfl
  have hempty : (trim e.toList).isEmpty = false :=
    List.isEmpty_eq_false_iff.mpr (trim_ne_nil hblank)
  have hcolon : (trim e.toList).contains ':' = true ↔ ':' ∈ e.toList :=
    List.contains_iff_mem.trans (mem_trim_iff (by decide) _)
  simp only [Found.keyBrackets?, Option.bind_eq_bind, hopen, Option.bind_some,
    toBoundary_of_compile he (by decide : isClosing ']' = true) rest, hclose, hempty,
    Bool.false_or, Bool.and_eq_true, Bool.not_eq_true', hcolon]
  congr

/-- **Keys are cut exactly**, if they are cut.  A text that compiles, is not blank and has its
colons in strings is a key of any variable, unless a colon is in it and it does not start with a
quote: then the bracket is not read as the start of a key, and nothing else can stand there. -/
theorem compile_key (ha : IsName a) (he : compile e = .ok inside)
    (hblank : e.toList.all isBlank = false) (hcolons : ColonsQuoted e.toList) :
    compile (a ++ "[" ++ e ++ "]") =
      if GivenUp e.toList then
        .error ⟨.unparseableExpression
          (misplaced [.variable a] .arrayStart (byteLength a.toList) ['[']), none⟩
      else .ok [.variable a, .keyBrackets inside none] := by
  have hkey : compile (String.ofList (trim e.toList)) = .ok inside := by
    rw [compile_trim, String.ofList_toList, he]
  have htext : (a ++ "[" ++ e ++ "]").toList = a.toList ++ '[' :: (e.toList ++ [']']) := by simp
  have hslice := slice?_key hcolons []
  have hfound := keyBrackets?_key he hblank []
  have hname (offset : Nat) : nextLexeme [] offset (a.toList ++ '[' :: (e.toList ++ [']'])) =
      .ok (.variable a, '[' :: (e.toList ++ [']'])) :=
    nextLexeme_variable ha (by decide) (by decide) (by decide) rfl offset
  by_cases hgiven : GivenUp e.toList
  · rw [if_pos hgiven] at hfound ⊢
    have herror := nextLexeme_bracket_error hslice hfound a [] (byteLength a.toList)
    rw [compile_eq, htext, lexemes_name_error ha (by decide) hname herror]
    rfl
  · rw [if_neg hgiven] at hfound ⊢
    have hls : Lexes [] (a.toList ++ '[' :: (e.toList ++ [']']))
        [.variable a, .keyBrackets (String.ofList (trim e.toList))] :=
      .named ha hname (.bare (by decide) (nextLexeme_keyBrackets hslice hfound a []) (.done rfl))
    have hstep (y : Yard) :
        Yard.step compile y (.keyBrackets (String.ofList (trim e.toList))) =
          .ok (y.push (.keyBrackets inside none)) := by
      rw [Yard.step, hkey]
      rfl
    have hfeed : (⟨[], []⟩ : Yard).feed
        [.variable a, .keyBrackets (String.ofList (trim e.toList))] =
          .ok ⟨[.token (.keyBrackets inside none), .token (.variable a)], []⟩ := by
      rw [Yard.feed_cons rfl, Yard.feed_cons (hstep _)]
      rfl
    rw [hls.compile htext]
    exact ofLexemes_of_owes hfeed ⟨[], [_, _], rfl, List.forall_mem_nil _, rfl⟩ _

/-- A key that starts with a quote may have a colon in it. -/
theorem compile_key_colon :
    IsName "a" ∧ ColonsQuoted "':' ~ b[c]".toList ∧
    compile "':' ~ b[c]" =
      .ok [.string ":", .variable "b", .keyBrackets [.variable "c"] none, .binary .concat] ∧
    compile ("a" ++ "[" ++ "':' ~ b[c]" ++ "]") =
      .ok [.variable "a", .keyBrackets
        [.string ":", .variable "b", .keyBrackets [.variable "c"] none, .binary .concat] none] := by
  have ha : IsName "a" := ⟨by decide, by decide⟩
  have hcolons : ColonsQuoted "':' ~ b[c]".toList := by decide
  have he : compile "':' ~ b[c]" =
      .ok [.string ":", .variable "b", .keyBrackets [.variable "c"] none, .binary .concat] := rfl
  refine ⟨ha, hcolons, he, ?_⟩
  exact (compile_key ha he (by decide) hcolons).trans (if_neg (by decide))

/-- Behind something else, a string with a colon in it cannot be part of a key. -/
theorem compile_key_given_up :
    compile "b ~ ':'" = .ok [.variable "b", .string ":", .binary .concat] ∧
    "b ~ ':'".toList.all isBlank = false ∧ ColonsQuoted "b ~ ':'".toList ∧
    compile "a[b ~ ':']" =
      .error ⟨.unparseableExpression "array start cannot follow a variable at template:1 near '['",
        none⟩ :=
  ⟨rfl, by decide, by decide, rfl⟩

end Stencil.Expr
