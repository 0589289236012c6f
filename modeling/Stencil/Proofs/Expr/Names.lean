import Stencil.Proofs.Expr.Trailing
import Stencil.Proofs.Text.Words

/-!
# Reading names and brackets

Which kinds of lexemes can be at a place is told by the first character there (`Kind.initial`), so
only few have to be looked at behind a bracket or a comma.  Where a name is, all of these but three
are none: what follows a name makes it a function, the parameter of one that is written down, or a
variable (`Found.ofKind?_name`).
-/
namespace Stencil.Expr
open Text

/-- An identifier does not start with a digit. -/
theorem isDigit_of_isNameStart {c : Char} (h : isNameStart c = true) : isDigit c = false := by
  rw [isNameStart, Bool.or_eq_true, decide_eq_true_eq] at h
  obtain halpha | rfl := h
  · have halphanum : c.isAlphanum = true := by
      rw [Char.isAlphanum, halpha]
      rfl
    have hranges : (decide (65 ≤ c.val ∧ c.val ≤ 90) ||
        decide (97 ≤ c.val) && decide (c.val ≤ 122)) = true := halpha
    have hdigit : c.isDigit = (decide (48 ≤ c.val) && decide (c.val ≤ 57)) := rfl
    rw [isDigit, if_pos (toNat_of_isAlphanum halphanum).2, hdigit, Bool.eq_false_iff]
    simp only [Bool.or_eq_true, Bool.and_eq_true, decide_eq_true_eq, UInt32.le_iff_toNat_le,
      UInt32.reduceToNat, ne_eq] at hranges ⊢
    omega
  · decide

/-! ## The first character of a lexeme -/

/-- A lexeme of the kind can start with the character. -/
def Kind.initial (k : Kind) (c : Char) : Bool :=
  match k with
  | .test | .unary | .function | .variable | .null | .context | .bool => isNameStart c
  | .lambda => isNameStart c || c = '('
  | .binary => isNameStart c || "=!?<>*/.+-~%:".toList.contains c
  | .number => c = '-' || isDigit c
  | .string => isQuote c
  | .comma => c = ','
  | .subexprStart | .paramStart => c = '('
  | .subexprEnd | .paramEnd => c = ')'
  | .slice | .arrayStart | .keyBrackets => c = '['
  | .arrayEnd => c = ']'
  | .objectStart => c = '\x7b'
  | .objectEnd => c = '\x7d'
  | .filter => c = '|'
  | .keyPeriod => c = '.'

/-- What identifiers start with tells nothing more. -/
theorem Kind.initial_of_isNameStart {c : Char} (h : isNameStart c = true) (k : Kind) :
    k.initial c = k.initial 'a' := by
  have hother : ∀ d, isNameStart d = false → c ≠ d := by
    rintro d hd rfl
    rw [h] at hd
    cases hd
  have hquote : isQuote c = false := isQuote_of_isMark (isMark_of_class (by decide) h)
  have ha : isNameStart 'a' = true := by decide
  cases k with
  | number =>
    rw [initial, isDigit_of_isNameStart h, decide_eq_false (hother '-' (by decide))]
    decide
  | string => exact hquote
  | lambda | binary => rw [initial, initial, h, ha, Bool.true_or, Bool.true_or]
  | test | unary | function | «variable» | null | context | bool => exact h
  | comma | subexprStart | paramStart | subexprEnd | paramEnd | slice | arrayStart | keyBrackets
      | arrayEnd | objectStart | objectEnd | filter | keyPeriod =>
    exact decide_eq_false (hother _ (by decide))

namespace Found
variable {before : List Lexeme} {c : Char} {cs rest : List Char} {l : Lexeme}

theorem eq_of_after? {w : Char} {word : List Char} (h : after? (w :: word) (c :: cs) = some rest) :
    c = w := by
  rw [after?] at h
  split at h
  · next hw => exact hw.symm
  · cases h

/-- A word that is there starts with the character there. -/
theorem initial_of_after? {p : Char → Bool} {word : List Char} (hword : word.head?.any p = true)
    (h : after? word (c :: cs) = some rest) : p c = true := by
  cases word with
  | nil => cases hword
  | cons w word => exact eq_of_after? h ▸ hword

theorem initial_of_wholeWord? {alternatives : List (List Char)} {word : List Char}
    (hwords : ∀ word ∈ alternatives, word.head?.any isNameStart = true)
    (h : wholeWord? alternatives (c :: cs) = some (word, rest)) : isNameStart c = true := by
  obtain ⟨w, hmem, hw⟩ := List.exists_of_findSome?_eq_some h
  split at hw
  · next r hr => exact initial_of_after? (hwords w hmem) hr
  · cases hw

theorem initial_of_constant? {alternatives : List String} {lexeme : Lexeme}
    (hwords : ∀ word ∈ alternatives.map String.toList, word.head?.any isNameStart = true)
    (h : constant? alternatives lexeme (c :: cs) = some (l, rest)) : isNameStart c = true := by
  obtain ⟨⟨word, after⟩, hword, -⟩ := Option.map_eq_some_iff.mp h
  exact initial_of_wholeWord? hwords hword

theorem initial_of_name? {name : List Char} (h : name? (c :: cs) = some (name, rest)) :
    isNameStart c = true := by
  rw [name?, nameWith?] at h
  split at h
  · assumption
  · cases h

theorem initial_of_char? {wanted : Char} {lexeme : Lexeme}
    (h : char? wanted lexeme (c :: cs) = some (l, rest)) : c = wanted := by
  rw [char?] at h
  split at h
  · assumption
  · cases h

theorem initial_of_binary? (h : binary? before (c :: cs) = some (l, rest)) :
    Kind.initial .binary c = true := by
  rw [Kind.initial, Bool.or_eq_true]
  unfold binary? at h
  split at h
  · next found hfound =>
    left
    obtain ⟨words, hmem, hw⟩ := List.exists_of_findSome?_eq_some hfound
    have hspec : ∀ words ∈ wordOperators, words.head?.any (·.head?.any isNameStart) = true := by
      decide
    have hwords := hspec words hmem
    split at hw
    · next r hr =>
      match words with
      | [word] => exact initial_of_after? hwords hr
      | word :: next :: more =>
        obtain ⟨tail, htail, -⟩ := Option.bind_eq_some_iff.mp hr
        exact initial_of_after? hwords htail
    · cases hw
  · right
    obtain ⟨symbol, hmem, hs⟩ := List.exists_of_findSome?_eq_some h
    obtain ⟨r, hr, -⟩ := Option.map_eq_some_iff.mp hs
    have hspec : ∀ symbol ∈ symbolOperators,
        symbol.head?.any ("=!?<>*/.+-~%:".toList.contains ·) = true := by decide
    exact initial_of_after? (p := ("=!?<>*/.+-~%:".toList.contains ·)) (hspec symbol hmem) hr

theorem initial_of_number? (h : number? (c :: cs) = some (l, rest)) :
    Kind.initial .number c = true := by
  rw [Kind.initial, Bool.or_eq_true, decide_eq_true_eq]
  by_cases hsign : c = '-'
  · exact .inl hsign
  · right
    unfold number? at h
    split at h
    next sign tail hsplit =>
      split at hsplit
      · next heq => exact absurd (List.cons.inj heq).1 hsign
      · obtain ⟨-, rfl⟩ := Prod.mk.inj hsplit
        simp only [Option.ite_none_left_eq_some, Bool.not_eq_true] at h
        by_cases hdigit : isDigit c = true
        · exact hdigit
        · rw [List.takeWhile_cons_of_neg hdigit] at h
          cases h.1

theorem initial_of_lambda? (h : lambda? (c :: cs) = some (l, rest)) :
    Kind.initial .lambda c = true := by
  rw [Kind.initial, Bool.or_eq_true, decide_eq_true_eq]
  obtain ⟨⟨names, tail⟩, hparams, -⟩ := Option.bind_eq_some_iff.mp h
  unfold params? at hparams
  split at hparams
  · next heq => exact .inr (List.cons.inj heq).1
  · obtain ⟨⟨name, after⟩, hname, -⟩ := Option.map_eq_some_iff.mp hparams
    exact .inl (initial_of_name? hname)

/-- A lexeme starts with a character that its kind can start with. -/
theorem initial_of_ofKind? {k : Kind} (h : ofKind? before (c :: cs) k = some (l, rest)) :
    k.initial c = true := by
  cases k with
  | test =>
    obtain ⟨tail, htail, -⟩ := Option.bind_eq_some_iff.mp h
    obtain ⟨word, hword, -⟩ := Option.bind_eq_some_iff.mp htail
    exact initial_of_after? (by decide) hword
  | number => exact initial_of_number? h
  | binary => exact initial_of_binary? h
  | unary =>
    obtain ⟨⟨word, after⟩, hword, -⟩ := Option.map_eq_some_iff.mp h
    exact initial_of_wholeWord? (by decide) hword
  | string =>
    simp only [ofKind?, string?, Option.ite_none_right_eq_some] at h
    exact h.1
  | lambda => exact initial_of_lambda? h
  | comma | subexprStart | arrayStart | arrayEnd | objectStart | objectEnd =>
    exact decide_eq_true (initial_of_char? h)
  | subexprEnd | paramEnd =>
    simp only [ofKind?, close?, Option.ite_none_right_eq_some] at h
    exact decide_eq_true (initial_of_char? h.2)
  | paramStart =>
    cases before with
    | nil => cases h
    | cons prev before =>
      simp only [ofKind?, paramStart?, Option.ite_none_left_eq_some] at h
      exact decide_eq_true (initial_of_char? h.2)
  | slice | filter | keyPeriod | keyBrackets =>
    obtain ⟨tail, htail, -⟩ := Option.bind_eq_some_iff.mp h
    exact decide_eq_true (eq_of_after? htail)
  | function | «variable» =>
    obtain ⟨⟨name, after⟩, hname, -⟩ := Option.bind_eq_some_iff.mp h
    exact initial_of_name? hname
  | null | context => exact initial_of_constant? (by decide) h
  | bool =>
    simp only [ofKind?] at h
    split at h
    · next found hfound => exact initial_of_constant? (by decide) hfound
    · exact initial_of_constant? (by decide) h

/-- Kinds that are not there can be left out. -/
theorem filterMap_ofKind? {p : Kind → Bool} (h : ∀ k, p k = false → ofKind? before cs k = none) :
    Kind.all.filterMap (ofKind? before cs) =
      (Kind.all.filter p).filterMap (ofKind? before cs) := by
  rw [List.filterMap_filter]
  refine List.filterMap_congr fun k _ => ?_
  by_cases hp : p k = true
  · rw [if_pos hp]
  · rw [if_neg hp, h k (Bool.eq_false_iff.mpr hp)]

/-- The kinds that a character does not start can be left out. -/
theorem filterMap_initial {kinds : List Kind}
    (hkinds : Kind.all.filter (Kind.initial · c) = kinds) (before : List Lexeme) (cs : List Char) :
    Kind.all.filterMap (ofKind? before (c :: cs)) =
      kinds.filterMap (ofKind? before (c :: cs)) := by
  rw [← hkinds]
  refine filterMap_ofKind? fun k hk => ?_
  by_contra hsome
  obtain ⟨⟨l, rest⟩, hfound⟩ := Option.ne_none_iff_exists'.mp hsome
  rw [initial_of_ofKind? hfound] at hk
  cases hk

end Found

/-! ## Names -/

/-- The text is an identifier and no reserved word. -/
structure IsName (name : String) : Prop where
  whole : name? name.toList = some (name.toList, [])
  free : isReserved name = false

/-- A name may end here, and what comes behind blanks is no word, so that it neither goes on with an
operator nor is the name of a test. -/
def Stops (rest : List Char) : Prop :=
  ∀ c ∈ (trimStart rest).head?, isWord c = false ∧ c ≠ '-'

theorem Stops.of_cons {c : Char} (hblank : isBlank c = false) (hword : isWord c = false)
    (hdash : c ≠ '-') (cs : List Char) : Stops (c :: cs) := by
  intro d hd
  rw [trimStart, List.dropWhile_cons_of_neg (Bool.eq_false_iff.mp hblank)] at hd
  obtain rfl := Option.some.inj hd
  exact ⟨hword, hdash⟩

theorem Stops.head {rest : List Char} (h : Stops rest) :
    ∀ c ∈ rest.head?, isWord c = false ∧ c ≠ '-' := by
  intro c hc
  obtain ⟨cs, rfl⟩ := List.head?_eq_some_iff.mp hc
  by_cases hblank : isBlank c = true
  · constructor
    · by_contra hword
      rw [isBlank_of_isWord (Bool.not_eq_false _ ▸ hword)] at hblank
      cases hblank
    · rintro rfl
      cases hblank
  · refine h c ?_
    rw [trimStart, List.dropWhile_cons_of_neg hblank]
    rfl

section Names
variable {name : String} {n rest r : List Char}

theorem IsName.exists_cons (h : IsName name) :
    ∃ c tail, name.toList = c :: tail ∧ isNameStart c = true ∧ ∀ d ∈ tail, isWord d = true := by
  have hwhole := h.whole
  cases hname : name.toList with
  | nil =>
    rw [hname] at hwhole
    cases hwhole
  | cons c tail =>
    rw [hname, name?, nameWith?] at hwhole
    by_cases hstart : isNameStart c = true
    · rw [if_pos hstart] at hwhole
      have htail := (List.cons.inj (Prod.mk.inj (Option.some.inj hwhole)).1).2
      exact ⟨c, tail, rfl, hstart, List.takeWhile_eq_self_iff.mp htail⟩
    · rw [if_neg hstart] at hwhole
      cases hwhole

theorem IsName.isWord (h : IsName name) : ∀ c ∈ name.toList, isWord c = true := by
  obtain ⟨c, tail, hname, hstart, htail⟩ := h.exists_cons
  rw [hname]
  exact List.forall_mem_cons.mpr ⟨isWord_of_isNameStart hstart, htail⟩

/-- A name is read whole where it may end. -/
theorem IsName.name?_append (h : IsName name) (hrest : Stops rest) :
    name? (name.toList ++ rest) = some (name.toList, rest) :=
  nameWith?_append h.whole fun c hc => (hrest.head c hc).1

/-- A word that is there where a name is: it is the name, or the name goes on behind it. -/
theorem eq_or_of_after? {word : List Char} (hword : word.all isWord = true)
    (hrest : Stops rest) (h : after? word (n ++ rest) = some r) (hn : ∀ c ∈ n, isWord c = true) :
    word = n ∧ r = rest ∨ ∃ c tail, r = c :: tail ∧ isWord c = true := by
  induction word generalizing n with
  | nil =>
    obtain rfl := Option.some.inj h
    cases n with
    | nil => exact .inl ⟨rfl, rfl⟩
    | cons c n => exact .inr ⟨c, n ++ rest, rfl, hn c List.mem_cons_self⟩
  | cons w word ih =>
    rw [List.all_cons, Bool.and_eq_true] at hword
    obtain ⟨hw, hmore⟩ := hword
    cases n with
    | nil =>
      cases rest with
      | nil => cases h
      | cons c rest =>
        rw [List.nil_append] at h
        obtain rfl := Found.eq_of_after? h
        rw [(hrest.head c rfl).1] at hw
        cases hw
    | cons c n =>
      obtain ⟨-, hn⟩ := List.forall_mem_cons.mp hn
      obtain rfl := Found.eq_of_after? h
      rw [List.cons_append, after?, if_pos rfl] at h
      rcases ih hmore h hn with ⟨rfl, hr⟩ | hlonger
      · exact .inl ⟨rfl, hr⟩
      · exact .inr hlonger

/-- A word with a dash in it is not there. -/
theorem after?_dashed {front back : List Char} (hfront : front.all isWord = true)
    (hrest : Stops rest) (hn : ∀ c ∈ n, isWord c = true) :
    after? (front ++ '-' :: back) (n ++ rest) = none := by
  by_contra hsome
  obtain ⟨r, hr⟩ := Option.ne_none_iff_exists'.mp hsome
  have hfirst : after? front (n ++ rest) = some ('-' :: back ++ r) := by
    rw [after?_eq_some hr, List.append_assoc, after?_append]
  rcases eq_or_of_after? hfront hrest hfirst hn with ⟨-, hdash⟩ | ⟨c, tail, htail, hc⟩
  · exact (hrest.head '-' (by rw [← hdash]; rfl)).2 rfl
  · obtain ⟨rfl, -⟩ := List.cons.inj htail
    cases hc

theorem wordEndsBefore_eq_false {c : Char} {tail : List Char} (hc : isWord c = true) :
    wordEndsBefore (c :: tail) = false := by
  rw [wordEndsBefore, List.head?_cons, Option.any_some, hc]
  rfl

namespace Found

/-- Where a name is, there is no reserved word. -/
theorem wholeWord?_name (hname : IsName name) (hrest : Stops rest) {alternatives : List (List Char)}
    (hwords : ∀ word ∈ alternatives,
      word.all isWord = true ∧ isReserved (String.ofList word) = true) :
    wholeWord? alternatives (name.toList ++ rest) = none := by
  refine List.findSome?_eq_none_iff.mpr fun word hmem => ?_
  obtain ⟨hword, hreserved⟩ := hwords word hmem
  split
  · next r hr =>
    rcases eq_or_of_after? hword hrest hr hname.isWord with ⟨rfl, -⟩ | ⟨c, tail, rfl, hc⟩
    · rw [String.ofList_toList, hname.free] at hreserved
      cases hreserved
    · rw [wordEndsBefore_eq_false hc]
      rfl
  · rfl

theorem constant?_name (hname : IsName name) (hrest : Stops rest) {alternatives : List String}
    (hwords : ∀ word ∈ alternatives.map String.toList,
      word.all isWord = true ∧ isReserved (String.ofList word) = true) (lexeme : Lexeme) :
    constant? alternatives lexeme (name.toList ++ rest) = none := by
  rw [constant?, wholeWord?_name hname hrest hwords]
  rfl

/-- Behind a word that a name starts with there are no blanks, unless it is the whole name. -/
theorem afterBlanks?_after? (hname : IsName name) (hrest : Stops rest) {word tail : List Char}
    (hword : word.all isWord = true)
    (h : (after? word (name.toList ++ rest)).bind afterBlanks? = some tail) :
    word = name.toList ∧ tail = trimStart rest := by
  obtain ⟨r, hr, hblanks⟩ := Option.bind_eq_some_iff.mp h
  rcases eq_or_of_after? hword hrest hr hname.isWord with ⟨rfl, rfl⟩ | ⟨c, more, rfl, hc⟩
  · cases r with
    | nil => cases hblanks
    | cons c r =>
      rw [afterBlanks?] at hblanks
      by_cases hc : isBlank c = true
      · rw [if_pos hc] at hblanks
        rw [trimStart_cons hc, Option.some.inj hblanks]
        exact ⟨rfl, rfl⟩
      · rw [if_neg hc] at hblanks
        cases hblanks
  · rw [afterBlanks?, if_neg (Bool.eq_false_iff.mp (isBlank_of_isWord hc))] at hblanks
    cases hblanks

/-- The operators that are words: the first word is reserved, or it has a dash. -/
theorem wordOperators_spec : ∀ words ∈ wordOperators, ∃ word more, words = word :: more ∧
    (word.all isWord = true ∧ isReserved (String.ofList word) = true ∨
      more = [] ∧ ∃ front back, word = front ++ '-' :: back ∧ front.all isWord = true) := by
  intro words hmem
  simp only [wordOperators, List.map_cons, List.map_nil, List.mem_cons, List.not_mem_nil,
    or_false] at hmem
  rcases hmem with rfl | rfl | rfl | rfl | rfl | rfl | rfl | rfl | rfl | rfl
  · exact ⟨_, _, rfl, .inr ⟨rfl, ['b'], ['a', 'n', 'd'], by decide, by decide⟩⟩
  · exact ⟨_, _, rfl, .inr ⟨rfl, ['b'], ['x', 'o', 'r'], by decide, by decide⟩⟩
  · exact ⟨_, _, rfl, .inr ⟨rfl, ['b'], ['o', 'r'], by decide, by decide⟩⟩
  all_goals exact ⟨_, _, rfl, .inl (by decide)⟩

theorem wordOperator?_name (hname : IsName name) (hrest : Stops rest) :
    wordOperator? (name.toList ++ rest) = none := by
  refine List.findSome?_eq_none_iff.mpr fun words hmem => ?_
  obtain ⟨word, more, rfl, ⟨hword, hreserved⟩ | ⟨rfl, front, back, rfl, hfront⟩⟩ :=
    wordOperators_spec words hmem
  · split
    · next r hr =>
      have hother : word ≠ name.toList := by
        rintro rfl
        rw [String.ofList_toList, hname.free] at hreserved
        cases hreserved
      cases more with
      | nil =>
        rcases eq_or_of_after? hword hrest hr hname.isWord with ⟨heq, -⟩ | ⟨c, tail, rfl, hc⟩
        · exact absurd heq hother
        · rw [wordEndsBefore_eq_false hc]
          rfl
      | cons next more =>
        obtain ⟨tail, htail, hmore⟩ := Option.bind_eq_some_iff.mp hr
        obtain ⟨trimmed, hblanks, -⟩ := Option.bind_eq_some_iff.mp hmore
        exact absurd (afterBlanks?_after? hname hrest hword
          (Option.bind_eq_some_iff.mpr ⟨tail, htail, hblanks⟩)).1 hother
    · rfl
  · rw [words?, after?_dashed hfront hrest hname.isWord]

/-- A name is not the word of a test, which has another name behind it. -/
theorem test?_name (hname : IsName name) (hrest : Stops rest) :
    test? (name.toList ++ rest) = none := by
  by_contra hsome
  obtain ⟨found, hfound⟩ := Option.ne_none_iff_exists'.mp hsome
  obtain ⟨tail, htail, htest⟩ := Option.bind_eq_some_iff.mp hfound
  obtain ⟨-, rfl⟩ := afterBlanks?_after? hname hrest (by decide) htail
  have hnot : after? "not".toList (trimStart rest) = none := by
    by_contra hsome
    obtain ⟨r, hr⟩ := Option.ne_none_iff_exists'.mp hsome
    cases (hrest 'n' (by rw [after?_eq_some hr]; rfl)).1
  have hname : name? (trimStart rest) = none := by
    by_contra hsome
    obtain ⟨⟨second, r⟩, hr⟩ := Option.ne_none_iff_exists'.mp hsome
    cases htrim : trimStart rest with
    | nil =>
      rw [htrim] at hr
      cases hr
    | cons c cs =>
      rw [htrim] at hr
      have hword := (hrest c (by rw [htrim]; rfl)).1
      rw [isWord_of_isNameStart (initial_of_name? hr)] at hword
      cases hword
  have htestName : testName? (trimStart rest) = none := by
    rw [testName?, hname]
    rfl
  simp only [hnot, htestName, Option.bind_none] at htest
  cases htest

/-- An operator is not there either. -/
theorem binary?_name (hname : IsName name) (hrest : Stops rest) (before : List Lexeme) :
    binary? before (name.toList ++ rest) = none := by
  obtain ⟨c, tail, hchars, hstart, -⟩ := hname.exists_cons
  rw [binary?, wordOperator?_name hname hrest]
  refine List.findSome?_eq_none_iff.mpr fun symbol hmem => ?_
  have hsymbols : ∀ symbol ∈ symbolOperators, symbol.head?.any (!isNameStart ·) = true := by decide
  rw [Option.map_eq_none_iff]
  by_contra hsome
  obtain ⟨r, hr⟩ := Option.ne_none_iff_exists'.mp hsome
  rw [hchars, List.cons_append] at hr
  have hnot := initial_of_after? (p := (!isNameStart ·)) (hsymbols symbol hmem) hr
  rw [hstart] at hnot
  cases hnot

/-- Where a name is, there is nothing but a function, written down or called, and a variable. -/
theorem ofKind?_name (hname : IsName name) (hrest : Stops rest) (before : List Lexeme) {k : Kind}
    (hk : [Kind.lambda, .function, .variable].contains k = false) :
    ofKind? before (name.toList ++ rest) k = none := by
  obtain ⟨c, tail, hchars, hstart, -⟩ := hname.exists_cons
  have hother : k.initial 'a' = false → ofKind? before (name.toList ++ rest) k = none := by
    intro hinitial
    by_contra hsome
    obtain ⟨⟨l, r⟩, hfound⟩ := Option.ne_none_iff_exists'.mp hsome
    rw [hchars, List.cons_append] at hfound
    rw [← k.initial_of_isNameStart hstart, initial_of_ofKind? hfound] at hinitial
    cases hinitial
  cases k with
  | test => exact test?_name hname hrest
  | binary => exact binary?_name hname hrest before
  | unary =>
    rw [ofKind?, unary?, wholeWord?_name hname hrest (by decide)]
    rfl
  | null | context => exact constant?_name hname hrest (by decide) _
  | bool =>
    rw [ofKind?, constant?_name hname hrest (by decide)]
    exact constant?_name hname hrest (by decide) _
  | lambda | function | «variable» => cases hk
  | _ => exact hother (by decide)

theorem filterMap_name (hname : IsName name) (hrest : Stops rest) (before : List Lexeme) :
    Kind.all.filterMap (ofKind? before (name.toList ++ rest)) =
      [Kind.lambda, .function, .variable].filterMap (ofKind? before (name.toList ++ rest)) :=
  filterMap_ofKind? fun _ hk => ofKind?_name hname hrest before hk

end Found
end Names

end Stencil.Expr
