import Stencil.Proofs.Expr.Balance
import Stencil.Proofs.Expr.Trailing
import Stencil.Proofs.Locator
import Stencil.Proofs.Text.Words
import Stencil.Tree.TagText

/-!
# Words of tags in strings

Some tags have a word behind an expression: `with`, `if` or `import`.  Where the expression ends is
found by the first such word with blanks around it, in a string or not.  If it stands in a string,
the text up to it ends inside that string and does not compile; so a tag whose expression has all
such words in strings is read with the whole expression, or fails to be read
(`Site.read_expression`).
-/
namespace Stencil.TagText
open Text

/-- The words that a part of a tag can start with. -/
def keywords : List String := ["if", "with", "only", "ignore", "missing", "as", "import"]

/-- The words have a character, and neither blanks nor quotes. -/
theorem keyword_spec : ∀ word ∈ keywords,
    word.toList ≠ [] ∧ Solid word.toList ∧ Unquoted word.toList := by
  decide

/-! ## The shortest start -/

section Shortest
variable {α : Type} {tail : List Char → Option α} {behind : List Char}

/-- If the rest fits before no end of the text but the empty one, all of the text is taken. -/
theorem shortest?_whole {a : α} (hlast : tail behind = some a) {cs : List Char} (hne : cs ≠ [])
    (h : ∀ s t, cs = s ++ t → s ≠ [] → t ≠ [] → tail (t ++ behind) = none) :
    shortest? tail (cs ++ behind) = some (cs, a) := by
  induction cs with
  | nil => exact absurd rfl hne
  | cons c cs ih =>
    cases cs with
    | nil => rw [List.singleton_append, shortest?, hlast]
    | cons d cs =>
      rw [List.cons_append, shortest?,
        h [c] (d :: cs) rfl (List.cons_ne_nil _ _) (List.cons_ne_nil _ _)]
      have hrest := ih (List.cons_ne_nil _ _) fun s t hsplit _ ht =>
        h (c :: s) t (congrArg (c :: ·) hsplit) (List.cons_ne_nil _ _) ht
      rw [hrest]
      rfl

/-- If the rest fits before the end, some earlier start is taken. -/
theorem shortest?_early {s t : List Char} (hs : s ≠ []) (ht : t ≠ [])
    (hfits : (tail (t ++ behind)).isSome = true) :
    ∃ s' t' a, s ++ t = s' ++ t' ∧ t' ≠ [] ∧ tail (t' ++ behind) = some a ∧
      shortest? tail (s ++ (t ++ behind)) = some (s', a) := by
  induction s with
  | nil => exact absurd rfl hs
  | cons c s ih =>
    simp only [List.cons_append, shortest?]
    cases hnext : tail (s ++ (t ++ behind)) with
    | some a =>
      refine ⟨[c], s ++ t, a, rfl, ?_, ?_, rfl⟩
      · exact fun h => ht (List.append_eq_nil_iff.mp h).2
      · rw [List.append_assoc, hnext]
    | none =>
      cases s with
      | nil =>
        rw [List.nil_append] at hnext
        rw [hnext] at hfits
        cases hfits
      | cons d s =>
        obtain ⟨s', t', a, hsplit, ht', hfit, hshortest⟩ := ih (List.cons_ne_nil _ _)
        refine ⟨c :: s', t', a, congrArg (c :: ·) hsplit, ht', hfit, ?_⟩
        rw [hshortest]
        rfl

end Shortest

/-! ## What may follow an expression -/

theorem nonempty?_eq_some {cs arg : List Char} : nonempty? cs = some arg ↔ cs = arg ∧ arg ≠ [] := by
  rw [nonempty?, Option.ite_none_left_eq_some, Option.some_inj, List.isEmpty_iff]
  exact ⟨fun ⟨hne, heq⟩ => ⟨heq, heq ▸ hne⟩, fun ⟨heq, hne⟩ => ⟨heq ▸ hne, heq⟩⟩

theorem wordArgument?_eq_some {word : String} {cs arg : List Char} :
    wordArgument? word cs = some arg ↔
      ∃ rest, afterWord? word cs = some rest ∧ afterBlanks? rest = some arg ∧ arg ≠ [] := by
  rw [wordArgument?, afterWord?]
  simp only [argument?, Option.bind_eq_some_iff, nonempty?_eq_some]
  constructor
  · rintro ⟨rest, hrest, after, ⟨mid, hmid, hafter⟩, rfl, hne⟩
    exact ⟨mid, ⟨rest, hrest, hmid⟩, hafter, hne⟩
  · rintro ⟨mid, ⟨rest, hrest, hmid⟩, hafter, hne⟩
    exact ⟨rest, hrest, arg, ⟨mid, hmid, hafter⟩, rfl, hne⟩

/-- A word between blanks, and something behind it. -/
theorem wordArgument?_append {word : String} (hword : Solid word.toList)
    (hne : word.toList ≠ []) {blanks : List Char} (hblanks : ∀ c ∈ blanks, isBlank c = true)
    (hblanks_ne : blanks ≠ []) {b : Char} (hb : isBlank b = true) {arg : List Char}
    (harg : trimStart arg ≠ []) :
    wordArgument? word (blanks ++ (word.toList ++ b :: arg)) = some (trimStart arg) := by
  refine wordArgument?_eq_some.mpr ⟨b :: arg, ?_, ?_, harg⟩
  · obtain ⟨a, blanks, rfl⟩ := List.exists_cons_of_ne_nil hblanks_ne
    obtain ⟨ha, hblanks⟩ := List.forall_mem_cons.mp hblanks
    have hstart := @trimStart_append blanks hblanks (word.toList ++ b :: arg) (by
      rw [List.head?_append_of_ne_nil _ hne]
      exact hword.bare.1)
    rw [afterWord?, List.cons_append, afterBlanks?, if_pos ha, hstart, Option.bind_some,
      after?_append]
  · rw [afterBlanks?, if_pos hb]

theorem wordEndsBefore_of_afterBlanks? {cs rest : List Char} (h : afterBlanks? cs = some rest) :
    wordEndsBefore cs = true := by
  cases cs with
  | nil => rfl
  | cons c cs =>
    rw [afterBlanks?] at h
    split at h
    · next hc => exact wordEndsBefore_cons hc cs
    · cases h

/-- What may follow an expression: `behind`, or a word of a tag and what belongs to it.  A text
that starts with `keyword` between blanks fits; what fits starts with some word of a tag, and it
holds `keyword` with something behind it or ends in a word of a tag. -/
structure Ending {α : Type} (tail : List Char → Option α) (keyword : String)
    (behind : List Char) (whole : α) : Prop where
  known : keyword ∈ keywords
  last : tail behind = some whole
  fits : ∀ {cs arg : List Char}, wordArgument? keyword cs = some arg → (tail cs).isSome = true
  leads : ∀ {cs : List Char} {a : α}, cs ≠ [] → tail cs = some a →
    ∃ word ∈ keywords, ∃ rest, afterWord? word cs = some rest ∧ wordEndsBefore rest = true
  argued : ∀ {cs : List Char} {a : α}, cs ≠ [] → tail (cs ++ behind) = some a →
    ∃ before spot, cs = before ++ spot ∧ spot ≠ [] ∧
      ((∃ arg, wordArgument? keyword (spot ++ behind) = some arg) ∨
        ∃ word ∈ keywords, afterWord? word (spot ++ behind) = some behind)

theorem wordArgument?_leads {keyword : String} (hknown : keyword ∈ keywords) {cs arg : List Char}
    (h : wordArgument? keyword cs = some arg) :
    ∃ word ∈ keywords, ∃ rest, afterWord? word cs = some rest ∧ wordEndsBefore rest = true := by
  obtain ⟨rest, hrest, hblanks, -⟩ := wordArgument?_eq_some.mp h
  exact ⟨keyword, hknown, rest, hrest, wordEndsBefore_of_afterBlanks? hblanks⟩

theorem ending_orEnd? (keyword : String) (hknown : keyword ∈ keywords) :
    Ending (orEnd? keyword) keyword [] none := by
  have hword {cs : List Char} {a : Option (List Char)} (hne : cs ≠ [])
      (h : orEnd? keyword cs = some a) : ∃ arg, wordArgument? keyword cs = some arg := by
    rw [orEnd?, if_neg (by simpa using hne)] at h
    obtain ⟨arg, harg, -⟩ := Option.map_eq_some_iff.mp h
    exact ⟨arg, harg⟩
  refine ⟨hknown, rfl, fun {cs arg} h => ?_, fun hne h => ?_, fun {cs a} hne h => ?_⟩
  · have hne : cs ≠ [] := by
      rintro rfl
      cases h
    rw [orEnd?, if_neg (by simpa using hne), h]
    rfl
  · obtain ⟨arg, harg⟩ := hword hne h
    exact wordArgument?_leads hknown harg
  · rw [List.append_nil] at h
    refine ⟨[], cs, rfl, hne, .inl ?_⟩
    rw [List.append_nil]
    exact hword hne h

/-- What follows a word, if it is there, is an end of the text. -/
theorem afterWord?_suffix {word : String} {cs rest : List Char}
    (h : afterWord? word cs = some rest) : rest <:+ cs := by
  obtain ⟨after, hblanks, hword⟩ := Option.bind_eq_some_iff.mp h
  exact (after?_suffix hword).trans (afterBlanks?_suffix hblanks)

theorem only?_eq_some {cs : List Char} {only : Bool} (hne : cs ≠ []) (h : only? cs = some only) :
    afterWord? "only" cs = some [] := by
  rw [only?, if_neg (by simpa using hne)] at h
  split at h
  · next hword => exact hword
  · cases h

theorem inclusionEnd?_eq_some {cs : List Char} {found : Option (List Char) × Bool} (hne : cs ≠ [])
    (h : inclusionEnd? cs = some found) :
    (∃ arg, wordArgument? "with" cs = some arg) ∨ afterWord? "only" cs = some [] := by
  unfold inclusionEnd? at h
  split at h
  · next arg harg => exact .inl ⟨arg, harg⟩
  · obtain ⟨only, honly, -⟩ := Option.map_eq_some_iff.mp h
    exact .inr (only?_eq_some hne honly)

theorem inclusionEnd?_isSome {cs arg : List Char} (h : wordArgument? "with" cs = some arg) :
    (inclusionEnd? cs).isSome = true := by
  obtain ⟨-, -, -, hne⟩ := wordArgument?_eq_some.mp h
  have hshortest : (shortest? only? arg).isSome = true := by
    by_cases hearly : ∀ s t, arg = s ++ t → s ≠ [] → t ≠ [] → only? (t ++ []) = none
    · have h := @shortest?_whole Bool only? [] false rfl arg hne hearly
      rw [List.append_nil] at h
      rw [h]
      rfl
    · simp only [not_forall] at hearly
      obtain ⟨s, t, rfl, hs, ht, hfits⟩ := hearly
      obtain ⟨_, _, _, -, -, -, h⟩ := shortest?_early hs ht (Option.isSome_iff_ne_none.mpr hfits)
      rw [List.append_nil] at h
      rw [h]
      rfl
  rw [inclusionEnd?, h, Option.isSome_map]
  exact hshortest

theorem inclusionTail?_eq_some {cs : List Char} {found : Bool × Option (List Char) × Bool}
    (hne : cs ≠ []) (h : inclusionTail? cs = some found) :
    (∃ mid rest, afterWord? "ignore" cs = some mid ∧ afterWord? "missing" mid = some rest ∧
      (inclusionEnd? rest).isSome = true) ∨
      (∃ arg, wordArgument? "with" cs = some arg) ∨ afterWord? "only" cs = some [] := by
  unfold inclusionTail? at h
  dsimp only at h
  split at h
  · next bindings only hignoring =>
    obtain ⟨rest, hrest, hend⟩ := Option.bind_eq_some_iff.mp hignoring
    obtain ⟨mid, hmid, hmissing⟩ := Option.bind_eq_some_iff.mp hrest
    exact .inl ⟨mid, rest, hmid, hmissing, by rw [hend]; rfl⟩
  · obtain ⟨found, hend, -⟩ := Option.map_eq_some_iff.mp h
    exact .inr (inclusionEnd?_eq_some hne hend)

theorem ending_inclusionTail? : Ending inclusionTail? "with" [] (false, none, false) := by
  refine ⟨by decide, rfl, fun {cs arg} h => ?_, fun {cs a} hne h => ?_, fun {cs a} hne h => ?_⟩
  · unfold inclusionTail?
    dsimp only
    split
    · rfl
    · rw [Option.isSome_map]
      exact inclusionEnd?_isSome h
  · rcases inclusionTail?_eq_some hne h with ⟨mid, rest, hmid, hmissing, -⟩ | ⟨arg, harg⟩ | honly
    · obtain ⟨after, hblanks, -⟩ := Option.bind_eq_some_iff.mp hmissing
      exact ⟨"ignore", by decide, mid, hmid, wordEndsBefore_of_afterBlanks? hblanks⟩
    · exact wordArgument?_leads (by decide) harg
    · exact ⟨"only", by decide, [], honly, rfl⟩
  · rw [List.append_nil] at h
    simp only [List.append_nil]
    rcases inclusionTail?_eq_some hne h with ⟨mid, rest, hmid, hmissing, hend⟩ | harg | honly
    · obtain ⟨before, rfl⟩ := afterWord?_suffix hmid
      obtain ⟨more, rfl⟩ := afterWord?_suffix hmissing
      by_cases hrest : rest = []
      · subst hrest
        refine ⟨before, more, by rw [List.append_nil], ?_, .inr ⟨"missing", by decide, ?_⟩⟩
        · rintro rfl
          cases hmissing
        · rwa [List.append_nil] at hmissing
      · obtain ⟨found, hend⟩ := Option.isSome_iff_exists.mp hend
        refine ⟨before ++ more, rest, (List.append_assoc ..).symm, hrest, ?_⟩
        exact (inclusionEnd?_eq_some hrest hend).imp id fun honly => ⟨"only", by decide, honly⟩
    · exact ⟨[], cs, rfl, hne, .inl harg⟩
    · exact ⟨[], cs, rfl, hne, .inr ⟨"only", by decide, honly⟩⟩

theorem ending_import {behind arg : List Char} (h : wordArgument? "import" behind = some arg) :
    Ending (wordArgument? "import") "import" behind arg := by
  refine ⟨by decide, h, fun h => by rw [h]; rfl, fun _ h => wordArgument?_leads (by decide) h,
    fun {cs a} hne h => ⟨[], cs, rfl, hne, .inl ⟨a, h⟩⟩⟩

/-! ## Where the expression ends -/

/-- An expression in a tag: it compiles and has the words of tags in strings only.  What stands
behind it starts with a blank, if there is anything. -/
structure Carried (cs behind : List Char) (x : Expr) : Prop where
  bare : Bare cs
  nonempty : cs ≠ []
  compiles : Expr.compile (String.ofList cs) = .ok x
  quoted : ∀ word ∈ keywords, Quoted word.toList cs
  behind_blank : ∀ c ∈ behind.head?, isBlank c = true

namespace Carried
variable {cs behind : List Char} {x : Expr}

theorem closed (h : Carried cs behind x) : scan cs = .outside := by
  have hclosed := Expr.scan_of_compile h.compiles
  rwa [String.toList_ofList] at hclosed

theorem expression_eq (h : Carried cs behind x) : expression cs = .ok x := by
  rw [expression, trim_of_bare_self h.bare h.nonempty, h.compiles]

/-- A word that is read behind a part of the expression stands in the expression. -/
theorem word_of_afterWord? (h : Carried cs behind x) {word : String} (hword : word ∈ keywords)
    {s t rest : List Char} (hsplit : cs = s ++ t) (ht : t ≠ [])
    (hread : afterWord? word (t ++ behind) = some rest) :
    ∃ blanks after, blanks ≠ [] ∧ (∀ c ∈ blanks, isBlank c = true) ∧
      t = blanks ++ (word.toList ++ after) ∧ rest = after ++ behind := by
  have hlast : ∀ c ∈ t.getLast?, isBlank c = false := by
    rw [← List.getLast?_append_of_ne_nil s ht, ← hsplit]
    exact h.bare.2
  exact word_of_afterBlanks? hlast ht h.behind_blank (keyword_spec word hword).2.1 hread

theorem not_last (h : Carried cs behind x) {word : String} (hword : word ∈ keywords)
    {s blanks : List Char} (hsplit : cs = s ++ (blanks ++ word.toList)) (hne : blanks ≠ [])
    (hblanks : ∀ c ∈ blanks, isBlank c = true) : False :=
  Quoted.not_last (keyword_spec word hword).2.2 (hsplit ▸ h.quoted word hword) hne hblanks
    (hsplit ▸ h.closed)

/-- A part of the expression in front of a word is no expression. -/
theorem expression_error (h : Carried cs behind x) {word : String} (hword : word ∈ keywords)
    {s t rest : List Char} (hsplit : cs = s ++ t) (ht : t ≠ [])
    (hread : afterWord? word (t ++ behind) = some rest) (hends : wordEndsBefore rest = true) :
    ∃ failure, expression s = .error failure := by
  obtain ⟨blanks, after, hne, hblanks, rfl, rfl⟩ := h.word_of_afterWord? hword hsplit ht hread
  have hafter : wordEndsBefore after = true := by
    cases after with
    | nil => rfl
    | cons c after => exact hends
  have hopen := Quoted.scan_before (hsplit ▸ h.quoted word hword) hne hblanks hafter
  cases hs : expression s with
  | error failure => exact ⟨failure, rfl⟩
  | ok y =>
    have hclosed := Expr.scan_of_compile hs
    rw [String.toList_ofList, scan_trim] at hclosed
    exact absurd hclosed hopen

variable {α : Type} {tail : List Char → Option α} {keyword : String} {whole : α}

/-- A word that is read with something behind it stands between blanks. -/
theorem between_of_wordArgument? (h : Carried cs behind x) (hknown : keyword ∈ keywords)
    {s t arg : List Char} (hsplit : cs = s ++ t) (ht : t ≠ [])
    (hread : wordArgument? keyword (t ++ behind) = some arg) : Between keyword.toList cs := by
  obtain ⟨rest, hrest, hblank, -⟩ := wordArgument?_eq_some.mp hread
  obtain ⟨blanks, after, hne, hblanks, rfl, rfl⟩ := h.word_of_afterWord? hknown hsplit ht hrest
  cases after with
  | nil =>
    rw [List.append_nil] at hsplit
    exact (h.not_last hknown hsplit hne hblanks).elim
  | cons b after =>
    obtain ⟨init, last, rfl⟩ := List.eq_nil_or_concat blanks |>.resolve_left hne
    rw [List.cons_append, afterBlanks?] at hblank
    split at hblank
    · next hb =>
      refine between_iff.mpr ⟨s ++ init, last, b, after, hblanks last (by simp), hb, ?_⟩
      simpa using hsplit
    · cases hblank

/-- The expression ends where its text ends, if the word does not stand between blanks in it. -/
theorem shortest?_eq (h : Carried cs behind x) (htail : Ending tail keyword behind whole)
    (hnone : ¬Between keyword.toList cs) : shortest? tail (cs ++ behind) = some (cs, whole) := by
  refine shortest?_whole htail.last h.nonempty fun s t hsplit _ ht => ?_
  cases hfit : tail (t ++ behind) with
  | none => rfl
  | some a =>
    obtain ⟨before, spot, rfl, hspot, ⟨arg, harg⟩ | ⟨word, hword, hread⟩⟩ := htail.argued ht hfit
    · rw [← List.append_assoc] at hsplit
      exact absurd (h.between_of_wordArgument? htail.known hsplit hspot harg) hnone
    · rw [← List.append_assoc] at hsplit
      obtain ⟨blanks, after, hne, hblanks, rfl, hafter⟩ :=
        h.word_of_afterWord? hword hsplit hspot hread
      obtain rfl : after = [] := List.self_eq_append_left.mp hafter
      rw [List.append_nil] at hsplit
      exact (h.not_last hword hsplit hne hblanks).elim

/-- Otherwise a part of it is taken for the expression, which does not compile. -/
theorem shortest?_error (h : Carried cs behind x) (htail : Ending tail keyword behind whole)
    (hbetween : Between keyword.toList cs) : ∃ s a failure,
      shortest? tail (cs ++ behind) = some (s, a) ∧ expression s = .error failure := by
  obtain ⟨before, a, b, after, ha, hb, hsplit⟩ := between_iff.mp hbetween
  have hbefore : before ≠ [] := by
    rintro rfl
    have hhead := h.bare.1 a (by rw [hsplit]; rfl)
    exact Bool.noConfusion (hhead.symm.trans ha)
  obtain ⟨hne, hword, -⟩ := keyword_spec keyword htail.known
  have hlast : ∀ c ∈ (b :: after).getLast?, isBlank c = false := by
    have hends : cs = (before ++ a :: keyword.toList) ++ b :: after := by simpa using hsplit
    rw [← List.getLast?_append_of_ne_nil _ (List.cons_ne_nil b after), ← hends]
    exact h.bare.2
  have hspot := trimStart_ne_nil hlast (List.cons_ne_nil b after)
  rw [trimStart_cons hb] at hspot
  have hafter : trimStart (after ++ behind) ≠ [] := fun hblank =>
    hspot (List.dropWhile_eq_nil_iff.mpr fun c hc =>
      List.dropWhile_eq_nil_iff.mp hblank c (List.mem_append_left behind hc))
  have hread := wordArgument?_append hword hne
    (List.forall_mem_singleton.mpr ha) (List.cons_ne_nil a []) hb hafter
  obtain ⟨s, t, found, hsplit', ht, hfit, hshortest⟩ := shortest?_early hbefore
    (List.cons_ne_nil a (keyword.toList ++ b :: after)) (htail.fits (by simpa using hread))
  rw [← List.append_assoc, ← hsplit] at hshortest
  -- The part may end before another word than the one that is known to stand between blanks.
  obtain ⟨word, hword, rest, hrest, hends⟩ := htail.leads (by simp [ht]) hfit
  obtain ⟨failure, hfailure⟩ := h.expression_error hword (hsplit.trans hsplit') ht hrest hends
  exact ⟨s, found, failure, hshortest, hfailure⟩

end Carried

/-! ## The tags -/

theorem carried_trim {e behind : List Char} {x : Expr}
    (hx : Expr.compile (String.ofList e) = .ok x) (hne : trim e ≠ [])
    (hquoted : ∀ word ∈ keywords, Quoted word.toList e)
    (hbehind : ∀ c ∈ behind.head?, isBlank c = true) : Carried (trim e) behind x :=
  ⟨bare_trim e, hne, Expr.compile_trim.mpr hx, fun word hword => (hquoted word hword).trim,
    hbehind⟩

/-- What follows a word and blanks. -/
theorem argument?_append (word : String) {front rest : List Char}
    (hfront : ∀ c ∈ front, isBlank c = true) (hrest : ∀ c ∈ rest.head?, isBlank c = false)
    (hne : rest ≠ []) : argument? word (word.toList ++ ' ' :: (front ++ rest)) = some rest := by
  rw [argument?, after?_append, Option.bind_some, afterBlanks?, if_pos (by decide),
    trimStart_append hfront hrest, Option.bind_some, nonempty?, if_neg (by simpa using hne)]

/-- A text is read by the first shape that it fits. -/
theorem read_of_fits {earlier later : List (TagKind × (List Char → Option Reading))}
    {kind : TagKind} {shape : List Char → Option Reading}
    (hshapes : shapes = earlier ++ (kind, shape) :: later) {cs : List Char}
    (hnone : (earlier.all fun s => (s.2 cs).isNone) = true) {reading : Reading}
    (h : shape cs = some reading) :
    TagText.read (String.ofList cs) = reading.map (TagText.mk kind) := by
  have hfitting : shapes.findSome? (fun s => (s.2 cs).map fun reading => (s.1, reading))
      = some (kind, reading) := by
    have hearlier :
        earlier.findSome? (fun s => (s.2 cs).map fun reading => (s.1, reading)) = none := by
      refine List.findSome?_eq_none_iff.mpr fun s hs => ?_
      rw [Option.map_eq_none_iff]
      exact Option.isNone_iff_eq_none.mp (List.all_eq_true.mp hnone s hs)
    rw [hshapes, List.findSome?_append, hearlier, Option.none_or, List.findSome?_cons]
    dsimp only
    rw [h]
    rfl
  rw [TagText.read, String.toList_ofList]
  simp only [hfitting]
  cases reading <;> rfl

/-- A tag around an expression, of those that may have a word behind the expression. -/
inductive Site where
  | includes
  | embeds
  | uses
  | loop (name : String)
  | importsNames (name : String)

namespace Site

/-- The word that the tag starts with. -/
def word : Site → String
  | .includes => "include"
  | .embeds => "embed"
  | .uses => "use"
  | .loop _ => "for"
  | .importsNames _ => "from"

/-- What else stands before the expression. -/
def before : Site → List Char
  | .loop name => name.toList ++ " in ".toList
  | _ => []

/-- What stands behind the expression. -/
def behind : Site → List Char
  | .importsNames name => " import ".toList ++ name.toList
  | _ => []

/-- The name is one that may stand there. -/
def Named : Site → Prop
  | .loop name => name ≠ "" ∧ ∀ c ∈ name.toList, (c.isAlphanum || c = '_') = true
  | .importsNames name => wholeName? isBlockWord name.toList = some name
  | _ => True

/-- The text of the tag around an expression, without the blanks at its ends. -/
def text (site : Site) (e : List Char) : String :=
  String.ofList (trim (site.word.toList ++ ' ' :: (site.before ++ (e ++ site.behind))))

/-- The word that may stand behind the expression. -/
def keyword : Site → String
  | .includes | .embeds | .uses => "with"
  | .loop _ => "if"
  | .importsNames _ => "import"

def kind : Site → TagKind
  | .includes => .includes
  | .embeds => .embeds
  | .uses => .uses
  | .loop _ => .loop
  | .importsNames _ => .importsNames

/-- The tag with the expression and nothing else. -/
def tag (x : Expr) : Site → Tag
  | .includes => .includes ⟨x, none, false, false⟩
  | .embeds => .embeds ⟨x, none, false, false⟩
  | .uses => .uses x []
  | .loop name => .loop none name x none
  | .importsNames name => .importsNames x [(name, name)]

/-- The shape of the tag. -/
def shape : Site → List Char → Option Reading
  | .includes => inclusion? "include" .includes
  | .embeds => inclusion? "embed" .embeds
  | .uses => uses?
  | .loop _ => loop?
  | .importsNames _ => importsNames?

theorem shapes_eq (site : Site) : ∃ earlier later,
    shapes = earlier ++ (site.kind, site.shape) :: later ∧ ∀ rest,
      (earlier.all fun s => (s.2 (site.word.toList ++ ' ' :: rest)).isNone) = true := by
  have hloop (rest : List Char) : ((shapes.take 4).all fun s =>
      (s.2 ("for".toList ++ ' ' :: rest)).isNone) = true := rfl
  have hnames (rest : List Char) : ((shapes.take 17).all fun s =>
      (s.2 ("from".toList ++ ' ' :: rest)).isNone) = true := rfl
  cases site with
  | includes => exact ⟨shapes.take 13, shapes.drop 14, rfl, fun _ => rfl⟩
  | embeds => exact ⟨shapes.take 14, shapes.drop 15, rfl, fun _ => rfl⟩
  | uses => exact ⟨shapes.take 12, shapes.drop 13, rfl, fun _ => rfl⟩
  | loop name => exact ⟨shapes.take 4, shapes.drop 5, rfl, hloop⟩
  | importsNames name => exact ⟨shapes.take 17, shapes.drop 18, rfl, hnames⟩

/-- No earlier shape fits a text that starts with the word of the tag. -/
theorem read_eq (site : Site) {rest : List Char} {reading : Reading}
    (h : site.shape (site.word.toList ++ ' ' :: rest) = some reading) :
    TagText.read (String.ofList (site.word.toList ++ ' ' :: rest))
      = reading.map (TagText.mk site.kind) := by
  obtain ⟨earlier, later, hshapes, hnone⟩ := site.shapes_eq
  exact read_of_fits hshapes (hnone rest) h

theorem word_spec (site : Site) : site.word.toList ≠ [] ∧ Solid site.word.toList := by
  have hmem : site.word ∈ ["include", "embed", "use", "for", "from"] := by
    cases site <;> simp only [word, List.mem_cons, true_or, or_true]
  revert hmem
  generalize site.word = word
  revert word
  decide

/-- Only what stands behind the body of the tag is trimmed. -/
theorem trim_body (site : Site) {body back : List Char} (hne : body ≠ [])
    (hlast : ∀ c ∈ body.getLast?, isBlank c = false) (hback : ∀ c ∈ back, isBlank c = true) :
    trim (site.word.toList ++ ' ' :: (body ++ back)) = site.word.toList ++ ' ' :: body := by
  have hbare : Bare (site.word.toList ++ ' ' :: body) := by
    refine ⟨?_, ?_⟩
    · rw [List.head?_append_of_ne_nil _ site.word_spec.1]
      exact site.word_spec.2.bare.1
    · rw [List.getLast?_append_of_ne_nil _ (List.cons_ne_nil _ _), List.getLast?_cons_of_ne_nil hne]
      exact hlast
  have h := @trim_of_bare _ [] _ hbare (by simp) (List.forall_mem_nil _) hback
  simpa using h

end Site

/-! ## Their readings -/

/-- What the reading of a tag comes to: the tag with the whole expression, or a failure if the word
stands between blanks in the expression. -/
def Reads (keyword : String) (cs : List Char) (tag : Tag) (reading? : Option Reading) : Prop :=
  (¬Between keyword.toList cs → reading? = some (.ok (some tag))) ∧
    (Between keyword.toList cs → ∃ failure, reading? = some (.error failure))

/-- A reading that rests on where the expression ends. -/
theorem Carried.reads {α : Type} {tail : List Char → Option α} {keyword : String} {whole : α}
    {cs behind text : List Char} {x : Expr} {tag : Tag} {reading? : Option Reading}
    (h : Carried cs behind x) (htail : Ending tail keyword behind whole)
    (htext : cs ++ behind = text)
    (hwhole : shortest? tail text = some (cs, whole) → reading? = some (.ok (some tag)))
    (hpart : ∀ s a failure, shortest? tail text = some (s, a) → expression s = .error failure →
      ∃ failure, reading? = some (.error failure)) : Reads keyword cs tag reading? := by
  refine ⟨fun hnone => ?_, fun hbetween => ?_⟩
  · exact hwhole (htext ▸ h.shortest?_eq htail hnone)
  · obtain ⟨s, a, failure, hshortest, hfailure⟩ := h.shortest?_error htail hbetween
    exact hpart s a failure (htext ▸ hshortest) hfailure

section Readings
variable {cs behind front : List Char} {x : Expr} (hfront : ∀ c ∈ front, isBlank c = true)
include hfront

theorem inclusion?_reads (word : String) (tag : Inclusion → Tag) (h : Carried cs [] x) :
    Reads "with" cs (tag ⟨x, none, false, false⟩)
      (inclusion? word tag (word.toList ++ ' ' :: (front ++ cs))) := by
  rw [inclusion?, argument?_append word hfront h.bare.1 h.nonempty]
  refine h.reads ending_inclusionTail? (List.append_nil cs) (fun hshortest => ?_) ?_
  · simp only [Option.bind_eq_bind, Option.bind_some, hshortest, h.expression_eq]
    rfl
  · intro s a failure hshortest hfailure
    simp only [Option.bind_eq_bind, Option.bind_some, hshortest, hfailure]
    exact ⟨failure, rfl⟩

theorem uses?_reads (h : Carried cs [] x) :
    Reads "with" cs (.uses x []) (uses? ("use".toList ++ ' ' :: (front ++ cs))) := by
  rw [uses?, argument?_append "use" hfront h.bare.1 h.nonempty]
  refine h.reads (ending_orEnd? "with" (by decide)) (List.append_nil cs) (fun hshortest => ?_) ?_
  · simp only [Option.bind_eq_bind, Option.bind_some, hshortest, h.expression_eq]
    rfl
  · intro s list failure hshortest hfailure
    simp only [Option.bind_eq_bind, Option.bind_some, hshortest, hfailure]
    generalize ((arguments (trim (list.getD []))).mapM _ :
      Except Failure (List (String × String))) = renames
    cases renames with
    | error e => exact ⟨e, rfl⟩
    | ok renames => exact ⟨failure, rfl⟩

end Readings

/-! ### Loops -/

section Loop
variable {name : String} {cs : List Char} (hname : Site.Named (.loop name))
include hname

theorem isWord_of_loopName {c : Char} (hc : c ∈ name.toList) : isWord c = true := by
  have h := hname.2 c hc
  rw [Bool.or_eq_true, decide_eq_true_eq] at h
  obtain h | rfl := h
  · exact isWord_of_isAlphanum h
  · decide

theorem solid_loopName : Solid name.toList := fun _ hc =>
  isBlank_of_isWord (isWord_of_loopName hname hc)

theorem loopName_ne_nil : name.toList ≠ [] := fun h => hname.1 (String.toList_eq_nil_iff.mp h)

/-- The name of a loop is the name of its value. -/
theorem loopNames?_name : loopNames? name.toList = some (none, name) := by
  have hcomma : ',' ∉ name.toList := fun hc => absurd (isWord_of_loopName hname hc) (by decide)
  rw [loopNames?, Locator.splitOn_of_notMem hcomma, List.map_singleton,
    trim_of_bare_self (solid_loopName hname).bare (loopName_ne_nil hname)]
  simp [loopName_ne_nil hname]

/-- The names of a loop end where a blank follows. -/
theorem shortest?_loopName {rest : List Char} {inner : List Char × Option (List Char)}
    (hrest : wordArgument? "in" rest = some cs)
    (hinner : shortest? (orEnd? "if") cs = some inner) :
    shortest? (fun cs => (wordArgument? "in" cs).bind (shortest? (orEnd? "if")))
      (name.toList ++ rest) = some (name.toList, inner) := by
  refine shortest?_whole (by rw [hrest]; exact hinner) (loopName_ne_nil hname) ?_
  intro s t hsplit _ ht
  obtain ⟨c, t, rfl⟩ := List.exists_cons_of_ne_nil ht
  have hc : isBlank c = false := solid_loopName hname c (by rw [hsplit]; simp)
  rw [wordArgument?, List.cons_append, afterBlanks?, if_neg (by rw [hc]; decide)]
  rfl

theorem loop?_reads {front : List Char} (hfront : ∀ c ∈ front, isBlank c = true) {x : Expr}
    (h : Carried cs [] x) : Reads "if" cs (.loop none name x none)
      (loop? ("for".toList ++ ' ' :: (name.toList ++ (" in ".toList ++ (front ++ cs))))) := by
  have hargument := @argument?_append "for" [] (name.toList ++ (" in ".toList ++ (front ++ cs)))
    (List.forall_mem_nil _) (by
      rw [List.head?_append_of_ne_nil _ (loopName_ne_nil hname)]
      exact (solid_loopName hname).bare.1)
    (by simp [loopName_ne_nil hname])
  have hstart : trimStart (front ++ cs) = cs := trimStart_append hfront h.bare.1
  have hin : wordArgument? "in" (" in ".toList ++ (front ++ cs)) = some cs := by
    have hread := @wordArgument?_append "in" (by decide) (by decide) [' ']
      (List.forall_mem_singleton.mpr (by decide)) (by decide) ' ' (by decide) (front ++ cs)
      (by rw [hstart]; exact h.nonempty)
    rwa [hstart] at hread
  have hall : name.toList.all isLoopNames = true := List.all_eq_true.mpr fun c hc => by
    rw [isLoopNames, hname.2 c hc]
    rfl
  rw [List.nil_append] at hargument
  rw [loop?, hargument]
  refine h.reads (ending_orEnd? "if" (by decide)) (List.append_nil cs) (fun hshortest => ?_) ?_
  · simp only [Option.bind_eq_bind, Option.bind_some, shortest?_loopName hname hin hshortest,
      if_pos hall, loopNames?_name hname, h.expression_eq]
    rfl
  · intro s condition failure hshortest hfailure
    simp only [Option.bind_eq_bind, Option.bind_some, shortest?_loopName hname hin hshortest,
      if_pos hall, loopNames?_name hname, hfailure]
    exact ⟨failure, rfl⟩

end Loop

/-! ### Imports of names -/

/-- A text without brackets, quotes and commas is one item. -/
theorem arguments_singleton {cs : List Char} (hcs : Bare cs) (hne : cs ≠ [])
    (hplain : ∀ c ∈ cs,
      isOpening c = false ∧ isClosing c = false ∧ isQuote c = false ∧ (c = ',') = False) :
    arguments cs = [cs] := by
  have hparts : atCommas .outside 0 cs = [cs] := by
    clear hcs hne
    induction cs with
    | nil => rfl
    | cons c cs ih =>
      obtain ⟨⟨hopening, hclosing, hquote, hcomma⟩, hrest⟩ := List.forall_mem_cons.mp hplain
      simp [atCommas, hopening, hclosing, hquote, hcomma, Quoting.step, ih hrest]
  rw [arguments, hparts, List.map_singleton, trim_of_bare_self hcs hne]
  simp [hne]

/-- A name with nothing behind it is all of the text. -/
theorem nameWith?_whole {more : Char → Bool} {cs name : List Char}
    (h : nameWith? more cs = some (name, [])) :
    name = cs ∧ cs ≠ [] ∧ ∀ c ∈ cs, isNameStart c = true ∨ more c = true := by
  cases cs with
  | nil => cases h
  | cons c rest =>
    rw [nameWith?] at h
    split at h
    · next hstart =>
      obtain ⟨rfl, hrest⟩ := Prod.mk.inj (Option.some.inj h)
      have hall := List.dropWhile_eq_nil_iff.mp hrest
      refine ⟨?_, List.cons_ne_nil c rest, List.forall_mem_cons.mpr ⟨.inl hstart, ?_⟩⟩
      · rw [List.takeWhile_eq_self_iff.mpr hall]
      · exact fun d hd => .inr (hall d hd)
    · cases h

theorem nameWith?_of_wholeName? {more : Char → Bool} {cs : List Char} {name : String}
    (h : wholeName? more cs = some name) : nameWith? more cs = some (name.toList, []) := by
  unfold wholeName? at h
  split at h
  · next found heq =>
    obtain rfl := Option.some.inj h
    rw [heq, String.toList_ofList]
  · cases h

/-- Characters in names of blocks are neither blanks nor quotes, brackets or commas. -/
theorem isBlockWord_plain {c : Char} (h : isBlockWord c = true) :
    isBlank c = false ∧ isOpening c = false ∧ isClosing c = false ∧ isQuote c = false ∧
      (c = ',') = False := by
  have hother {d : Char} (hd : isBlockWord d = false) : c ≠ d := by
    rintro rfl
    exact Bool.noConfusion (h.symm.trans hd)
  have hblank : isBlank c = false := by
    rw [isBlockWord, Bool.or_eq_true, decide_eq_true_eq] at h
    obtain hword | rfl := h
    · exact isBlank_of_isWord hword
    · decide
  refine ⟨hblank, ?_, ?_, ?_, eq_false (hother (by decide))⟩
  · simp [isOpening, hother (d := '(') (by decide), hother (d := '[') (by decide),
      hother (d := '\x7b') (by decide)]
  · simp [isClosing, hother (d := ')') (by decide), hother (d := ']') (by decide),
      hother (d := '\x7d') (by decide)]
  · exact isQuote_of_isMark (isMark_of_class (by decide) h)

section Imports
variable {name : String} {cs back : List Char} {x : Expr} (hname : Site.Named (.importsNames name))
include hname

theorem isBlockWord_of_importedName {c : Char} (hc : c ∈ name.toList) : isBlockWord c = true := by
  obtain hstart | hmore := (nameWith?_whole (nameWith?_of_wholeName? hname)).2.2 c hc
  · rw [isBlockWord, isWord_of_isNameStart hstart]
    rfl
  · exact hmore

theorem solid_importedName : Solid name.toList := fun _ hc =>
  (isBlockWord_plain (isBlockWord_of_importedName hname hc)).1

theorem renaming?_name : renaming? name.toList = some (name, none) := by
  rw [renaming?, nameWith?_of_wholeName? hname]
  simp

theorem arguments_name : arguments (trim name.toList) = [name.toList] := by
  have hne := (nameWith?_whole (nameWith?_of_wholeName? hname)).2.1
  have hbare := (solid_importedName hname).bare
  rw [trim_of_bare_self hbare hne]
  exact arguments_singleton hbare hne fun c hc =>
    (isBlockWord_plain (isBlockWord_of_importedName hname hc)).2

theorem importsNames?_reads {front : List Char} (hfront : ∀ c ∈ front, isBlank c = true)
    (hback : ∀ c ∈ back, isBlank c = true)
    (h : Carried cs (back ++ (" import ".toList ++ name.toList)) x) :
    Reads "import" cs (.importsNames x [(name, name)]) (importsNames? ("from".toList ++
      ' ' :: (front ++ (cs ++ (back ++ (" import ".toList ++ name.toList)))))) := by
  have hargument := @argument?_append "from" front
    (cs ++ (back ++ (" import ".toList ++ name.toList))) hfront (by
      rw [List.head?_append_of_ne_nil _ h.nonempty]
      exact h.bare.1) (by simp)
  have hstart : trimStart name.toList = name.toList :=
    trimStart_append (List.forall_mem_nil _) (solid_importedName hname).bare.1
  have hname_ne := (nameWith?_whole (nameWith?_of_wholeName? hname)).2.1
  have himport : wordArgument? "import" (back ++ (" import ".toList ++ name.toList))
      = some name.toList := by
    have hread := @wordArgument?_append "import" (by decide) (by decide) (back ++ [' '])
      (List.forall_mem_append.mpr ⟨hback, List.forall_mem_singleton.mpr (by decide)⟩) (by simp)
      ' ' (by decide) name.toList (by rwa [hstart])
    rw [hstart, List.append_assoc] at hread
    exact hread
  rw [importsNames?, hargument]
  refine h.reads (ending_import himport) rfl (fun hshortest => ?_) ?_
  · simp only [Option.bind_eq_bind, Option.bind_some, hshortest, arguments_name hname,
      List.mapM_cons, List.mapM_nil, renaming?_name hname, h.expression_eq]
    rfl
  · intro s list failure hshortest hfailure
    simp only [Option.bind_eq_bind, Option.bind_some, hshortest, hfailure]
    generalize ((arguments (trim list)).mapM _ : Except Failure (List (String × String))) = names
    cases names with
    | error e => exact ⟨e, rfl⟩
    | ok names => exact ⟨failure, rfl⟩

end Imports

/-! ## The whole tag -/

namespace Site

/-- What the shape of a tag makes of its body is what the tag is read as. -/
theorem read_text (site : Site) {e body back last cs : List Char} {x : Expr}
    (htext : site.before ++ (e ++ site.behind) = body ++ back)
    (hback : ∀ c ∈ back, isBlank c = true) (hbare : Bare last) (hne : last ≠ [])
    (hlast : last <:+ body)
    (h : Reads site.keyword cs (site.tag x) (site.shape (site.word.toList ++ ' ' :: body))) :
    (¬Between site.keyword.toList cs →
      TagText.read (site.text e) = .ok ⟨site.kind, some (site.tag x)⟩) ∧
    (Between site.keyword.toList cs →
      ∃ failure, TagText.read (site.text e) = .error failure) := by
  obtain ⟨lead, rfl⟩ := hlast
  have hends : ∀ c ∈ (lead ++ last).getLast?, isBlank c = false := by
    rw [List.getLast?_append_of_ne_nil lead hne]
    exact hbare.2
  have htrim : site.text e = String.ofList (site.word.toList ++ ' ' :: (lead ++ last)) := by
    rw [text, htext, site.trim_body (by simp [hne]) hends hback]
  rw [htrim]
  refine ⟨fun hnone => ?_, fun hbetween => ?_⟩
  · rw [site.read_eq (h.1 hnone)]
    rfl
  · obtain ⟨failure, hfailure⟩ := h.2 hbetween
    exact ⟨failure, site.read_eq hfailure⟩

/-- A tag around an expression that has the words of tags in strings only is read with the whole
expression and nothing else, unless its word stands between blanks in the expression; then no tag is
read. -/
theorem read_expression (site : Site) (hnamed : site.Named) {e : List Char} {x : Expr}
    (hx : Expr.compile (String.ofList e) = .ok x) (hblank : e.all isBlank = false)
    (hquoted : ∀ word ∈ keywords, Quoted word.toList e) :
    (¬Between site.keyword.toList (trim e) →
      TagText.read (site.text e) = .ok ⟨site.kind, some (site.tag x)⟩) ∧
    (Between site.keyword.toList (trim e) →
      ∃ failure, TagText.read (site.text e) = .error failure) := by
  obtain ⟨front, back, hfront, hback, he⟩ := trim_spec e
  have hne := trim_ne_nil hblank
  have hcarried {behind : List Char} := @carried_trim e behind x hx hne hquoted
  have hplain : Carried (trim e) [] x := hcarried (by simp)
  have hend : e ++ [] = (front ++ trim e) ++ back := by
    rw [List.append_nil, List.append_assoc]
    exact he
  have hlast := List.suffix_append front (trim e)
  cases site with
  | includes =>
    exact read_text .includes hend hback (bare_trim e) hne hlast
      (inclusion?_reads hfront "include" .includes hplain)
  | embeds =>
    exact read_text .embeds hend hback (bare_trim e) hne hlast
      (inclusion?_reads hfront "embed" .embeds hplain)
  | uses =>
    exact read_text .uses hend hback (bare_trim e) hne hlast (uses?_reads hfront hplain)
  | loop name =>
    refine read_text (.loop name) ?_ hback (bare_trim e) hne ?_ (loop?_reads hnamed hfront hplain)
    · change name.toList ++ " in ".toList ++ (e ++ []) = _
      rw [hend]
      simp only [List.append_assoc]
    · exact hlast.trans ⟨name.toList ++ " in ".toList, List.append_assoc ..⟩
  | importsNames name =>
    have hbehind : ∀ c ∈ (back ++ (" import ".toList ++ name.toList)).head?, isBlank c = true := by
      cases back with
      | nil => exact fun c hc => by cases hc; decide
      | cons b back => exact fun c hc => by cases hc; exact hback b List.mem_cons_self
    have hname_ne := (nameWith?_whole (nameWith?_of_wholeName? hnamed)).2.1
    refine read_text (.importsNames name) ?_ (List.forall_mem_nil _)
      (solid_importedName hnamed).bare hname_ne ?_
      (importsNames?_reads hnamed hfront hback (hcarried hbehind))
    · change e ++ (" import ".toList ++ name.toList) = _
      rw [List.append_nil, ← List.append_assoc (trim e), ← List.append_assoc front]
      exact congrArg (· ++ _) he
    · exact ⟨front ++ (trim e ++ (back ++ " import ".toList)), by simp only [List.append_assoc]⟩

/-- The word with a blank before it, and then between blanks, in a string. -/
theorem read_expression_with :
    TagText.read "include 'go with' ~ b"
        = .ok ⟨.includes, some (.includes ⟨[.string "go with", .variable "b", .binary .concat],
            none, false, false⟩)⟩ ∧
      ∃ failure, TagText.read "include 'go with b'" = .error failure := by
  have hread := (read_expression .includes trivial (e := "'go with' ~ b".toList)
    (x := [.string "go with", .variable "b", .binary .concat]) rfl (by decide) (by decide)).1
  have hfails := (read_expression .includes trivial (e := "'go with b'".toList)
    (x := [.string "go with b"]) rfl (by decide) (by decide)).2
  exact ⟨hread (by decide), hfails (by decide)⟩

/-- No tag is read, although the expression compiles and has the words of tags in strings only. -/
def Misled (site : Site) (e : String) : Prop :=
  site.Named ∧ (∃ x, Expr.compile e = .ok x) ∧ e.toList.all isBlank = false ∧
    (∀ word ∈ keywords, Quoted word.toList e.toList) ∧
    ∃ failure, TagText.read (site.text e.toList) = .error failure

/-- The words of the tags between blanks in strings. -/
theorem read_misled : includes.Misled "'a with b'" ∧ embeds.Misled "'a with b'" ∧
    uses.Misled "'a with b'" ∧ (loop "x").Misled "['a if b']" ∧
    (importsNames "m").Misled "'a import b'" := by
  have hname : (loop "x").Named := ⟨by decide, List.forall_mem_singleton.mpr (by decide)⟩
  refine ⟨?includes, ?embeds, ?uses, ?loop, ?importsNames⟩
  case includes | embeds | uses => exact ⟨trivial, ⟨_, rfl⟩, by decide, by decide, _, rfl⟩
  case loop => exact ⟨hname, ⟨_, rfl⟩, by decide, by decide, _, rfl⟩
  case importsNames => exact ⟨rfl, ⟨_, rfl⟩, by decide, by decide, _, rfl⟩

end Site

end Stencil.TagText
