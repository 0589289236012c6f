import Stencil.Proofs.Text.Trailing

/-!
# Words in a text

A word stands in a text where no word character comes right before it or after it.  It is quoted if
it stands inside strings only (`Quoted`); a word inside a string may well have blanks around it
(`Between`), and then the strings of what comes before it are not closed
(`Quoted.scan_before`).  So a text whose strings are closed does not end in such a word
(`Quoted.not_last`).
-/
namespace Stencil.Text

/-! ## Blanks at the ends -/

/-- The text has no blanks at its ends. -/
def Bare (cs : List Char) : Prop :=
  (∀ c ∈ cs.head?, isBlank c = false) ∧ ∀ c ∈ cs.getLast?, isBlank c = false

instance (cs : List Char) : Decidable (Bare cs) :=
  @instDecidableAnd _ _ (Option.decidableForallMem cs.head?) (Option.decidableForallMem cs.getLast?)

theorem isBlank_head_trimStart {cs : List Char} :
    ∀ c ∈ (trimStart cs).head?, isBlank c = false := by
  intro c hc
  have h := List.head?_dropWhile_not isBlank cs
  rw [show (cs.dropWhile isBlank).head? = some c from hc] at h
  exact h

theorem bare_trim (cs : List Char) : Bare (trim cs) := by
  refine ⟨fun c hc => ?_, fun c hc => ?_⟩
  · obtain ⟨blanks, -, heq⟩ := trimEnd_spec (trimStart cs)
    refine @isBlank_head_trimStart cs c ?_
    rw [heq, List.head?_append, show (trimEnd (trimStart cs)).head? = some c from hc]
    rfl
  · rw [trim, trimEnd, List.getLast?_reverse] at hc
    exact isBlank_head_trimStart c hc

theorem trimStart_spec (cs : List Char) :
    ∃ blanks, (∀ c ∈ blanks, isBlank c = true) ∧ cs = blanks ++ trimStart cs :=
  ⟨cs.takeWhile isBlank, fun _ hc => List.all_eq_true.mp List.all_takeWhile _ hc,
    List.takeWhile_append_dropWhile.symm⟩

/-- A text is what is left of it when it is trimmed, between blanks. -/
theorem trim_spec (cs : List Char) : ∃ front back, (∀ c ∈ front, isBlank c = true) ∧
    (∀ c ∈ back, isBlank c = true) ∧ cs = front ++ (trim cs ++ back) := by
  obtain ⟨front, hfront, hcs⟩ := trimStart_spec cs
  obtain ⟨back, hback, heq⟩ := trimEnd_spec (trimStart cs)
  exact ⟨front, back, hfront, hback, by rw [trim, ← heq, ← hcs]⟩

theorem trimStart_cons {c : Char} (hc : isBlank c = true) (cs : List Char) :
    trimStart (c :: cs) = trimStart cs :=
  List.dropWhile_cons_of_pos hc

theorem trimStart_append {blanks : List Char} (h : ∀ c ∈ blanks, isBlank c = true)
    {cs : List Char} (hcs : ∀ c ∈ cs.head?, isBlank c = false) : trimStart (blanks ++ cs) = cs := by
  rw [trimStart, List.dropWhile_append, List.dropWhile_eq_nil_iff.mpr h]
  cases cs with
  | nil => rfl
  | cons c cs =>
    rw [List.dropWhile_cons_of_neg]
    · rfl
    · rw [hcs c rfl]
      decide

theorem trim_ne_nil {cs : List Char} (h : cs.all isBlank = false) : trim cs ≠ [] := by
  intro hnil
  obtain ⟨front, back, hfront, hback, hcs⟩ := trim_spec cs
  rw [hnil, List.nil_append] at hcs
  have hall := List.all_eq_true.mpr (List.forall_mem_append.mpr ⟨hfront, hback⟩)
  rw [← hcs, h] at hall
  cases hall

/-- A text that ends in something that is not blank is not blank. -/
theorem trimStart_ne_nil {cs : List Char} (hcs : ∀ c ∈ cs.getLast?, isBlank c = false)
    (hne : cs ≠ []) : trimStart cs ≠ [] := by
  intro hblank
  have hlast := hcs _ (List.getLast?_eq_some_getLast hne)
  have hall := List.dropWhile_eq_nil_iff.mp hblank
  exact Bool.noConfusion (hlast.symm.trans (hall _ (List.getLast_mem hne)))

/-- A text without blanks at its ends is what is left when it is trimmed. -/
theorem trim_of_bare {cs front back : List Char} (hcs : Bare cs) (hne : cs ≠ [])
    (hfront : ∀ c ∈ front, isBlank c = true) (hback : ∀ c ∈ back, isBlank c = true) :
    trim (front ++ (cs ++ back)) = cs := by
  have hhead : ∀ c ∈ (cs ++ back).head?, isBlank c = false := by
    rw [List.head?_append_of_ne_nil cs hne]
    exact hcs.1
  have hlast : trimEnd cs = cs := by
    have h := @trimStart_append [] (List.forall_mem_nil _) cs.reverse (by
      rw [List.head?_reverse]
      exact hcs.2)
    rw [trimEnd, show cs.reverse.dropWhile isBlank = cs.reverse from h, List.reverse_reverse]
  rw [trim, trimStart_append hfront hhead, (EndsAlike.append_blanks cs hback).trimEnd_eq, hlast]

theorem trim_of_bare_self {cs : List Char} (hcs : Bare cs) (hne : cs ≠ []) : trim cs = cs := by
  have htrim := trim_of_bare hcs hne (List.forall_mem_nil _) (List.forall_mem_nil _)
  rwa [List.nil_append, List.append_nil] at htrim

theorem Solid.bare {cs : List Char} (h : Solid cs) : Bare cs :=
  ⟨fun c hc => h c (List.mem_of_mem_head? hc), fun c hc => h c (List.mem_of_getLast? hc)⟩

/-! ## Words -/

/-- The word stands at place `n` of the text. -/
def WordAt (word cs : List Char) (n : Nat) : Prop :=
  word <+: cs.drop n ∧ wordEndsBefore (cs.take n).reverse = true ∧
    wordEndsBefore (cs.drop (n + word.length)) = true

/-- Wherever the word stands in the text, it stands inside a string. -/
def Quoted (word cs : List Char) : Prop :=
  ∀ n ≤ cs.length, WordAt word cs n → scan (cs.take n) ≠ .outside

/-- The word stands in the text with a blank before it and one after it. -/
def Between (word cs : List Char) : Prop :=
  ∃ n < cs.length, (cs.drop n).head?.any isBlank = true ∧ word <+: cs.drop (n + 1) ∧
    (cs.drop (n + 1 + word.length)).head?.any isBlank = true

instance (word cs : List Char) (n : Nat) : Decidable (WordAt word cs n) :=
  inferInstanceAs (Decidable (_ ∧ _ ∧ _))

instance (word cs : List Char) : Decidable (Quoted word cs) :=
  inferInstanceAs (Decidable (∀ n ≤ cs.length, _ → _))

instance (word cs : List Char) : Decidable (Between word cs) :=
  inferInstanceAs (Decidable (∃ n < cs.length, _ ∧ _ ∧ _))

example : Quoted "with".toList "'x with y'".toList ∧ Between "with".toList "'x with y'".toList := by
  decide

theorem between_iff {word cs : List Char} : Between word cs ↔ ∃ before a b after,
    isBlank a = true ∧ isBlank b = true ∧ cs = before ++ a :: (word ++ b :: after) := by
  have hhead {cs : List Char} (h : cs.head?.any isBlank = true) :
      ∃ c rest, isBlank c = true ∧ cs = c :: rest := by
    cases cs with
    | nil => cases h
    | cons c rest => exact ⟨c, rest, h, rfl⟩
  constructor
  · rintro ⟨n, -, ha, ⟨tail, htail⟩, hb⟩
    obtain ⟨a, rest, ha, hrest⟩ := hhead ha
    have hnext : cs.drop (n + 1) = rest := by rw [← List.drop_drop, hrest, List.drop_one]; rfl
    rw [← List.drop_drop, hnext, ← htail.trans hnext, List.drop_left] at hb
    obtain ⟨b, after, hb, rfl⟩ := hhead hb
    refine ⟨cs.take n, a, b, after, ha, hb, ?_⟩
    rw [htail, hnext, ← hrest, List.take_append_drop]
  · rintro ⟨before, a, b, after, ha, hb, rfl⟩
    have hdrop : (before ++ a :: (word ++ b :: after)).drop (before.length + 1)
        = word ++ b :: after := by
      rw [← List.drop_drop, List.drop_left]
      rfl
    refine ⟨before.length, by simp, ?_, ?_, ?_⟩
    · rw [List.drop_left]
      exact ha
    · rw [hdrop]
      exact List.prefix_append word _
    · rw [← List.drop_drop, hdrop, List.drop_left]
      exact hb

theorem quoted_iff {word cs : List Char} : Quoted word cs ↔ ∀ before after,
    cs = before ++ (word ++ after) → wordEndsBefore before.reverse = true →
      wordEndsBefore after = true → scan before ≠ .outside := by
  constructor
  · rintro h before after rfl hbefore hafter
    have hn := h before.length (by simp)
    rw [WordAt, List.take_left, List.drop_left, ← List.drop_drop, List.drop_left,
      List.drop_left] at hn
    exact hn ⟨List.prefix_append word after, hbefore, hafter⟩
  · rintro h n - ⟨⟨after, hsplit⟩, hbefore, hafter⟩
    rw [← List.drop_drop, ← hsplit, List.drop_left] at hafter
    exact h _ after (by rw [hsplit, List.take_append_drop]) hbefore hafter

theorem wordEndsBefore_cons {c : Char} (hc : isBlank c = true) (cs : List Char) :
    wordEndsBefore (c :: cs) = true := by
  rw [wordEndsBefore, List.head?_cons, Option.any_some, Bool.not_eq_true', Bool.eq_false_iff]
  exact fun hword => Bool.noConfusion ((isBlank_of_isWord hword).symm.trans hc)

theorem wordEndsBefore_blanks {blanks : List Char} (h : ∀ c ∈ blanks, isBlank c = true) :
    wordEndsBefore blanks = true := by
  cases blanks with
  | nil => rfl
  | cons c blanks => exact wordEndsBefore_cons (h c List.mem_cons_self) blanks

theorem unquoted_of_blank {blanks : List Char} (h : ∀ c ∈ blanks, isBlank c = true) :
    Unquoted blanks := fun c hc => isQuote_of_isBlank (h c hc)

namespace Quoted
variable {word cs : List Char}

/-- Blanks at the ends are outside strings or in a string that is not closed. -/
theorem trim (h : Quoted word cs) : Quoted word (trim cs) := by
  rw [quoted_iff] at h ⊢
  intro before after hsplit hbefore hafter
  obtain ⟨front, back, hfront, hback, heq⟩ := trim_spec cs
  have hword : wordEndsBefore (front ++ before).reverse = true := by
    rw [List.reverse_append]
    cases hreverse : before.reverse with
    | nil => exact wordEndsBefore_blanks fun c hc => hfront c (List.mem_reverse.mp hc)
    | cons c rest =>
      rw [hreverse] at hbefore
      exact hbefore
  rw [← scan_unquoted_append (unquoted_of_blank hfront)]
  refine h (front ++ before) (after ++ back) ?_ hword ?_
  · rw [heq, hsplit]
    simp only [List.append_assoc]
  · exact (wordEndsBefore_eq (EndsAlike.append_blanks after hback)).trans hafter

/-- The strings of what comes before the word and blanks are not closed. -/
theorem scan_before {before blanks after : List Char}
    (h : Quoted word (before ++ (blanks ++ (word ++ after)))) (hne : blanks ≠ [])
    (hblanks : ∀ c ∈ blanks, isBlank c = true) (hafter : wordEndsBefore after = true) :
    scan before ≠ .outside := by
  rw [Ne, ← scan_append_unquoted before (unquoted_of_blank hblanks)]
  refine quoted_iff.mp h _ after (List.append_assoc ..).symm ?_ hafter
  obtain ⟨init, last, rfl⟩ := List.eq_nil_or_concat blanks |>.resolve_left hne
  rw [List.reverse_append, List.concat_eq_append, List.reverse_append]
  exact wordEndsBefore_cons (hblanks last (by simp)) _

/-- A text that ends in the word does not close its strings. -/
theorem not_last {before blanks : List Char} (hword : Unquoted word)
    (h : Quoted word (before ++ (blanks ++ word))) (hne : blanks ≠ [])
    (hblanks : ∀ c ∈ blanks, isBlank c = true) :
    scan (before ++ (blanks ++ word)) ≠ .outside := by
  rw [Ne, scan_append_unquoted before (unquoted_append.mpr ⟨unquoted_of_blank hblanks, hword⟩)]
  exact @scan_before word before blanks [] (by rwa [List.append_nil]) hne hblanks rfl

end Quoted

/-! ## Reading a word after blanks -/

theorem after?_append (word rest : List Char) : after? word (word ++ rest) = some rest := by
  induction word with
  | nil => rfl
  | cons w word ih => rw [List.cons_append, after?, if_pos rfl, ih]

theorem afterBlanks?_eq_some {cs rest : List Char} (h : afterBlanks? cs = some rest) :
    ∃ blanks, blanks ≠ [] ∧ (∀ c ∈ blanks, isBlank c = true) ∧ cs = blanks ++ rest := by
  cases cs with
  | nil => cases h
  | cons c cs =>
    rw [afterBlanks?] at h
    split at h
    · next hc =>
      obtain ⟨blanks, hblanks, hcs⟩ := trimStart_spec cs
      refine ⟨c :: blanks, List.cons_ne_nil _ _, List.forall_mem_cons.mpr ⟨hc, hblanks⟩, ?_⟩
      rw [← Option.some.inj h, List.cons_append, ← hcs]
    · cases h

/-- A word before a blank or the end does not reach over it. -/
theorem exists_of_append_eq {word cs behind rest : List Char} (hword : Solid word)
    (hbehind : ∀ c ∈ behind.head?, isBlank c = true) (h : cs ++ behind = word ++ rest) :
    ∃ after, cs = word ++ after ∧ rest = after ++ behind := by
  obtain ⟨more, rfl, hmore⟩ | ⟨after, hcs, hrest⟩ := List.append_eq_append_iff.mp h
  · cases more with
    | nil => exact ⟨[], by simp, hmore.symm⟩
    | cons d more =>
      have hd := hword d (by simp)
      exact Bool.noConfusion (hd.symm.trans (hbehind d (by rw [hmore]; rfl)))
  · exact ⟨after, hcs, hrest⟩

/-- If a text ends in something that is not blank, a word that is read in it ends there as well. -/
theorem word_of_afterBlanks? {word cs behind rest : List Char}
    (hcs : ∀ c ∈ cs.getLast?, isBlank c = false) (hne : cs ≠ [])
    (hbehind : ∀ c ∈ behind.head?, isBlank c = true) (hword : Solid word)
    (h : (afterBlanks? (cs ++ behind)).bind (after? word) = some rest) :
    ∃ blanks after, blanks ≠ [] ∧ (∀ c ∈ blanks, isBlank c = true) ∧
      cs = blanks ++ (word ++ after) ∧ rest = after ++ behind := by
  obtain ⟨c, cs, rfl⟩ := List.exists_cons_of_ne_nil hne
  obtain ⟨tail, htail, hrest⟩ := Option.bind_eq_some_iff.mp h
  rw [List.cons_append, afterBlanks?] at htail
  split at htail
  · next hc =>
    have hne := trimStart_ne_nil hcs (List.cons_ne_nil c cs)
    rw [trimStart_cons hc] at hne
    have hhead : ∀ d ∈ (trimStart cs ++ behind).head?, isBlank d = false := by
      rw [List.head?_append_of_ne_nil _ hne]
      exact isBlank_head_trimStart
    obtain ⟨blanks, hblanks, hsplit⟩ := trimStart_spec cs
    rw [hsplit, List.append_assoc, trimStart_append hblanks hhead] at htail
    have heq := after?_eq_some hrest
    rw [← Option.some.inj htail] at heq
    obtain ⟨after, hafter, hrest⟩ := exists_of_append_eq hword hbehind heq
    refine ⟨c :: blanks, after, List.cons_ne_nil _ _, ?_, ?_, hrest⟩
    · exact List.forall_mem_cons.mpr ⟨hc, hblanks⟩
    · rw [List.cons_append, ← hafter, ← hsplit]
  · cases htail

/-! ## Reading a name -/

/-- A class without blanks does not go on at one. -/
theorem stops_of_blank {more : Char → Bool} (hmore : ∀ {c}, more c = true → isBlank c = false)
    {c : Char} (hc : isBlank c = true) : more c = false :=
  Bool.eq_false_iff.mpr fun h => Bool.noConfusion ((hmore h).symm.trans hc)

/-- A name is read up to a character that does not go on with it. -/
theorem nameWith?_append {more : Char → Bool} {name rest : List Char}
    (hname : nameWith? more name = some (name, []))
    (hrest : ∀ c ∈ rest.head?, more c = false) :
    nameWith? more (name ++ rest) = some (name, rest) := by
  cases name with
  | nil => cases hname
  | cons c name =>
    rw [nameWith?] at hname
    split at hname
    · next hstart =>
      have hall := List.dropWhile_eq_nil_iff.mp (Prod.mk.inj (Option.some.inj hname)).2
      have hstops : rest.takeWhile more = [] ∧ rest.dropWhile more = rest := by
        cases rest with
        | nil => exact ⟨rfl, rfl⟩
        | cons d rest =>
          have hd := Bool.eq_false_iff.mp (hrest d rfl)
          exact ⟨List.takeWhile_cons_of_neg hd, List.dropWhile_cons_of_neg hd⟩
      rw [List.cons_append, nameWith?, if_pos hstart, List.takeWhile_append_of_pos hall,
        List.dropWhile_append_of_pos hall, hstops.1, hstops.2, List.append_nil]
    · cases hname

end Stencil.Text
