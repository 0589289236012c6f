import Stencil.Proofs.Text.Levels
import Stencil.Proofs.Text.Strings
import Stencil.Proofs.Text.Words

/-!
# Splitting a list into its items

The splitting at commas counts brackets as `Level` does.  It passes over a text whose brackets are
balanced and whose commas stand in strings or brackets (`atCommas_append_of`), so it is outside of
both at the comma behind such a text and splits there.  Items of that kind (`IsItem`) that are
joined by commas, with blanks around them, are got back one by one (`Joined.arguments_eq`).
-/
namespace Stencil.Text

/-- One step of the splitting outside strings. -/
theorem atCommas_outside (depth : Nat) (c : Char) (cs : List Char) :
    atCommas .outside depth (c :: cs) =
      if isOpening c then (atCommas .outside (depth + 1) cs).modifyHead (c :: ·)
      else if isClosing c then (atCommas .outside (depth - 1) cs).modifyHead (c :: ·)
      else if c = ',' && depth = 0 then [] :: atCommas .outside 0 cs
      else (atCommas (Quoting.step .outside c) depth cs).modifyHead (c :: ·) := by
  have hparts (q : Quoting) (depth : Nat) := List.exists_cons_of_ne_nil (atCommas_ne_nil q depth cs)
  simp only [atCommas]
  by_cases hopening : isOpening c = true
  · obtain ⟨part, parts, hparts⟩ := hparts .outside (depth + 1)
    rw [if_pos hopening, if_pos hopening, hparts, List.modifyHead_cons]
  · rw [if_neg hopening, if_neg hopening]
    by_cases hclosing : isClosing c = true
    · obtain ⟨part, parts, hparts⟩ := hparts .outside (depth - 1)
      rw [if_pos hclosing, if_pos hclosing, hparts, List.modifyHead_cons]
    · obtain ⟨part, parts, hparts⟩ := hparts (Quoting.step .outside c) depth
      rw [if_neg hclosing, if_neg hclosing, hparts, List.modifyHead_cons]

/-- The splitting goes on behind a character that the scan for brackets reads, unless it is a comma
that counts. -/
theorem atCommas_step {l l' : Level} {c : Char} (h : l.step? c = some l')
    (hcomma : c = ',' → l ≠ .outside) (cs : List Char) :
    atCommas l.quoting l.depth (c :: cs)
      = (atCommas l'.quoting l'.depth cs).modifyHead (c :: ·) := by
  obtain ⟨q, depth⟩ := l
  -- outside strings the two scans go by the same brackets; inside, neither looks at any
  by_cases hq : q = .outside
  · subst hq
    simp only [Level.step?] at h
    rw [atCommas_outside]
    by_cases hopening : isOpening c = true
    · rw [if_pos hopening] at h ⊢
      rw [← Option.some.inj h]
    · rw [if_neg hopening] at h ⊢
      by_cases hclosing : isClosing c = true
      · rw [if_pos hclosing] at h ⊢
        cases depth with
        | zero => cases h
        | succ depth => rw [← Option.some.inj h, Nat.add_sub_cancel]
      · rw [if_neg hclosing] at h ⊢
        rw [← Option.some.inj h, if_neg]
        intro hsplits
        rw [Bool.and_eq_true, decide_eq_true_eq, decide_eq_true_eq] at hsplits
        exact hcomma hsplits.1 (congrArg (Level.mk .outside) hsplits.2)
  · rw [Level.step?_inside hq] at h
    rw [← Option.some.inj h, atCommas_inside hq]

/-- The splitting runs over a text that closes nothing but what is open. -/
theorem atCommas_append_of {l l' : Level} {cs : List Char} (h : l.after? cs = some l')
    (hcommas : CommasInside l cs) (rest : List Char) :
    atCommas l.quoting l.depth (cs ++ rest)
      = (atCommas l'.quoting l'.depth rest).modifyHead (cs ++ ·) := by
  induction cs generalizing l with
  | nil =>
    rw [← Option.some.inj h]
    exact (congrFun List.modifyHead_id _).symm
  | cons c cs ih =>
    rw [Level.after?_cons] at h
    obtain ⟨mid, hstep, h⟩ := Option.bind_eq_some_iff.mp h
    rw [List.cons_append, atCommas_step hstep hcommas.head, ih h (hcommas.tail hstep),
      List.modifyHead_modifyHead]
    rfl

theorem atCommas_comma (cs : List Char) :
    atCommas .outside 0 (',' :: cs) = [] :: atCommas .outside 0 cs := rfl

/-- Texts that are joined by commas are split where they were joined. -/
theorem atCommas_intercalate {parts : List (List Char)} (hne : parts ≠ [])
    (hparts : ∀ part ∈ parts, Balanced part ∧ CommasInside .outside part) :
    atCommas .outside 0 ([','].intercalate parts) = parts := by
  have hover {part : List Char} (h : Balanced part ∧ CommasInside .outside part) :
      ∀ rest, atCommas .outside 0 (part ++ rest)
        = (atCommas .outside 0 rest).modifyHead (part ++ ·) :=
    atCommas_append_of h.1 h.2
  induction parts with
  | nil => exact absurd rfl hne
  | cons part parts ih =>
    obtain ⟨hpart, hparts⟩ := List.forall_mem_cons.mp hparts
    cases parts with
    | nil =>
      have hlast := hover hpart []
      rw [List.append_nil] at hlast
      rw [List.intercalate_singleton, hlast, atCommas, List.modifyHead_cons, List.append_nil]
    | cons next parts =>
      rw [List.intercalate_cons_cons, List.append_assoc, List.singleton_append, hover hpart,
        atCommas_comma, ih (List.cons_ne_nil _ _) hparts, List.modifyHead_cons, List.append_nil]

/-! ## Blanks around the items -/

theorem commasInside_of_notMem {cs : List Char} (h : ',' ∉ cs) (l : Level) : CommasInside l cs :=
  fun _ _ hcomma => absurd (List.mem_of_getElem? hcomma) h

theorem CommasInside.append {l l' : Level} {cs ds : List Char} (hcs : CommasInside l cs)
    (h : l.after? cs = some l') (hds : CommasInside l' ds) : CommasInside l (cs ++ ds) := by
  intro n hn hcomma
  rcases Nat.lt_or_ge n cs.length with hlt | hge
  · rw [List.getElem?_append_left hlt] at hcomma
    rw [List.take_append_of_le_length hlt.le]
    exact hcs n hlt hcomma
  · obtain ⟨m, rfl⟩ := Nat.exists_eq_add_of_le hge
    rw [List.getElem?_append_right hge, Nat.add_sub_cancel_left] at hcomma
    rw [List.length_append] at hn
    rw [List.take_length_add_append, Level.after?_append_of h]
    exact hds m (Nat.lt_of_add_lt_add_left hn) hcomma

section Blanks
variable {blanks : List Char} (h : ∀ c ∈ blanks, isBlank c = true)
include h

theorem unmarked_of_blank : Unmarked blanks := fun c hc => isMark_of_isBlank (h c hc)

theorem commasInside_of_blank (l : Level) : CommasInside l blanks :=
  commasInside_of_notMem (fun hc => Bool.noConfusion (h ',' hc)) l

theorem trim_blanks_append (cs : List Char) : trim (blanks ++ cs) = trim cs := by
  rw [trim, trimStart, List.dropWhile_append_of_pos h]
  rfl

theorem trim_append_blanks (cs : List Char) : trim (cs ++ blanks) = trim cs :=
  (EndsAlike.append_blanks cs h).trim_eq

theorem atCommas_blanks_append (cs : List Char) :
    atCommas .outside 0 (blanks ++ cs) = (atCommas .outside 0 cs).modifyHead (blanks ++ ·) :=
  atCommas_append_of (balanced_of_unmarked (unmarked_of_blank h)) (commasInside_of_blank h _) cs

end Blanks

/-- The splitting reads one character and goes on, in whatever state, or it splits at a comma. -/
theorem atCommas_cons (q : Quoting) (depth : Nat) (c : Char) :
    (c = ',' ∧ ∀ cs, atCommas q depth (c :: cs) = [] :: atCommas .outside 0 cs) ∨
      ∃ q' depth', ∀ cs,
        atCommas q depth (c :: cs) = (atCommas q' depth' cs).modifyHead (c :: ·) := by
  by_cases hq : q = .outside
  · subst hq
    simp only [atCommas_outside]
    by_cases hopening : isOpening c = true
    · exact .inr ⟨.outside, depth + 1, fun cs => if_pos hopening⟩
    · simp only [if_neg hopening]
      by_cases hclosing : isClosing c = true
      · exact .inr ⟨.outside, depth - 1, fun cs => if_pos hclosing⟩
      · simp only [if_neg hclosing]
        by_cases hsplits : (c = ',' && depth = 0) = true
        · rw [Bool.and_eq_true, decide_eq_true_eq] at hsplits
          exact .inl ⟨hsplits.1, fun cs => if_pos (by simpa using hsplits)⟩
        · exact .inr ⟨_, depth, fun cs => if_neg hsplits⟩
  · exact .inr ⟨q.step c, depth, atCommas_inside hq depth c⟩

/-- A text without commas is not split. -/
theorem atCommas_of_notMem {cs : List Char} (h : ',' ∉ cs) (q : Quoting) (depth : Nat) :
    atCommas q depth cs = [cs] := by
  induction cs generalizing q depth with
  | nil => rw [atCommas]
  | cons c cs ih =>
    obtain ⟨hc, hcs⟩ := not_or.mp (mt List.mem_cons.mpr h)
    rcases atCommas_cons q depth c with ⟨rfl, -⟩ | ⟨q', depth', hgoes⟩
    · exact absurd rfl hc
    · rw [hgoes, ih hcs, List.modifyHead_cons]

/-- A text without commas belongs to the last part of what stands in front of it. -/
theorem atCommas_append_plain {back : List Char} (hback : ',' ∉ back) (q : Quoting) (depth : Nat)
    (cs : List Char) : ∃ parts last, atCommas q depth cs = parts ++ [last] ∧
      atCommas q depth (cs ++ back) = parts ++ [last ++ back] := by
  induction cs generalizing q depth with
  | nil => exact ⟨[], [], by rw [atCommas]; rfl, atCommas_of_notMem hback q depth⟩
  | cons c cs ih =>
    rw [List.cons_append]
    rcases atCommas_cons q depth c with ⟨-, hsplit⟩ | ⟨q', depth', hgoes⟩
    · obtain ⟨parts, last, hcs, hall⟩ := ih .outside 0
      rw [hsplit, hsplit, hcs, hall]
      exact ⟨[] :: parts, last, rfl, rfl⟩
    · obtain ⟨parts, last, hcs, hall⟩ := ih q' depth'
      rw [hgoes, hgoes, hcs, hall]
      cases parts with
      | nil => exact ⟨[], c :: last, rfl, rfl⟩
      | cons part parts => exact ⟨(c :: part) :: parts, last, rfl, rfl⟩

/-- Blanks at the ends of a list do not matter to its items. -/
theorem arguments_trim (cs : List Char) : arguments (trim cs) = arguments cs := by
  have hparts : (atCommas .outside 0 cs).map trim = (atCommas .outside 0 (trim cs)).map trim := by
    obtain ⟨front, back, hfront, hback, hcs⟩ := trim_spec cs
    have hplain : ',' ∉ back := fun hc => Bool.noConfusion (hback ',' hc)
    obtain ⟨parts, last, htrim, hall⟩ := atCommas_append_plain hplain .outside 0 (trim cs)
    -- the front goes to the first part and the back to the last, which may be the same one
    conv => lhs; rw [hcs, atCommas_blanks_append hfront, hall]
    rw [htrim]
    cases parts with
    | nil =>
      simp only [List.nil_append, List.modifyHead_cons, List.map_cons, List.map_nil,
        trim_blanks_append hfront, trim_append_blanks hback]
    | cons part parts =>
      simp only [List.cons_append, List.modifyHead_cons, List.map_cons, List.map_append,
        List.map_nil, trim_blanks_append hfront, trim_append_blanks hback]
  rw [arguments, arguments, hparts]

/-! ## Joined items -/

/-- An item of a list: a text without blanks at its ends whose strings are closed, whose brackets
are balanced and whose commas stand in strings or brackets. -/
structure IsItem (cs : List Char) : Prop where
  bare : Bare cs
  nonempty : cs ≠ []
  balanced : Balanced cs
  commas : CommasInside .outside cs

instance (cs : List Char) : Decidable (IsItem cs) :=
  decidable_of_iff (Bare cs ∧ cs ≠ [] ∧ Balanced cs ∧ CommasInside .outside cs)
    ⟨fun ⟨hbare, hne, hbalanced, hcommas⟩ => ⟨hbare, hne, hbalanced, hcommas⟩,
      fun h => ⟨h.bare, h.nonempty, h.balanced, h.commas⟩⟩

/-- The text is the item between blanks. -/
def Padded (item part : List Char) : Prop :=
  ∃ front back, (∀ c ∈ front, isBlank c = true) ∧ (∀ c ∈ back, isBlank c = true) ∧
    part = front ++ (item ++ back)

/-- The text is that of the items, with blanks around each and a comma between one and the next. -/
def Joined (items : List (List Char)) (text : List Char) : Prop :=
  ∃ parts, List.Forall₂ Padded items parts ∧ text = [','].intercalate parts

theorem IsItem.trim_eq {item part : List Char} (h : IsItem item) (hpart : Padded item part) :
    trim part = item := by
  obtain ⟨front, back, hfront, hback, rfl⟩ := hpart
  exact trim_of_bare h.bare h.nonempty hfront hback

theorem IsItem.part {item part : List Char} (h : IsItem item) (hpart : Padded item part) :
    Balanced part ∧ CommasInside .outside part := by
  refine ⟨?_, ?_⟩
  · rw [← balanced_trim, h.trim_eq hpart]
    exact h.balanced
  · obtain ⟨front, back, hfront, hback, rfl⟩ := hpart
    exact (commasInside_of_blank hfront _).append
      (balanced_of_unmarked (unmarked_of_blank hfront))
      (h.commas.append h.balanced (commasInside_of_blank hback _))

/-- The items of a list that was joined from items are those. -/
theorem Joined.arguments_eq {items : List (List Char)} {text : List Char} (hne : items ≠ [])
    (hitems : ∀ item ∈ items, IsItem item) (h : Joined items text) : arguments text = items := by
  obtain ⟨parts, hpadded, rfl⟩ := h
  have hparts : (∀ part ∈ parts, Balanced part ∧ CommasInside .outside part) ∧
      parts.map trim = items := by
    clear hne
    induction hpadded with
    | nil => exact ⟨List.forall_mem_nil _, rfl⟩
    | cons hpart _ ih =>
      obtain ⟨hitem, hitems⟩ := List.forall_mem_cons.mp hitems
      obtain ⟨hall, hmap⟩ := ih hitems
      refine ⟨List.forall_mem_cons.mpr ⟨hitem.part hpart, hall⟩, ?_⟩
      rw [List.map_cons, hitem.trim_eq hpart, hmap]
  have hne_parts : parts ≠ [] := by
    rintro rfl
    exact hne hparts.2.symm
  have hnot_blank : items ≠ [[]] := by
    rintro rfl
    exact (hitems [] List.mem_cons_self).nonempty rfl
  rw [arguments, atCommas_intercalate hne_parts hparts.1, hparts.2]
  exact if_neg hnot_blank

end Stencil.Text
