import Stencil.Source.Token

/-!
# Where the next tag opens

Of all delimiters whose openers are in a text, the next tag has one that starts first.  So no tag
starts in the text before it (`Source.isPlain_take_of_nextOpening?`), and the place of the next tag
is the first place at which a tag can start at all.
-/
namespace Stencil

namespace Text

theorem indexOf?_eq_some {needle cs : List Char} {n : Nat} (h : indexOf? needle cs = some n) :
    needle <+: cs.drop n ∧ ∀ m < n, ¬ needle <+: cs.drop m := by
  induction cs generalizing n with
  | nil =>
    rw [indexOf?] at h
    split at h
    · next hempty =>
      cases h
      rw [List.isEmpty_iff.mp hempty]
      exact ⟨List.nil_prefix, fun m hm => absurd hm (Nat.not_lt_zero m)⟩
    · cases h
  | cons c cs ih =>
    rw [indexOf?] at h
    split at h
    · next hhere =>
      cases h
      exact ⟨List.isPrefixOf_iff_prefix.mp hhere, fun m hm => absurd hm (Nat.not_lt_zero m)⟩
    · next hhere =>
      obtain ⟨k, hk, rfl⟩ := Option.map_eq_some_iff.mp h
      refine ⟨(ih hk).1, fun m hm => ?_⟩
      cases m with
      | zero => exact fun hprefix => hhere (List.isPrefixOf_iff_prefix.mpr hprefix)
      | succ m => exact (ih hk).2 m (Nat.lt_of_succ_lt_succ hm)

theorem indexOf?_eq_none {needle cs : List Char} (h : indexOf? needle cs = none) (n : Nat) :
    ¬ needle <+: cs.drop n := by
  induction cs generalizing n with
  | nil =>
    rw [indexOf?] at h
    split at h
    · cases h
    · next hempty =>
      rw [List.drop_nil, List.prefix_nil]
      exact fun hnil => hempty (List.isEmpty_iff.mpr hnil)
  | cons c cs ih =>
    rw [indexOf?] at h
    split at h
    · cases h
    · next hhere =>
      cases n with
      | zero => exact fun hprefix => hhere (List.isPrefixOf_iff_prefix.mpr hprefix)
      | succ n => exact ih (Option.map_eq_none_iff.mp h) n

/-- The first place is not behind any other. -/
theorem exists_indexOf?_le {needle cs : List Char} {n : Nat} (h : needle <+: cs.drop n) :
    ∃ first ≤ n, indexOf? needle cs = some first := by
  cases hfirst : indexOf? needle cs with
  | none => exact absurd h (indexOf?_eq_none hfirst n)
  | some first =>
    refine ⟨first, Nat.le_of_not_lt fun hlt => ?_, rfl⟩
    exact (indexOf?_eq_some hfirst).2 n hlt h

/-- What stands in the start of a text stands at a place of the text. -/
theorem exists_prefix_drop_of_infix_take {needle cs : List Char} {n : Nat}
    (h : needle <:+: cs.take n) : ∃ m, m + needle.length ≤ n ∧ needle <+: cs.drop m := by
  obtain ⟨before, after, heq⟩ := h
  refine ⟨before.length, ?_, ?_⟩
  · have hlen := congrArg List.length heq
    simp only [List.length_append, List.length_take] at hlen
    omega
  · have hcs : cs = before ++ (needle ++ (after ++ cs.drop n)) := by
      rw [← List.append_assoc, ← List.append_assoc, heq, List.take_append_drop]
    rw [hcs, List.drop_left]
    exact List.prefix_append needle _

end Text

namespace Source
open Text

/-- What a tag starts with, of whatever kind it is. -/
def tagStarts : List (List Char) :=
  ["\x7b\x7b".toList, "\x7b%".toList, "\x7b#".toList]

/-- No tag starts in the text. -/
def IsPlain (cs : List Char) : Prop := ∀ start ∈ tagStarts, ¬ start <:+: cs

/-- Some delimiter opens with each of the starts, whether it is closed or not. -/
theorem exists_delimiter_of_tagStart :
    ∀ start ∈ tagStarts, start ≠ [] ∧
      ∃ d ∈ delimiters, d.opener = start ∧ d.opener.length = d.closer.length := by
  decide

theorem Delimiter.opener_ne_nil : ∀ d ∈ delimiters, d.opener ≠ [] := by
  decide

namespace Opening

/-- The better one of two openings. -/
def prefer (best : Option Opening) (o : Opening) : Option Opening :=
  match best with
  | none => some o
  | some b => if b.isBeaten o then some o else some b

theorem find?_eq_some {cs : List Char} {d : Delimiter} {o : Opening}
    (h : Opening.find? cs d = some o) :
    o.delimiter = d ∧ indexOf? d.opener cs = some o.start ∧ o.close = indexOf? d.closer cs := by
  rw [find?] at h
  split at h
  · next start close hstart =>
    split at h
    · cases h
    · cases h
      exact ⟨rfl, hstart, rfl⟩
  · cases h

/-- An opener that is in the text is found if its closer is as long. -/
theorem exists_find? {cs : List Char} {d : Delimiter} {start : Nat}
    (hlength : d.opener.length = d.closer.length) (h : indexOf? d.opener cs = some start) :
    Opening.find? cs d = some ⟨d, start, indexOf? d.closer cs⟩ := by
  rw [find?, h]
  simp [hlength]

theorem start_le_of_isBeaten {a b : Opening} (h : a.isBeaten b = true) : b.start ≤ a.start := by
  simp only [isBeaten, Bool.or_eq_true, Bool.and_eq_true, decide_eq_true_eq, beq_iff_eq] at h
  omega

theorem start_le_of_not_isBeaten {a b : Opening} (h : a.isBeaten b = false) :
    a.start ≤ b.start := by
  simp only [isBeaten, Bool.or_eq_false_iff, decide_eq_false_iff_not] at h
  omega

/-- The best of some openings is one of them, and none of them starts before it. -/
theorem foldl_prefer {os : List Opening} {best : Option Opening} {o : Opening}
    (h : os.foldl prefer best = some o) :
    (best = some o ∨ o ∈ os) ∧ (∀ b ∈ best, o.start ≤ b.start) ∧ ∀ b ∈ os, o.start ≤ b.start := by
  induction os generalizing best with
  | nil =>
    obtain rfl : best = some o := h
    exact ⟨.inl rfl, fun b hb => (Option.some.inj hb) ▸ Nat.le_refl _, List.forall_mem_nil _⟩
  | cons a rest ih =>
    obtain ⟨hmem, hbest, hrest⟩ := ih h
    -- whichever of the two is kept does not start behind the other
    have hkept : o.start ≤ a.start ∧ ∀ b ∈ best, o.start ≤ b.start := by
      cases best with
      | none => exact ⟨hbest a rfl, nofun⟩
      | some b =>
        cases hbeaten : b.isBeaten a with
        | true =>
          have ha := hbest a (by simp [prefer, hbeaten])
          have hle := start_le_of_isBeaten hbeaten
          refine ⟨ha, ?_⟩
          rintro _ ⟨⟩
          omega
        | false =>
          have hb := hbest b (by simp [prefer, hbeaten])
          have hle := start_le_of_not_isBeaten hbeaten
          refine ⟨by omega, ?_⟩
          rintro _ ⟨⟩
          exact hb
    refine ⟨?_, hkept.2, List.forall_mem_cons.mpr ⟨hkept.1, hrest⟩⟩
    rcases hmem with hsome | hmem
    · cases best with
      | none => exact .inr (by simp [← Option.some.inj hsome])
      | some b =>
        rw [prefer] at hsome
        split at hsome
        · exact .inr (by simp [← Option.some.inj hsome])
        · exact .inl hsome
    · exact .inr (List.mem_cons_of_mem a hmem)

end Opening

/-- The next opening is the best of all that are in the text. -/
theorem nextOpening?_eq (cs : List Char) :
    nextOpening? cs = (delimiters.filterMap (Opening.find? cs)).foldl Opening.prefer none := rfl

theorem nextOpening?_eq_some {cs : List Char} {o : Opening} (h : nextOpening? cs = some o) :
    o.delimiter ∈ delimiters ∧ o.delimiter.opener <+: cs.drop o.start ∧
      ∀ d ∈ delimiters, ∀ other, Opening.find? cs d = some other → o.start ≤ other.start := by
  obtain ⟨hmem, -, hfirst⟩ := Opening.foldl_prefer ((nextOpening?_eq cs).symm.trans h)
  obtain ⟨d, hd, hfound⟩ := List.mem_filterMap.mp (hmem.resolve_left nofun)
  obtain ⟨rfl, hstart, -⟩ := Opening.find?_eq_some hfound
  exact ⟨hd, (indexOf?_eq_some hstart).1, fun d hd other hother =>
    hfirst other (List.mem_filterMap.mpr ⟨d, hd, hother⟩)⟩

theorem nextOpening?_eq_none {cs : List Char} (h : nextOpening? cs = none) :
    ∀ d ∈ delimiters, Opening.find? cs d = none := by
  have hnone : ∀ (os : List Opening) best, os.foldl Opening.prefer best = none → os = [] := by
    intro os
    induction os with
    | nil => exact fun _ _ => rfl
    | cons a rest ih =>
      intro best hfold
      -- once an opening is there, some opening stays
      obtain ⟨b, hb⟩ : ∃ b, Opening.prefer best a = some b := by
        cases best with
        | none => exact ⟨a, rfl⟩
        | some b =>
          rw [Opening.prefer]
          split
          · exact ⟨a, rfl⟩
          · exact ⟨b, rfl⟩
      have hrest := ih _ hfold
      rw [List.foldl_cons, hb, hrest] at hfold
      cases hfold
  exact List.filterMap_eq_nil_iff.mp (hnone _ none h)

/-- Where a tag can start, the next opening is not behind. -/
theorem exists_nextOpening?_le {cs start : List Char} (hstart : start ∈ tagStarts) {n : Nat}
    (h : start <+: cs.drop n) : ∃ o, nextOpening? cs = some o ∧ o.start ≤ n := by
  obtain ⟨-, d, hd, rfl, hlength⟩ := exists_delimiter_of_tagStart start hstart
  obtain ⟨first, hle, hfirst⟩ := exists_indexOf?_le h
  have hfound := Opening.exists_find? hlength hfirst
  cases hnext : nextOpening? cs with
  | none =>
    rw [nextOpening?_eq_none hnext d hd] at hfound
    cases hfound
  | some o => exact ⟨o, rfl, Nat.le_trans ((nextOpening?_eq_some hnext).2.2 d hd _ hfound) hle⟩

/-- No tag starts before the next opening. -/
theorem isPlain_take_of_nextOpening? {cs : List Char} {o : Opening}
    (h : nextOpening? cs = some o) : IsPlain (cs.take o.start) := by
  intro start hstart hinfix
  obtain ⟨m, hm, hprefix⟩ := exists_prefix_drop_of_infix_take hinfix
  obtain ⟨o', ho', hle⟩ := exists_nextOpening?_le hstart hprefix
  obtain rfl := Option.some.inj (ho'.symm.trans h)
  have hpos := List.length_pos_iff.mpr (exists_delimiter_of_tagStart start hstart).1
  omega

/-- No tag starts in a text without a next opening. -/
theorem isPlain_of_nextOpening? {cs : List Char} (h : nextOpening? cs = none) : IsPlain cs := by
  intro start hstart hinfix
  rw [← List.take_length (l := cs)] at hinfix
  obtain ⟨m, -, hprefix⟩ := exists_prefix_drop_of_infix_take hinfix
  obtain ⟨o, ho, -⟩ := exists_nextOpening?_le hstart hprefix
  rw [h] at ho
  cases ho

end Source
end Stencil
