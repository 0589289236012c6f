import Mathlib.Data.List.TakeDrop
import Stencil.Proofs.Source.Ranges
import Stencil.Proofs.Text.Quotes

/-!
# Where tags close

A tag closes at the first closer outside the strings of its body (`Source.Closes`).  Which closer it
has, the one with a dash or the one without, is settled before its body is read, by where the two
first stand in the text, in strings or not (`Mark.looksDashed`).  So a tag is read as it stands in
the source exactly if the first closer that the text shows has a dash where the tag's own one has
(`Source.read_tag`).
-/
namespace Stencil.Source
open Text

/-! ## The first closer outside strings -/

/-- The place of the first closer outside strings, if the text starts in `q`. -/
def closerAt? (closer : List Char) : Quoting → List Char → Option Nat
  | _, [] => none
  | q, c :: cs =>
    if q = .outside ∧ closer <+: c :: cs then some 0
    else (closerAt? closer (q.step c) cs).map (· + 1)

/-- A text that is read from `q` on ends outside strings. -/
def EndsOutside (q : Quoting) (cs : List Char) : Prop := cs.foldl Quoting.step q = .outside

/-- The first closer outside the strings of a body stands at `n`. -/
structure Closes (closer body : List Char) (n : Nat) : Prop where
  stands : closer <+: body.drop n
  outside : EndsOutside .outside (body.take n)
  first : ∀ k < n, EndsOutside .outside (body.take k) → ¬ closer <+: body.drop k

theorem closerAt?_eq_some {closer : List Char} {q : Quoting} {cs : List Char} {n : Nat}
    (h : closerAt? closer q cs = some n) :
    closer <+: cs.drop n ∧ EndsOutside q (cs.take n) ∧
      ∀ k < n, EndsOutside q (cs.take k) → ¬ closer <+: cs.drop k := by
  induction cs generalizing q n with
  | nil => cases h
  | cons c cs ih =>
    rw [closerAt?] at h
    split at h
    · next hhere =>
      cases h
      exact ⟨hhere.2, hhere.1, fun k hk => absurd hk (Nat.not_lt_zero k)⟩
    · next hhere =>
      obtain ⟨n, hn, rfl⟩ := Option.map_eq_some_iff.mp h
      obtain ⟨hstands, houtside, hfirst⟩ := ih hn
      refine ⟨hstands, houtside, fun k hk hout hopens => ?_⟩
      cases k with
      | zero => exact hhere ⟨hout, hopens⟩
      | succ k => exact hfirst k (Nat.lt_of_succ_lt_succ hk) hout hopens

theorem closerAt?_eq_none {closer : List Char} (hcloser : closer ≠ []) {q : Quoting}
    {cs : List Char} (h : closerAt? closer q cs = none) (n : Nat)
    (hn : EndsOutside q (cs.take n)) : ¬ closer <+: cs.drop n := by
  induction cs generalizing q n with
  | nil =>
    rw [List.drop_nil, List.prefix_nil]
    exact hcloser
  | cons c cs ih =>
    rw [closerAt?] at h
    split at h
    · cases h
    · next hhere =>
      cases n with
      | zero => exact fun hopens => hhere ⟨hn, hopens⟩
      | succ n => exact ih (Option.map_eq_none_iff.mp h) n hn

theorem closerAt?_of_indexOf? {closer : List Char} {q : Quoting} {cs : List Char}
    (h : indexOf? closer cs = none) : closerAt? closer q cs = none := by
  cases hat : closerAt? closer q cs with
  | none => rfl
  | some n => exact absurd (closerAt?_eq_some hat).1 (indexOf?_eq_none h n)

theorem closerAt?_iff {closer body : List Char} {n : Nat} (hcloser : closer ≠ []) :
    closerAt? closer .outside body = some n ↔ Closes closer body n := by
  constructor
  · intro h
    obtain ⟨hstands, houtside, hfirst⟩ := closerAt?_eq_some h
    exact ⟨hstands, houtside, hfirst⟩
  · intro h
    cases hat : closerAt? closer .outside body with
    | none => exact absurd h.stands (closerAt?_eq_none hcloser hat n h.outside)
    | some first =>
      obtain ⟨hstands, houtside, hfirst⟩ := closerAt?_eq_some hat
      rcases Nat.lt_trichotomy first n with hlt | rfl | hlt
      · exact absurd hstands (h.first first hlt houtside)
      · rfl
      · exact absurd h.stands (hfirst n hlt h.outside)

/-- How far the scan for a closer is with regard to quotes. -/
def quoting : Option (Char × List Char) → Quoting
  | none => .outside
  | some (quote, before) => if isEscaped before then .escaped quote else .inside quote

theorem isEscaped_cons (c : Char) (before : List Char) :
    isEscaped (c :: before) = (c = '\\' && !isEscaped before) := by
  unfold isEscaped
  by_cases hc : c = '\\'
  · rw [List.takeWhile_cons_of_pos (by simpa using hc), List.length_cons]
    rcases Nat.mod_two_eq_zero_or_one (before.takeWhile (· = '\\')).length with h | h <;>
      simp [hc, h, Nat.add_mod]
  · simp [hc]

theorem quoting_inside {quote : Char} (hquote : isQuote quote = true) (before : List Char)
    (c : Char) :
    (quoting (some (quote, before))).step c =
      quoting (if c = quote && !isEscaped before then none else some (quote, c :: before)) := by
  have hne : quote ≠ '\\' := by
    rintro rfl
    cases hquote
  rcases hescaped : isEscaped before with _ | _
  · by_cases hc : c = '\\'
    · simp [quoting, Quoting.step, isEscaped_cons, hescaped, hc, hne.symm]
    · by_cases heq : c = quote
      · simp [quoting, Quoting.step, hescaped, heq, hne]
      · simp [quoting, Quoting.step, isEscaped_cons, hescaped, hc, heq]
  · simp [quoting, Quoting.step, isEscaped_cons, hescaped]

theorem quoting_outside (c : Char) :
    (quoting none).step c = quoting (if isQuote c then some (c, []) else none) := by
  cases hquote : isQuote c <;> simp [quoting, Quoting.step, hquote, isEscaped]

/-- A scan that fails to find the closer of a tag says so in one of two ways. -/
def Unclosed (closer : List Char) (offset : Nat) (cause : Cause) : Prop :=
  cause = .unclosedDelimiter (String.ofList closer) offset ∨ cause = .unclosedString

/-- The scan of a text comes to what the first closer outside strings asks for. -/
def Finds (closer : List Char) (offset : Nat) (q : Quoting) (cs : List Char)
    (result : Except Cause (List Char × List Char)) : Prop :=
  match closerAt? closer q cs with
  | some n => result = .ok (cs.take n, cs.drop (n + closer.length))
  | none => ∃ cause, result = .error cause ∧ Unclosed closer offset cause

theorem Finds.cons {closer cs : List Char} {offset : Nat} {q : Quoting} {c : Char}
    {result : Except Cause (List Char × List Char)} (h : Finds closer offset (q.step c) cs result)
    (hhere : ¬ (q = .outside ∧ closer <+: c :: cs)) :
    Finds closer offset q (c :: cs) (do let (body, rest) ← result; .ok (c :: body, rest)) := by
  rw [Finds, closerAt?, if_neg hhere]
  rw [Finds] at h
  cases hat : closerAt? closer (q.step c) cs with
  | none =>
    rw [hat] at h
    obtain ⟨cause, rfl, hcause⟩ := h
    exact ⟨cause, rfl, hcause⟩
  | some n =>
    rw [hat] at h
    obtain rfl := h
    simp [Nat.add_right_comm, bind, Except.bind]

/-- The scan finds the first closer outside strings. -/
theorem upToCloser_finds (closer : List Char) (offset : Nat) {string : Option (Char × List Char)}
    (hstring : ∀ s ∈ string, isQuote s.1 = true) (cs : List Char) :
    Finds closer offset (quoting string) cs (upToCloser closer offset string cs) := by
  -- on the text: of the string that it is in, the scan keeps what it has seen, and all that matters
  -- of it is whether the next character is escaped (`quoting`)
  induction cs generalizing string with
  | nil =>
    cases string with
    | none => exact ⟨_, rfl, .inl rfl⟩
    | some s => exact ⟨_, rfl, .inr rfl⟩
  | cons c cs ih =>
    cases string with
    | some s =>
      obtain ⟨quote, before⟩ := s
      have hquote := hstring _ rfl
      rw [upToCloser]
      refine Finds.cons ?_ fun hhere => ?_
      · rw [quoting_inside hquote]
        apply ih
        split
        · rintro _ ⟨⟩
        · rintro _ ⟨⟩
          exact hquote
      · have := hhere.1
        rw [quoting] at this
        split at this <;> cases this
    | none =>
      rw [upToCloser]
      split
      · next hhere =>
        rw [Finds, closerAt?, if_pos ⟨rfl, List.isPrefixOf_iff_prefix.mp hhere⟩]
        simp
      · next hhere =>
        split
        · next hquote =>
          obtain ⟨-, hnone⟩ := Bool.and_eq_true_iff.mp hquote
          rw [Option.isNone_iff_eq_none] at hnone
          have hnot : ¬ closer <+: c :: cs := fun hopens =>
            hhere (List.isPrefixOf_iff_prefix.mpr hopens)
          rw [Finds, closerAt?, if_neg fun hhere' => hnot hhere'.2, closerAt?_of_indexOf? hnone]
          exact ⟨_, rfl, .inl rfl⟩
        · refine Finds.cons ?_ fun hhere' => hhere (List.isPrefixOf_iff_prefix.mpr hhere'.2)
          rw [quoting_outside]
          apply ih
          split
          · next hquote =>
            rintro _ ⟨⟩
            exact hquote
          · rintro _ ⟨⟩

/-! ## The closer a tag is taken to have -/

/-- The marks around an expression to print and around a control tag. -/
inductive Mark where
  | output
  | logic
  deriving DecidableEq, Repr

namespace Mark

/-- What opens a tag, with the dash that takes away the blanks before it. -/
def opener : Mark → (dashed : Bool) → List Char
  | .output, false => "\x7b\x7b".toList
  | .output, true => "\x7b\x7b-".toList
  | .logic, false => "\x7b%".toList
  | .logic, true => "\x7b%-".toList

/-- What closes a tag, with the dash that takes away the blanks behind it. -/
def closer : Mark → (dashed : Bool) → List Char
  | .output, false => "\x7d\x7d".toList
  | .output, true => "-\x7d\x7d".toList
  | .logic, false => "%\x7d".toList
  | .logic, true => "-%\x7d".toList

def kind : Mark → Trimming → Kind
  | .output => .output
  | .logic => .logic

/-- The delimiter of the tags that trim so. -/
def delimiter (m : Mark) (t : Trimming) : Delimiter :=
  ⟨m.kind t, m.opener t.before, m.closer t.after⟩

theorem delimiter_mem (m : Mark) (before after : Bool) :
    m.delimiter ⟨before, after⟩ ∈ delimiters := by
  cases m <;> cases before <;> cases after <;> decide

theorem closer_true (m : Mark) : m.closer true = '-' :: m.closer false := by
  cases m <;> rfl

/-- The first closer in the text has a dash before it. -/
def looksDashed (m : Mark) (cs : List Char) : Bool :=
  match indexOf? (m.closer true) cs, indexOf? (m.closer false) cs with
  | some dashed, some plain => dashed < plain
  | _, _ => false

end Mark

/-- A block of raw text stands at the start of the text. -/
def IsBlock (cs : List Char) : Prop :=
  ∃ d ∈ delimiters, d.kind = .raw ∧ d.opener <+: cs ∧ d.closer <:+: cs

instance (cs : List Char) : Decidable (IsBlock cs) :=
  inferInstanceAs (Decidable (∃ d ∈ delimiters, d.kind = .raw ∧ d.opener <+: cs ∧ d.closer <:+: cs))

/-- A tag of the mark stands at the start of a text, before `inner`. -/
structure Mark.Opens (m : Mark) (before : Bool) (inner : List Char) : Prop where
  longest : before = false → inner.head? ≠ some '-'
  notBlock : ¬ IsBlock (m.opener before ++ inner)

namespace Opening

theorem foldl_prefer_of_start {b : Opening} (hb : b.start = 0) (os : List Opening) :
    os.foldl prefer (some b) = (os.filter (·.start == 0)).foldl prefer (some b) := by
  induction os generalizing b with
  | nil => rfl
  | cons a rest ih =>
    by_cases ha : a.start = 0
    · rw [List.filter_cons_of_pos (by simp [ha]), List.foldl_cons, List.foldl_cons, prefer]
      split
      · exact ih ha
      · exact ih hb
    · have hkept : b.isBeaten a = false := by simp [isBeaten, hb, ha]
      rw [List.filter_cons_of_neg (by simp [ha]), List.foldl_cons, prefer, hkept]
      exact ih hb

/-- Only the openings at the start of the text count if there is one. -/
theorem foldl_prefer_start {os : List Opening} {best : Option Opening}
    (hbest : ∀ b ∈ best, b.start ≠ 0) (hstart : ∃ o ∈ os, o.start = 0) :
    os.foldl prefer best = (os.filter (·.start == 0)).foldl prefer none := by
  -- on the openings: the best one so far is behind the start until the first one at the start beats
  -- it, and from there on nothing that is behind the start is preferred
  induction os generalizing best with
  | nil => simp at hstart
  | cons a rest ih =>
    by_cases ha : a.start = 0
    · have hkept : prefer best a = some a := by
        cases best with
        | none => rfl
        | some b =>
          have hpos := Nat.pos_of_ne_zero (hbest b rfl)
          have hbeaten : b.isBeaten a = true := by
            simp [isBeaten, ha, hpos]
          rw [prefer, hbeaten]
          rfl
      rw [List.filter_cons_of_pos (by simp [ha]), List.foldl_cons, List.foldl_cons, hkept]
      exact foldl_prefer_of_start ha rest
    · have hrest : ∃ o ∈ rest, o.start = 0 := by
        obtain ⟨o, ho, hzero⟩ := hstart
        rcases List.mem_cons.mp ho with rfl | ho
        · exact absurd hzero ha
        · exact ⟨o, ho, hzero⟩
      rw [List.filter_cons_of_neg (by simp [ha]), List.foldl_cons]
      refine ih ?_ hrest
      cases best with
      | none =>
        rintro _ ⟨⟩
        exact ha
      | some b =>
        rw [prefer]
        split
        · rintro _ ⟨⟩
          exact ha
        · exact hbest

/-- The opening of a delimiter at the start of the text. -/
def here? (cs : List Char) (d : Delimiter) : Option Opening :=
  if d.opener.isPrefixOf cs &&
      !(d.opener.length != d.closer.length && (indexOf? d.closer cs).isNone)
  then some ⟨d, 0, indexOf? d.closer cs⟩ else none

theorem indexOf?_eq_zero_iff {needle cs : List Char} :
    indexOf? needle cs = some 0 ↔ needle <+: cs := by
  constructor
  · intro h
    exact (indexOf?_eq_some h).1
  · intro h
    obtain ⟨first, hle, hfirst⟩ := exists_indexOf?_le (n := 0) h
    rwa [Nat.le_zero.mp hle] at hfirst

theorem find?_filter_start (cs : List Char) (d : Delimiter) :
    (find? cs d).filter (·.start == 0) = here? cs d := by
  rw [find?, here?]
  cases hstart : indexOf? d.opener cs with
  | none =>
    have hopens : d.opener.isPrefixOf cs = false := by
      rw [← Bool.not_eq_true, List.isPrefixOf_iff_prefix, ← indexOf?_eq_zero_iff, hstart]
      rintro ⟨⟩
    simp [hopens]
  | some start =>
    have hopens : d.opener.isPrefixOf cs = (start == 0) := by
      rw [Bool.eq_iff_iff, List.isPrefixOf_iff_prefix, ← indexOf?_eq_zero_iff, hstart]
      simp
    rw [hopens]
    dsimp only
    cases d.opener.length != d.closer.length && (indexOf? d.closer cs).isNone <;>
      cases start <;> rfl

end Opening

/-- The tag at the start of a text is the best one that opens there. -/
theorem nextOpening?_of_here {cs : List Char} {d : Delimiter} (hd : d ∈ delimiters) {o : Opening}
    (h : Opening.here? cs d = some o) :
    nextOpening? cs = (delimiters.filterMap (Opening.here? cs)).foldl Opening.prefer none := by
  have hfilter : (delimiters.filterMap (Opening.find? cs)).filter (·.start == 0) =
      delimiters.filterMap (Opening.here? cs) := by
    simp only [List.filter_filterMap, Opening.find?_filter_start]
  have hmem : o ∈ (delimiters.filterMap (Opening.find? cs)).filter (·.start == 0) := by
    rw [hfilter]
    exact List.mem_filterMap.mpr ⟨d, hd, h⟩
  obtain ⟨ho, hzero⟩ := List.mem_filter.mp hmem
  have hstart := @Opening.foldl_prefer_start _ none nofun ⟨o, ho, beq_iff_eq.mp hzero⟩
  rw [nextOpening?_eq, hstart, hfilter]

/-- A delimiter of raw text opens nothing where no block of raw text stands. -/
theorem here?_of_not_isBlock {cs : List Char} {d : Delimiter} (hd : d ∈ delimiters)
    (hraw : d.kind = .raw) (h : ¬ IsBlock cs) : Opening.here? cs d = none := by
  have hlength : ∀ d ∈ delimiters, d.kind = .raw → (d.opener.length != d.closer.length) = true := by
    decide
  rw [Opening.here?, hlength d hd hraw, Bool.true_and]
  cases hclose : indexOf? d.closer cs with
  | none => simp
  | some n =>
    refine if_neg fun hopens => h ⟨d, hd, hraw, ?_, ?_⟩
    · simpa using hopens
    · obtain ⟨after, hafter⟩ := (indexOf?_eq_some hclose).1
      refine ⟨cs.take n, after, ?_⟩
      rw [List.append_assoc, hafter, List.take_append_drop]

namespace Mark
variable (m : Mark) {before : Bool} {inner cs : List Char}

/-- A closer with a dash holds one without. -/
theorem exists_indexOf?_closer {dashed : Nat} (h : indexOf? (m.closer true) cs = some dashed) :
    ∃ plain ≤ dashed + 1, plain ≠ dashed ∧ indexOf? (m.closer false) cs = some plain := by
  obtain ⟨after, hafter⟩ := (indexOf?_eq_some h).1
  have htail : m.closer false <+: cs.drop (dashed + 1) := by
    rw [← List.drop_drop, ← hafter, m.closer_true]
    exact List.prefix_append _ _
  obtain ⟨plain, hle, hplain⟩ := exists_indexOf?_le htail
  refine ⟨plain, hle, ?_, hplain⟩
  rintro rfl
  have hstands := (indexOf?_eq_some hplain).1
  rw [← hafter] at hstands
  cases m <;> simp [closer] at hstands

/-- The openers of the mark that a tag may be read with. -/
def mayOpen (before : Bool) (d : Delimiter) : Bool :=
  d.opener == m.opener false || (before && d.opener == m.opener true)

theorem filter_mayOpen_false : delimiters.filter (m.mayOpen false) =
    [m.delimiter ⟨false, true⟩, m.delimiter ⟨false, false⟩] := by
  cases m <;> rfl

theorem filter_mayOpen_true : delimiters.filter (m.mayOpen true) =
    [m.delimiter ⟨true, false⟩, m.delimiter ⟨false, true⟩, m.delimiter ⟨true, true⟩,
      m.delimiter ⟨false, false⟩] := by
  cases m <;> rfl

/-- No other opener stands at the start of the tag. -/
theorem mayOpen_of_here? (h : m.Opens before inner) {d : Delimiter} (hd : d ∈ delimiters)
    {o : Opening} (ho : Opening.here? (m.opener before ++ inner) d = some o) :
    m.mayOpen before d = true := by
  have hraw : d.kind ≠ .raw := by
    intro hraw
    rw [here?_of_not_isBlock hd hraw h.notBlock] at ho
    cases ho
  have hopens : d.opener.isPrefixOf (m.opener before ++ inner) = true := by
    rw [Opening.here?] at ho
    split at ho
    · next hboth => exact (Bool.and_eq_true_iff.mp hboth).1
    · cases ho
  have hlongest := h.longest
  clear h ho
  revert d
  simp only [delimiters, List.forall_mem_cons]
  cases m <;> cases before <;> cases inner <;> simp [opener, mayOpen] at hlongest ⊢
  all_goals exact fun heq => hlongest heq.symm

theorem filterMap_here? (h : m.Opens before inner) :
    delimiters.filterMap (Opening.here? (m.opener before ++ inner)) =
      (delimiters.filter (m.mayOpen before)).filterMap
        (Opening.here? (m.opener before ++ inner)) := by
  rw [List.filterMap_filter]
  refine List.filterMap_congr fun d hd => ?_
  split
  · rfl
  · next hmay =>
    cases hhere : Opening.here? (m.opener before ++ inner) d with
    | none => rfl
    | some o => exact absurd (m.mayOpen_of_here? h hd hhere) hmay

theorem opener_prefix (b : Bool) (hb : b = true → before = true) :
    m.opener b <+: m.opener before ++ inner := by
  have hshort : m.opener false <+: m.opener true := by
    cases m <;> decide
  rcases hbefore : before with _ | _ <;> rcases hb' : b with _ | _
  · exact List.prefix_append _ _
  · exact absurd (hbefore.symm.trans (hb hb')) nofun
  · exact hshort.trans (List.prefix_append _ _)
  · exact List.prefix_append _ _

theorem length_opener (b : Bool) : (m.opener b).length = b.toNat + 2 := by
  cases m <;> cases b <;> rfl

theorem length_closer (a : Bool) : (m.closer a).length = a.toNat + 2 := by
  cases m <;> cases a <;> rfl

theorem length_opener_delimiter (t : Trimming) :
    (m.delimiter t).opener.length = t.before.toNat + 2 :=
  m.length_opener t.before

theorem here?_delimiter (b a : Bool) (hb : b = true → before = true)
    (hcloser : b = a ∨ (indexOf? (m.closer a) (m.opener before ++ inner)).isSome) :
    Opening.here? (m.opener before ++ inner) (m.delimiter ⟨b, a⟩) =
      some ⟨m.delimiter ⟨b, a⟩, 0, indexOf? (m.closer a) (m.opener before ++ inner)⟩ := by
  refine if_pos (Bool.and_eq_true_iff.mpr ⟨?_, ?_⟩)
  · exact List.isPrefixOf_iff_prefix.mpr (m.opener_prefix b hb)
  · rcases hcloser with rfl | hsome
    · simp [delimiter, length_opener, length_closer]
    · simp [delimiter, hsome]

theorem here?_delimiter_none (b a : Bool) (hne : b ≠ a)
    (hcloser : indexOf? (m.closer a) (m.opener before ++ inner) = none) :
    Opening.here? (m.opener before ++ inner) (m.delimiter ⟨b, a⟩) = none := by
  have hlength : b.toNat ≠ a.toNat := by
    cases b <;> cases a <;> simp at hne ⊢
  refine if_neg ?_
  simp [delimiter, length_opener, length_closer, hlength, hcloser]

/-- Where a closer stands, the tag is taken to have the closer that the text shows first. -/
theorem nextOpening?_of_closer (h : m.Opens before inner) {plain : Nat}
    (hplain : indexOf? (m.closer false) (m.opener before ++ inner) = some plain) :
    ∃ close, nextOpening? (m.opener before ++ inner) =
      some ⟨m.delimiter ⟨before, m.looksDashed (m.opener before ++ inner)⟩, 0, close⟩ := by
  have hclose : (indexOf? (m.closer false) (m.opener before ++ inner)).isSome := by
    rw [hplain]
    rfl
  have hlong := m.here?_delimiter before false id (.inr hclose)
  have hshort := @here?_delimiter m before inner false false nofun (.inl rfl)
  have hboth := @here?_delimiter m before inner before before id (.inl rfl)
  rw [nextOpening?_of_here (m.delimiter_mem before false) hlong, m.filterMap_here? h, looksDashed,
    hplain]
  rw [hplain] at hlong hshort
  cases hdashed : indexOf? (m.closer true) (m.opener before ++ inner) with
  | none =>
    have hnone := m.here?_delimiter_none false true nofun hdashed
    cases before with
    | false => simp [filter_mayOpen_false, hshort, hnone, Opening.prefer]
    | true =>
      simp [filter_mayOpen_true, hlong, hshort, hnone, hboth, hdashed, Opening.prefer,
        Opening.isBeaten, length_opener_delimiter]
  | some dashed =>
    obtain ⟨plain', -, hne, hplain'⟩ := m.exists_indexOf?_closer hdashed
    obtain rfl : plain' = plain := Option.some.inj (hplain'.symm.trans hplain)
    have hafter := @here?_delimiter m before inner false true nofun (.inr (by simp [hdashed]))
    rw [hdashed] at hafter
    cases before with
    | false =>
      rcases Nat.lt_or_gt_of_ne hne with hlt | hlt <;>
        simp [filter_mayOpen_false, hshort, hafter, Opening.prefer, Opening.isBeaten,
          length_opener_delimiter, hlt, Nat.lt_asymm hlt]
    | true =>
      rcases Nat.lt_or_gt_of_ne hne with hlt | hlt <;>
        simp [filter_mayOpen_true, hlong, hshort, hafter, hboth, hdashed, Opening.prefer,
          Opening.isBeaten, length_opener_delimiter, hlt, Nat.lt_asymm hlt]

/-- Without a closer, the tag is taken to have a dash at its end if it has one at its start. -/
theorem nextOpening?_of_no_closer (h : m.Opens before inner)
    (hplain : indexOf? (m.closer false) (m.opener before ++ inner) = none) :
    nextOpening? (m.opener before ++ inner) = some ⟨m.delimiter ⟨before, before⟩, 0, none⟩ := by
  have hdashed : indexOf? (m.closer true) (m.opener before ++ inner) = none := by
    cases hdashed : indexOf? (m.closer true) (m.opener before ++ inner) with
    | none => rfl
    | some dashed =>
      obtain ⟨plain, -, -, hplain'⟩ := m.exists_indexOf?_closer hdashed
      exact absurd (hplain.symm.trans hplain') nofun
  have hboth := @here?_delimiter m before inner before before id (.inl rfl)
  have hshort := @here?_delimiter m before inner false false nofun (.inl rfl)
  have hafter := m.here?_delimiter_none false true nofun hdashed
  have hlong := m.here?_delimiter_none true false nofun hplain
  rw [nextOpening?_of_here (m.delimiter_mem before before) hboth, m.filterMap_here? h]
  cases before <;>
    simp [filter_mayOpen_false, filter_mayOpen_true, hshort, hafter, hlong, hboth, hplain, hdashed,
      Opening.prefer, Opening.isBeaten, length_opener_delimiter]

end Mark

/-! ## The closer a tag has -/

/-- A dash stands at the end of the text. -/
def endsDashed (body : List Char) : Bool := body.getLast? == some '-'

theorem endsOutside_take_succ {body : List Char} {n : Nat} (h : body[n]? = some '-') :
    EndsOutside .outside (body.take (n + 1)) ↔ EndsOutside .outside (body.take n) := by
  rw [EndsOutside, List.take_add_one, h, List.foldl_append]
  exact step_outside_iff (@isAtQuote_foldl .outside trivial _) (by decide)

namespace Mark
variable (m : Mark) {body : List Char}

theorem closer_ne_nil (dashed : Bool) : m.closer dashed ≠ [] := by
  cases m <;> cases dashed <;> decide

/-- A closer with a dash stands where a dash does, right before a closer. -/
theorem closer_prefix_iff {n : Nat} : m.closer true <+: body.drop n ↔
    body[n]? = some '-' ∧ m.closer false <+: body.drop (n + 1) := by
  rw [m.closer_true, List.drop_eq_getElem?_toList_append]
  cases hc : body[n]? with
  | none =>
    have hlength := List.getElem?_eq_none_iff.mp hc
    simp [List.drop_eq_nil_of_le (Nat.le_succ_of_le hlength)]
  | some c => simp [List.cons_prefix_cons, eq_comm]

/-- A tag has a closer with a dash where its closer has a dash before it. -/
theorem closes_dashed {n : Nat} (h : Closes (m.closer false) body n)
    (hdash : endsDashed (body.take n) = true) : Closes (m.closer true) body (n - 1) := by
  cases n with
  | zero => cases hdash
  | succ n =>
    have hn : body[n]? = some '-' := by
      rw [endsDashed, List.take_add_one] at hdash
      cases hc : body[n]? with
      | none =>
        have hstands := h.stands
        have hlength := List.getElem?_eq_none_iff.mp hc
        rw [List.drop_eq_nil_of_le (Nat.le_succ_of_le hlength), List.prefix_nil] at hstands
        exact absurd hstands (m.closer_ne_nil false)
      | some c => simpa [hc] using hdash
    refine ⟨m.closer_prefix_iff.mpr ⟨hn, h.stands⟩, (endsOutside_take_succ hn).mp h.outside, ?_⟩
    intro k hk houtside hstands
    obtain ⟨hdash', hplain⟩ := m.closer_prefix_iff.mp hstands
    exact h.first (k + 1) (Nat.succ_lt_succ hk) ((endsOutside_take_succ hdash').mpr houtside) hplain

/-- The closer of a tag is the first one outside strings, with the dash before it. -/
theorem closes_own {n : Nat} (h : Closes (m.closer false) body n) :
    Closes (m.closer (endsDashed (body.take n))) body (n - (endsDashed (body.take n)).toNat) := by
  cases hdash : endsDashed (body.take n) with
  | false => exact h
  | true => exact m.closes_dashed h hdash

/-- A tag with a closer that has a dash has a closer. -/
theorem exists_closes {n : Nat} (h : Closes (m.closer true) body n) :
    ∃ n, Closes (m.closer false) body n := by
  obtain ⟨hdash, hplain⟩ := m.closer_prefix_iff.mp h.stands
  have houtside := (endsOutside_take_succ hdash).mpr h.outside
  cases hat : closerAt? (m.closer false) .outside body with
  | none => exact absurd hplain (closerAt?_eq_none (m.closer_ne_nil false) hat _ houtside)
  | some first => exact ⟨first, (closerAt?_iff (m.closer_ne_nil false)).mp hat⟩

end Mark

/-! ## Reading a tag -/

theorem next?_of_nextOpening? {offset : Nat} {cs : List Char} {d : Delimiter} {close : Option Nat}
    (h : nextOpening? cs = some ⟨d, 0, close⟩) :
    next? offset cs = some (d.piece offset (cs.drop d.opener.length)) := by
  cases cs with
  | nil => cases h
  | cons c cs => simp only [next?, h]

namespace Mark
variable (m : Mark) {before : Bool} {inner : List Char}

/-- The tag whose body ends at `n`, if it is taken to have a dash at its end or not. -/
def piece (before after : Bool) (offset : Nat) (inner : List Char) (n : Nat) : Piece :=
  let break? := (m.kind ⟨before, after⟩).takeBreak (inner.drop (n + (m.closer after).length))
  ⟨⟨m.kind ⟨before, after⟩, String.ofList (trim (inner.take n)), offset⟩,
    m.opener before ++ inner.take n ++ m.closer after ++ break?.1, break?.2⟩

theorem delimiter_piece (after : Bool) (offset : Nat) :
    match closerAt? (m.closer after) .outside inner with
    | some n => (m.delimiter ⟨before, after⟩).piece offset inner =
        .ok (m.piece before after offset inner n)
    | none => ∃ cause, (m.delimiter ⟨before, after⟩).piece offset inner = .error ⟨cause, none⟩ ∧
        Unclosed (m.closer after) offset cause := by
  have hstrings : (m.kind ⟨before, after⟩).hasStrings = true := by
    cases m <;> rfl
  have hfinds := @upToCloser_finds (m.closer after) offset none nofun inner
  rw [Finds, quoting] at hfinds
  rw [Delimiter.piece, Delimiter.body, delimiter]
  simp only [hstrings, if_true]
  split at hfinds
  · next n hn =>
    simp only [hfinds]
    rfl
  · next hnone =>
    obtain ⟨cause, hcause, hunclosed⟩ := hfinds
    simp only [hcause]
    exact ⟨cause, rfl, hunclosed⟩

/-- Some closer stands in the text of a tag that is closed. -/
theorem exists_indexOf?_of_closes (before : Bool) {dashed : Bool} {n : Nat}
    (h : Closes (m.closer dashed) inner n) :
    ∃ plain, indexOf? (m.closer false) (m.opener before ++ inner) = some plain := by
  have hown : ∃ n, Closes (m.closer false) inner n := by
    cases dashed with
    | false => exact ⟨n, h⟩
    | true => exact m.exists_closes h
  obtain ⟨n, hn⟩ := hown
  have hstands :
      m.closer false <+: (m.opener before ++ inner).drop ((m.opener before).length + n) := by
    rw [← List.drop_drop, List.drop_left]
    exact hn.stands
  obtain ⟨plain, -, hplain⟩ := exists_indexOf?_le hstands
  exact ⟨plain, hplain⟩

/-- A tag is read up to the closer it is taken to have, if that stands outside strings anywhere. -/
theorem next?_opens (h : m.Opens before inner) (offset : Nat) :
    let after := m.looksDashed (m.opener before ++ inner)
    (∃ n, Closes (m.closer after) inner n ∧
      next? offset (m.opener before ++ inner) =
        some (.ok (m.piece before after offset inner n))) ∨
    ((∀ n, ¬ Closes (m.closer after) inner n) ∧
      ∃ cause dashed, next? offset (m.opener before ++ inner) = some (.error ⟨cause, none⟩) ∧
        Unclosed (m.closer dashed) offset cause) := by
  intro after
  cases hplain : indexOf? (m.closer false) (m.opener before ++ inner) with
  | none =>
    have hnever : ∀ dashed n, ¬ Closes (m.closer dashed) inner n := by
      intro dashed n hn
      obtain ⟨plain, hplain'⟩ := m.exists_indexOf?_of_closes before hn
      exact absurd (hplain.symm.trans hplain') nofun
    have hpiece := @delimiter_piece m before inner before offset
    split at hpiece
    · next n hn => exact absurd ((closerAt?_iff (m.closer_ne_nil _)).mp hn) (hnever before n)
    · obtain ⟨cause, hcause, hunclosed⟩ := hpiece
      refine .inr ⟨hnever after, cause, before, ?_, hunclosed⟩
      rw [next?_of_nextOpening? (m.nextOpening?_of_no_closer h hplain)]
      exact congrArg some ((congrArg _ List.drop_left).trans hcause)
  | some plain =>
    obtain ⟨close, hopening⟩ := m.nextOpening?_of_closer h hplain
    have hpiece := @delimiter_piece m before inner after offset
    have hnext : next? offset (m.opener before ++ inner) =
        some ((m.delimiter ⟨before, after⟩).piece offset inner) := by
      rw [next?_of_nextOpening? hopening]
      exact congrArg some (congrArg _ List.drop_left)
    split at hpiece
    · next n hn =>
      exact .inl ⟨n, (closerAt?_iff (m.closer_ne_nil _)).mp hn, by rw [hnext, hpiece]⟩
    · next hnone =>
      obtain ⟨cause, hcause, hunclosed⟩ := hpiece
      refine .inr ⟨fun n hn => ?_, cause, after, by rw [hnext, hcause], hunclosed⟩
      exact absurd (hnone.symm.trans ((closerAt?_iff (m.closer_ne_nil _)).mpr hn)) nofun

/-- The tag whose body the first closer outside strings ends, with the dash before that closer taken
as part of it. -/
def ownPiece (before : Bool) (offset : Nat) (inner : List Char) (n : Nat) : Piece :=
  let dashed := endsDashed (inner.take n)
  m.piece before dashed offset inner (n - dashed.toNat)

end Mark

/-- Reading comes to a tag of the mark at byte `offset`, before `inner`. -/
structure Mark.At (m : Mark) (source : String) (offset : Nat) (before : Bool)
    (inner : List Char) : Prop extends m.Opens before inner where
  reaches : Reaches source offset (m.opener before ++ inner)

/-- The tag is read: its token is one of the tokens, and reading goes on behind it. -/
def Reads (source : String) (p : Piece) : Prop :=
  p.token ∈ (Tokens.read source).tokens ∧
    Reaches source (p.token.offset + (String.ofList p.range).utf8ByteSize) p.rest

/-- Reading fails at byte `offset` because a tag is not closed. -/
def FailsToClose (m : Mark) (source : String) (offset : Nat) : Prop :=
  ∃ cause dashed, (Tokens.read source).failure = some ⟨cause, none⟩ ∧
    Unclosed (m.closer dashed) offset cause

theorem closes_unique {closer body : List Char} (hcloser : closer ≠ []) {n k : Nat}
    (hn : Closes closer body n) (hk : Closes closer body k) : n = k :=
  Option.some.inj (((closerAt?_iff hcloser).mpr hn).symm.trans ((closerAt?_iff hcloser).mpr hk))

theorem Mark.At.reads {m : Mark} {source : String} {offset : Nat} {before : Bool}
    {inner : List Char} (h : m.At source offset before inner) {p : Piece}
    (hp : next? offset (m.opener before ++ inner) = some (.ok p)) : Reads source p := by
  have hoffset := (next?_begins hp).offset
  refine ⟨(h.reaches.mem_tokens_iff hoffset).mpr ⟨p, hp, rfl⟩, ?_⟩
  rw [hoffset]
  exact h.reaches.next hp

theorem Mark.kind_inj (m : Mark) {s t : Trimming} (h : m.kind s = m.kind t) : s = t := by
  cases m <;> cases h <;> rfl

/-- A tag is read with the closer that the text shows first, and is read as far as that closer
first stands outside the strings of the body; so it is read as the source has it exactly if the text
shows the closer first that the tag has. -/
theorem read_tag {m : Mark} {source : String} {offset : Nat} {before : Bool} {inner : List Char}
    (h : m.At source offset before inner) :
    let after := m.looksDashed (m.opener before ++ inner)
    (∀ n, Closes (m.closer after) inner n → Reads source (m.piece before after offset inner n)) ∧
    ((∀ n, ¬ Closes (m.closer after) inner n) → FailsToClose m source offset) ∧
    (∀ n, Closes (m.closer false) inner n →
      (Reads source (m.ownPiece before offset inner n) ↔ after = endsDashed (inner.take n))) := by
  intro after
  have hcase := m.next?_opens h.toOpens offset
  have hclosed : ∀ n, Closes (m.closer after) inner n →
      Reads source (m.piece before after offset inner n) := by
    intro n hn
    rcases hcase with ⟨k, hk, hnext⟩ | ⟨hnever, -⟩
    · rw [closes_unique (m.closer_ne_nil after) hn hk]
      exact h.reads hnext
    · exact absurd hn (hnever n)
  refine ⟨hclosed, fun hnever => ?_, fun n hn => ⟨fun hown => ?_, fun hafter => ?_⟩⟩
  · rcases hcase with ⟨k, hk, -⟩ | ⟨-, cause, dashed, hnext, hunclosed⟩
    · exact absurd hk (hnever k)
    · exact ⟨cause, dashed, h.reaches.failure_eq hnext, hunclosed⟩
  · -- there is one token at the offset, and its kind says which closer the tag was taken to have
    obtain ⟨p, hp, htoken⟩ := (h.reaches.mem_tokens_iff rfl).mp hown.1
    rcases hcase with ⟨k, -, hnext⟩ | ⟨-, cause, dashed, hnext, -⟩
    · rw [hnext] at hp
      cases hp
      exact congrArg Trimming.after (m.kind_inj (congrArg Token.kind htoken))
    · rw [hnext] at hp
      cases hp
  · have hown := m.closes_own hn
    rw [← hafter] at hown
    rw [Mark.ownPiece, ← hafter]
    exact hclosed _ hown

/-- The tag `{{- '-}}' -}}` is read as the source has it: a closer with a dash is both what the text
shows first and what the tag has. -/
theorem read_tag_trimmed :
    Mark.output.At "\x7b\x7b- '-\x7d\x7d' -\x7d\x7d" 0 true " '-\x7d\x7d' -\x7d\x7d".toList ∧
      Closes (Mark.output.closer false) " '-\x7d\x7d' -\x7d\x7d".toList 8 ∧
      Reads "\x7b\x7b- '-\x7d\x7d' -\x7d\x7d"
        (Mark.output.ownPiece true 0 " '-\x7d\x7d' -\x7d\x7d".toList 8) := by
  have hat : Mark.output.At "\x7b\x7b- '-\x7d\x7d' -\x7d\x7d" 0 true
      " '-\x7d\x7d' -\x7d\x7d".toList := ⟨⟨nofun, by decide⟩, .start⟩
  have hcloses : Closes (Mark.output.closer false) " '-\x7d\x7d' -\x7d\x7d".toList 8 :=
    (closerAt?_iff (Mark.output.closer_ne_nil false)).mp (by decide)
  exact ⟨hat, hcloses, ((read_tag hat).2.2 8 hcloses).mpr (by decide)⟩

/-- The tag `{{ '-}}' }}` has a closer without a dash, and yet is not read: the text shows a closer
with a dash first, in a string, and the tag is not closed by one. -/
theorem read_quoted_closer :
    Mark.output.At "\x7b\x7b '-\x7d\x7d' \x7d\x7d" 0 false " '-\x7d\x7d' \x7d\x7d".toList ∧
      Closes (Mark.output.closer false) " '-\x7d\x7d' \x7d\x7d".toList 7 ∧
      Tokens.read "\x7b\x7b '-\x7d\x7d' \x7d\x7d" =
        ⟨[], some ⟨.unclosedDelimiter "-\x7d\x7d" 0, none⟩⟩ :=
  ⟨⟨⟨by decide, by decide⟩, .start⟩,
    (closerAt?_iff (Mark.output.closer_ne_nil false)).mp (by decide), by decide⟩

end Stencil.Source
