import Mathlib.Data.List.Infix
import Stencil.Proofs.Source.Opening

/-!
# The ranges of tokens

A source is read token by token (`Source.next?`), and each token takes up the range of the source
that is read for it.  The ranges follow each other without a gap from the first byte on
(`Source.Covers`), to the end of the source or to the tag at which reading fails.  Nothing but tags
and plain text is in them, so no text of a template is lost or read twice
(`Source.covers_read`).
-/
namespace Stencil.Source
open Text

/-! ## What tokens take up -/

theorem byteLength_eq (cs : List Char) : byteLength cs = (String.ofList cs).utf8ByteSize := by
  induction cs with
  | nil => rfl
  | cons c cs ih =>
    rw [byteLength, ih, String.ofList_cons, String.utf8ByteSize_append,
      String.utf8ByteSize_singleton]

theorem utf8ByteSize_pos {cs : List Char} (h : cs ≠ []) : 0 < (String.ofList cs).utf8ByteSize := by
  rw [← byteLength_eq]
  cases cs with
  | nil => exact absurd rfl h
  | cons c cs => exact Nat.add_pos_left c.utf8Size_pos _

/-- The line break behind a tag of the kind, where one is there, belongs to a control tag; `after`
is what follows. -/
def Kind.TakesBreak (kind : Kind) (newline after : List Char) : Prop :=
  if kind.isLogic then
    newline = ['\n'] ∨ newline = ['\r', '\n'] ∨
      newline = [] ∧ ¬ ['\n'] <+: after ∧ ¬ ['\r', '\n'] <+: after
  else newline = []

/-- The range that the token takes up before `after`: plain text, or a tag. -/
inductive Token.Spans : Token → (range after : List Char) → Prop
  | text {offset : Nat} {range after : List Char} (hplain : IsPlain range) :
    Spans ⟨.raw, String.ofList range, offset⟩ range after
  | tag {offset : Nat} {d : Delimiter} {body newline after : List Char} (hd : d ∈ delimiters)
    (hbreak : d.kind.TakesBreak newline after) :
    Spans ⟨d.kind, String.ofList (trim body), offset⟩ (d.opener ++ body ++ d.closer ++ newline)
      after

/-- The tokens take up the text from byte `offset` on, one after the other; `left` follows it. -/
inductive Covers : Nat → (taken : List Char) → List Token → (left : List Char) → Prop
  | nil {offset : Nat} {left : List Char} : Covers offset [] [] left
  | cons {t : Token} {range taken left : List Char} {ts : List Token} (hrange : range ≠ [])
    (hspans : t.Spans range (taken ++ left))
    (hrest : Covers (t.offset + (String.ofList range).utf8ByteSize) taken ts left) :
    Covers t.offset (range ++ taken) (t :: ts) left

namespace Covers
variable {offset : Nat} {taken left : List Char} {ts : List Token}

theorem offset_le (h : Covers offset taken ts left) : ∀ t ∈ ts, offset ≤ t.offset := by
  induction h with
  | nil => exact List.forall_mem_nil _
  | cons hrange hspans hrest ih =>
    exact List.forall_mem_cons.mpr ⟨Nat.le_refl _, fun t ht => by have := ih t ht; omega⟩

/-- Each token starts behind those before it. -/
theorem offsets_increase (h : Covers offset taken ts left) :
    (ts.map Token.offset).Pairwise (· < ·) := by
  induction h with
  | nil => exact List.Pairwise.nil
  | @cons t range rest left ts hrange hspans hrest ih =>
    refine List.pairwise_cons.mpr ⟨?_, ih⟩
    intro next hnext
    obtain ⟨t', ht', rfl⟩ := List.mem_map.mp hnext
    have hle := hrest.offset_le t' ht'
    have hpos := utf8ByteSize_pos hrange
    omega

theorem head?_offsets (h : Covers offset taken ts left) :
    (ts.map Token.offset).head? = if taken = [] then none else some offset := by
  cases h with
  | nil => rfl
  | cons hrange hspans hrest => simp [hrange]

end Covers

/-! ## One token -/

/-- What a tag of the kind takes of the text behind it, and what is left. -/
def Kind.takeBreak (kind : Kind) (cs : List Char) : List Char × List Char :=
  if kind.isLogic then lineBreak cs else ([], cs)

theorem Kind.takeBreak_append (kind : Kind) (cs : List Char) :
    (kind.takeBreak cs).1 ++ (kind.takeBreak cs).2 = cs := by
  unfold takeBreak lineBreak
  split
  · split <;> rfl
  · rfl

theorem Kind.takesBreak_takeBreak (kind : Kind) (cs : List Char) :
    kind.TakesBreak (kind.takeBreak cs).1 (kind.takeBreak cs).2 := by
  unfold TakesBreak takeBreak lineBreak
  split
  · split
    · exact .inl rfl
    · exact .inr (.inl rfl)
    · next hnl hcrnl =>
      refine .inr (.inr ⟨rfl, ?_, ?_⟩)
      · rintro ⟨after, rfl⟩
        exact hnl after rfl
      · rintro ⟨after, rfl⟩
        exact hcrnl after rfl
  · rfl

theorem upToCloser_append {closer : List Char} {offset : Nat} {string : Option (Char × List Char)}
    {cs body rest : List Char} (h : upToCloser closer offset string cs = .ok (body, rest)) :
    cs = body ++ closer ++ rest := by
  induction cs generalizing string body with
  | nil => cases string <;> cases h
  | cons c cs ih =>
    cases string with
    | none =>
      rw [upToCloser] at h
      split at h
      · next hhere =>
        cases h
        exact List.prefix_append_drop (List.isPrefixOf_iff_prefix.mp hhere)
      · split at h
        · cases h
        · cases hrest : upToCloser closer offset (if isQuote c then some (c, []) else none) cs with
          | error cause =>
            rw [hrest] at h
            cases h
          | ok found =>
            rw [hrest] at h
            cases h
            exact congrArg (c :: ·) (ih hrest)
    | some inside =>
      rw [upToCloser] at h
      cases hrest : upToCloser closer offset
          (if c = inside.1 && !isEscaped inside.2 then none else some (inside.1, c :: inside.2))
          cs with
      | error cause =>
        rw [hrest] at h
        cases h
      | ok found =>
        rw [hrest] at h
        cases h
        exact congrArg (c :: ·) (ih hrest)

theorem Delimiter.body_append {d : Delimiter} {offset : Nat} {inner body rest : List Char}
    (h : d.body offset inner = .ok (body, rest)) : inner = body ++ d.closer ++ rest := by
  rw [Delimiter.body] at h
  split at h
  · exact upToCloser_append h
  · split at h
    · next n hn =>
      cases h
      rw [List.append_assoc, ← List.drop_drop,
        ← List.prefix_append_drop (indexOf?_eq_some hn).1, List.take_append_drop]
    · cases h

/-- A token at the start of a text, what it takes up of the text, and what is left. -/
structure Piece where
  token : Token
  range : List Char
  rest : List Char

/-- The tag that opens with a delimiter before `inner`. -/
def Delimiter.piece (d : Delimiter) (offset : Nat) (inner : List Char) : Except Failure Piece :=
  match d.body offset inner with
  | .error cause => .error ⟨cause, none⟩
  | .ok (body, rest) => .ok
    ⟨⟨d.kind, String.ofList (trim body), offset⟩,
      d.opener ++ body ++ d.closer ++ (d.kind.takeBreak rest).1, (d.kind.takeBreak rest).2⟩

/-- The token at the start of a text at byte `offset`, or the failure to read it; nothing at the end
of the source. -/
def next? (offset : Nat) (cs : List Char) : Option (Except Failure Piece) :=
  match cs, nextOpening? cs with
  | [], _ => none
  | cs, none => some (.ok ⟨⟨.raw, String.ofList cs, offset⟩, cs, []⟩)
  | cs, some ⟨d, 0, _⟩ => some (d.piece offset (cs.drop d.opener.length))
  | cs, some ⟨_, start, _⟩ =>
    some (.ok ⟨⟨.raw, String.ofList (cs.take start), offset⟩, cs.take start, cs.drop start⟩)

/-- The token of a piece stands at the start of the text and takes up what is not left of it. -/
structure Piece.Begins (p : Piece) (offset : Nat) (cs : List Char) : Prop where
  text : cs = p.range ++ p.rest
  offset : p.token.offset = offset
  range : p.range ≠ []
  spans : p.token.Spans p.range p.rest

theorem Piece.Begins.length_lt {p : Piece} {offset : Nat} {cs : List Char}
    (h : p.Begins offset cs) : p.rest.length < cs.length := by
  have hpos := List.length_pos_iff.mpr h.range
  rw [h.text, List.length_append]
  omega

theorem Delimiter.piece_begins {d : Delimiter} (hd : d ∈ delimiters) {offset : Nat}
    {inner : List Char} {p : Piece} (h : d.piece offset inner = .ok p) :
    p.Begins offset (d.opener ++ inner) := by
  have hopener := Delimiter.opener_ne_nil d hd
  rw [Delimiter.piece] at h
  split at h
  · cases h
  · next body rest hbody =>
    cases h
    refine ⟨?_, rfl, by simp [hopener], .tag hd (d.kind.takesBreak_takeBreak rest)⟩
    simp only [List.append_assoc, Kind.takeBreak_append, Delimiter.body_append hbody]

theorem next?_eq_none {offset : Nat} {cs : List Char} (h : next? offset cs = none) : cs = [] := by
  unfold next? at h
  split at h
  · rfl
  all_goals cases h

theorem next?_begins {offset : Nat} {cs : List Char} {p : Piece}
    (h : next? offset cs = some (.ok p)) : p.Begins offset cs := by
  unfold next? at h
  split at h
  · cases h
  · next hne hnext =>
    cases h
    exact ⟨by simp, rfl, hne, .text (isPlain_of_nextOpening? hnext)⟩
  · next d _ hne hnext =>
    obtain ⟨hd, hprefix, -⟩ := nextOpening?_eq_some hnext
    have htext := List.prefix_append_drop hprefix
    rw [List.drop_zero] at htext
    rw [htext]
    exact Delimiter.piece_begins hd (Option.some.inj h)
  · next start _ hstart hne hnext =>
    cases h
    refine ⟨by simp, rfl, ?_, .text (isPlain_take_of_nextOpening? hnext)⟩
    simp only [ne_eq, List.take_eq_nil_iff, not_or]
    exact ⟨hstart, hne⟩

/-- A failure to read a token is that of the tag at the start of the text. -/
theorem exists_delimiter_of_next?_error {offset : Nat} {cs : List Char} {failure : Failure}
    (h : next? offset cs = some (.error failure)) :
    ∃ d ∈ delimiters, ∃ close inner cause, nextOpening? cs = some ⟨d, 0, close⟩ ∧
      cs = d.opener ++ inner ∧ d.body offset inner = .error cause ∧ failure = ⟨cause, none⟩ := by
  unfold next? at h
  split at h
  · cases h
  · cases h
  · next d close _ hnext =>
    obtain ⟨hd, hprefix, -⟩ := nextOpening?_eq_some hnext
    have hpiece := Option.some.inj h
    rw [Delimiter.piece] at hpiece
    split at hpiece
    · next cause hbody =>
      cases hpiece
      exact ⟨d, hd, close, _, cause, hnext, List.prefix_append_drop hprefix, hbody, rfl⟩
    · cases hpiece
  · cases h

/-! ## All tokens -/

theorem readFrom_nil (fuel offset : Nat) : Tokens.readFrom fuel offset [] = ⟨[], none⟩ := by
  cases fuel <;> rfl

/-- The tokens are read one after the other, each from what the one before it leaves. -/
theorem readFrom_succ (fuel offset : Nat) (cs : List Char) :
    Tokens.readFrom (fuel + 1) offset cs = match next? offset cs with
      | none => ⟨[], none⟩
      | some (.error failure) => ⟨[], some failure⟩
      | some (.ok p) =>
        Tokens.cons p.token
          (Tokens.readFrom fuel (offset + (String.ofList p.range).utf8ByteSize) p.rest) := by
  cases cs with
  | nil => rfl
  | cons c cs =>
    cases hnext : nextOpening? (c :: cs) with
    | none => simp only [Tokens.readFrom, next?, hnext, readFrom_nil, Tokens.cons]
    | some o =>
      obtain ⟨d, start, close⟩ := o
      cases start with
      | zero =>
        simp only [Tokens.readFrom, next?, hnext, Delimiter.piece, byteLength_eq]
        cases d.body offset ((c :: cs).drop d.opener.length) <;> rfl
      | succ start => simp only [Tokens.readFrom, next?, hnext, byteLength_eq]

/-- Where reading stops: at the end of the source, or at the tag that cannot be read. -/
def Tokens.StopsAt (ts : Tokens) (offset : Nat) (left : List Char) : Prop :=
  match ts.failure with
  | none => left = []
  | some failure => ∃ d ∈ delimiters, ∃ close inner cause, nextOpening? left = some ⟨d, 0, close⟩ ∧
      left = d.opener ++ inner ∧ d.body offset inner = .error cause ∧ failure = ⟨cause, none⟩

/-- With enough fuel, the tokens take up the text up to where reading stops. -/
theorem covers_readFrom {fuel : Nat} (offset : Nat) {cs : List Char} (hfuel : cs.length < fuel) :
    ∃ taken left, cs = taken ++ left ∧
      Covers offset taken (Tokens.readFrom fuel offset cs).tokens left ∧
      (Tokens.readFrom fuel offset cs).StopsAt (offset + (String.ofList taken).utf8ByteSize)
        left := by
  induction fuel generalizing offset cs with
  | zero => exact absurd hfuel (Nat.not_lt_zero _)
  | succ fuel ih =>
    rw [readFrom_succ]
    split
    · next hend => exact ⟨[], cs, rfl, .nil, next?_eq_none hend⟩
    · next failure hfailure =>
      exact ⟨[], cs, rfl, .nil, exists_delimiter_of_next?_error hfailure⟩
    · next p hp =>
      have hbegins := next?_begins hp
      have hless : p.rest.length < fuel := by
        have := hbegins.length_lt
        omega
      obtain ⟨rfl, rfl, hrange, hspans⟩ := hbegins
      obtain ⟨taken, left, hrest, hcovers, hstops⟩ :=
        ih (p.token.offset + (String.ofList p.range).utf8ByteSize) hless
      refine ⟨p.range ++ taken, left, ?_, .cons hrange (hrest ▸ hspans) hcovers, ?_⟩
      · rw [List.append_assoc, ← hrest]
      · rw [String.ofList_append, String.utf8ByteSize_append, ← Nat.add_assoc]
        exact hstops

/-- Reading a source loses nothing: its tokens take it up from the first byte on without gaps, each
one behind the one before it, until the source ends or a tag cannot be read. -/
theorem covers_read (source : String) :
    ∃ taken left, source = String.ofList taken ++ String.ofList left ∧
      Covers 0 taken (Tokens.read source).tokens left ∧
      ((Tokens.read source).tokens.map Token.offset).Pairwise (· < ·) ∧
      ((Tokens.read source).tokens.map Token.offset).head? =
        (if taken = [] then none else some 0) ∧
      (Tokens.read source).StopsAt (String.ofList taken).utf8ByteSize left := by
  have hfuel : source.toList.length < source.length + 1 := Nat.lt_succ_of_le (Nat.le_refl _)
  obtain ⟨taken, left, hsource, hcovers, hstops⟩ := covers_readFrom 0 hfuel
  rw [Nat.zero_add] at hstops
  refine ⟨taken, left, ?_, hcovers, hcovers.offsets_increase, hcovers.head?_offsets, hstops⟩
  rw [← String.ofList_append, ← hsource, String.ofList_toList]

/-! ## Places that reading comes to -/

/-- Reading a source comes to the text `cs` at byte `offset`. -/
inductive Reaches (source : String) : (offset : Nat) → (cs : List Char) → Prop
  | start : Reaches source 0 source.toList
  | next {offset : Nat} {cs : List Char} {p : Piece} (h : Reaches source offset cs)
    (hp : next? offset cs = some (.ok p)) :
    Reaches source (offset + (String.ofList p.range).utf8ByteSize) p.rest

namespace Reaches
variable {source : String} {offset : Nat} {cs : List Char}

/-- The tokens are those before a place that reading comes to and those that are read there. -/
theorem read (h : Reaches source offset cs) : ∃ before fuel, cs.length < fuel ∧
    (∀ t ∈ before, t.offset < offset) ∧
    Tokens.read source = ⟨before ++ (Tokens.readFrom fuel offset cs).tokens,
      (Tokens.readFrom fuel offset cs).failure⟩ := by
  induction h with
  | start => exact ⟨[], source.length + 1, Nat.lt_succ_self _, List.forall_mem_nil _, rfl⟩
  | @next offset cs p h hp ih =>
    obtain ⟨before, fuel, hfuel, hbefore, hread⟩ := ih
    cases fuel with
    | zero => exact absurd hfuel (Nat.not_lt_zero _)
    | succ fuel =>
      have hbegins := next?_begins hp
      have hless := hbegins.length_lt
      have hbytes := utf8ByteSize_pos hbegins.range
      have hoffset := hbegins.offset
      rw [readFrom_succ, hp] at hread
      refine ⟨before ++ [p.token], fuel, by omega, ?_, ?_⟩
      · simp only [List.forall_mem_append, List.forall_mem_singleton]
        exact ⟨fun t ht => by have := hbefore t ht; omega, by omega⟩
      · rw [hread, List.append_assoc]
        rfl

/-- The token at a place that reading comes to is the one that is read there. -/
theorem mem_tokens_iff (h : Reaches source offset cs) {t : Token} (ht : t.offset = offset) :
    t ∈ (Tokens.read source).tokens ↔ ∃ p, next? offset cs = some (.ok p) ∧ p.token = t := by
  obtain ⟨before, fuel, hfuel, hbefore, hread⟩ := h.read
  have hnot : t ∉ before := fun hmem => absurd (hbefore t hmem) (by omega)
  rw [hread, List.mem_append, or_iff_right hnot]
  cases fuel with
  | zero => exact absurd hfuel (Nat.not_lt_zero _)
  | succ fuel =>
    rw [readFrom_succ]
    split
    · next hnext => simp [hnext]
    · next hnext => simp [hnext]
    · next p hp =>
      have hbegins := next?_begins hp
      have hbytes := utf8ByteSize_pos hbegins.range
      have hless : p.rest.length < fuel := by
        have := hbegins.length_lt
        omega
      obtain ⟨taken, left, -, hcovers, -⟩ :=
        covers_readFrom (offset + (String.ofList p.range).utf8ByteSize) hless
      -- what is read behind the place starts behind it
      have hbehind := fun hmem => hcovers.offset_le t hmem
      constructor
      · intro hmem
        rcases List.mem_cons.mp hmem with rfl | hmem
        · exact ⟨p, hp, rfl⟩
        · have := hbehind hmem
          omega
      · rintro ⟨p', hp', rfl⟩
        rw [hp] at hp'
        cases hp'
        exact List.mem_cons_self

theorem failure_eq (h : Reaches source offset cs) {failure : Failure}
    (hnext : next? offset cs = some (.error failure)) :
    (Tokens.read source).failure = some failure := by
  obtain ⟨before, fuel, hfuel, -, hread⟩ := h.read
  cases fuel with
  | zero => exact absurd hfuel (Nat.not_lt_zero _)
  | succ fuel => rw [hread, readFrom_succ, hnext]

end Reaches

end Stencil.Source
