import Stencil.Proofs.Expr.Balance
import Stencil.Proofs.Literals.Words

/-!
# Literals in the yard

The start and the end of a literal are put out at once, while the brackets are matched on the
stack.  What keeps the two together is that the starts without an end in the output, and the marks
of open parentheses there, are the brackets on the stack, in the same order (`Yard.Sound`).  Each
lexeme keeps it so: operators move from the stack to the output, closing a parenthesis cuts out of
the output what stands behind its mark, in which all literals are whole (`Yard.sound_of_close`), and
a colon replaces a token that is no end of a literal.  So what a text compiles to is sound
(`sound_of_compile`).
-/
namespace Stencil.Expr

/-! ## Outputs -/

/-- What stands inside the token is sound. -/
def Token.Sound (t : Token) : Prop := ∀ tokens ∈ t.inner, Expr.Sound tokens

namespace Slot

/-- What is open behind a slot: literals, and parentheses by their marks. -/
def cross : Slot → List Pending → Option (List Pending)
  | .token t, around => t.cross around
  | .paramMark, around => some (.paramStart :: around)
  | .subMark, around => some (.subStart :: around)

/-- What stands inside a token is sound. -/
def Sound : Slot → Prop
  | .token t => t.Sound
  | .paramMark | .subMark => True

end Slot

namespace Yard

/-- What is open behind an output, the last slot of which comes first. -/
def opened : List Slot → Option (List Pending)
  | [] => some []
  | s :: before => (opened before).bind s.cross

/-- The brackets that wait on a stack. -/
def brackets (stack : List Pending) : List Pending := stack.filter fun p => p.token?.isNone

theorem brackets_operator {p : Pending} {t : Token} (ht : p.token? = some t)
    (stack : List Pending) : brackets (p :: stack) = brackets stack :=
  List.filter_cons_of_neg (by rw [ht]; exact Bool.false_ne_true)

theorem brackets_bracket {p : Pending} (hp : p.token? = none) (stack : List Pending) :
    brackets (p :: stack) = p :: brackets stack :=
  List.filter_cons_of_pos (by rw [hp]; rfl)

/-- What is open in the output are the brackets on the stack, and what stands inside the tokens is
sound. -/
structure Sound (y : Yard) : Prop where
  opened : opened y.output = some (brackets y.stack)
  inside : ∀ s ∈ y.output, s.Sound

theorem sound_empty : Sound {} := ⟨rfl, List.forall_mem_nil _⟩

section
variable {out : List Slot} {stack : List Pending} {y y' : Yard}

/-! ## Single slots -/

theorem Sound.push (h : y.Sound) {t : Token} (ht : t.Unmarked) (hinside : t.Sound) :
    (y.push t).Sound where
  opened := by
    show (Yard.opened y.output).bind t.cross = some (brackets y.stack)
    rw [h.opened, Option.bind_some, ht]
  inside := List.forall_mem_cons.mpr ⟨hinside, h.inside⟩

/-- The last token may be any other one that is no start and no end of a literal. -/
theorem Sound.replace {t t' : Token} (h : Sound ⟨.token t :: out, stack⟩) (ht : t.Unmarked)
    (ht' : t'.Unmarked) (hinside : t'.Sound) : Sound ⟨.token t' :: out, stack⟩ where
  opened := by
    have hopened : (Yard.opened out).bind t.cross = some (brackets stack) := h.opened
    obtain ⟨around, hout, hcross⟩ := Option.bind_eq_some_iff.mp hopened
    show (Yard.opened out).bind t'.cross = some (brackets stack)
    rw [hout, Option.bind_some, ht', ← ht, hcross]
  inside :=
    List.forall_mem_cons.mpr ⟨hinside, (List.forall_mem_cons.mp h.inside).2⟩

theorem Sound.wait (h : y.Sound) {p : Pending} {t : Token} (ht : p.token? = some t) :
    (y.wait p).Sound := ⟨h.opened.trans (congrArg some (brackets_operator ht _).symm), h.inside⟩

/-- An operator is put out. -/
theorem Sound.unwait {p : Pending} {t : Token} (h : Sound ⟨out, p :: stack⟩)
    (ht : p.token? = some t) : Sound ⟨.token t :: out, stack⟩ := by
  have hbelow : Sound ⟨out, stack⟩ :=
    ⟨h.opened.trans (congrArg some (brackets_operator ht stack)), h.inside⟩
  cases p with
  | binary | unary =>
    obtain rfl := Option.some.inj ht
    exact hbelow.push (fun _ => rfl) (List.forall_mem_nil _)
  | arrayStart | objectStart | paramStart | subStart => cases ht

/-- A bracket is opened: its slot is put out, and it waits on the stack. -/
theorem Sound.openBracket (h : y.Sound) {s : Slot} {p : Pending} (hp : p.token? = none)
    (hs : ∀ around, s.cross around = some (p :: around)) (hinside : s.Sound) :
    Sound ⟨s :: y.output, p :: y.stack⟩ where
  opened := by
    show (Yard.opened y.output).bind s.cross = _
    rw [h.opened, Option.bind_some, hs, brackets_bracket hp]
  inside := List.forall_mem_cons.mpr ⟨hinside, h.inside⟩

/-- A literal that is open on the stack ends in the output. -/
theorem Sound.endLiteral {start stop : Token} {p : Pending} (h : Sound ⟨out, p :: stack⟩)
    (hp : Delimits start p stop) : Sound ⟨.token stop :: out, stack⟩ where
  opened := by
    have hbracket : p.token? = none := by cases hp <;> rfl
    have hopened : Yard.opened out = some (p :: brackets stack) :=
      h.opened.trans (congrArg some (brackets_bracket hbracket stack))
    show (Yard.opened out).bind stop.cross = some (brackets stack)
    rw [hopened, Option.bind_some, hp.cross_stop]
  inside := by
    refine List.forall_mem_cons.mpr ⟨?_, h.inside⟩
    cases hp <;> exact List.forall_mem_nil _

/-! ## Operators -/

theorem Sound.popWhile (keep : Nat → Bool) (h : Sound ⟨out, stack⟩) :
    (popWhile keep out stack).Sound := by
  induction stack generalizing out with
  | nil => exact h
  | cons p stack ih =>
    rw [Yard.popWhile]
    split
    · next t _ ht _ =>
      split
      · exact ih (h.unwait ht)
      · exact h
    · exact h

theorem Sound.flush (h : y.Sound) (precedence : Nat) (associativity : Associativity) :
    (y.flush precedence associativity).Sound := Sound.popWhile _ h

theorem Sound.popConditionals (h : y.Sound) : (popConditionals y.output y.stack).Sound := by
  obtain ⟨out, stack⟩ := y
  induction stack generalizing out with
  | nil => exact h
  | cons p stack ih =>
    unfold Yard.popConditionals
    split
    · next heq =>
      obtain ⟨rfl, rfl⟩ := List.cons.inj heq
      exact ih _ (h.unwait rfl)
    · exact h

/-- The operators down to a bracket are put out, while the bracket still waits. -/
theorem Sound.drainTo {opener : Pending} (h : Sound ⟨out, stack⟩)
    (hdrain : drainTo opener out stack = .ok y) : Sound ⟨y.output, opener :: y.stack⟩ := by
  induction stack generalizing out with
  | nil => cases hdrain
  | cons p stack ih =>
    rw [Yard.drainTo] at hdrain
    by_cases hp : p = opener
    · rw [if_pos hp] at hdrain
      obtain rfl := Except.ok.inj hdrain
      rw [← hp]
      exact h
    · rw [if_neg hp] at hdrain
      split at hdrain
      · next t ht => exact ih (h.unwait ht) hdrain
      · cases hdrain

/-! ## Parentheses -/

/-- The group that is taken out, and the mark in front of it. -/
theorem exists_of_takeGroup {tokens group : List Token} {rest : List Slot}
    (h : takeGroup tokens out = .ok (group, rest)) :
    ∃ taken mark, group = taken ++ tokens ∧ out = taken.reverse.map .token ++ mark :: rest ∧
      (mark = .paramMark ∨ mark = .subMark) := by
  induction out generalizing tokens with
  | nil => cases h
  | cons s out ih =>
    cases s with
    | token t =>
      obtain ⟨taken, mark, rfl, rfl, hmark⟩ := ih h
      refine ⟨taken ++ [t], mark, List.append_cons .., ?_, hmark⟩
      rw [List.reverse_append, List.map_append]
      rfl
    | paramMark =>
      obtain ⟨rfl, rfl⟩ := Prod.mk.inj (Except.ok.inj h)
      exact ⟨[], .paramMark, rfl, rfl, .inl rfl⟩
    | subMark =>
      obtain ⟨rfl, rfl⟩ := Prod.mk.inj (Except.ok.inj h)
      exact ⟨[], .subMark, rfl, rfl, .inr rfl⟩

/-- Tokens are put out in order. -/
theorem opened_append (tokens : List Token) (before : List Slot) :
    opened (tokens.reverse.map .token ++ before)
      = (opened before).bind fun around => crossAll around tokens := by
  induction tokens generalizing before with
  | nil => exact (Option.bind_fun_some _).symm
  | cons t rest ih =>
    rw [List.reverse_cons, List.map_append, List.append_assoc]
    exact (ih (.token t :: before)).trans (Option.bind_assoc ..)

/-- The literals inside parentheses are whole. -/
theorem Sound.close {tokens : List Token} (h : y.Sound) (opener : Pending)
    (hopener : opener.token? = none) (hliteral : ¬ opener.IsLiteral)
    (hclose : y.close opener = .ok (tokens, y')) : Expr.Sound tokens ∧ y'.Sound := by
  obtain ⟨drained, hdrain, hclose⟩ := exists_of_bind hclose
  obtain ⟨⟨group, rest⟩, hgroup, hclose⟩ := exists_of_bind hclose
  cases hclose
  have hdrained : Sound ⟨drained.output, opener :: drained.stack⟩ := Sound.drainTo h hdrain
  obtain ⟨taken, mark, rfl, hout, hmark⟩ := exists_of_takeGroup hgroup
  rw [List.append_nil]
  have hinside : ∀ s ∈ taken.reverse.map Slot.token ++ mark :: rest, s.Sound :=
    hout ▸ hdrained.inside
  have hopened : Yard.opened (taken.reverse.map .token ++ mark :: rest)
      = some (opener :: brackets drained.stack) := by
    rw [← hout, ← brackets_bracket hopener]
    exact hdrained.opened
  rw [opened_append] at hopened
  obtain ⟨around, haround, hcross⟩ := Option.bind_eq_some_iff.mp hopened
  obtain ⟨outer, houter, hmarked⟩ := Option.bind_eq_some_iff.mp haround
  -- the mark stands for a parenthesis, which no token of the group can close
  obtain ⟨p, hp, rfl⟩ : ∃ p : Pending, ¬ p.IsLiteral ∧ around = p :: outer := by
    rcases hmark with rfl | rfl
    · exact ⟨.paramStart, nofun, (Option.some.inj hmarked).symm⟩
    · exact ⟨.subStart, nofun, (Option.some.inj hmarked).symm⟩
  obtain ⟨own, hown, hword⟩ := exists_of_crossAll_append hp [] hcross
  have hliterals := isLiteral_of_crossAll hword (List.forall_mem_nil _)
  cases own with
  | nil =>
    obtain ⟨rfl, hstack⟩ := List.cons.inj hown
    refine ⟨.intro (wellNested_iff.mpr hword) fun t ht => ?_, ?_, fun s hs => ?_⟩
    · exact hinside (.token t)
        (List.mem_append_left _ (List.mem_map_of_mem (List.mem_reverse.mpr ht)))
    · rw [hstack]
      exact houter
    · exact hinside s (List.mem_append_right _ (List.mem_cons_of_mem _ hs))
  | cons q own =>
    obtain ⟨rfl, -⟩ := List.cons.inj hown
    exact absurd (hliterals _ List.mem_cons_self) hliteral

/-- Arguments are put inside the token right before them, or into a group of their own. -/
theorem Sound.attach {tokens : List Token} (h : y.Sound) (htokens : Expr.Sound tokens) :
    (y.attach tokens).Sound := by
  obtain ⟨output, stack⟩ := y
  have hargs : ∀ ts ∈ [tokens], Expr.Sound ts := List.forall_mem_singleton.mpr htokens
  -- the token before the arguments is replaced, and the key of a bracketed one stays inside it
  unfold Yard.attach
  split
  · next heq =>
    obtain rfl : output = _ := heq
    exact h.replace (fun _ => rfl) (fun _ => rfl) hargs
  · next heq =>
    obtain rfl : output = _ := heq
    exact h.replace (fun _ => rfl) (fun _ => rfl) hargs
  · next heq =>
    obtain rfl : output = _ := heq
    exact h.replace (fun _ => rfl) (fun _ => rfl) hargs
  · next key out heq =>
    obtain rfl : output = .token (.keyBrackets key none) :: out := heq
    have hkey : Expr.Sound key := h.inside _ List.mem_cons_self key List.mem_cons_self
    exact h.replace (fun _ => rfl) (fun _ => rfl) (List.forall_mem_cons.mpr ⟨hkey, hargs⟩)
  · exact h.push (fun _ => rfl) hargs

/-! ## Colons -/

theorem Sound.takeKey {rest : List Slot} (h : Sound ⟨out, stack⟩)
    (hkey : takeKey out = .ok rest) : Sound ⟨rest, stack⟩ := by
  unfold Yard.takeKey at hkey
  split at hkey
  · obtain rfl := Except.ok.inj hkey
    exact h.replace (fun _ => rfl) (fun _ => rfl) (List.forall_mem_nil _)
  · obtain rfl := Except.ok.inj hkey
    exact h.replace (fun _ => rfl) (fun _ => rfl) (List.forall_mem_nil _)
  · obtain rfl := Except.ok.inj hkey
    exact h.replace (fun _ => rfl) (fun _ => rfl) (List.forall_mem_nil _)
  · next tokens call out =>
    obtain rfl := Except.ok.inj hkey
    have hgroup : (Token.group tokens call).Sound := h.inside _ List.mem_cons_self
    exact h.replace (fun _ => rfl) (fun _ => rfl) hgroup
  · cases hkey
  · cases hkey

theorem Sound.colon (h : y.Sound) (hcolon : y.colon = .ok y') : y'.Sound := by
  have hpopped := Sound.popConditionals
    (h.flush BinaryOp.conditional.precedence BinaryOp.conditional.associativity)
  -- the colon belongs to a `?` that waits, and that is no bracket, or to the key right before it
  rw [Yard.colon] at hcolon
  split at hcolon
  · next stack hstack =>
    obtain rfl := Except.ok.inj hcolon
    have hbrackets : brackets (.binary .shortConditional :: stack)
        = brackets (.binary .conditional :: stack) :=
      (brackets_operator rfl stack).trans (brackets_operator rfl stack).symm
    have hopened := hpopped.opened
    rw [hstack, hbrackets] at hopened
    exact ⟨hopened, hpopped.inside⟩
  · obtain ⟨rest, hkey, hcolon⟩ := exists_of_bind hcolon
    obtain rfl := Except.ok.inj hcolon
    exact Sound.takeKey hpopped hkey

/-! ## Lexemes -/

/-- Every lexeme keeps the literals and the brackets together, if the texts in lexemes compile to
what is sound. -/
theorem Sound.step {nested : String → Except Failure Expr} {l : Lexeme} (h : y.Sound)
    (hnested : ∀ s ∈ l.nested?, ∀ e, nested s = .ok e → Expr.Sound e)
    (hstep : Yard.step nested y l = .ok y') : y'.Sound := by
  cases l with
  | test | number | string | bool | null | context | «variable» | slice | filter | function
      | keyPeriod =>
    obtain rfl := Except.ok.inj hstep
    exact h.push (fun _ => rfl) (List.forall_mem_nil _)
  | comma =>
    obtain rfl := Except.ok.inj hstep
    exact (Sound.popWhile _ h).push (fun _ => rfl) (List.forall_mem_nil _)
  | lambda params body =>
    obtain ⟨e, he, hstep⟩ := exists_of_bind hstep
    obtain rfl := Except.ok.inj hstep
    exact h.push (fun _ => rfl) (List.forall_mem_singleton.mpr (hnested body rfl e he))
  | keyBrackets text =>
    obtain ⟨e, he, hstep⟩ := exists_of_bind hstep
    obtain rfl := Except.ok.inj hstep
    exact h.push (fun _ => rfl) (List.forall_mem_singleton.mpr (hnested text rfl e he))
  | binary symbol =>
    rw [Yard.step] at hstep
    by_cases hcolon : symbol = ":"
    · rw [if_pos hcolon] at hstep
      exact h.colon hstep
    · rw [if_neg hcolon] at hstep
      obtain ⟨op, -, hstep⟩ := exists_of_bind hstep
      obtain rfl := Except.ok.inj hstep
      exact (h.flush op.precedence op.associativity).wait rfl
  | unary symbol =>
    obtain ⟨op, -, hstep⟩ := exists_of_bind hstep
    obtain rfl := Except.ok.inj hstep
    exact (h.flush op.precedence op.associativity).wait rfl
  | subexprStart | paramStart =>
    obtain rfl := Except.ok.inj hstep
    exact h.openBracket rfl (fun _ => rfl) trivial
  | arrayStart | objectStart =>
    obtain rfl := Except.ok.inj hstep
    exact h.openBracket rfl (fun _ => rfl) (List.forall_mem_nil _)
  | subexprEnd =>
    obtain ⟨⟨tokens, closed⟩, hclose, hstep⟩ := exists_of_bind hstep
    obtain rfl := Except.ok.inj hstep
    obtain ⟨htokens, hclosed⟩ := h.close .subStart rfl nofun hclose
    exact hclosed.push (fun _ => rfl) (List.forall_mem_singleton.mpr htokens)
  | paramEnd =>
    obtain ⟨⟨tokens, closed⟩, hclose, hstep⟩ := exists_of_bind hstep
    obtain rfl := Except.ok.inj hstep
    obtain ⟨htokens, hclosed⟩ := h.close .paramStart rfl nofun hclose
    exact hclosed.attach htokens
  | arrayEnd =>
    obtain ⟨drained, hdrain, hstep⟩ := exists_of_bind hstep
    obtain rfl := Except.ok.inj hstep
    exact (Sound.drainTo h hdrain).endLiteral .array
  | objectEnd =>
    obtain ⟨drained, hdrain, hstep⟩ := exists_of_bind hstep
    obtain rfl := Except.ok.inj hstep
    exact (Sound.drainTo h hdrain).endLiteral .object

theorem Sound.foldlM {nested : String → Except Failure Expr} {ls : List Lexeme} (h : y.Sound)
    (hnested : ∀ l ∈ ls, ∀ s ∈ l.nested?, ∀ e, nested s = .ok e → Expr.Sound e)
    (hrun : ls.foldlM (Yard.step nested) y = .ok y') : y'.Sound := by
  induction ls generalizing y with
  | nil =>
    obtain rfl := Except.ok.inj hrun
    exact h
  | cons l ls ih =>
    rw [List.foldlM_cons] at hrun
    obtain ⟨mid, hstep, hrest⟩ := exists_of_bind hrun
    obtain ⟨hl, hls⟩ := List.forall_mem_cons.mp hnested
    exact ih (h.step hl hstep) hls hrest

/-- An output without marks is a list of tokens. -/
theorem eq_map_of_tokens? {tokens ts : List Token} (h : tokens? tokens out = some ts) :
    ∃ read, ts = read ++ tokens ∧ out = read.reverse.map .token := by
  induction out generalizing tokens with
  | nil => exact ⟨[], (Option.some.inj h).symm, rfl⟩
  | cons s out ih =>
    cases s with
    | token t =>
      obtain ⟨read, rfl, rfl⟩ := ih h
      refine ⟨read ++ [t], List.append_cons .., ?_⟩
      rw [List.reverse_append, List.map_append]
      rfl
    | paramMark | subMark => cases h

/-- When nothing waits any more, all literals are whole. -/
theorem Sound.finish {text : String} {e : Expr} (h : y.Sound)
    (hfinish : y.finish text = .ok e) : Expr.Sound e := by
  have hdrained := Sound.popWhile (fun _ => true) h
  rw [Yard.finish] at hfinish
  split at hfinish
  · next tokens hstack htokens =>
    obtain rfl := Except.ok.inj hfinish
    obtain ⟨read, rfl, hout⟩ := eq_map_of_tokens? htokens
    have hopened := hdrained.opened
    rw [hstack, hout, ← List.append_nil (List.map _ _), opened_append] at hopened
    rw [List.append_nil]
    refine .intro (wellNested_iff.mpr hopened) fun t ht => ?_
    refine hdrained.inside (.token t) ?_
    rw [hout]
    exact List.mem_map_of_mem (List.mem_reverse.mpr ht)
  · cases hfinish

end
end Yard

/-! ## Texts that compile -/

/-- **Compiled literals are whole.**  The starts and the ends of arrays and objects are properly
nested in what a text compiles to, and so they are in every list of tokens inside it. -/
theorem sound_of_compile {text : String} {e : Expr} (h : compile text = .ok e) : Sound e := by
  -- on the length, since the texts inside lexemes, which are compiled too, are shorter
  induction hn : text.length using Nat.strongRecOn generalizing text e with
  | _ n ih =>
    rw [compile_eq] at h
    obtain ⟨ls, hls, hcompiled⟩ := exists_of_bind h
    obtain ⟨y, hy, hfinish⟩ := exists_of_bind hcompiled
    refine (Yard.sound_empty.foldlM (fun l hl s hs inner hinner => ?_) hy).finish hfinish
    have hlt := nested_length_lt hls l hl s hs
    rw [String.length_toList] at hlt
    exact ih s.length (hn ▸ hlt) hinner rfl

end Stencil.Expr
