import Mathlib.Data.List.Induction
import Stencil.Proofs.Expr.Nested
import Stencil.Proofs.Expr.Tree

/-!
# Compiling puts operators behind their operands

The yard takes in the lexemes of a well-formed tree and comes out with the tree's postfix listing
(`ofLexemes_lexemes`).

While it is at it, some operators of the tree wait on the stack: those whose last operand is the end
of what was taken in.  `Tree.pending` names them and `Tree.settled` what is put out before them, so
that the invariant is an equation: from output `out` and stack `stack` the lexemes of `t` lead to
the output `putOut t.settled out` and the stack `t.pending ++ stack` (`Tree.feed_lexemes`).  It
holds on every stack whose top the operators of `t` leave alone (`Guards`).  Inside brackets the top
is the bracket, which all operators leave alone, and `Owes` is what is left of the invariant.
-/
namespace Stencil.Expr

/-! ## Output and waiting operators -/

/-- The output with tokens put on it one after the other. -/
def putOut (ts : List Token) (out : List Slot) : List Slot :=
  ts.foldl (fun out t => .token t :: out) out

@[simp] theorem putOut_nil (out : List Slot) : putOut [] out = out := rfl

@[simp] theorem putOut_cons (t : Token) (ts : List Token) (out : List Slot) :
    putOut (t :: ts) out = putOut ts (.token t :: out) := rfl

@[simp] theorem putOut_append (ts us : List Token) (out : List Slot) :
    putOut (ts ++ us) out = putOut us (putOut ts out) := List.foldl_append

namespace Pending

/-- The precedence of an operator; zero for a bracket. -/
def rank (p : Pending) : Nat := p.precedence?.getD 0

/-- The tokens of waiting operators, the first to be put out first. -/
def tokens (ops : List Pending) : List Token := ops.filterMap token?

@[simp] theorem tokens_nil : tokens [] = [] := rfl

theorem tokens_cons {p : Pending} {t : Token} (ht : p.token? = some t) (ops : List Pending) :
    tokens (p :: ops) = t :: tokens ops := List.filterMap_cons_some ht

@[simp] theorem tokens_append (ops more : List Pending) :
    tokens (ops ++ more) = tokens ops ++ tokens more := List.filterMap_append

/-- It is an operator and no bracket. -/
def IsOperator (p : Pending) : Prop := p.token?.isSome

theorem IsOperator.eq {p : Pending} (h : p.IsOperator) :
    ∃ t, p.token? = some t ∧ p.precedence? = some p.rank := by
  cases p with
  | binary op => exact ⟨_, rfl, rfl⟩
  | unary op => exact ⟨_, rfl, rfl⟩
  | arrayStart | objectStart | paramStart | subStart => cases h

end Pending

/-- No operator waits on top of the stack: it is empty, or a bracket is on top. -/
def Closed : List Pending → Prop
  | [] => True
  | p :: _ => p.token? = none

namespace Yard

/-- Operators on top of the stack that are to be put out are put out. -/
theorem popWhile_append {keep : Nat → Bool} {ops : List Pending} (out : List Slot)
    (stack : List Pending) (hops : ∀ p ∈ ops, p.IsOperator)
    (hkeep : ∀ p ∈ ops, keep p.rank = true) :
    popWhile keep out (ops ++ stack) = popWhile keep (putOut (Pending.tokens ops) out) stack := by
  induction ops generalizing out with
  | nil => rfl
  | cons p ops ih =>
    obtain ⟨t, ht, hrank⟩ := (hops p List.mem_cons_self).eq
    have hrest := ih (.token t :: out) (fun q hq => hops q (List.mem_cons_of_mem p hq))
      (fun q hq => hkeep q (List.mem_cons_of_mem p hq))
    rw [List.cons_append, popWhile, ht, hrank]
    simp only [hkeep p List.mem_cons_self, if_true, hrest]
    rw [Pending.tokens_cons ht, putOut_cons]

theorem popWhile_closed {stack : List Pending} (h : Closed stack) (keep : Nat → Bool)
    (out : List Slot) : popWhile keep out stack = ⟨out, stack⟩ := by
  cases stack with
  | nil => rfl
  | cons p stack =>
    rw [popWhile, show p.token? = none from h]

/-- Closing a bracket puts out the operators that wait inside it. -/
theorem drainTo_append {ops : List Pending} {opener : Pending} (out : List Slot)
    (stack : List Pending) (hops : ∀ p ∈ ops, p.IsOperator) (hopener : opener.token? = none) :
    drainTo opener out (ops ++ opener :: stack)
      = .ok ⟨putOut (Pending.tokens ops) out, stack⟩ := by
  induction ops generalizing out with
  | nil => simp [drainTo]
  | cons p ops ih =>
    obtain ⟨t, ht, _⟩ := (hops p List.mem_cons_self).eq
    have hne : p ≠ opener := by
      rintro rfl
      rw [hopener] at ht
      cases ht
    have hrest := ih (.token t :: out) fun q hq => hops q (List.mem_cons_of_mem p hq)
    rw [List.cons_append, drainTo, if_neg hne, ht]
    simp only [hrest]
    rw [Pending.tokens_cons ht, putOut_cons]

/-- The tokens since a mark are taken out with it. -/
theorem takeGroup_putOut (acc ts : List Token) {mark : Slot} (out : List Slot)
    (hmark : ∀ t, mark ≠ .token t) :
    takeGroup acc (putOut ts (mark :: out)) = .ok (ts ++ acc, out) := by
  induction ts using List.reverseRecOn generalizing acc with
  | nil =>
    cases mark with
    | token t => exact absurd rfl (hmark t)
    | paramMark | subMark => rfl
  | append_singleton ts t ih =>
    rw [putOut_append, putOut_cons, putOut_nil, takeGroup, ih]
    simp

theorem tokens?_putOut (acc ts : List Token) :
    tokens? acc (putOut ts []) = some (ts ++ acc) := by
  induction ts using List.reverseRecOn generalizing acc with
  | nil => rfl
  | append_singleton ts t ih =>
    rw [putOut_append, putOut_cons, putOut_nil, tokens?, ih]
    simp

/-! ## Between brackets -/

/-- Beyond `out` and `stack` the yard holds the tokens `ts`, the last of which may be operators that
still wait. -/
def Owes (y : Yard) (ts : List Token) (out : List Slot) (stack : List Pending) : Prop :=
  ∃ ops settled, y = ⟨putOut settled out, ops ++ stack⟩ ∧ (∀ p ∈ ops, p.IsOperator) ∧
    ts = settled ++ Pending.tokens ops

variable {y : Yard} {ts : List Token} {out : List Slot} {stack : List Pending}

theorem owes_nil (out : List Slot) (stack : List Pending) :
    (⟨out, stack⟩ : Yard).Owes [] out stack :=
  ⟨[], [], rfl, fun _ hp => (by cases hp), rfl⟩

/-- At a comma nothing is owed any more. -/
theorem Owes.popAll (h : y.Owes ts out stack) (hstack : Closed stack) :
    popWhile (fun _ => true) y.output y.stack = ⟨putOut ts out, stack⟩ := by
  obtain ⟨ops, settled, rfl, hops, rfl⟩ := h
  rw [popWhile_append _ _ hops fun _ _ => rfl, popWhile_closed hstack, putOut_append]

theorem Owes.drain {opener : Pending} (h : y.Owes ts out (opener :: stack))
    (hopener : opener.token? = none) :
    drainTo opener y.output y.stack = .ok ⟨putOut ts out, stack⟩ := by
  obtain ⟨ops, settled, rfl, hops, rfl⟩ := h
  rw [drainTo_append _ _ hops hopener, putOut_append]

theorem Owes.close {opener : Pending} {mark : Slot} (h : y.Owes ts (mark :: out) (opener :: stack))
    (hopener : opener.token? = none) (hmark : ∀ t, mark ≠ .token t) :
    y.close opener = .ok (ts, ⟨out, stack⟩) := by
  have htake := takeGroup_putOut [] ts out hmark
  rw [Yard.close, h.drain hopener]
  simp only [List.append_nil] at htake
  show (takeGroup [] (putOut ts (mark :: out)) >>= _) = _
  rw [htake]
  rfl

theorem Owes.finish (h : y.Owes ts [] []) (text : String) : y.finish text = .ok ts := by
  rw [Yard.finish, h.popAll trivial]
  simp only [tokens?_putOut, List.append_nil]

end Yard

/-! ## Operators that come in -/

/-- Operators of one precedence nest to one side. -/
def associativityOf (precedence : Nat) : Associativity :=
  if precedence ∈ [30, 40, 150, 160] then .rightToLeft else .leftToRight

theorem BinaryOp.associativity_eq (op : BinaryOp) :
    op.associativity = associativityOf op.precedence := by
  cases op <;> rfl

theorem BinaryOp.precedence_le (op : BinaryOp) : op.precedence ≤ 160 := by
  cases op <;> decide

theorem BinaryOp.precedence_lt {op : BinaryOp} (helvis : op ≠ .elvis)
    (hshort : op ≠ .shortConditional) (hfull : op ≠ .conditional) : op.precedence < 160 := by
  revert helvis hshort hfull
  cases op <;> decide

theorem BinaryOp.precedence_ne_zero (op : BinaryOp) : op.precedence ≠ 0 := by
  cases op <;> decide

/-- Operators that bind as tightly as `limit` or more so leave the top of the stack alone. -/
def Guards (limit : Nat) : List Pending → Prop
  | [] => True
  | p :: _ => p.IsOperator → limit < p.rank ∨ limit = p.rank ∧ associativityOf limit = .rightToLeft

theorem guards_of_closed {stack : List Pending} (h : Closed stack) (limit : Nat) :
    Guards limit stack := by
  cases stack with
  | nil => trivial
  | cons p stack =>
    intro hp
    rw [Pending.IsOperator, show p.token? = none from h] at hp
    cases hp

theorem Guards.mono {limit precedence : Nat} {stack : List Pending} (h : Guards limit stack)
    (hle : precedence ≤ limit) : Guards precedence stack := by
  cases stack with
  | nil => trivial
  | cons p stack =>
    intro hp
    rcases h hp with hlt | ⟨heq, hright⟩
    · exact Or.inl (Nat.lt_of_le_of_lt hle hlt)
    · rcases Nat.lt_or_eq_of_le hle with hlt | rfl
      · exact Or.inl (heq ▸ hlt)
      · exact Or.inr ⟨heq, hright⟩

/-- Which operators on the stack one that comes in puts out. -/
def putsOut (precedence : Nat) (top : Nat) : Bool :=
  match associativityOf precedence with
  | .leftToRight => top ≤ precedence
  | .rightToLeft => top < precedence

namespace Yard

theorem flush_eq (y : Yard) (precedence : Nat) :
    y.flush precedence (associativityOf precedence)
      = popWhile (putsOut precedence) y.output y.stack := rfl

theorem popWhile_guards {precedence : Nat} {stack : List Pending} (h : Guards precedence stack)
    (out : List Slot) : popWhile (putsOut precedence) out stack = ⟨out, stack⟩ := by
  cases stack with
  | nil => rfl
  | cons p stack =>
    rw [popWhile]
    split
    · next t rank ht hrank =>
      have hp : p.IsOperator := by rw [Pending.IsOperator, ht]; rfl
      have hkeep : putsOut precedence rank = false := by
        have hguard := h hp
        rw [Pending.rank, hrank, Option.getD_some] at hguard
        rcases hguard with hlt | ⟨rfl, hright⟩
        · unfold putsOut
          split
          · exact decide_eq_false (by omega)
          · exact decide_eq_false (by omega)
        · rw [putsOut, hright]
          exact decide_eq_false (Nat.lt_irrefl _)
      rw [hkeep]
      rfl
    · rfl

/-- An operator that comes in puts out those that bind more tightly and nothing else. -/
theorem flush_append (precedence : Nat) {ops stack : List Pending} (out : List Slot)
    (hops : ∀ p ∈ ops, p.IsOperator) (hkeep : ∀ p ∈ ops, putsOut precedence p.rank = true)
    (hstack : Guards precedence stack) :
    (⟨out, ops ++ stack⟩ : Yard).flush precedence (associativityOf precedence)
      = ⟨putOut (Pending.tokens ops) out, stack⟩ := by
  rw [flush_eq, popWhile_append _ _ hops hkeep, popWhile_guards hstack]

/-! ## Colons -/

theorem popConditionals_append (n : Nat) (out : List Slot) {op : BinaryOp} (hop : op ≠ .conditional)
    (stack : List Pending) :
    popConditionals out (List.replicate n (.binary .conditional) ++ .binary op :: stack)
      = ⟨putOut (Pending.tokens (List.replicate n (.binary .conditional))) out,
          .binary op :: stack⟩ := by
  induction n generalizing out with
  | zero =>
    cases op with
    | conditional => exact absurd rfl hop
    | _ => rfl
  | succ n ih => exact ih _

/-- What may wait between a conditional and its colon: operators that bind more tightly, then full
conditionals. -/
structure Inner (tight : List Pending) (n : Nat) (ops : List Pending) : Prop where
  eq : ops = tight ++ List.replicate n (.binary .conditional)
  operators : ∀ p ∈ tight, p.IsOperator
  tight : ∀ p ∈ tight, p.rank < 160

/-- A colon puts out what binds more tightly than a conditional. -/
theorem flush_inner {ops tight : List Pending} {n : Nat} (h : Inner tight n ops) (out : List Slot)
    {op : BinaryOp} (hloose : op.precedence = 160) (stack : List Pending) :
    (⟨out, ops ++ .binary op :: stack⟩ : Yard).flush BinaryOp.conditional.precedence
        BinaryOp.conditional.associativity
      = ⟨putOut (Pending.tokens tight) out,
          List.replicate n (.binary .conditional) ++ .binary op :: stack⟩ := by
  obtain ⟨rfl, hops, htight⟩ := h
  have hguards :
      Guards 160 (List.replicate n (.binary .conditional) ++ .binary op :: stack) := by
    cases n with
    | zero => exact fun _ => Or.inr ⟨hloose.symm, rfl⟩
    | succ n => exact fun _ => Or.inr ⟨rfl, rfl⟩
  rw [List.append_assoc]
  exact flush_append 160 out hops (fun p hp => decide_eq_true (htight p hp)) hguards

/-- A colon completes the conditional that waits for it. -/
theorem colon_conditional {ops tight : List Pending} {n : Nat} (h : Inner tight n ops)
    (out : List Slot) (stack : List Pending) :
    (⟨out, ops ++ .binary .shortConditional :: stack⟩ : Yard).colon
      = .ok ⟨putOut (Pending.tokens ops) out, .binary .conditional :: stack⟩ := by
  rw [Yard.colon, flush_inner h out rfl stack, popConditionals_append _ _ (by decide), h.eq,
    Pending.tokens_append, putOut_append]

/-- Where no operator waits, a colon ends a key. -/
theorem colon_key {stack : List Pending} (h : Closed stack) (out : List Slot) :
    (⟨out, stack⟩ : Yard).colon = (takeKey out).map fun output => ⟨output, stack⟩ := by
  have hpop : ∀ out, popConditionals out stack = ⟨out, stack⟩ := by
    intro out
    unfold popConditionals
    split
    · cases h
    · rfl
  rw [Yard.colon, show BinaryOp.conditional.associativity = associativityOf 160 from rfl,
    show BinaryOp.conditional.precedence = 160 from rfl, flush_eq, popWhile_closed h, hpop]
  simp only
  split
  · cases h
  · cases takeKey out <;> rfl

end Yard

/-! ## What waits after a tree -/

namespace Tree

/-- The operators that wait once the tree is taken in, the innermost first. -/
def pending : Tree → List Pending
  | .unary op operand => operand.pending ++ [.unary op]
  | .binary op _ _ right => right.pending ++ [.binary op]
  | .conditional _ _ no => no.pending ++ [.binary .conditional]
  | _ => []

/-- The tokens that are put out before those. -/
def settled : Tree → List Token
  | .unary _ operand => operand.settled
  | .binary _ _ left right => left.tokens ++ right.settled
  | .conditional condition yes no => condition.tokens ++ (yes.tokens ++ no.settled)
  | t => t.tokens

theorem tokens_eq (t : Tree) : t.tokens = t.settled ++ Pending.tokens t.pending := by
  cases t with
  | unary op operand =>
    rw [Tree.tokens, settled, pending, Pending.tokens_append, operand.tokens_eq,
      List.append_assoc]
    rfl
  | binary op proper left right =>
    rw [Tree.tokens, settled, pending, Pending.tokens_append, right.tokens_eq]
    simp only [List.append_assoc]
    rfl
  | conditional condition yes no =>
    rw [Tree.tokens, settled, pending, Pending.tokens_append, no.tokens_eq]
    simp only [List.append_assoc]
    rfl
  | _ => exact (List.append_nil _).symm
termination_by structural t

/-- Outside operators nothing waits. -/
theorem pending_of_precedence {t : Tree} (h : t.precedence = 0) : t.pending = [] := by
  cases t with
  | unary op operand => cases h
  | binary op proper left right => exact absurd h op.precedence_ne_zero
  | conditional condition yes no => cases h
  | _ => rfl

theorem settled_of_precedence {t : Tree} (h : t.precedence = 0) : t.settled = t.tokens := by
  rw [t.tokens_eq, pending_of_precedence h, Pending.tokens_nil, List.append_nil]

theorem precedence_le (t : Tree) : t.precedence ≤ 160 := by
  cases t with
  | binary op proper left right => exact op.precedence_le
  | unary op operand => exact (by decide : 30 ≤ 160)
  | conditional condition yes no => exact Nat.le_refl 160
  | _ => exact Nat.zero_le 160

theorem FitsRight.le {t : Tree} {op : BinaryOp} (h : t.FitsRight op) :
    t.precedence ≤ op.precedence := by
  unfold FitsRight at h
  split at h
  · exact Nat.le_of_lt h
  · exact h

theorem FitsLeft.le {t : Tree} {op : BinaryOp} (h : t.FitsLeft op) :
    t.precedence ≤ op.precedence := by
  unfold FitsLeft at h
  split at h
  · exact h
  · exact Nat.le_of_lt h

/-- Only operators wait, and none that binds more loosely than the tree. -/
theorem pending_bound : ∀ {t : Tree}, t.WellFormed →
    ∀ p ∈ t.pending, p.IsOperator ∧ p.rank ≤ t.precedence
  | .unary op operand, h, p, hp => by
    rw [Tree.WellFormed] at h
    rcases List.mem_append.mp hp with hp | hp
    · obtain ⟨hop, hrank⟩ := pending_bound h.2 p hp
      exact ⟨hop, Nat.le_trans hrank h.1⟩
    · obtain rfl := List.mem_singleton.mp hp
      exact ⟨rfl, Nat.le_refl _⟩
  | .binary op _ left right, h, p, hp => by
    rw [Tree.WellFormed] at h
    obtain ⟨_, hfit, _, hright⟩ := h
    rcases List.mem_append.mp hp with hp | hp
    · obtain ⟨hop, hrank⟩ := pending_bound hright p hp
      exact ⟨hop, Nat.le_trans hrank hfit.le⟩
    · obtain rfl := List.mem_singleton.mp hp
      exact ⟨rfl, Nat.le_refl _⟩
  | .conditional condition yes no, h, p, hp => by
    rw [Tree.WellFormed] at h
    rcases List.mem_append.mp hp with hp | hp
    · obtain ⟨hop, hrank⟩ := pending_bound h.2.2.2.2 p hp
      exact ⟨hop, Nat.le_trans hrank no.precedence_le⟩
    · obtain rfl := List.mem_singleton.mp hp
      exact ⟨rfl, Nat.le_refl _⟩

/-- The operators of a tree on the left of an operator are put out when that comes in. -/
theorem putsOut_of_fitsLeft {t : Tree} {op : BinaryOp} (h : t.WellFormed) (hfit : t.FitsLeft op)
    (p : Pending) (hp : p ∈ t.pending) : putsOut op.precedence p.rank = true := by
  have hrank := (pending_bound h p hp).2
  unfold FitsLeft at hfit
  unfold putsOut
  rw [← op.associativity_eq]
  cases hop : op.associativity with
  | leftToRight =>
    rw [hop] at hfit
    exact decide_eq_true (Nat.le_trans hrank hfit)
  | rightToLeft =>
    rw [hop] at hfit
    exact decide_eq_true (Nat.lt_of_le_of_lt hrank hfit)

/-- The operator leaves alone what waits for the tree on its right. -/
theorem guards_of_fitsRight {t : Tree} (op : BinaryOp) (hfit : t.FitsRight op)
    (stack : List Pending) : Guards t.precedence (.binary op :: stack) := by
  intro _
  have hrank : (Pending.binary op).rank = op.precedence := rfl
  unfold FitsRight at hfit
  rw [hrank]
  cases hop : op.associativity with
  | leftToRight =>
    rw [hop] at hfit
    exact Or.inl hfit
  | rightToLeft =>
    rw [hop] at hfit
    rcases Nat.lt_or_eq_of_le hfit with hlt | heq
    · exact Or.inl hlt
    · rw [heq, ← op.associativity_eq]
      exact Or.inr ⟨rfl, hop⟩

/-- What waits after the middle of a conditional. -/
theorem exists_inner (t : Tree) (h : t.WellFormed) (hopen : t.NoOpenConditional) :
    ∃ tight n, Yard.Inner tight n t.pending := by
  have hbound := pending_bound h
  by_cases hlt : t.precedence < 160
  · exact ⟨t.pending, 0, (List.append_nil _).symm, fun p hp => (hbound p hp).1,
      fun p hp => Nat.lt_of_le_of_lt (hbound p hp).2 hlt⟩
  cases t with
  | binary op proper left right =>
    obtain ⟨helvis, hshort, _⟩ := hopen
    exact absurd (BinaryOp.precedence_lt helvis hshort proper) hlt
  | conditional condition yes no =>
    rw [Tree.WellFormed] at h
    obtain ⟨tight, n, heq, hops, htight⟩ := no.exists_inner h.2.2.2.2 hopen.2.2
    refine ⟨tight, n + 1, ?_, hops, htight⟩
    rw [pending, heq, List.append_assoc, ← List.replicate_succ']
  | unary op operand => exact absurd (by decide : 30 < 160) hlt
  | _ => exact absurd (by decide : 0 < 160) hlt
termination_by structural t

end Tree

/-! ## Taking in lexemes -/

namespace Yard

/-- Take in lexemes, compiling the texts inside them. -/
def feed (y : Yard) (ls : List Lexeme) : Except Failure Yard := ls.foldlM (step compile) y

@[simp] theorem feed_nil (y : Yard) : y.feed [] = .ok y := rfl

theorem feed_cons {y y' : Yard} {l : Lexeme} (h : step compile y l = .ok y') (ls : List Lexeme) :
    y.feed (l :: ls) = y'.feed ls := by
  rw [feed, List.foldlM_cons, h]
  rfl

theorem feed_append {y y' : Yard} {ls : List Lexeme} (h : y.feed ls = .ok y')
    (ms : List Lexeme) : y.feed (ls ++ ms) = y'.feed ms := by
  rw [feed, List.foldlM_append, show List.foldlM (step compile) y ls = .ok y' from h]
  rfl

theorem step_binary (y : Yard) {op : BinaryOp} (h : op ≠ .conditional) :
    step compile y op.lexeme
      = .ok ((y.flush op.precedence (associativityOf op.precedence)).wait (.binary op)) := by
  rw [← op.associativity_eq]
  cases op with
  | conditional => exact absurd rfl h
  | _ => rfl

theorem step_unary (y : Yard) (op : UnaryOp) :
    step compile y (.unary op.symbol)
      = .ok ((y.flush op.precedence (associativityOf op.precedence)).wait (.unary op)) := by
  cases op <;> rfl

/-- A comma puts out what waits before it. -/
theorem step_comma {y : Yard} {ts : List Token} {out : List Slot} {stack : List Pending}
    (h : y.Owes ts out stack) (hstack : Closed stack) :
    step compile y .comma = .ok ⟨putOut (ts ++ [.comma]) out, stack⟩ := by
  rw [step, h.popAll hstack, putOut_append]
  rfl

/-- The colon after a key. -/
theorem step_colon_key {out output : List Slot} {stack : List Pending} (hstack : Closed stack)
    (hkey : takeKey out = .ok output) :
    step compile ⟨out, stack⟩ (.binary ":") = .ok ⟨output, stack⟩ := by
  rw [step, if_pos rfl, colon_key hstack, hkey]
  rfl

/-- A closing parenthesis of arguments gives them to what stands before the parentheses. -/
theorem step_paramEnd {y : Yard} {ts : List Token} {out : List Slot} {stack : List Pending}
    (h : y.Owes ts (.paramMark :: out) (.paramStart :: stack)) :
    step compile y .paramEnd = .ok ((⟨out, stack⟩ : Yard).attach ts) := by
  rw [step, h.close rfl fun t => by simp]
  rfl

theorem step_subexprEnd {y : Yard} {ts : List Token} {out : List Slot} {stack : List Pending}
    (h : y.Owes ts (.subMark :: out) (.subStart :: stack)) :
    step compile y .subexprEnd = .ok ⟨.token (.group ts false) :: out, stack⟩ := by
  rw [step, h.close rfl fun t => by simp]
  rfl

theorem step_arrayEnd {y : Yard} {ts : List Token} {out : List Slot} {stack : List Pending}
    (h : y.Owes ts (.token .arrayStart :: out) (.arrayStart :: stack)) :
    step compile y .arrayEnd = .ok ⟨putOut (.arrayStart :: (ts ++ [.arrayEnd])) out, stack⟩ := by
  rw [step, h.drain rfl, putOut_cons, putOut_append]
  rfl

theorem step_objectEnd {y : Yard} {ts : List Token} {out : List Slot} {stack : List Pending}
    (h : y.Owes ts (.token .objectStart :: out) (.objectStart :: stack)) :
    step compile y .objectEnd
      = .ok ⟨putOut (.objectStart :: (ts ++ [.objectEnd])) out, stack⟩ := by
  rw [step, h.drain rfl, putOut_cons, putOut_append]
  rfl

/-- Two runs of tokens one after the other. -/
theorem Owes.append {y : Yard} (ts : List Token) {us : List Token} {out : List Slot}
    {stack : List Pending}
    (h : y.Owes us (putOut ts out) stack) : y.Owes (ts ++ us) out stack := by
  obtain ⟨ops, settled, rfl, hops, rfl⟩ := h
  exact ⟨ops, ts ++ settled, by rw [putOut_append], hops, (List.append_assoc _ _ _).symm⟩

end Yard

/-- A tree taken in where no operator waits. -/
theorem Tree.owes {t : Tree} (h : t.WellFormed) (out : List Slot) (stack : List Pending) :
    (⟨putOut t.settled out, t.pending ++ stack⟩ : Yard).Owes t.tokens out stack :=
  ⟨t.pending, t.settled, rfl, fun p hp => (pending_bound h p hp).1, t.tokens_eq⟩

/-! ## Brackets around items -/

section Brackets
variable {y : Yard} {ls : List Lexeme} {ts : List Token} {out : List Slot} {stack : List Pending}

theorem feed_inParens
    (h : (⟨.paramMark :: out, .paramStart :: stack⟩ : Yard).feed ls = .ok y)
    (howes : y.Owes ts (.paramMark :: out) (.paramStart :: stack)) :
    (⟨out, stack⟩ : Yard).feed (inParens ls) = .ok ((⟨out, stack⟩ : Yard).attach ts) := by
  rw [inParens, Yard.feed_cons rfl]
  exact (Yard.feed_append h _).trans
    ((Yard.feed_cons (Yard.step_paramEnd howes) _).trans (Yard.feed_nil _))

theorem feed_group (h : (⟨.subMark :: out, .subStart :: stack⟩ : Yard).feed ls = .ok y)
    (howes : y.Owes ts (.subMark :: out) (.subStart :: stack)) (ms : List Lexeme) :
    (⟨out, stack⟩ : Yard).feed (.subexprStart :: (ls ++ .subexprEnd :: ms))
      = (⟨.token (.group ts false) :: out, stack⟩ : Yard).feed ms := by
  rw [Yard.feed_cons rfl]
  exact (Yard.feed_append h _).trans (Yard.feed_cons (Yard.step_subexprEnd howes) _)

theorem feed_array
    (h : (⟨.token .arrayStart :: out, .arrayStart :: stack⟩ : Yard).feed ls = .ok y)
    (howes : y.Owes ts (.token .arrayStart :: out) (.arrayStart :: stack)) :
    (⟨out, stack⟩ : Yard).feed (.arrayStart :: (ls ++ [.arrayEnd]))
      = .ok ⟨putOut (.arrayStart :: (ts ++ [.arrayEnd])) out, stack⟩ := by
  rw [Yard.feed_cons rfl]
  exact (Yard.feed_append h _).trans
    ((Yard.feed_cons (Yard.step_arrayEnd howes) _).trans (Yard.feed_nil _))

theorem feed_object
    (h : (⟨.token .objectStart :: out, .objectStart :: stack⟩ : Yard).feed ls = .ok y)
    (howes : y.Owes ts (.token .objectStart :: out) (.objectStart :: stack)) :
    (⟨out, stack⟩ : Yard).feed (.objectStart :: (ls ++ [.objectEnd]))
      = .ok ⟨putOut (.objectStart :: (ts ++ [.objectEnd])) out, stack⟩ := by
  rw [Yard.feed_cons rfl]
  exact (Yard.feed_append h _).trans
    ((Yard.feed_cons (Yard.step_objectEnd howes) _).trans (Yard.feed_nil _))

/-- The lexemes of a whole text come to the tokens that they owe. -/
theorem ofLexemes_of_owes (h : (⟨[], []⟩ : Yard).feed ls = .ok y) (howes : y.Owes ts [] [])
    (text : String) : ofLexemes compile text ls = .ok ts := by
  rw [ofLexemes, show ls.foldlM (Yard.step compile) {} = .ok y from h]
  exact howes.finish text

theorem compile_of_owes {text : String} (hls : lexemes text.toList = .ok ls)
    (h : (⟨[], []⟩ : Yard).feed ls = .ok y) (howes : y.Owes ts [] []) :
    compile text = .ok ts := by
  rw [compile_eq, hls]
  exact ofLexemes_of_owes h howes text

end Brackets

/-! ## Trees -/

/-- After a token that takes arguments and has none, parentheses are its arguments. -/
def Takes (mk : Option (List Token) → Token) : Prop :=
  ∀ out stack ts,
    (⟨.token (mk none) :: out, stack⟩ : Yard).attach ts = ⟨.token (mk (some ts)) :: out, stack⟩

/-- After any other tree they call it. -/
theorem attach_tokens {t : Tree} (hprecedence : t.precedence = 0)
    (htakes : t.takesArguments = false) (ts : List Token) (out : List Slot)
    (stack : List Pending) :
    (⟨putOut t.tokens out, stack⟩ : Yard).attach ts
      = ⟨putOut (t.tokens ++ [.group ts true]) out, stack⟩ := by
  cases t with
  | filter input name args | test input name negated args | keyBrackets container text key args =>
    cases args with
    | none => cases htakes
    | some args =>
      simp only [Tree.tokens, argTokens, putOut_append]
      rfl
  | unary op operand => cases hprecedence
  | binary op proper left right => exact absurd hprecedence op.precedence_ne_zero
  | conditional condition yes no => cases hprecedence
  | _ =>
    simp only [Tree.tokens, putOut_cons, putOut_append]
    rfl

/-- What a tree that is no operator leaves behind. -/
theorem feed_tight {t : Tree} (hprecedence : t.precedence = 0) {ls : List Lexeme} {y : Yard}
    {out : List Slot} {stack : List Pending}
    (h : y.feed ls = .ok ⟨putOut t.settled out, t.pending ++ stack⟩) :
    y.feed ls = .ok ⟨putOut t.tokens out, stack⟩ := by
  rwa [Tree.settled_of_precedence hprecedence, Tree.pending_of_precedence hprecedence] at h

/-- The left operand of an operator leaves nothing behind when the operator comes in. -/
theorem flush_left {t : Tree} (op : BinaryOp) (h : t.WellFormed) (hfit : t.FitsLeft op)
    {stack : List Pending} (hstack : Guards op.precedence stack) (out : List Slot) :
    (⟨putOut t.settled out, t.pending ++ stack⟩ : Yard).flush op.precedence
        (associativityOf op.precedence)
      = ⟨putOut t.tokens out, stack⟩ := by
  rw [Yard.flush_append _ _ (fun p hp => (Tree.pending_bound h p hp).1)
    (Tree.putsOut_of_fitsLeft h hfit) hstack, t.tokens_eq, putOut_append]

/-- A `?` comes in as the short conditional. -/
theorem step_question {t : Tree} (h : t.WellFormed) (hfit : t.FitsLeft .conditional)
    {stack : List Pending} (hstack : Guards BinaryOp.conditional.precedence stack)
    (out : List Slot) :
    Yard.step compile ⟨putOut t.settled out, t.pending ++ stack⟩ (.binary "?")
      = .ok ⟨putOut t.tokens out, .binary .shortConditional :: stack⟩ := by
  refine (Yard.step_binary _ (by decide : BinaryOp.shortConditional ≠ .conditional)).trans ?_
  rw [flush_left .shortConditional h hfit hstack]
  rfl

mutual

/-- **The invariant.**  Taking in the lexemes of a tree puts out its settled tokens and leaves its
pending operators on the stack. -/
theorem Tree.feed_lexemes (t : Tree) (h : t.WellFormed) (out : List Slot) (stack : List Pending)
    (hstack : Guards t.precedence stack) :
    (⟨out, stack⟩ : Yard).feed t.lexemes
      = .ok ⟨putOut t.settled out, t.pending ++ stack⟩ := by
  cases t with
  | lambda params text body =>
    rw [Tree.WellFormed] at h
    -- the body is compiled in a yard of its own
    have hbody := compile_of_owes h.1 (body.feed_lexemes h.2 [] [] trivial) (Tree.owes h.2 [] [])
    rw [Tree.lexemes]
    refine Yard.feed_cons ?_ []
    rw [Yard.step, hbody]
    rfl
  | function name args =>
    rw [Tree.WellFormed] at h
    -- the start of the parentheses closes the stack, whatever waits there
    obtain ⟨y, hy, howes⟩ := feed_itemLexemes args h
      (.paramMark :: .token (.function name none) :: out) (.paramStart :: stack) rfl
    rw [Tree.lexemes, Yard.feed_cons rfl]
    exact feed_inParens hy howes
  | filter input name args =>
    rw [Tree.WellFormed] at h
    obtain ⟨hprecedence, hinput, hargs⟩ := h
    -- what is filtered is no operator, so nothing of it is pending when the filter comes in
    have hin := feed_tight hprecedence
      (input.feed_lexemes hinput out stack (by rwa [hprecedence]))
    rw [Tree.lexemes, Yard.feed_append hin, Yard.feed_cons rfl,
      Tree.settled_of_precedence (t := .filter input name args) rfl, Tree.tokens,
      putOut_append]
    exact feed_argLexemes args hargs (.filter name) (fun _ _ _ => rfl) _ _
  | test input name negated args =>
    rw [Tree.WellFormed] at h
    obtain ⟨hprecedence, hinput, hargs⟩ := h
    have hin := feed_tight hprecedence
      (input.feed_lexemes hinput out stack (by rwa [hprecedence]))
    rw [Tree.lexemes, Yard.feed_append hin, Yard.feed_cons rfl,
      Tree.settled_of_precedence (t := .test input name negated args) rfl, Tree.tokens,
      putOut_append]
    exact feed_argLexemes args hargs (.test name negated) (fun _ _ _ => rfl) _ _
  | keyPeriod container key =>
    rw [Tree.WellFormed] at h
    have hin := feed_tight h.1
      (container.feed_lexemes h.2 out stack (by rwa [h.1]))
    rw [Tree.lexemes, Yard.feed_append hin,
      Tree.settled_of_precedence (t := .keyPeriod container key) rfl, Tree.tokens, putOut_append]
    rfl
  | keyBrackets container text key args =>
    rw [Tree.WellFormed] at h
    obtain ⟨hprecedence, hcontainer, htext, hkey, hargs⟩ := h
    have hin := feed_tight hprecedence
      (container.feed_lexemes hcontainer out stack (by rwa [hprecedence]))
    obtain ⟨y, hy, howes⟩ := feed_itemLexemes key hkey [] [] trivial
    have hstep : Yard.step compile ⟨putOut container.tokens out, stack⟩ (.keyBrackets text)
        = .ok ⟨.token (.keyBrackets (itemTokens key) none) :: putOut container.tokens out,
            stack⟩ := by
      rw [Yard.step, compile_of_owes htext hy howes]
      rfl
    rw [Tree.lexemes, Yard.feed_append hin, Yard.feed_cons hstep,
      Tree.settled_of_precedence (t := .keyBrackets container text key args) rfl, Tree.tokens,
      putOut_append]
    exact feed_argLexemes args hargs (.keyBrackets (itemTokens key)) (fun _ _ _ => rfl) _ _
  | slice whole start stop =>
    rw [Tree.WellFormed] at h
    have hin := feed_tight h.1
      (whole.feed_lexemes h.2 out stack (by rwa [h.1]))
    rw [Tree.lexemes, Yard.feed_append hin,
      Tree.settled_of_precedence (t := .slice whole start stop) rfl, Tree.tokens, putOut_append]
    rfl
  | call callee args =>
    rw [Tree.WellFormed] at h
    obtain ⟨hprecedence, htakes, hcallee, hargs⟩ := h
    have hin := feed_tight hprecedence
      (callee.feed_lexemes hcallee out stack (by rwa [hprecedence]))
    obtain ⟨y, hy, howes⟩ := feed_itemLexemes args hargs (.paramMark :: putOut callee.tokens out)
      (.paramStart :: stack) rfl
    rw [Tree.lexemes, Yard.feed_append hin, feed_inParens hy howes,
      attach_tokens hprecedence htakes]
    rfl
  | unary op operand =>
    rw [Tree.WellFormed] at h
    -- the operator waits on the stack for its operand, which binds tighter or is of the same kind
    have hguards : Guards operand.precedence (.unary op :: stack) := fun _ =>
      (Nat.lt_or_eq_of_le h.1).imp id fun heq => ⟨heq, heq ▸ rfl⟩
    have hstep : Yard.step compile ⟨out, stack⟩ (.unary op.symbol)
        = .ok ⟨out, .unary op :: stack⟩ := by
      rw [Yard.step_unary, Yard.flush_eq,
        Yard.popWhile_guards (show Guards op.precedence stack from hstack)]
      rfl
    rw [Tree.lexemes, Yard.feed_cons hstep, operand.feed_lexemes h.2 _ _ hguards, Tree.settled,
      Tree.pending, List.append_assoc]
    rfl
  | binary op proper left right =>
    rw [Tree.WellFormed] at h
    obtain ⟨hfitLeft, hfitRight, hleft, hright⟩ := h
    -- the operator puts out what is pending of its left operand, and nothing below
    have hin := left.feed_lexemes hleft out stack (hstack.mono hfitLeft.le)
    have hstep : Yard.step compile ⟨putOut left.settled out, left.pending ++ stack⟩ op.lexeme
        = .ok ⟨putOut left.tokens out, .binary op :: stack⟩ := by
      rw [Yard.step_binary _ proper, flush_left op hleft hfitLeft hstack]
      rfl
    rw [Tree.lexemes, Yard.feed_append hin, Yard.feed_cons hstep,
      right.feed_lexemes hright _ _ (Tree.guards_of_fitsRight op hfitRight stack),
      Tree.settled, Tree.pending, putOut_append, List.append_assoc]
    rfl
  | conditional condition yes no =>
    rw [Tree.WellFormed] at h
    obtain ⟨hfit, hopen, hcondition, hyes, hno⟩ := h
    have hin := condition.feed_lexemes hcondition out stack (hstack.mono hfit.le)
    -- `:` makes the short conditional the full one
    have hquestion := step_question hcondition hfit hstack out
    have hmiddle := yes.feed_lexemes hyes (putOut condition.tokens out) _
      (Tree.guards_of_fitsRight .shortConditional yes.precedence_le stack)
    -- no short conditional is pending in the middle, so `:` finds the right `?`
    obtain ⟨tight, n, hinner⟩ := yes.exists_inner hyes hopen
    have hcolon : Yard.step compile
          ⟨putOut yes.settled (putOut condition.tokens out),
            yes.pending ++ .binary .shortConditional :: stack⟩ (.binary ":")
        = .ok ⟨putOut yes.tokens (putOut condition.tokens out),
            .binary .conditional :: stack⟩ := by
      rw [Yard.step, if_pos rfl, Yard.colon_conditional hinner, yes.tokens_eq, putOut_append]
    rw [Tree.lexemes, Yard.feed_append hin, Yard.feed_cons hquestion, Yard.feed_append hmiddle,
      Yard.feed_cons hcolon, no.feed_lexemes hno _ _
        (Tree.guards_of_fitsRight .conditional no.precedence_le stack),
      Tree.settled, Tree.pending, putOut_append, putOut_append, List.append_assoc]
    rfl
  | group items =>
    rw [Tree.WellFormed] at h
    obtain ⟨y, hy, howes⟩ := feed_itemLexemes items h (.subMark :: out)
      (.subStart :: stack) rfl
    rw [Tree.lexemes, feed_group hy howes]
    rfl
  | array items =>
    rw [Tree.WellFormed] at h
    obtain ⟨y, hy, howes⟩ := feed_itemLexemes items h (.token .arrayStart :: out)
      (.arrayStart :: stack) rfl
    rw [Tree.lexemes, feed_array hy howes]
    rfl
  | object entries =>
    rw [Tree.WellFormed] at h
    obtain ⟨y, hy, howes⟩ := feed_entryLexemes entries h (.token .objectStart :: out)
      (.objectStart :: stack) rfl
    rw [Tree.lexemes, feed_object hy howes]
    rfl
  | _ => rfl
termination_by structural t

/-- Items leave nothing behind but what the last of them owes. -/
theorem feed_itemLexemes (ts : List Tree) (h : itemsWellFormed ts) (out : List Slot)
    (stack : List Pending) (hstack : Closed stack) :
    ∃ y, (⟨out, stack⟩ : Yard).feed (itemLexemes ts) = .ok y ∧
      y.Owes (itemTokens ts) out stack := by
  cases ts with
  | nil => exact ⟨_, rfl, Yard.owes_nil out stack⟩
  | cons t rest =>
    rw [itemsWellFormed] at h
    obtain ⟨y, hy, howes⟩ := feed_moreLexemes rest h.2 hstack (Tree.owes h.1 out stack)
    rw [itemLexemes, Yard.feed_append (t.feed_lexemes h.1 _ _ (guards_of_closed hstack _))]
    exact ⟨y, hy, howes⟩
termination_by structural ts

theorem feed_moreLexemes (rest : List Tree) (h : itemsWellFormed rest) {y : Yard}
    {ts : List Token} {out : List Slot} {stack : List Pending} (hstack : Closed stack)
    (howes : y.Owes ts out stack) :
    ∃ y', y.feed (moreLexemes rest) = .ok y' ∧ y'.Owes (ts ++ moreTokens rest) out stack := by
  cases rest with
  | nil => exact ⟨y, rfl, by rwa [moreTokens, List.append_nil]⟩
  | cons t rest =>
    rw [itemsWellFormed] at h
    obtain ⟨y', hy', howes'⟩ := feed_moreLexemes rest h.2 hstack
      (Tree.owes h.1 (putOut (ts ++ [.comma]) out) stack)
    rw [moreLexemes, Yard.feed_cons (Yard.step_comma howes hstack),
      Yard.feed_append (t.feed_lexemes h.1 _ _ (guards_of_closed hstack _))]
    refine ⟨y', hy', ?_⟩
    rw [moreTokens, ← List.singleton_append (l := t.tokens ++ _), ← List.append_assoc ts]
    exact howes'.append _
termination_by structural rest

theorem feed_argLexemes (args : Option (List Tree)) (h : argsWellFormed args)
    (mk : Option (List Token) → Token) (hmk : Takes mk) (out : List Slot) (stack : List Pending) :
    (⟨.token (mk none) :: out, stack⟩ : Yard).feed (argLexemes args)
      = .ok ⟨.token (mk (argTokens args)) :: out, stack⟩ := by
  cases args with
  | none => rfl
  | some args =>
    rw [argsWellFormed] at h
    obtain ⟨y, hy, howes⟩ := feed_itemLexemes args h (.paramMark :: .token (mk none) :: out)
      (.paramStart :: stack) rfl
    rw [argLexemes, feed_inParens hy howes, hmk, argTokens]
termination_by structural args

theorem feed_entryLexemes (entries : List Entry) (h : entriesWellFormed entries)
    (out : List Slot) (stack : List Pending) (hstack : Closed stack) :
    ∃ y, (⟨out, stack⟩ : Yard).feed (entryLexemes entries) = .ok y ∧
      y.Owes (entryTokens entries) out stack := by
  cases entries with
  | nil => exact ⟨_, rfl, Yard.owes_nil out stack⟩
  | cons e rest =>
    rw [entriesWellFormed] at h
    obtain ⟨y, hy, howes⟩ := e.feed_lexemes h.1 out stack hstack
    obtain ⟨y', hy', howes'⟩ := feed_moreEntryLexemes rest h.2 hstack howes
    rw [entryLexemes, Yard.feed_append hy]
    exact ⟨y', hy', howes'⟩
termination_by structural entries

theorem feed_moreEntryLexemes (rest : List Entry) (h : entriesWellFormed rest) {y : Yard}
    {ts : List Token} {out : List Slot} {stack : List Pending} (hstack : Closed stack)
    (howes : y.Owes ts out stack) :
    ∃ y', y.feed (moreEntryLexemes rest) = .ok y' ∧
      y'.Owes (ts ++ moreEntryTokens rest) out stack := by
  cases rest with
  | nil => exact ⟨y, rfl, by rwa [moreEntryTokens, List.append_nil]⟩
  | cons e rest =>
    rw [entriesWellFormed] at h
    obtain ⟨y', hy', howes'⟩ := e.feed_lexemes h.1 (putOut (ts ++ [.comma]) out) stack hstack
    obtain ⟨y'', hy'', howes''⟩ := feed_moreEntryLexemes rest h.2 hstack howes'
    rw [moreEntryLexemes, Yard.feed_cons (Yard.step_comma howes hstack), Yard.feed_append hy']
    refine ⟨y'', hy'', ?_⟩
    rw [moreEntryTokens, ← List.singleton_append (l := e.tokens ++ _), ← List.append_assoc ts]
    exact howes''.append _
termination_by structural rest

/-- A key leaves its token where the value goes on. -/
theorem Entry.feed_lexemes (e : Entry) (h : e.WellFormed) (out : List Slot)
    (stack : List Pending) (hstack : Closed stack) :
    ∃ y, (⟨out, stack⟩ : Yard).feed e.lexemes = .ok y ∧ y.Owes e.tokens out stack := by
  cases e with
  | plain key value =>
    rw [Entry.WellFormed] at h
    have hkey : (⟨out, stack⟩ : Yard).feed [key.lexeme, .binary ":"]
        = .ok ⟨.token (.objectKey key.text) :: out, stack⟩ := by
      cases key with
      | name key | string key | number key =>
        exact (Yard.feed_cons rfl _).trans (Yard.feed_cons (Yard.step_colon_key hstack rfl) [])
    have hvalue := value.feed_lexemes h (.token (.objectKey key.text) :: out) stack
      (guards_of_closed hstack _)
    exact ⟨_, (Yard.feed_append hkey _).trans hvalue,
      Yard.Owes.append [.objectKey key.text] (Tree.owes h _ stack)⟩
  | computed key value =>
    rw [Entry.WellFormed] at h
    obtain ⟨y, hy, howes⟩ := feed_itemLexemes key h.1 (.subMark :: out)
      (.subStart :: stack) rfl
    have hcolon : Yard.step compile ⟨.token (.group (itemTokens key) false) :: out, stack⟩
          (.binary ":")
        = .ok ⟨.token (.computedKey (itemTokens key)) :: out, stack⟩ :=
      Yard.step_colon_key hstack rfl
    have hvalue := value.feed_lexemes h.2 (.token (.computedKey (itemTokens key)) :: out) stack
      (guards_of_closed hstack _)
    exact ⟨_, (feed_group hy howes _).trans ((Yard.feed_cons hcolon _).trans hvalue),
      Yard.Owes.append [.computedKey (itemTokens key)] (Tree.owes h.2 _ stack)⟩
termination_by structural e

end

/-! ## Whole expressions -/

/-- **Operators come behind their operands.**  The lexemes of every tree that can be written compile
to the tokens of the tree, whatever text they were read from. -/
theorem ofLexemes_lexemes (t : Tree) (h : t.WellFormed) (text : String) :
    ofLexemes compile text t.lexemes = .ok t.tokens :=
  ofLexemes_of_owes (t.feed_lexemes h [] [] trivial) (Tree.owes h [] []) text

/-- `-a ** b ? [c] : (v) => v * v` waits with its operators for the colon and for the end. -/
theorem ofLexemes_lexemes_conditional :
    ofLexemes compile ""
        [.unary "-", .variable "a", .binary "**", .variable "b", .binary "?", .arrayStart,
          .variable "c", .arrayEnd, .binary ":", .lambda ["v"] "v * v"]
      = .ok [.variable "a", .unary .neg, .variable "b", .binary .pow, .arrayStart, .variable "c",
          .arrayEnd, .lambda ["v"] [.variable "v", .variable "v", .binary .mul],
          .binary .conditional] := by
  have hbody : lexemes ['v', ' ', '*', ' ', 'v']
      = .ok [.variable "v", .binary "*", .variable "v"] := rfl
  have h : Tree.WellFormed (.conditional
      (.binary .pow (by decide) (.unary .neg (.variable "a")) (.variable "b"))
      (.array [.variable "c"])
      (.lambda ["v"] "v * v" (.binary .mul (by decide) (.variable "v") (.variable "v")))) := by
    simp [Tree.WellFormed, itemsWellFormed, Tree.FitsLeft, Tree.FitsRight, Tree.precedence,
      Tree.NoOpenConditional, BinaryOp.associativity, BinaryOp.precedence, UnaryOp.precedence,
      Tree.lexemes, BinaryOp.lexeme, BinaryOp.symbol?, hbody]
  exact ofLexemes_lexemes _ h ""

/-- A text that writes a tree compiles to the tokens of the tree. -/
theorem compile_eq_tokens {t : Tree} (h : t.WellFormed) {text : String}
    (htext : lexemes text.toList = .ok t.lexemes) : compile text = .ok t.tokens :=
  compile_of_owes htext (t.feed_lexemes h [] [] trivial) (Tree.owes h [] [])

end Stencil.Expr
