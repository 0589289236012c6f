import Mathlib.Data.List.Chain
import Stencil.Proofs.Expr.PostfixOrder

/-!
# Which question mark a colon closes

A colon either completes a conditional or ends the key of an entry, and the yard tells which by the
operators that wait.  Between brackets these are ordered, the loosest one lowest
(`Yard.Ordered.feed`), so a colon can put out all that stands above a waiting `?` and complete it,
except for a `?:`, which binds just as loosely.  That one stays, the colon does not see the `?`
below, and takes the operand before it for a key (`Yard.Ordered.colon`).

So a conditional compiles as it is written if its middle shows no `?:` outside brackets.  If it
shows one, the last token of the middle becomes a key, or the compilation fails because it cannot
be one (`ofLexemes_conditional`, `compile_elvis_colon`).
-/
namespace Stencil.Expr

/-! ## The order of the stack -/

/-- The operators that bind as loosely as a conditional. -/
theorem Pending.eq_of_loose {p : Pending} (hp : p.IsOperator) (hloose : ¬ p.rank < 160) :
    p = .binary .conditional ∨ p = .binary .elvis ∨ p = .binary .shortConditional := by
  cases p with
  | unary op => exact absurd (by decide : 30 < 160) hloose
  | binary op =>
    by_cases hfull : op = .conditional
    · exact .inl (congrArg _ hfull)
    by_cases helvis : op = .elvis
    · exact .inr (.inl (congrArg _ helvis))
    by_cases hshort : op = .shortConditional
    · exact .inr (.inr (congrArg _ hshort))
    · exact absurd (BinaryOp.precedence_lt helvis hshort hfull) hloose
  | arrayStart | objectStart | paramStart | subStart => cases hp

/-- Between brackets each operator binds at least as tightly as the one that waits below it. -/
def Yard.Ordered (stack : List Pending) : Prop :=
  stack.IsChain fun p q => p.IsOperator → q.IsOperator → p.rank ≤ q.rank

namespace Yard
variable {y y' : Yard} {stack : List Pending}

theorem popWhile_suffix (keep : Nat → Bool) (out : List Slot) (stack : List Pending) :
    (popWhile keep out stack).stack <:+ stack := by
  induction stack generalizing out with
  | nil => exact List.suffix_rfl
  | cons p stack ih =>
    rw [popWhile]
    split
    · split
      · exact (ih _).trans (List.suffix_cons p stack)
      · exact List.suffix_rfl
    · exact List.suffix_rfl

theorem flush_suffix (y : Yard) (precedence : Nat) (associativity : Associativity) :
    (y.flush precedence associativity).stack <:+ y.stack := popWhile_suffix _ _ _

theorem popConditionals_suffix (out : List Slot) (stack : List Pending) :
    (popConditionals out stack).stack <:+ stack := by
  induction stack generalizing out with
  | nil => exact List.suffix_rfl
  | cons p stack ih =>
    unfold popConditionals
    split
    · next heq =>
      obtain ⟨-, rfl⟩ := List.cons.inj heq
      exact (ih _).trans (List.suffix_cons _ _)
    · exact List.suffix_rfl

theorem drainTo_suffix {opener : Pending} {out : List Slot} {stack : List Pending}
    (h : drainTo opener out stack = .ok y) : y.stack <:+ stack := by
  induction stack generalizing out with
  | nil => cases h
  | cons p stack ih =>
    rw [drainTo] at h
    split at h
    · cases h
      exact List.suffix_cons p stack
    · split at h
      · exact (ih h).trans (List.suffix_cons p stack)
      · cases h

theorem close_suffix {opener : Pending} {ts : List Token} (h : y.close opener = .ok (ts, y')) :
    y'.stack <:+ y.stack := by
  obtain ⟨drained, hdrain, h⟩ := exists_of_bind h
  obtain ⟨⟨tokens, output⟩, -, ⟨⟩⟩ := exists_of_bind h
  have hsuffix := drainTo_suffix hdrain
  exact hsuffix

theorem attach_stack (y : Yard) (ts : List Token) : (y.attach ts).stack = y.stack := by
  unfold attach
  split <;> rfl

/-- What an operator that comes in leaves on top of the stack binds no more tightly. -/
theorem rank_of_flush {precedence : Nat} {q : Pending} {rest : List Pending}
    (h : (popWhile (putsOut precedence) y.output stack).stack = q :: rest) (hq : q.IsOperator) :
    precedence ≤ q.rank := by
  generalize y.output = out at h
  induction stack generalizing out with
  | nil => cases h
  | cons p stack ih =>
    rw [popWhile] at h
    split at h
    · next t rank ht hrank =>
      split at h
      · exact ih _ h
      · next hkeep =>
        obtain ⟨rfl, -⟩ := List.cons.inj h
        rw [Pending.rank, hrank, Option.getD_some]
        unfold putsOut at hkeep
        split at hkeep <;> simp only [decide_eq_true_eq] at hkeep <;> omega
    · next hnone =>
      obtain ⟨rfl, -⟩ := List.cons.inj h
      obtain ⟨t, ht, hrank⟩ := hq.eq
      exact (hnone t _ ht hrank).elim

namespace Ordered

theorem of_suffix {stack' : List Pending} (h : Ordered stack) (hsuffix : stack' <:+ stack) :
    Ordered stack' := List.IsChain.suffix h hsuffix

/-- A bracket may stand on any stack. -/
theorem opener (h : Ordered stack) {p : Pending} (hp : p.token? = none) : Ordered (p :: stack) := by
  refine List.isChain_cons.mpr ⟨fun q _ hop => ?_, h⟩
  rw [Pending.IsOperator, hp] at hop
  cases hop

/-- An operator that comes in finds its place. -/
theorem flush_wait (h : Ordered y.stack) {p : Pending} :
    Ordered ((y.flush p.rank (associativityOf p.rank)).wait p).stack := by
  refine List.isChain_cons.mpr ⟨fun q hq hp hop => ?_, h.of_suffix (y.flush_suffix _ _)⟩
  obtain ⟨rest, hrest⟩ := List.head?_eq_some_iff.mp hq
  exact rank_of_flush hrest hop

theorem of_colon (h : Ordered y.stack) (hcolon : y.colon = .ok y') : Ordered y'.stack := by
  rw [Yard.colon] at hcolon
  have hflush := y.flush_suffix BinaryOp.conditional.precedence BinaryOp.conditional.associativity
  have hpopped := h.of_suffix ((popConditionals_suffix
    (y.flush BinaryOp.conditional.precedence BinaryOp.conditional.associativity).output _).trans
      hflush)
  split at hcolon
  · next stack heq =>
    cases hcolon
    rw [heq] at hpopped
    -- the full conditional binds as loosely as the short one that it replaces
    obtain ⟨hhead, htail⟩ := List.isChain_cons.mp hpopped
    exact List.isChain_cons.mpr ⟨hhead, htail⟩
  · obtain ⟨output, -, ⟨⟩⟩ := exists_of_bind hcolon
    exact hpopped

/-- **One lexeme keeps the stack ordered.** -/
theorem step {nested : String → Except Failure Expr} {l : Lexeme} (h : Ordered y.stack)
    (hstep : y.step nested l = .ok y') : Ordered y'.stack := by
  cases l with
  | comma =>
    cases hstep
    exact h.of_suffix (popWhile_suffix _ _ _)
  | binary symbol =>
    rw [Yard.step] at hstep
    split at hstep
    · exact h.of_colon hstep
    · obtain ⟨op, -, ⟨⟩⟩ := exists_of_bind hstep
      rw [op.associativity_eq]
      exact h.flush_wait (p := .binary op)
  | unary symbol =>
    obtain ⟨op, -, ⟨⟩⟩ := exists_of_bind hstep
    exact h.flush_wait (p := .unary op)
  | subexprStart | paramStart | arrayStart | objectStart =>
    cases hstep
    exact h.opener rfl
  | subexprEnd =>
    obtain ⟨⟨ts, closed⟩, hclose, ⟨⟩⟩ := exists_of_bind hstep
    have hsuffix := close_suffix hclose
    exact h.of_suffix hsuffix
  | paramEnd =>
    obtain ⟨⟨ts, closed⟩, hclose, ⟨⟩⟩ := exists_of_bind hstep
    rw [attach_stack]
    exact h.of_suffix (close_suffix hclose)
  | arrayEnd | objectEnd =>
    obtain ⟨drained, hdrain, ⟨⟩⟩ := exists_of_bind hstep
    have hsuffix := drainTo_suffix hdrain
    exact h.of_suffix hsuffix
  | lambda params body | keyBrackets text =>
    obtain ⟨_, -, ⟨⟩⟩ := exists_of_bind hstep
    exact h
  | _ =>
    cases hstep
    exact h

/-- Whatever lexemes come in, the stack stays ordered. -/
theorem feed {ls : List Lexeme} (h : Ordered y.stack) (hfeed : y.feed ls = .ok y') :
    Ordered y'.stack := by
  induction ls generalizing y with
  | nil =>
    cases hfeed
    exact h
  | cons l ls ih =>
    rw [Yard.feed, List.foldlM_cons] at hfeed
    obtain ⟨between, hstep, hfeed⟩ := exists_of_bind hfeed
    exact ih (h.step hstep) hfeed

end Ordered

/-! ## A colon below which a `?` waits -/

/-- The operators above a waiting `?`: a colon puts them all out, or it stops at a `?:`. -/
theorem Ordered.exists_inner {ops : List Pending} (h : Ordered ops)
    (hops : ∀ p ∈ ops, p.IsOperator) (hshort : .binary .shortConditional ∉ ops) :
    ∃ tight n inner, Inner tight n inner ∧
      (ops = inner ∨ ∃ rest, ops = inner ++ .binary .elvis :: rest) := by
  induction ops with
  | nil => exact ⟨[], 0, [], ⟨rfl, nofun, nofun⟩, .inl rfl⟩
  | cons p ops ih =>
    obtain ⟨hhead, htail⟩ := List.isChain_cons.mp h
    have hlater := fun q hq => hops q (List.mem_cons_of_mem p hq)
    obtain ⟨tight, n, inner, hinner, hrest⟩ := ih htail hlater fun hmem =>
      hshort (List.mem_cons_of_mem p hmem)
    have hp := hops p List.mem_cons_self
    by_cases hlt : p.rank < 160
    · -- it binds more tightly than a conditional, whatever stands below it
      refine ⟨p :: tight, n, p :: inner, ⟨by rw [hinner.eq, List.cons_append], ?_, ?_⟩, ?_⟩
      · exact List.forall_mem_cons.mpr ⟨hp, hinner.operators⟩
      · exact List.forall_mem_cons.mpr ⟨hlt, hinner.tight⟩
      · exact hrest.imp (congrArg _) fun ⟨rest, heq⟩ => ⟨rest, congrArg _ heq⟩
    rcases Pending.eq_of_loose hp hlt with rfl | rfl | rfl
    · -- below a full conditional nothing binds more tightly
      obtain rfl : tight = [] := by
        cases tight with
        | nil => rfl
        | cons q tight =>
          have hq : q ∈ ops.head? := by
            rcases hrest with rfl | ⟨rest, rfl⟩ <;> rw [hinner.eq] <;> rfl
          have hle := hhead q hq hp (hinner.operators q List.mem_cons_self)
          exact absurd (hinner.tight q List.mem_cons_self) (Nat.not_lt.mpr hle)
      refine ⟨[], n + 1, .binary .conditional :: inner, ⟨?_, nofun, nofun⟩, ?_⟩
      · rw [hinner.eq]
        rfl
      · exact hrest.imp (congrArg _) fun ⟨rest, heq⟩ => ⟨rest, congrArg _ heq⟩
    · exact ⟨[], 0, [], ⟨rfl, nofun, nofun⟩, .inr ⟨ops, rfl⟩⟩
    · exact absurd List.mem_cons_self hshort

/-- Where a `?:` waits above, a colon does not come down to the `?`: it ends a key. -/
theorem colon_elvis {inner tight : List Pending} {n : Nat} (h : Inner tight n inner)
    (out : List Slot) (stack : List Pending) :
    (⟨out, inner ++ .binary .elvis :: stack⟩ : Yard).colon
      = (takeKey (putOut (Pending.tokens inner) out)).map
          fun output => ⟨output, .binary .elvis :: stack⟩ := by
  rw [Yard.colon, flush_inner h out rfl stack, popConditionals_append _ _ (by decide), h.eq,
    Pending.tokens_append, putOut_append]
  cases takeKey _ <;> rfl

/-- Above a `?` that waits in its brackets no operator keeps a colon from it but `?:`. -/
theorem Ordered.colon (h : Ordered y.stack) {ops : List Pending}
    (hstack : y.stack = ops ++ .binary .shortConditional :: stack)
    (hops : ∀ p ∈ ops, p.IsOperator) (hshort : .binary .shortConditional ∉ ops) :
    (.binary .elvis ∉ ops →
      y.colon = .ok ⟨putOut (Pending.tokens ops) y.output, .binary .conditional :: stack⟩) ∧
    (.binary .elvis ∈ ops → ∃ inner rest, ops = inner ++ .binary .elvis :: rest ∧
      y.colon = (takeKey (putOut (Pending.tokens inner) y.output)).map fun output =>
        ⟨output, .binary .elvis :: (rest ++ .binary .shortConditional :: stack)⟩) := by
  obtain ⟨out, waiting⟩ := y
  obtain rfl : waiting = _ := hstack
  have hordered : Ordered ops := List.IsChain.left_of_append h
  obtain ⟨tight, n, inner, hinner, rfl | ⟨rest, rfl⟩⟩ := hordered.exists_inner hops hshort
  · refine ⟨fun _ => colon_conditional hinner out stack, fun helvis => ?_⟩
    rw [hinner.eq] at helvis
    rcases List.mem_append.mp helvis with hmem | hmem
    · exact absurd (hinner.tight _ hmem) (by decide)
    · cases List.eq_of_mem_replicate hmem
  · refine ⟨fun helvis => absurd (by simp) helvis, fun _ => ⟨inner, rest, rfl, ?_⟩⟩
    rw [List.append_assoc]
    exact colon_elvis hinner out _

/-- Below an operator that binds as loosely as a conditional there are only such. -/
theorem Ordered.loose {p : Pending} {rest : List Pending} (h : Ordered (p :: rest))
    (hops : ∀ q ∈ p :: rest, q.IsOperator) (hp : 160 ≤ p.rank) : ∀ q ∈ rest, 160 ≤ q.rank := by
  induction rest generalizing p with
  | nil => nofun
  | cons q rest ih =>
    obtain ⟨hhead, htail⟩ := List.isChain_cons_cons.mp h
    have hlater := fun r hr => hops r (List.mem_cons_of_mem p hr)
    have hq := hp.trans (hhead (hops p List.mem_cons_self) (hlater q List.mem_cons_self))
    exact List.forall_mem_cons.mpr ⟨hq, ih htail hlater hq⟩

end Yard

/-! ## Operators outside brackets -/

namespace Tree

/-- The operator stands in the tree outside brackets. -/
def Exposes (op : BinaryOp) : Tree → Prop
  | .filter input .. => input.Exposes op
  | .test input .. => input.Exposes op
  | .keyPeriod container _ => container.Exposes op
  | .keyBrackets container .. => container.Exposes op
  | .slice whole .. => whole.Exposes op
  | .call callee _ => callee.Exposes op
  | .unary _ operand => operand.Exposes op
  | .binary own _ left right => own = op ∨ left.Exposes op ∨ right.Exposes op
  | .conditional condition yes no =>
    op = .conditional ∨ condition.Exposes op ∨ yes.Exposes op ∨ no.Exposes op
  | _ => False

theorem noOpenConditional_iff (t : Tree) :
    t.NoOpenConditional ↔ ¬ t.Exposes .elvis ∧ ¬ t.Exposes .shortConditional := by
  cases t with
  | filter input name args | test input name negated args | keyPeriod input key
  | keyBrackets input text key args | slice input start stop | call input args
  | unary op input => exact input.noOpenConditional_iff
  | binary op proper left right =>
    simp only [NoOpenConditional, Exposes, left.noOpenConditional_iff,
      right.noOpenConditional_iff]
    tauto
  | conditional condition yes no =>
    simp only [NoOpenConditional, Exposes, condition.noOpenConditional_iff,
      yes.noOpenConditional_iff, no.noOpenConditional_iff]
    simp only [reduceCtorEq, false_or]
    tauto
  | _ => exact ⟨fun _ => ⟨id, id⟩, fun _ => trivial⟩
termination_by structural t

/-- What fits on the left of an operator binds more tightly than a conditional. -/
theorem FitsLeft.lt {t : Tree} {op : BinaryOp} (h : t.FitsLeft op) : t.precedence < 160 := by
  have hle := op.precedence_le
  unfold FitsLeft at h
  split at h
  · next hleft =>
    rw [op.associativity_eq] at hleft
    have hne : op.precedence ≠ 160 := by
      intro heq
      rw [heq] at hleft
      cases hleft
    omega
  · omega

/-- An operator that binds as loosely as a conditional and stands outside brackets waits for the end
of the tree: it is the root, or stands in the last operand of one that binds as loosely. -/
theorem mem_pending_of_exposes {op : BinaryOp} (hop : op = .elvis ∨ op = .shortConditional) :
    ∀ {t : Tree}, t.WellFormed → t.Exposes op → t.precedence = 160 ∧ .binary op ∈ t.pending
  | .filter input .., h, hexposes | .test input .., h, hexposes
  | .keyPeriod input _, h, hexposes | .keyBrackets input .., h, hexposes
  | .slice input .., h, hexposes => by
    rw [Tree.WellFormed] at h
    have hloose := (mem_pending_of_exposes hop (t := input) (by tauto) hexposes).1
    exact absurd (h.1.symm.trans hloose) (by decide)
  | .call callee _, h, hexposes => by
    rw [Tree.WellFormed] at h
    have hloose := (mem_pending_of_exposes hop h.2.2.1 hexposes).1
    exact absurd (h.1.symm.trans hloose) (by decide)
  | .unary own operand, h, hexposes => by
    rw [Tree.WellFormed] at h
    have hloose := (mem_pending_of_exposes hop h.2 hexposes).1
    exact absurd (hloose ▸ h.1 : 160 ≤ 30) (by decide)
  | .binary own _ left right, h, hexposes => by
    rw [Tree.WellFormed] at h
    obtain ⟨hfitLeft, hfitRight, hleft, hright⟩ := h
    rcases hexposes with rfl | hexposes | hexposes
    · refine ⟨?_, List.mem_append_right _ List.mem_cons_self⟩
      rcases hop with rfl | rfl <;> rfl
    · have hloose := (mem_pending_of_exposes hop hleft hexposes).1
      exact absurd hloose hfitLeft.lt.ne
    · obtain ⟨hloose, hmem⟩ := mem_pending_of_exposes hop hright hexposes
      have hown : 160 ≤ own.precedence := hloose ▸ hfitRight.le
      exact ⟨own.precedence_le.antisymm hown, List.mem_append_left _ hmem⟩
  | .conditional condition yes no, h, hexposes => by
    rw [Tree.WellFormed] at h
    obtain ⟨hfit, hopen, hcondition, hyes, hno⟩ := h
    rw [noOpenConditional_iff] at hopen
    rcases hexposes with rfl | hexposes | hexposes | hexposes
    · rcases hop with hop | hop <;> cases hop
    · have hloose := (mem_pending_of_exposes hop hcondition hexposes).1
      exact absurd hloose hfit.lt.ne
    · rcases hop with rfl | rfl
      · exact absurd hexposes hopen.1
      · exact absurd hexposes hopen.2
    · have hmem := (mem_pending_of_exposes hop hno hexposes).2
      exact ⟨rfl, List.mem_append_left _ hmem⟩

theorem exposes_of_mem_pending {op : BinaryOp} (t : Tree) (h : .binary op ∈ t.pending) :
    t.Exposes op := by
  cases t with
  | unary own operand =>
    rcases List.mem_append.mp h with h | h
    · exact operand.exposes_of_mem_pending h
    · cases List.mem_singleton.mp h
  | binary own proper left right =>
    rcases List.mem_append.mp h with h | h
    · exact .inr (.inr (right.exposes_of_mem_pending h))
    · cases List.mem_singleton.mp h
      exact .inl rfl
  | conditional condition yes no =>
    rcases List.mem_append.mp h with h | h
    · exact .inr (.inr (.inr (no.exposes_of_mem_pending h)))
    · cases List.mem_singleton.mp h
      exact .inl rfl
  | _ => cases h
termination_by structural t

theorem settled_ne_nil (t : Tree) : t.settled ≠ [] := by
  cases t with
  | unary op operand => exact operand.settled_ne_nil
  | binary op proper left right =>
    exact List.append_ne_nil_of_right_ne_nil _ right.settled_ne_nil
  | conditional condition yes no =>
    exact List.append_ne_nil_of_right_ne_nil _
      (List.append_ne_nil_of_right_ne_nil _ no.settled_ne_nil)
  | filter input name args | test input name negated args | keyPeriod input key
  | keyBrackets input text key args | slice input start stop | call input args =>
    exact List.append_ne_nil_of_right_ne_nil _ (List.cons_ne_nil _ _)
  | _ => exact List.cons_ne_nil _ _
termination_by structural t

end Tree

/-! ## The middle of a conditional -/

/-- The key that a token becomes before a colon. -/
def Token.toKey : Token → Except Failure Token
  | .string value => .ok (.objectKey value)
  | .variable name => .ok (.objectKey name)
  | .number value => .ok (.objectKey (Number.text value))
  | .group tokens _ => .ok (.computedKey tokens)
  | t => .error ⟨.invalidObjectKey t.listing, none⟩

theorem takeKey_token (t : Token) (out : List Slot) :
    Yard.takeKey (.token t :: out) = t.toKey.map fun key => .token key :: out := by
  cases t <;> rfl

/-- The value of an entry. -/
def Entry.value : Entry → Tree
  | .plain _ value | .computed _ value => value

/-- The key of an entry can be written. -/
def Entry.KeyWellFormed : Entry → Prop
  | .plain .. => True
  | .computed key _ => itemsWellFormed key

theorem Entry.wellFormed_iff (e : Entry) : e.WellFormed ↔ e.KeyWellFormed ∧ e.value.WellFormed := by
  cases e with
  | plain key value => rw [Entry.WellFormed, KeyWellFormed, true_and, Entry.value]
  | computed key value => rw [Entry.WellFormed, KeyWellFormed, Entry.value]

theorem entriesWellFormed_append (before after : List Entry) :
    entriesWellFormed (before ++ after) ↔ entriesWellFormed before ∧ entriesWellFormed after := by
  induction before with
  | nil => rw [List.nil_append, entriesWellFormed, true_and]
  | cons e before ih => rw [List.cons_append, entriesWellFormed, ih, entriesWellFormed, and_assoc]

section Conditional
variable {condition yes no : Tree}

/-- A middle that shows a `?:` and no `?`: the operators that wait for its end, innermost first, are
put out down to a `?:`, and below that one all bind as loosely. -/
theorem Tree.exists_elvis (hyes : yes.WellFormed) (hshort : ¬ yes.Exposes .shortConditional)
    (helvis : yes.Exposes .elvis) :
    ∃ tight n inner rest, Yard.Inner tight n inner ∧ yes.pending = inner ++ .binary .elvis :: rest ∧
      ∀ p ∈ rest, p = .binary .elvis ∨ p = .binary .conditional := by
  have hordered : Yard.Ordered yes.pending := by
    have hfeed := yes.feed_lexemes hyes [] [] trivial
    have hstack := Yard.Ordered.feed (y := ⟨[], []⟩) List.isChain_nil hfeed
    rwa [List.append_nil] at hstack
  have hops := fun p hp => (pending_bound hyes p hp).1
  have hnot : Pending.binary .shortConditional ∉ yes.pending := fun hmem =>
    hshort (yes.exposes_of_mem_pending hmem)
  obtain ⟨tight, n, inner, hinner, heq | ⟨rest, heq⟩⟩ := hordered.exists_inner hops hnot
  · have hmem := (mem_pending_of_exposes (.inl rfl) hyes helvis).2
    rw [heq, hinner.eq] at hmem
    rcases List.mem_append.mp hmem with hmem | hmem
    · exact absurd (hinner.tight _ hmem) (by decide)
    · cases List.eq_of_mem_replicate hmem
  rw [heq] at hordered hops hnot
  have hloose := Yard.Ordered.loose (List.IsChain.right_of_append hordered)
    (fun q hq => hops q (List.mem_append_right _ hq)) (le_refl 160)
  refine ⟨tight, n, inner, rest, hinner, heq, fun p hp => ?_⟩
  have hmem := List.mem_append_right inner (List.mem_cons_of_mem (.binary .elvis) hp)
  rcases Pending.eq_of_loose (hops p hmem) (Nat.not_lt.mpr (hloose p hp)) with rfl | rfl | rfl
  · exact .inr rfl
  · exact .inl rfl
  · exact absurd hmem hnot

theorem ofLexemes_eq_feed (text : String) (ls : List Lexeme) :
    ofLexemes compile text ls = (⟨[], []⟩ : Yard).feed ls >>= fun y => y.finish text := rfl

/-- The yard before the colon. -/
theorem feed_question (hcondition : condition.WellFormed) (hfit : condition.FitsLeft .conditional)
    (hyes : yes.WellFormed) (ls : List Lexeme) :
    (⟨[], []⟩ : Yard).feed (condition.lexemes ++ .binary "?" :: (yes.lexemes ++ ls))
      = (⟨putOut yes.settled (putOut condition.tokens []),
          yes.pending ++ [.binary .shortConditional]⟩ : Yard).feed ls := by
  have hin := condition.feed_lexemes hcondition [] [] trivial
  have hquestion := step_question hcondition hfit (show Guards _ [] from trivial) []
  have hmiddle := yes.feed_lexemes hyes (putOut condition.tokens []) _
    (Tree.guards_of_fitsRight .shortConditional yes.precedence_le [])
  rw [Yard.feed_append hin, Yard.feed_cons hquestion, Yard.feed_append hmiddle]

/-- A tree taken in where only operators wait. -/
theorem Tree.owes_above {t : Tree} (h : t.WellFormed) (ts : List Token) {ops : List Pending}
    (hops : ∀ p ∈ ops, p.IsOperator) :
    (⟨putOut t.settled (putOut ts []), t.pending ++ ops⟩ : Yard).Owes
      (ts ++ (t.tokens ++ Pending.tokens ops)) [] [] := by
  refine ⟨t.pending ++ ops, ts ++ t.settled, by rw [List.append_nil, putOut_append], ?_, ?_⟩
  · intro p hp
    rcases List.mem_append.mp hp with hp | hp
    · exact (pending_bound h p hp).1
    · exact hops p hp
  · rw [t.tokens_eq, Pending.tokens_append]
    simp only [List.append_assoc]

/-- A middle that shows a `?:` is misread: its last token becomes a key. -/
theorem ofLexemes_misread (hcondition : condition.WellFormed)
    (hfit : condition.FitsLeft .conditional) (hyes : yes.WellFormed) (hno : no.WellFormed)
    (hshort : ¬ yes.Exposes .shortConditional) (helvis : yes.Exposes .elvis) (text : String) :
    ∃ head last tail, yes.tokens = head ++ last :: .binary .elvis :: tail ∧
      (∀ t ∈ tail, t = .binary .elvis ∨ t = .binary .conditional) ∧
      ofLexemes compile text (Tree.conditional condition yes no).lexemes
        = last.toKey.map fun key => condition.tokens ++ (head ++ key :: (no.tokens ++
            .binary .elvis :: (tail ++ [.binary .shortConditional]))) := by
  obtain ⟨tight, n, inner, rest, hinner, hpending, hrest⟩ :=
    Tree.exists_elvis hyes hshort helvis
  obtain ⟨head, last, hlast⟩ : ∃ head last, yes.settled ++ Pending.tokens inner = head ++ [last] :=
    (List.eq_nil_or_concat' _).resolve_left
      (List.append_ne_nil_of_left_ne_nil yes.settled_ne_nil _)
  refine ⟨head, last, Pending.tokens rest, ?_, ?_, ?_⟩
  · rw [yes.tokens_eq, hpending, Pending.tokens_append, ← List.append_assoc, hlast,
      Pending.tokens_cons rfl, List.append_assoc]
    rfl
  · intro t ht
    obtain ⟨p, hp, htoken⟩ := List.mem_filterMap.mp ht
    rcases hrest p hp with rfl | rfl <;> cases htoken
    · exact .inl rfl
    · exact .inr rfl
  have hcolon : Yard.step compile ⟨putOut yes.settled (putOut condition.tokens []),
        yes.pending ++ [.binary .shortConditional]⟩ (.binary ":")
      = last.toKey.map fun key => ⟨.token key :: putOut (condition.tokens ++ head) [],
          .binary .elvis :: (rest ++ [.binary .shortConditional])⟩ := by
    rw [Yard.step, if_pos rfl, hpending, List.append_assoc, List.cons_append,
      Yard.colon_elvis hinner, ← putOut_append, hlast, putOut_append, putOut_append, putOut_cons,
      putOut_nil, takeKey_token]
    cases last.toKey <;> rfl
  rw [Tree.lexemes, ofLexemes_eq_feed, feed_question hcondition hfit hyes]
  cases hkey : last.toKey with
  | error failure =>
    rw [hkey] at hcolon
    rw [Yard.feed, List.foldlM_cons, hcolon]
    rfl
  | ok key =>
    rw [hkey] at hcolon
    have hend := no.feed_lexemes hno (.token key :: putOut (condition.tokens ++ head) []) _
      (Tree.guards_of_fitsRight .elvis no.precedence_le (rest ++ [.binary .shortConditional]))
    -- the `?:` and the `?` are put out at the end, neither with the operand that it was written for
    have hbelow : ∀ p ∈ Pending.binary .elvis :: (rest ++ [.binary .shortConditional]),
        p.IsOperator := by
      refine List.forall_mem_cons.mpr ⟨rfl, fun p hp => ?_⟩
      rcases List.mem_append.mp hp with hp | hp
      · rcases hrest p hp with rfl | rfl <;> rfl
      · obtain rfl := List.mem_singleton.mp hp
        rfl
    have howes := Tree.owes_above hno (condition.tokens ++ head ++ [key]) hbelow
    rw [putOut_append, Pending.tokens_cons rfl, Pending.tokens_append] at howes
    rw [Yard.feed_cons hcolon, hend]
    refine (howes.finish text).trans (congrArg Except.ok ?_)
    simp only [List.append_assoc]
    rfl

end Conditional

/-- **Which question mark a colon closes.**  A conditional whose middle shows no `?` of its own
compiles as it is written, alone and as a value of an object, if its middle shows no `?:` either.
If it shows one, the last token before that `?:` is taken for a key, or the compilation fails
because it cannot be one.  And wherever a `?` waits in the brackets of a colon, the colon closes it
unless a `?:` waits above it. -/
theorem ofLexemes_conditional (condition yes no : Tree) (hcondition : condition.WellFormed)
    (hfit : condition.FitsLeft .conditional) (hyes : yes.WellFormed) (hno : no.WellFormed)
    (hshort : ¬ yes.Exposes .shortConditional) (text : String) :
    (¬ yes.Exposes .elvis →
      ofLexemes compile text
          (condition.lexemes ++ .binary "?" :: (yes.lexemes ++ .binary ":" :: no.lexemes))
        = .ok (condition.tokens ++ (yes.tokens ++ (no.tokens ++ [.binary .conditional]))) ∧
      ∀ (before : List Entry) (entry : Entry) (after : List Entry),
        entry.value = .conditional condition yes no → entry.KeyWellFormed →
        entriesWellFormed before → entriesWellFormed after →
        ofLexemes compile text (Tree.object (before ++ entry :: after)).lexemes
          = .ok (Tree.object (before ++ entry :: after)).tokens) ∧
    (yes.Exposes .elvis →
      ∃ head last tail, yes.tokens = head ++ last :: .binary .elvis :: tail ∧
        (∀ t ∈ tail, t = .binary .elvis ∨ t = .binary .conditional) ∧
        ofLexemes compile text
            (condition.lexemes ++ .binary "?" :: (yes.lexemes ++ .binary ":" :: no.lexemes))
          = last.toKey.map fun key => condition.tokens ++ (head ++ key :: (no.tokens ++
              .binary .elvis :: (tail ++ [.binary .shortConditional])))) ∧
    ∀ (ls : List Lexeme) (y : Yard) (ops stack : List Pending),
      (⟨[], []⟩ : Yard).feed ls = .ok y → y.stack = ops ++ .binary .shortConditional :: stack →
      (∀ p ∈ ops, p.IsOperator) → .binary .shortConditional ∉ ops →
      (.binary .elvis ∉ ops →
        y.colon = .ok ⟨putOut (Pending.tokens ops) y.output, .binary .conditional :: stack⟩) ∧
      (.binary .elvis ∈ ops → ∃ inner rest, ops = inner ++ .binary .elvis :: rest ∧
        y.colon = (Yard.takeKey (putOut (Pending.tokens inner) y.output)).map fun output =>
          ⟨output, .binary .elvis :: (rest ++ .binary .shortConditional :: stack)⟩) := by
  refine ⟨fun helvis => ?_, fun helvis => ?_, fun ls y ops stack hfeed hstack hops hnone => ?_⟩
  · have hopen : yes.NoOpenConditional := yes.noOpenConditional_iff.mpr ⟨helvis, hshort⟩
    have htree : (Tree.conditional condition yes no).WellFormed := by
      rw [Tree.WellFormed]
      exact ⟨hfit, hopen, hcondition, hyes, hno⟩
    constructor
    · have hcompiled := ofLexemes_of_owes (Tree.feed_lexemes _ htree [] [] trivial)
        (Tree.owes htree [] []) text
      rwa [Tree.lexemes, Tree.tokens] at hcompiled
    · intro before entry after hvalue hkey hbefore hafter
      have hentry : entry.WellFormed := entry.wellFormed_iff.mpr ⟨hkey, hvalue ▸ htree⟩
      have hobject : (Tree.object (before ++ entry :: after)).WellFormed := by
        rw [Tree.WellFormed, entriesWellFormed_append, entriesWellFormed]
        exact ⟨hbefore, hentry, hafter⟩
      exact ofLexemes_of_owes (Tree.feed_lexemes _ hobject [] [] trivial)
        (Tree.owes hobject [] []) text
  · have hmisread := ofLexemes_misread hcondition hfit hyes hno hshort helvis text
    rwa [Tree.lexemes] at hmisread
  · have hordered := Yard.Ordered.feed (y := ⟨[], []⟩) List.isChain_nil hfeed
    exact hordered.colon hstack hops hnone

/-- `{k: c ? a : b}` compiles as it is written, and `c ? a ?: b : e` to what `b` is a key in. -/
theorem ofLexemes_conditional_variables :
    ofLexemes compile ""
        [.objectStart, .variable "k", .binary ":", .variable "c", .binary "?", .variable "a",
          .binary ":", .variable "b", .objectEnd]
      = .ok [.objectStart, .objectKey "k", .variable "c", .variable "a", .variable "b",
          .binary .conditional, .objectEnd] ∧
    ofLexemes compile ""
        [.variable "c", .binary "?", .variable "a", .binary "?:", .variable "b", .binary ":",
          .variable "e"]
      = .ok [.variable "c", .variable "a", .objectKey "b", .variable "e", .binary .elvis,
          .binary .shortConditional] := by
  have hname : ∀ name, (Tree.variable name).WellFormed := fun name => by
    rw [Tree.WellFormed] <;> simp
  have hfit : (Tree.variable "c").FitsLeft .conditional := (by decide : 0 < 160)
  constructor
  · have h := (ofLexemes_conditional (.variable "c") (.variable "a") (.variable "b") (hname _) hfit
      (hname _) (hname _) id "").1 id
    exact h.2 [] (.plain (.name "k") _) [] rfl trivial trivial trivial
  · have helvis : (Tree.binary .elvis (by decide) (.variable "a") (.variable "b")).WellFormed := by
      rw [Tree.WellFormed]
      exact ⟨(by decide : 0 < 160), (by decide : 0 ≤ 160), hname _, hname _⟩
    have hshort : ¬ (Tree.binary .elvis (by decide) (.variable "a") (.variable "b")).Exposes
        .shortConditional := by simp [Tree.Exposes]
    have h := (ofLexemes_conditional (.variable "c") _ (.variable "e") (hname _) hfit helvis
      (hname _) hshort "").2.1 (.inl rfl)
    obtain ⟨head, last, tail, htokens, -, hcompiled⟩ := h
    -- the only token before the `?:` that is not the first is `b`
    obtain ⟨a, rfl⟩ : ∃ a, head = [a] := by
      have hlength := congrArg List.length htokens
      match head with
      | [] => cases htokens
      | [a] => exact ⟨a, rfl⟩
      | a :: b :: head =>
        simp [Tree.tokens] at hlength
        omega
    cases htokens
    exact hcompiled

/-- In `c ? a ?: b : e` the colon does not close the `?`, although its middle shows no other. -/
theorem compile_elvis_colon :
    ∃ yes : Tree, yes.WellFormed ∧ ¬ yes.Exposes .shortConditional ∧
      lexemes "c ? a ?: b : e".toList
        = .ok (.variable "c" :: .binary "?" :: (yes.lexemes ++ [.binary ":", .variable "e"])) ∧
      compile "c ? a ?: b : e"
        = .ok [.variable "c", .variable "a", .objectKey "b", .variable "e", .binary .elvis,
            .binary .shortConditional] ∧
      compile "c ? a ?: b : e"
        ≠ .ok (.variable "c" :: (yes.tokens ++ [.variable "e", .binary .conditional])) := by
  have hcompiled : compile "c ? a ?: b : e"
      = .ok [.variable "c", .variable "a", .objectKey "b", .variable "e", .binary .elvis,
          .binary .shortConditional] := rfl
  refine ⟨.binary .elvis (by decide) (.variable "a") (.variable "b"), ?_, ?_, rfl, hcompiled, ?_⟩
  · rw [Tree.WellFormed]
    simp [Tree.WellFormed, Tree.FitsLeft, Tree.FitsRight, Tree.precedence,
      BinaryOp.associativity, BinaryOp.precedence]
  · simp [Tree.Exposes]
  · rw [hcompiled]
    intro h
    simp [Tree.tokens] at h

end Stencil.Expr
