import Stencil.Proofs.Expr.Nested

/-!
# Brackets of a compiled text

Brackets are matched twice.  The yard matches those that were read as lexemes, on its stack; the
search for the end of a function body or of a key counts characters and knows no lexemes.  The two
agree: each lexeme crosses as many brackets as its kind says (`Reads.levels`), the yard opens and
closes the same ones (`Yard.step_climbs`), and it is done when none is open.  So a text that
compiles is balanced (`balanced_of_compile`), and a search that starts in front of it passes over
all of it.
-/
namespace Stencil.Expr
open Text

/-- From `d` open brackets, the lexemes lead to `e`. -/
def Climbs : Nat → List Lexeme → Nat → Prop
  | d, [], e => d = e
  | d, l :: ls, e => ∃ around, d = around + l.kind.closes ∧ Climbs (around + l.kind.opens) ls e

/-! ## The text of the lexemes -/

/-- The lexemes read from a text cross the brackets of the text, if the texts inside them cross
none. -/
theorem lexemesFrom_levels {fuel offset : Nat} {before ls : List Lexeme} {cs : List Char}
    (h : lexemesFrom fuel before offset cs = .ok ls) (hfuel : cs.length < fuel) :
    ∃ read, ls = before.reverse ++ read ∧
      ((∀ l ∈ read, ∀ s ∈ l.nested?, Balanced s.toList) → ∀ d e, Climbs d read e →
        Level.after? ⟨.outside, d⟩ cs = some ⟨.outside, e⟩) := by
  induction fuel generalizing before offset cs with
  | zero => exact absurd hfuel (Nat.not_lt_zero _)
  | succ fuel ih =>
    obtain ⟨blanks, hblanks, hcs⟩ := passes_trimStart cs
    rw [lexemesFrom] at h
    by_cases hend : (trimStart cs).isEmpty = true
    · rw [if_pos hend] at h
      refine ⟨[], by rw [List.append_nil, Except.ok.inj h], fun _ d e hclimbs => ?_⟩
      rw [List.isEmpty_iff.mp hend, List.append_nil] at hcs
      rw [hcs, Level.after?_unmarked hblanks, hclimbs]
    · rw [if_neg hend] at h
      split at h
      · cases h
      · next taken after hnext =>
        have hreads := nextLexeme_reads hnext
        have hblank := (passes_trimStart cs).length_le
        have hshorter := hreads.shorter
        obtain ⟨read, rfl, hread⟩ := ih h (by omega)
        refine ⟨taken :: read, by rw [List.reverse_cons, List.append_assoc]; rfl, ?_⟩
        rintro hnested d e ⟨around, rfl, hclimbs⟩
        obtain ⟨htaken, hrest⟩ := List.forall_mem_cons.mp hnested
        obtain ⟨piece, hpiece, hcrosses⟩ := hreads.levels htaken
        rw [hcs, Level.after?_append_of (Level.after?_unmarked hblanks _), hpiece,
          Level.after?_append_of (hcrosses around)]
        exact hread hrest _ e hclimbs

/-! ## The stack of the yard -/

namespace Yard
variable {y y' : Yard} {stack : List Pending}

/-- How many brackets wait on a stack. -/
def depth (stack : List Pending) : Nat := stack.countP fun p => p.token?.isNone

theorem depth_operator {p : Pending} (hp : p.token?.isSome) : depth (p :: stack) = depth stack :=
  List.countP_cons_of_neg (by simp [Option.isSome_iff_ne_none.mp hp])

theorem depth_bracket {p : Pending} (hp : p.token? = none) :
    depth (p :: stack) = depth stack + 1 :=
  List.countP_cons_of_pos (by rw [hp]; rfl)

theorem depth_popWhile (keep : Nat → Bool) (out : List Slot) (stack : List Pending) :
    depth (popWhile keep out stack).stack = depth stack := by
  induction stack generalizing out with
  | nil => rfl
  | cons p stack ih =>
    rw [popWhile]
    split
    · next t _ ht _ =>
      split
      · rw [ih, depth_operator (by rw [ht]; rfl)]
      · rfl
    · rfl

theorem depth_popConditionals (out : List Slot) (stack : List Pending) :
    depth (popConditionals out stack).stack = depth stack := by
  induction stack generalizing out with
  | nil => rfl
  | cons p stack ih =>
    unfold popConditionals
    split
    · next heq =>
      obtain ⟨rfl, rfl⟩ := List.cons.inj heq
      rw [ih, depth_operator rfl]
    · rfl

/-- Closing a bracket takes it off, and operators with it. -/
theorem depth_drainTo {opener : Pending} (hopener : opener.token? = none) {out : List Slot}
    (h : drainTo opener out stack = .ok y) : depth stack = depth y.stack + 1 := by
  induction stack generalizing out with
  | nil => cases h
  | cons p stack ih =>
    rw [drainTo] at h
    by_cases hp : p = opener
    · rw [if_pos hp] at h
      obtain rfl := Except.ok.inj h
      rw [hp, depth_bracket hopener]
    · rw [if_neg hp] at h
      split at h
      · next t ht => rw [depth_operator (by rw [ht]; rfl), ih h]
      · cases h

theorem depth_close {opener : Pending} (hopener : opener.token? = none) {ts : List Token}
    (h : y.close opener = .ok (ts, y')) : depth y.stack = depth y'.stack + 1 := by
  obtain ⟨drained, hdrain, h⟩ := exists_of_bind h
  obtain ⟨⟨tokens, output⟩, -, ⟨⟩⟩ := exists_of_bind h
  have hdepth := depth_drainTo hopener hdrain
  exact hdepth

theorem depth_attach (y : Yard) (ts : List Token) : depth (y.attach ts).stack = depth y.stack := by
  unfold attach
  split <;> rfl

/-- A colon opens and closes nothing. -/
theorem depth_colon (h : y.colon = .ok y') : depth y'.stack = depth y.stack := by
  rw [colon] at h
  have hpopped := depth_popConditionals
    (y.flush BinaryOp.conditional.precedence BinaryOp.conditional.associativity).output
    (y.flush BinaryOp.conditional.precedence BinaryOp.conditional.associativity).stack
  rw [flush, depth_popWhile] at hpopped
  split at h
  · next stack hstack =>
    obtain rfl := Except.ok.inj h
    rw [flush] at hstack
    rw [hstack, depth_operator rfl] at hpopped
    rw [depth_operator rfl, hpopped]
  · obtain ⟨output, -, ⟨⟩⟩ := exists_of_bind h
    exact hpopped

/-- The yard opens and closes what the lexeme does. -/
theorem step_climbs {nested : String → Except Failure Expr} {l : Lexeme}
    (h : Yard.step nested y l = .ok y') :
    ∃ around, depth y.stack = around + l.kind.closes ∧ depth y'.stack = around + l.kind.opens := by
  cases l with
  | test | number | string | bool | null | context | «variable» | slice | filter | function
      | keyPeriod =>
    obtain rfl := Except.ok.inj h
    exact ⟨depth y.stack, rfl, rfl⟩
  | comma =>
    obtain rfl := Except.ok.inj h
    exact ⟨depth y.stack, rfl, depth_popWhile _ _ _⟩
  | lambda | keyBrackets =>
    obtain ⟨x, -, h⟩ := exists_of_bind h
    obtain rfl := Except.ok.inj h
    exact ⟨depth y.stack, rfl, rfl⟩
  | binary symbol =>
    rw [step] at h
    by_cases hcolon : symbol = ":"
    · rw [if_pos hcolon] at h
      exact ⟨depth y.stack, rfl, depth_colon h⟩
    · rw [if_neg hcolon] at h
      obtain ⟨op, -, h⟩ := exists_of_bind h
      obtain rfl := Except.ok.inj h
      refine ⟨depth y.stack, rfl, ?_⟩
      exact (depth_operator rfl).trans (depth_popWhile _ _ _)
  | unary symbol =>
    obtain ⟨op, -, h⟩ := exists_of_bind h
    obtain rfl := Except.ok.inj h
    exact ⟨depth y.stack, rfl, (depth_operator rfl).trans (depth_popWhile _ _ _)⟩
  | subexprStart | paramStart | arrayStart | objectStart =>
    obtain rfl := Except.ok.inj h
    exact ⟨depth y.stack, rfl, depth_bracket rfl⟩
  | subexprEnd =>
    obtain ⟨⟨tokens, closed⟩, hclose, h⟩ := exists_of_bind h
    obtain rfl := Except.ok.inj h
    exact ⟨depth closed.stack, depth_close rfl hclose, rfl⟩
  | paramEnd =>
    obtain ⟨⟨tokens, closed⟩, hclose, h⟩ := exists_of_bind h
    obtain rfl := Except.ok.inj h
    exact ⟨depth closed.stack, depth_close rfl hclose, depth_attach closed tokens⟩
  | arrayEnd | objectEnd =>
    obtain ⟨drained, hdrain, h⟩ := exists_of_bind h
    obtain rfl := Except.ok.inj h
    exact ⟨depth drained.stack, depth_drainTo rfl hdrain, rfl⟩

theorem foldlM_climbs {nested : String → Except Failure Expr} {ls : List Lexeme}
    (h : ls.foldlM (Yard.step nested) y = .ok y') : Climbs (depth y.stack) ls (depth y'.stack) := by
  induction ls generalizing y with
  | nil => rw [← Except.ok.inj h, Climbs]
  | cons l ls ih =>
    rw [List.foldlM_cons] at h
    obtain ⟨mid, hstep, hrest⟩ := exists_of_bind h
    obtain ⟨around, hbefore, hafter⟩ := step_climbs hstep
    exact ⟨around, hbefore, hafter ▸ ih hrest⟩

/-- An expression is complete when all brackets are closed. -/
theorem depth_of_finish {text : String} {x : Expr} (h : y.finish text = .ok x) :
    depth y.stack = 0 := by
  rw [finish] at h
  split at h
  · next hstack _ =>
    rw [← depth_popWhile (fun _ => true) y.output, hstack]
    rfl
  · cases h

end Yard

/-! ## Texts that compile -/

/-- What has been taken in had its texts inside compiled. -/
theorem exists_of_foldlM_step {f : String → Except Failure Expr} {ls : List Lexeme} {y y' : Yard}
    (h : ls.foldlM (Yard.step f) y = .ok y') : ∀ l ∈ ls, ∀ s ∈ l.nested?, ∃ x, f s = .ok x := by
  induction ls generalizing y with
  | nil => exact List.forall_mem_nil _
  | cons l ls ih =>
    rw [List.foldlM_cons] at h
    obtain ⟨mid, hstep, hrest⟩ := exists_of_bind h
    refine List.forall_mem_cons.mpr ⟨fun s hs => ?_, ih hrest⟩
    cases l with
    | lambda params body =>
      obtain rfl := Option.mem_some.mp hs
      obtain ⟨x, hx, -⟩ := exists_of_bind hstep
      exact ⟨x, hx⟩
    | keyBrackets text =>
      obtain rfl := Option.mem_some.mp hs
      obtain ⟨x, hx, -⟩ := exists_of_bind hstep
      exact ⟨x, hx⟩
    | _ => cases hs

/-- **Brackets are matched.**  A text that compiles is balanced, whatever its lexemes are: what a
function has for a body compiles as well, and so does a key. -/
theorem balanced_of_compile {text : String} {x : Expr} (h : compile text = .ok x) :
    Balanced text.toList := by
  induction hn : text.length using Nat.strongRecOn generalizing text x with
  | _ n ih =>
    rw [compile_eq] at h
    obtain ⟨ls, hls, hcompiled⟩ := exists_of_bind h
    obtain ⟨y, hy, hfinish⟩ := exists_of_bind hcompiled
    obtain ⟨read, rfl, hlevels⟩ := lexemesFrom_levels hls (Nat.lt_succ_self _)
    have hclimbs := Yard.foldlM_climbs hy
    rw [Yard.depth_of_finish hfinish] at hclimbs
    refine hlevels (fun l hl s hs => ?_) 0 0 hclimbs
    obtain ⟨inner, hinner⟩ := exists_of_foldlM_step hy l hl s hs
    have hlt := nested_length_lt hls l hl s hs
    rw [String.length_toList] at hlt
    exact ih s.length (by omega) hinner rfl

/-- **Strings are closed.**  A text that compiles ends outside strings. -/
theorem scan_of_compile {text : String} {x : Expr} (h : compile text = .ok x) :
    scan text.toList = .outside :=
  (balanced_of_compile h).scan_eq

end Stencil.Expr
