import Stencil.Tree.Builder

/-!
# Failures to read a template

Whatever stops the reading of a source is a failure of its syntax, at whichever of the stages it
happens: cutting the source into tokens, reading an expression, reading the text of a tag, or
building the tree.  A failure of this kind is never taken for one of a render, such as that a
template is nowhere, and it does not say yet which template it is of.
-/
namespace Stencil

/-- The source does not have the form that it should have. -/
def Cause.IsSyntactic : Cause → Prop
  | .unclosedDelimiter .. | .unclosedString | .unparseableExpression _ | .unexpectedTag ..
  | .unterminatedTag .. | .malformedTag _ | .invalidObjectKey _ | .missingObjectValue _ => True
  | _ => False

/-- If the reading fails, it does so because of the syntax, and names no template. -/
def FailsOnSyntax {α : Type} (r : Except Failure α) : Prop :=
  ∀ failure, r = .error failure → failure.cause.IsSyntactic ∧ failure.template = none

namespace FailsOnSyntax
variable {α β : Type}

theorem ok (a : α) : FailsOnSyntax (.ok a : Except Failure α) := nofun

theorem error {failure : Failure} (h : failure.cause.IsSyntactic ∧ failure.template = none) :
    FailsOnSyntax (.error failure : Except Failure α) := by
  rintro _ ⟨⟩
  exact h

theorem bind {r : Except Failure α} {f : α → Except Failure β} (h : FailsOnSyntax r)
    (hf : ∀ a, FailsOnSyntax (f a)) : FailsOnSyntax (r >>= f) := by
  cases r with
  | ok a => exact hf a
  | error failure => exact error (h failure rfl)

theorem map {r : Except Failure α} (h : FailsOnSyntax r) (f : α → β) :
    FailsOnSyntax (r.map f) := by
  cases r with
  | ok a => exact ok (f a)
  | error failure => exact error (h failure rfl)

theorem mapM {f : α → Except Failure β} (hf : ∀ a, FailsOnSyntax (f a)) (items : List α) :
    FailsOnSyntax (items.mapM f) := by
  induction items with
  | nil =>
    rw [List.mapM_nil]
    exact ok []
  | cons a rest ih =>
    rw [List.mapM_cons]
    exact (hf a).bind fun _ => ih.bind fun _ => ok _

theorem foldlM {f : β → α → Except Failure β} (hf : ∀ b a, FailsOnSyntax (f b a))
    (items : List α) (first : β) : FailsOnSyntax (items.foldlM f first) := by
  induction items generalizing first with
  | nil => exact ok first
  | cons a rest ih =>
    rw [List.foldlM_cons]
    exact (hf first a).bind ih

end FailsOnSyntax

open FailsOnSyntax

/-! ## Expressions -/

namespace Expr

theorem lexemesFrom_failsOnSyntax (fuel : Nat) (before : List Lexeme) (offset : Nat)
    (cs : List Char) : FailsOnSyntax (lexemesFrom fuel before offset cs) := by
  induction fuel generalizing before offset cs with
  | zero => exact ok _
  | succ fuel ih =>
    rw [lexemesFrom]
    split
    · exact ok _
    · split
      · next failure hnext =>
        rw [nextLexeme] at hnext
        dsimp only at hnext
        split at hnext
        · cases hnext
        · cases hnext
          exact error ⟨trivial, rfl⟩
      · exact ih _ _ _

namespace Yard

theorem drainTo_failsOnSyntax (opener : Pending) (output : List Slot) (stack : List Pending) :
    FailsOnSyntax (drainTo opener output stack) := by
  induction stack generalizing output with
  | nil => exact error ⟨trivial, rfl⟩
  | cons p rest ih =>
    rw [drainTo]
    split
    · exact ok _
    · split
      · exact ih _
      · exact error ⟨trivial, rfl⟩

theorem takeGroup_failsOnSyntax (tokens : List Token) (output : List Slot) :
    FailsOnSyntax (takeGroup tokens output) := by
  induction output generalizing tokens with
  | nil => exact error ⟨trivial, rfl⟩
  | cons slot rest ih =>
    cases slot with
    | token t => exact ih _
    | paramMark | subMark => exact ok _

theorem close_failsOnSyntax (y : Yard) (opener : Pending) : FailsOnSyntax (y.close opener) :=
  (drainTo_failsOnSyntax _ _ _).bind fun _ => (takeGroup_failsOnSyntax _ _).bind fun _ => ok _

theorem takeKey_failsOnSyntax (output : List Slot) : FailsOnSyntax (takeKey output) := by
  unfold takeKey
  split
  · exact ok _
  · exact ok _
  · exact ok _
  · exact ok _
  · exact error ⟨trivial, rfl⟩
  · exact error ⟨trivial, rfl⟩

theorem colon_failsOnSyntax (y : Yard) : FailsOnSyntax y.colon := by
  unfold colon
  dsimp only
  split
  · exact ok _
  · exact (takeKey_failsOnSyntax _).bind fun _ => ok _

theorem operator_failsOnSyntax {α : Type} (ofSymbol? : String → Option α) (symbol : String) :
    FailsOnSyntax (operator ofSymbol? symbol) := by
  unfold operator
  split
  · exact ok _
  · exact error ⟨trivial, rfl⟩

theorem step_failsOnSyntax {nested : String → Except Failure Expr}
    (hnested : ∀ text, FailsOnSyntax (nested text)) (y : Yard) (l : Lexeme) :
    FailsOnSyntax (step nested y l) := by
  cases l with
  | lambda params body => exact (hnested body).bind fun _ => ok _
  | keyBrackets text => exact (hnested text).bind fun _ => ok _
  | binary symbol =>
    rw [step]
    split
    · exact colon_failsOnSyntax y
    · exact (operator_failsOnSyntax _ _).bind fun _ => ok _
  | unary symbol => exact (operator_failsOnSyntax _ _).bind fun _ => ok _
  | subexprEnd | paramEnd => exact (close_failsOnSyntax _ _).bind fun _ => ok _
  | arrayEnd | objectEnd => exact (drainTo_failsOnSyntax _ _ _).bind fun _ => ok _
  | _ => exact ok _

theorem finish_failsOnSyntax (y : Yard) (text : String) : FailsOnSyntax (y.finish text) := by
  unfold finish
  dsimp only
  split
  · exact ok _
  · exact error ⟨trivial, rfl⟩

end Yard

theorem compileWith_failsOnSyntax (fuel : Nat) (text : String) :
    FailsOnSyntax (compileWith fuel text) := by
  induction fuel generalizing text with
  | zero => exact ok _
  | succ fuel ih =>
    exact (lexemesFrom_failsOnSyntax _ _ _ _).bind fun ls =>
      (foldlM (Yard.step_failsOnSyntax ih) ls {}).bind fun y => y.finish_failsOnSyntax text

end Expr

/-! ## Tags -/

namespace TagText
open Text

theorem expression_failsOnSyntax (cs : List Char) : FailsOnSyntax (expression cs) :=
  Expr.compileWith_failsOnSyntax _ _

theorem optionalExpression_failsOnSyntax (cs : Option (List Char)) :
    FailsOnSyntax (optionalExpression cs) := by
  cases cs with
  | none => exact ok none
  | some cs => exact (expression_failsOnSyntax cs).map some

/-- A text that has the shape is read, or fails because of the syntax. -/
def ReadsOnSyntax (reading : Option Reading) : Prop := ∀ r, reading = some r → FailsOnSyntax r

namespace ReadsOnSyntax

theorem none : ReadsOnSyntax none := nofun

theorem some {r : Reading} (h : FailsOnSyntax r) : ReadsOnSyntax (some r) := by
  rintro _ ⟨⟩
  exact h

theorem bind {α : Type} {o : Option α} {f : α → Option Reading} (hf : ∀ a, ReadsOnSyntax (f a)) :
    ReadsOnSyntax (o >>= f) := by
  cases o with
  | none => exact none
  | some a => exact hf a

end ReadsOnSyntax

theorem exactly?_onSyntax (word : String) {reading : Reading} (h : FailsOnSyntax reading)
    (text : List Char) : ReadsOnSyntax (exactly? word reading text) := by
  unfold exactly?
  split
  · exact .some h
  · exact .none

theorem keyword?_onSyntax (word : String) (tag : Expr → Tag) (text : List Char) :
    ReadsOnSyntax (keyword? word tag text) := by
  unfold keyword?
  cases argument? word text with
  | none => exact .none
  | some cs => exact .some ((expression_failsOnSyntax cs).map _)

theorem endTag?_onSyntax (word : String) (more : Char → Bool) (text : List Char) :
    ReadsOnSyntax (endTag? word more text) := by
  refine .bind fun rest => ?_
  split
  · exact .some (ok _)
  · refine .bind fun name => ?_
    split
    · exact .some (ok _)
    · exact .none

theorem loop?_onSyntax (text : List Char) : ReadsOnSyntax (loop? text) := by
  refine .bind fun rest => .bind fun ⟨names, subject, condition⟩ => ?_
  dsimp only
  split
  · refine .some ?_
    split
    · exact error ⟨trivial, rfl⟩
    · exact (expression_failsOnSyntax _).bind fun _ =>
        (optionalExpression_failsOnSyntax _).bind fun _ => ok _
  · exact .none

theorem assign?_onSyntax (text : List Char) : ReadsOnSyntax (assign? text) :=
  .bind fun _ => .bind fun _ => .bind fun _ => .bind fun _ =>
    .some ((expression_failsOnSyntax _).map _)

theorem capture?_onSyntax (text : List Char) : ReadsOnSyntax (capture? text) :=
  .bind fun _ => .bind fun _ => .some (ok _)

theorem block?_onSyntax (text : List Char) : ReadsOnSyntax (block? text) := by
  refine .bind fun rest => .bind fun ⟨name, rest⟩ => ?_
  dsimp only
  split
  · exact .bind fun _ => .some ((optionalExpression_failsOnSyntax _).bind fun _ => ok _)
  · exact .bind fun _ => .some ((optionalExpression_failsOnSyntax _).bind fun _ => ok _)

theorem uses?_onSyntax (text : List Char) : ReadsOnSyntax (uses? text) := by
  refine .bind fun _ => .bind fun _ => .some ((mapM (fun item => ?_) _).bind fun _ =>
    (expression_failsOnSyntax _).bind fun _ => ok _)
  split
  · exact ok _
  · exact error ⟨trivial, rfl⟩

theorem inclusion?_onSyntax (word : String) (tag : Inclusion → Tag) (text : List Char) :
    ReadsOnSyntax (inclusion? word tag text) :=
  .bind fun _ => .bind fun _ => .some ((expression_failsOnSyntax _).bind fun _ =>
    (optionalExpression_failsOnSyntax _).bind fun _ => ok _)

theorem imports?_onSyntax (text : List Char) : ReadsOnSyntax (imports? text) :=
  .bind fun _ => .bind fun _ => .some ((expression_failsOnSyntax _).map _)

theorem importsNames?_onSyntax (text : List Char) : ReadsOnSyntax (importsNames? text) := by
  refine .bind fun _ => .bind fun _ => .some ((mapM (fun item => ?_) _).bind fun _ =>
    (expression_failsOnSyntax _).bind fun _ => ok _)
  split
  · exact ok _
  · exact error ⟨trivial, rfl⟩

theorem macroDef?_onSyntax (text : List Char) : ReadsOnSyntax (macroDef? text) := by
  refine .bind fun _ => .bind fun ⟨name, rest⟩ => .bind fun _ => ?_
  split
  · refine .some ((mapM (fun item => ?_) _).bind fun _ => ok _)
    split
    · exact (optionalExpression_failsOnSyntax _).map _
    · exact error ⟨trivial, rfl⟩
  · exact .none

theorem scoped?_onSyntax (text : List Char) : ReadsOnSyntax (scoped? text) := by
  refine .bind fun rest => ?_
  split
  · exact .some (ok _)
  · refine .bind fun ⟨subject, only⟩ => ?_
    dsimp only
    split
    · exact .some (ok _)
    · exact .some ((expression_failsOnSyntax _).map _)

theorem applied?_onSyntax (word : String) (text : List Char) : ReadsOnSyntax (applied? word text) :=
  .bind fun _ => .some ((expression_failsOnSyntax _).map _)

/-- The strategy of an `autoescape` tag. -/
theorem strategy_onSyntax (text : List Char) (cs : Option (List Char)) : ReadsOnSyntax (some <|
    match strategy? (cs.map trim) with
    | some strategy => .ok (some (.autoescape strategy))
    | none => .error (malformed text)) := by
  refine .some ?_
  split
  · exact ok _
  · exact error ⟨trivial, rfl⟩

theorem autoescape?_onSyntax (text : List Char) : ReadsOnSyntax (autoescape? text) := by
  refine .bind fun rest => ?_
  dsimp only
  split
  · exact .bind (strategy_onSyntax text)
  · exact .bind (strategy_onSyntax text)

theorem shapes_onSyntax : ∀ entry ∈ shapes, ∀ text, ReadsOnSyntax (entry.2 text) := by
  have hend (word : String) := exactly?_onSyntax word (ok (none : Option Tag))
  simp only [shapes, List.forall_mem_cons, List.not_mem_nil, false_imp_iff, implies_true, and_true]
  exact ⟨keyword?_onSyntax _ _, keyword?_onSyntax _ _, exactly?_onSyntax _ (ok _), hend _,
    loop?_onSyntax, hend _, assign?_onSyntax, capture?_onSyntax, hend _, block?_onSyntax,
    endTag?_onSyntax _ _, keyword?_onSyntax _ _, uses?_onSyntax, inclusion?_onSyntax _ _,
    inclusion?_onSyntax _ _, hend _, imports?_onSyntax, importsNames?_onSyntax, macroDef?_onSyntax,
    endTag?_onSyntax _ _, scoped?_onSyntax, hend _, exactly?_onSyntax _ (ok _), hend _,
    applied?_onSyntax _, hend _, applied?_onSyntax _, hend _, autoescape?_onSyntax, hend _,
    keyword?_onSyntax _ _, keyword?_onSyntax _ _⟩

theorem read_failsOnSyntax (text : String) : FailsOnSyntax (read text) := by
  unfold read
  dsimp only
  split
  · exact ok _
  · next failure hfound =>
    obtain ⟨⟨kind, shape⟩, hshape, hreading⟩ := List.exists_of_findSome?_eq_some hfound
    obtain ⟨reading, hread, heq⟩ := Option.map_eq_some_iff.mp hreading
    cases heq
    exact error (shapes_onSyntax (kind, shape) hshape text.toList _ hread failure rfl)
  · exact error ⟨trivial, rfl⟩

end TagText

/-! ## Trees -/

namespace TreeBuilder

theorem closeTag_failsOnSyntax (b : TreeBuilder) (kind : TagKind) :
    FailsOnSyntax (b.closeTag kind) := by
  unfold closeTag
  split
  · exact error ⟨trivial, rfl⟩
  · split
    · exact ok _
    · exact error ⟨trivial, rfl⟩

theorem step_failsOnSyntax (b : TreeBuilder) (t : Source.Token) : FailsOnSyntax (b.step t) := by
  unfold step
  dsimp only
  split
  · exact ok _
  · exact ok _
  · exact (Expr.compileWith_failsOnSyntax _ _).bind fun _ => ok _
  · refine (TagText.read_failsOnSyntax _).bind fun tag => ?_
    unfold control
    split
    · exact ok _
    · exact (closeTag_failsOnSyntax _ _).bind fun _ => ok _

theorem finish_failsOnSyntax (b : TreeBuilder) : FailsOnSyntax b.finish := by
  unfold finish
  split
  · exact ok _
  · exact error ⟨trivial, rfl⟩

end TreeBuilder

namespace Source
open Text

theorem upToCloser_isSyntactic {closer : List Char} {offset : Nat} {cause : Cause}
    {string : Option (Char × List Char)} {cs : List Char}
    (h : upToCloser closer offset string cs = .error cause) : cause.IsSyntactic := by
  induction cs generalizing string with
  | nil =>
    cases string <;> cases h <;> trivial
  | cons c rest ih =>
    cases string with
    | none =>
      rw [upToCloser] at h
      split at h
      · cases h
      · split at h
        · cases h
          trivial
        · cases hrest :
            upToCloser closer offset (if isQuote c then some (c, []) else none) rest with
          | ok found =>
            rw [hrest] at h
            cases h
          | error other =>
            rw [hrest] at h
            cases h
            exact ih hrest
    | some inside =>
      obtain ⟨quote, before⟩ := inside
      rw [upToCloser] at h
      cases hrest : upToCloser closer offset
          (if c = quote && !isEscaped before then none else some (quote, c :: before)) rest with
      | ok found =>
        rw [hrest] at h
        cases h
      | error other =>
        rw [hrest] at h
        cases h
        exact ih hrest

theorem Delimiter.body_isSyntactic {d : Delimiter} {offset : Nat} {cs : List Char} {cause : Cause}
    (h : d.body offset cs = .error cause) : cause.IsSyntactic := by
  rw [Delimiter.body] at h
  split at h
  · exact upToCloser_isSyntactic h
  · split at h
    · cases h
    · cases h
      trivial

theorem Tokens.readFrom_isSyntactic {fuel offset : Nat} {cs : List Char} {failure : Failure}
    (h : (Tokens.readFrom fuel offset cs).failure = some failure) :
    failure.cause.IsSyntactic ∧ failure.template = none := by
  induction fuel generalizing offset cs with
  | zero => cases h
  | succ fuel ih =>
    unfold Tokens.readFrom at h
    split at h
    · cases h
    · cases h
    · dsimp only at h
      split at h
      · next hbody =>
        cases h
        exact ⟨Delimiter.body_isSyntactic hbody, rfl⟩
      · exact ih h
    · exact ih h

theorem Tokens.all_failsOnSyntax (source : String) : FailsOnSyntax (Tokens.read source).all := by
  unfold Tokens.all
  split
  · next failure h => exact error (Tokens.readFrom_isSyntactic h)
  · exact ok _

end Source

/-- **A source that cannot be read has a failure of syntax.** -/
theorem Node.ofSource_failsOnSyntax (source : String) : FailsOnSyntax (Node.ofSource source) :=
  (Source.Tokens.all_failsOnSyntax source).bind fun ts =>
    (foldlM TreeBuilder.step_failsOnSyntax ts {}).bind TreeBuilder.finish_failsOnSyntax

end Stencil
