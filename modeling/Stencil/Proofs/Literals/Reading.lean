import Stencil.Proofs.Literals.Holding
import Stencil.Proofs.Literals.Yard
import Stencil.Proofs.Source.Closers

/-!
# Templates hold what was compiled

All expressions of a template were compiled while its source was read, so they are sound; and where
the source cannot be read, at whichever of the stages, it is for no literal
(`Node.holds_ofSource`).
-/
namespace Stencil

/-! ## Expressions -/

namespace Expr

theorem balanced_misplaced (before : List Lexeme) (offset : Nat) (lexeme : Lexeme)
    (text : List Char) (more : List String) :
    (Cause.unparseableExpression
      (" OR ".intercalate (misplaced before lexeme offset text :: more))).Balanced := by
  refine Cause.balanced_reason ?_
  unfold misplaced
  simp only [String.append_assoc, String.intercalate_cons_append]
  cases lexeme.kind <;> simp [Kind.name]

theorem yields_lexemesFrom (fuel : Nat) (before : List Lexeme) (offset : Nat) (cs : List Char) :
    Yields Cause.Balanced (fun _ => True) (lexemesFrom fuel before offset cs) := by
  induction fuel generalizing before offset cs with
  | zero => trivial
  | succ fuel ih =>
    rw [lexemesFrom]
    split
    · trivial
    · split
      · next failure hnext =>
        rw [nextLexeme] at hnext
        dsimp only at hnext
        split at hnext
        · cases hnext
        · cases hnext
          dsimp only [Yields]
          split
          · exact Cause.balanced_reason (by simp)
          · next hfound =>
            -- there is a misplaced lexeme, and the reason starts with it
            cases hall : Kind.all.filterMap (Found.ofKind? before _) with
            | nil =>
              rw [hall] at hfound
              exact absurd rfl hfound
            | cons first rest => exact balanced_misplaced ..
      · exact ih _ _ _

namespace Yard

theorem yields_drainTo (opener : Pending) (output : List Slot) (stack : List Pending) :
    Yields Cause.Balanced (fun _ => True) (drainTo opener output stack) := by
  induction stack generalizing output with
  | nil => exact Cause.balanced_reason (by simp)
  | cons p rest ih =>
    rw [drainTo]
    split
    · trivial
    · split
      · exact ih _
      · exact Cause.balanced_reason (by simp)

theorem yields_takeGroup (tokens : List Token) (output : List Slot) :
    Yields Cause.Balanced (fun _ => True) (takeGroup tokens output) := by
  induction output generalizing tokens with
  | nil => exact Cause.balanced_reason (by simp)
  | cons slot rest ih =>
    cases slot with
    | token t => exact ih _
    | paramMark | subMark => trivial

theorem yields_close (y : Yard) (opener : Pending) :
    Yields Cause.Balanced (fun _ => True) (y.close opener) :=
  (yields_drainTo _ _ _).bind fun _ _ => (yields_takeGroup _ _).bind fun _ _ => trivial

theorem yields_takeKey (output : List Slot) :
    Yields Cause.Balanced (fun _ => True) (takeKey output) := by
  unfold takeKey
  split
  · trivial
  · trivial
  · trivial
  · trivial
  · exact Cause.balanced_of_ne (by rintro _ ⟨⟩)
  · exact Cause.balanced_of_ne (by rintro _ ⟨⟩)

theorem yields_colon (y : Yard) : Yields Cause.Balanced (fun _ => True) y.colon := by
  unfold colon
  dsimp only
  split
  · trivial
  · exact (yields_takeKey _).bind fun _ _ => trivial

theorem yields_operator {α : Type} (ofSymbol? : String → Option α) (symbol : String) :
    Yields Cause.Balanced (fun _ => True) (operator ofSymbol? symbol) := by
  unfold operator
  split
  · trivial
  · exact Cause.balanced_reason (by simp)

theorem yields_step {nested : String → Except Failure Expr}
    (hnested : ∀ text, Yields Cause.Balanced (fun _ => True) (nested text)) (y : Yard)
    (l : Lexeme) : Yields Cause.Balanced (fun _ => True) (step nested y l) := by
  cases l with
  | lambda params body => exact (hnested body).bind fun _ _ => trivial
  | keyBrackets text => exact (hnested text).bind fun _ _ => trivial
  | binary symbol =>
    rw [step]
    split
    · exact yields_colon y
    · exact (yields_operator _ _).bind fun _ _ => trivial
  | unary symbol => exact (yields_operator _ _).bind fun _ _ => trivial
  | subexprEnd | paramEnd => exact (yields_close _ _).bind fun _ _ => trivial
  | arrayEnd | objectEnd => exact (yields_drainTo _ _ _).bind fun _ _ => trivial
  | _ => trivial

theorem yields_finish (y : Yard) (text : String) :
    Yields Cause.Balanced (fun _ => True) (y.finish text) := by
  unfold finish
  dsimp only
  split
  · trivial
  · exact Cause.balanced_reason (by simp)

end Yard

theorem yields_compileWith (fuel : Nat) (text : String) :
    Yields Cause.Balanced (fun _ => True) (compileWith fuel text) := by
  induction fuel generalizing text with
  | zero => trivial
  | succ fuel ih =>
    exact (yields_lexemesFrom _ _ _ _).bind fun ls _ =>
      (Yields.foldlM (fun y l _ => Yard.yields_step ih y l) ls trivial).bind fun y _ =>
        y.yields_finish text

/-- A text compiles to what is sound, or it does not compile, which is for no literal. -/
theorem yields_compile (text : String) : Yields Cause.Balanced Sound (compile text) := by
  have hcause : Yields Cause.Balanced (fun _ => True) (compile text) := yields_compileWith _ text
  cases h : compile text with
  | ok e => exact sound_of_compile h
  | error failure =>
    rw [h] at hcause
    exact hcause

end Expr

/-! ## Tags -/

namespace TagText
open Text

/-- The expressions of the tag that was read, if there is one, are sound. -/
def Sound (tag : Option Tag) : Prop := ∀ t ∈ tag, ∀ e ∈ t.expressions, Expr.Sound e

theorem sound_none : Sound none := by rintro _ ⟨⟩

theorem sound_some {tag : Tag} (h : ∀ e ∈ tag.expressions, Expr.Sound e) : Sound (some tag) := by
  rintro _ ⟨⟩
  exact h

theorem sound_plain {tag : Tag} (h : tag.expressions = []) : Sound (some tag) :=
  sound_some (h ▸ List.forall_mem_nil _)

/-- The tag has one expression. -/
theorem sound_single {tag : Tag} {e : Expr} (he : Expr.Sound e) (h : tag.expressions = [e]) :
    Sound (some tag) :=
  sound_some (h ▸ List.forall_mem_singleton.mpr he)

/-- The tag has one expression and may have another one. -/
theorem sound_pair {tag : Tag} {e : Expr} {more : Option Expr} (he : Expr.Sound e)
    (hmore : ∀ x ∈ more, Expr.Sound x) (h : tag.expressions = e :: more.toList) :
    Sound (some tag) :=
  sound_some (h ▸ List.forall_mem_cons.mpr ⟨he, fun x hx => hmore x (Option.mem_toList.mp hx)⟩)

theorem yields_expression (cs : List Char) : Yields Cause.Balanced Expr.Sound (expression cs) :=
  Expr.yields_compile _

theorem yields_optionalExpression (cs : Option (List Char)) :
    Yields Cause.Balanced (fun e => ∀ x ∈ e, Expr.Sound x) (optionalExpression cs) := by
  cases cs with
  | none => rintro _ ⟨⟩
  | some cs =>
    refine (yields_expression cs).map fun e he => ?_
    rintro _ ⟨⟩
    exact he

theorem yields_ofExpression {tag : Expr → Tag} (htag : ∀ e, (tag e).expressions = [e])
    (cs : List Char) : Yields Cause.Balanced Sound (ofExpression tag cs) :=
  (yields_expression cs).map fun e he => sound_single he (htag e)

theorem yields_malformed {α : Type} {fits : α → Prop} (text : List Char) :
    Yields Cause.Balanced fits (.error (malformed text)) :=
  Cause.balanced_of_ne (by rintro _ ⟨⟩)

/-- A text that has the shape is read as a sound tag, or cannot be read, which is for no literal. -/
def ReadsSound (reading : Option Reading) : Prop := ∀ r ∈ reading, Yields Cause.Balanced Sound r

namespace ReadsSound

theorem none : ReadsSound none := by rintro _ ⟨⟩

theorem some {r : Reading} (h : Yields Cause.Balanced Sound r) : ReadsSound (some r) := by
  rintro _ ⟨⟩
  exact h

theorem bind {α : Type} {o : Option α} {f : α → Option Reading} (hf : ∀ a, ReadsSound (f a)) :
    ReadsSound (o >>= f) := by
  cases o with
  | none => exact none
  | some a => exact hf a

theorem map {α : Type} {o : Option α} {f : α → Reading}
    (hf : ∀ a, Yields Cause.Balanced Sound (f a)) : ReadsSound (o.map f) := by
  cases o with
  | none => exact none
  | some a => exact some (hf a)

end ReadsSound

theorem reads_exactly? (word : String) {reading : Reading}
    (h : Yields Cause.Balanced Sound reading) (text : List Char) :
    ReadsSound (exactly? word reading text) := by
  unfold exactly?
  split
  · exact .some h
  · exact .none

theorem reads_keyword? (word : String) {tag : Expr → Tag}
    (htag : ∀ e, (tag e).expressions = [e]) (text : List Char) :
    ReadsSound (keyword? word tag text) := .map (yields_ofExpression htag)

theorem reads_endTag? (word : String) (more : Char → Bool) (text : List Char) :
    ReadsSound (endTag? word more text) := by
  refine .bind fun rest => ?_
  split
  · exact .some sound_none
  · refine .bind fun name => ?_
    split
    · exact .some sound_none
    · exact .none

theorem reads_loop? (text : List Char) : ReadsSound (loop? text) := by
  refine .bind fun rest => .bind fun ⟨names, subject, condition⟩ => ?_
  dsimp only
  split
  · refine .some ?_
    split
    · exact yields_malformed _
    · exact (yields_expression _).bind fun e he =>
        (yields_optionalExpression _).bind fun guard hguard => sound_pair he hguard rfl
  · exact .none

theorem reads_assign? (text : List Char) : ReadsSound (assign? text) :=
  .bind fun _ => .bind fun _ => .bind fun _ => .bind fun _ =>
    .some (yields_ofExpression (fun _ => rfl) _)

theorem reads_capture? (text : List Char) : ReadsSound (capture? text) :=
  .bind fun _ => .bind fun _ => .some (sound_plain rfl)

theorem reads_block? (text : List Char) : ReadsSound (block? text) := by
  have hbody (name : String) (body : Option (List Char)) : Yields Cause.Balanced Sound (do
      let body ← optionalExpression body
      .ok (some (.block name body))) :=
    (yields_optionalExpression _).bind fun e he =>
      sound_some fun x hx => he x (Option.mem_toList.mp hx)
  refine .bind fun rest => .bind fun ⟨name, rest⟩ => ?_
  dsimp only
  split
  · exact .bind fun _ => .some (hbody _ _)
  · exact .bind fun _ => .some (hbody _ _)

/-- The names of a list are read, or the text of the tag fits no tag. -/
theorem yields_names {α : Type} {read : List Char → Except Failure α}
    (hread : ∀ item, Yields Cause.Balanced (fun _ => True) (read item)) (items : List (List Char)) :
    Yields Cause.Balanced (fun _ => True) (items.mapM read) :=
  (Yields.mapM hread items).mono (fun _ hc => hc) fun _ _ => trivial

theorem reads_uses? (text : List Char) : ReadsSound (uses? text) := by
  refine .bind fun _ => .bind fun _ => .some ((yields_names (fun item => ?_) _).bind fun _ _ =>
    (yields_expression _).bind fun e he => sound_single he rfl)
  split
  · trivial
  · exact yields_malformed _

theorem reads_inclusion? (word : String) {tag : Inclusion → Tag}
    (htag : ∀ i, (tag i).expressions = i.expressions) (text : List Char) :
    ReadsSound (inclusion? word tag text) :=
  .bind fun _ => .bind fun _ => .some ((yields_expression _).bind fun _ he =>
    (yields_optionalExpression _).bind fun _ hbindings => sound_pair he hbindings (htag _))

theorem reads_imports? (text : List Char) : ReadsSound (imports? text) :=
  .bind fun _ => .bind fun _ => .some (yields_ofExpression (fun _ => rfl) _)

theorem reads_importsNames? (text : List Char) : ReadsSound (importsNames? text) := by
  refine .bind fun _ => .bind fun _ => .some ((yields_names (fun item => ?_) _).bind fun _ _ =>
    (yields_expression _).bind fun e he => sound_single he rfl)
  split
  · trivial
  · exact yields_malformed _

theorem reads_macroDef? (text : List Char) : ReadsSound (macroDef? text) := by
  refine .bind fun _ => .bind fun ⟨name, rest⟩ => .bind fun _ => ?_
  split
  · refine .some ((@Yields.mapM _ _ _ (fun p : MacroParam => ∀ e ∈ p.default, Expr.Sound e) _
      (fun item => ?_) _).bind fun params hparams => sound_some fun e he => ?_)
    · split
      · exact (yields_optionalExpression _).map fun e he => he
      · exact yields_malformed _
    · obtain ⟨p, hp, hdefault⟩ := List.mem_filterMap.mp he
      exact hparams p hp e hdefault
  · exact .none

theorem reads_scoped? (text : List Char) : ReadsSound (scoped? text) := by
  refine .bind fun rest => ?_
  split
  · exact .some (sound_plain rfl)
  · refine .bind fun ⟨subject, only⟩ => ?_
    dsimp only
    split
    · exact .some (sound_plain rfl)
    · exact .some (yields_ofExpression (fun _ => rfl) _)

theorem reads_applied? (word : String) (text : List Char) : ReadsSound (applied? word text) :=
  .bind fun _ => .some (yields_ofExpression (fun _ => rfl) _)

theorem reads_autoescape? (text : List Char) : ReadsSound (autoescape? text) := by
  refine .bind fun rest => ?_
  dsimp only
  split
  all_goals
    refine .bind fun cs => .some ?_
    split
    · exact sound_plain rfl
    · exact yields_malformed _

theorem reads_shapes : ∀ entry ∈ shapes, ∀ text, ReadsSound (entry.2 text) := by
  have hnothing : Yields Cause.Balanced Sound (.ok none) := sound_none
  have hend (word : String) := reads_exactly? word hnothing
  simp only [shapes, List.forall_mem_cons, List.not_mem_nil, false_imp_iff, implies_true, and_true]
  exact ⟨reads_keyword? _ fun _ => rfl, reads_keyword? _ fun _ => rfl,
    reads_exactly? _ (sound_plain rfl), hend _, reads_loop?, hend _, reads_assign?, reads_capture?,
    hend _, reads_block?, reads_endTag? _ _, reads_keyword? _ fun _ => rfl, reads_uses?,
    reads_inclusion? _ fun _ => rfl, reads_inclusion? _ fun _ => rfl, hend _, reads_imports?,
    reads_importsNames?, reads_macroDef?, reads_endTag? _ _, reads_scoped?, hend _,
    reads_exactly? _ (sound_plain rfl), hend _, reads_applied? _, hend _, reads_applied? _, hend _,
    reads_autoescape?, hend _, reads_keyword? _ fun _ => rfl, reads_keyword? _ fun _ => rfl⟩

theorem yields_read (text : String) :
    Yields Cause.Balanced (fun t : TagText => Sound t.tag) (read text) := by
  unfold read
  dsimp only
  split
  · next tag hfound =>
    obtain ⟨⟨kind, shape⟩, hshape, hreading⟩ := List.exists_of_findSome?_eq_some hfound
    obtain ⟨reading, hread, heq⟩ := Option.map_eq_some_iff.mp hreading
    cases heq
    exact reads_shapes (kind, shape) hshape text.toList _ hread
  -- the text has the shape of a tag, but one of its parts could not be read
  · next failure hfound =>
    obtain ⟨⟨kind, shape⟩, hshape, hreading⟩ := List.exists_of_findSome?_eq_some hfound
    obtain ⟨reading, hread, heq⟩ := Option.map_eq_some_iff.mp hreading
    cases heq
    exact reads_shapes (kind, shape) hshape text.toList _ hread
  · exact yields_malformed _

end TagText

/-! ## Trees -/

theorem Node.allHold_iff {P : Expr → Prop} {nodes : List Node} :
    AllHold P nodes ↔ ∀ n ∈ nodes, ∀ e ∈ n.expressions, P e := by
  unfold AllHold
  simp only [mem_allExpressions]
  exact ⟨fun h n hn e he => h e ⟨n, hn, he⟩, fun h e ⟨n, hn, he⟩ => h n hn e he⟩

theorem Node.allHold_reverse {P : Expr → Prop} {nodes : List Node} (h : AllHold P nodes) :
    AllHold P nodes.reverse := by
  rw [allHold_iff] at h ⊢
  exact fun n hn => h n (List.mem_reverse.mp hn)

/-- The expressions of an open tag and of the nodes inside it are sound. -/
structure OpenTag.Sound (t : OpenTag) : Prop where
  tag : ∀ e ∈ t.tag.expressions, Expr.Sound e
  body : Node.AllHold Expr.Sound t.body

namespace TreeBuilder

/-- The expressions of the tree so far are sound. -/
structure Sound (b : TreeBuilder) : Prop where
  top : Node.AllHold Expr.Sound b.top
  stack : ∀ t ∈ b.stack, t.Sound

theorem sound_empty : Sound {} := ⟨Node.allHold_nil, List.forall_mem_nil _⟩

section
variable {b : TreeBuilder} (h : b.Sound)
include h

theorem Sound.modifyTarget {f : List Node → List Node}
    (hf : ∀ nodes, Node.AllHold Expr.Sound nodes → Node.AllHold Expr.Sound (f nodes)) :
    (b.modifyTarget f).Sound := by
  obtain ⟨top, stack, trimNext⟩ := b
  cases stack with
  | nil => exact ⟨hf top h.top, List.forall_mem_nil _⟩
  | cons t rest =>
    obtain ⟨ht, hrest⟩ := List.forall_mem_cons.mp h.stack
    exact ⟨h.top, List.forall_mem_cons.mpr ⟨⟨ht.tag, hf t.body ht.body⟩, hrest⟩⟩

theorem Sound.emit {n : Node} (hn : ∀ e ∈ n.expressions, Expr.Sound e) : (b.emit n).Sound :=
  h.modifyTarget fun _ hnodes => Node.allHold_cons.mpr ⟨hn, hnodes⟩

theorem Sound.trim : (b.modifyTarget trimLast).Sound := by
  refine h.modifyTarget fun nodes hnodes => ?_
  unfold trimLast
  split
  · exact hnodes
  · exact hnodes

theorem Sound.text (trimStart : Bool) (value : String) : (b.text trimStart value).Sound := by
  have hkept (kept : String) : Sound (if kept.isEmpty then b else b.emit (.raw kept)) := by
    split
    · exact h
    · exact h.emit (n := .raw kept) (List.forall_mem_nil _)
  exact hkept _

theorem Sound.openTag (kind : TagKind) (next : List TagKind) {tag : Tag}
    (htag : ∀ e ∈ tag.expressions, Expr.Sound e) : (b.openTag kind next tag).Sound := by
  unfold TreeBuilder.openTag
  split
  · refine h.emit ?_
    rw [Node.expressions, Node.allExpressions, List.append_nil]
    exact htag
  · exact ⟨h.top, List.forall_mem_cons.mpr ⟨⟨htag, Node.allHold_nil⟩, h.stack⟩⟩

/-- The tag that was read, if there is one, is put in or opened. -/
theorem Sound.openRead (kind : TagKind) (next : List TagKind) {tag : Option Tag} :
    TagText.Sound tag → Sound (match tag with
      | some tag => b.openTag kind next tag
      | none => b) := by
  intro htag
  cases tag with
  | none => exact h
  | some tag => exact h.openTag kind next (htag tag rfl)

theorem Sound.closeTag (kind : TagKind) :
    Yields Cause.Balanced (fun r => r.2.Sound) (b.closeTag kind) := by
  unfold TreeBuilder.closeTag
  split
  · exact Cause.balanced_of_ne (by rintro _ ⟨⟩)
  · next t rest hstack =>
    have hall := h.stack
    rw [hstack] at hall
    obtain ⟨ht, hrest⟩ := List.forall_mem_cons.mp hall
    split
    · have hclosed : Sound { b with stack := rest } := ⟨h.top, hrest⟩
      refine hclosed.emit ?_
      rw [Node.expressions]
      exact List.forall_mem_append.mpr ⟨ht.tag, Node.allHold_reverse ht.body⟩
    · exact Cause.balanced_of_ne (by rintro _ ⟨⟩)

theorem Sound.control {t : TagText} (ht : TagText.Sound t.tag) :
    Yields Cause.Balanced Sound (b.control t) := by
  unfold TreeBuilder.control
  split
  · exact h.openRead _ _ ht
  · exact (h.closeTag _).bind fun _ hr => hr.openRead _ _ ht

theorem Sound.step (t : Source.Token) : Yields Cause.Balanced Sound (b.step t) := by
  have htrimmed : (if t.kind.trimsBefore then b.modifyTarget trimLast else b).Sound := by
    split
    · exact h.trim
    · exact h
  unfold TreeBuilder.step
  dsimp only
  -- trimming changes raw text only, so from here on it does not matter whether there was any
  generalize (if t.kind.trimsBefore then b.modifyTarget trimLast else b) = trimmed at htrimmed
  have hb : Sound { trimmed with trimNext := t.kind.trimsAfter } := ⟨htrimmed.top, htrimmed.stack⟩
  split
  · exact hb.text _ _
  · exact hb
  · exact (Expr.yields_compile _).bind fun e he =>
      hb.emit (n := .output e) (List.forall_mem_singleton.mpr he)
  · exact (TagText.yields_read _).bind fun tag htag => hb.control htag

theorem Sound.finish : Yields Cause.Balanced (Node.AllHold Expr.Sound) b.finish := by
  unfold TreeBuilder.finish
  split
  · exact Node.allHold_reverse h.top
  · exact Cause.balanced_of_ne (by rintro _ ⟨⟩)

end
end TreeBuilder

/-! ## Sources -/

namespace Source

theorem Unclosed.balanced {closer : List Char} {offset : Nat} {cause : Cause}
    (h : Unclosed closer offset cause) : cause.Balanced := by
  rcases h with rfl | rfl
  · exact Cause.balanced_of_ne (by rintro _ ⟨⟩)
  · exact Cause.balanced_of_ne (by rintro _ ⟨⟩)

theorem Delimiter.balanced_of_body {d : Delimiter} {offset : Nat} {cs : List Char} {cause : Cause}
    (h : d.body offset cs = .error cause) : cause.Balanced := by
  rw [Delimiter.body] at h
  split at h
  · have hoff : ∀ s ∈ (none : Option (Char × List Char)), Text.isQuote s.1 = true := by
      rintro _ ⟨⟩
    have hfinds := upToCloser_finds d.closer offset hoff cs
    rw [Finds, h] at hfinds
    split at hfinds
    · cases hfinds
    · obtain ⟨_, heq, hcause⟩ := hfinds
      cases heq
      exact hcause.balanced
  · split at h
    · cases h
    · cases h
      exact Cause.balanced_of_ne (by rintro _ ⟨⟩)

theorem Tokens.balanced_of_readFrom {fuel offset : Nat} {cs : List Char} {failure : Failure}
    (h : (Tokens.readFrom fuel offset cs).failure = some failure) : failure.cause.Balanced := by
  induction fuel generalizing offset cs with
  | zero => cases h
  | succ fuel ih =>
    unfold Tokens.readFrom at h
    split at h
    · cases h
    · cases h
    · dsimp only at h
      split at h
      · next hbody =>
        cases h
        exact Delimiter.balanced_of_body hbody
      · exact ih h
    · exact ih h

theorem Tokens.yields_all (source : String) :
    Yields Cause.Balanced (fun _ => True) (Tokens.read source).all := by
  unfold Tokens.all
  split
  · next failure h => exact Tokens.balanced_of_readFrom h
  · trivial

end Source

/-- **Templates hold what was compiled.**  A source is read as nodes whose expressions are sound, or
it cannot be read, which is for no literal. -/
theorem Node.holds_ofSource (source : String) :
    Yields Cause.Balanced (AllHold Expr.Sound) (Node.ofSource source) :=
  (Source.Tokens.yields_all source).bind fun ts _ =>
    (Yields.foldlM (fun _ t hb => hb.step t) ts TreeBuilder.sound_empty).bind fun _ hb => hb.finish

end Stencil
