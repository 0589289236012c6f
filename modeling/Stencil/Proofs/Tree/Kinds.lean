import Stencil.Tree.TagText

/-!
# The tags that texts write

What a tag says fits the kind that its text is taken for (`TagText.read_fits`): the text of an end
of a tag says nothing more, and any other text says what a tag of the kind does.  `apply` and
`filter` write the same tag.
-/
namespace Stencil

namespace TagKind

/-- The kind without the difference between `apply` and `filter`. -/
def plain : TagKind → TagKind
  | .filter => .apply
  | .endFilter => .endApply
  | kind => kind

/-- The tag is the end of another one. -/
def isEnd : TagKind → Bool
  | .elseBranch | .otherwise => false
  | kind => !kind.isOpen

end TagKind

/-- The kind of the tag, where `apply` stands for `filter` too. -/
def Tag.kind : Tag → TagKind
  | .branch _ => .branch
  | .elseBranch _ => .elseBranch
  | .otherwise => .otherwise
  | .loop .. => .loop
  | .assign .. => .assign
  | .capture _ => .capture
  | .block .. => .block
  | .inherits _ => .inherits
  | .uses .. => .uses
  | .includes _ => .includes
  | .embeds _ => .embeds
  | .imports .. => .imports
  | .importsNames .. => .importsNames
  | .macroDef .. => .macroDef
  | .scoped .. => .scoped
  | .spaceless => .spaceless
  | .apply _ => .apply
  | .autoescape _ => .autoescape
  | .evaluate _ => .evaluate
  | .deprecated _ => .deprecated

namespace TagText
open Text

/-- The tag is one of its kind. -/
def Fits (t : TagText) : Prop :=
  match t.tag with
  | some tag => tag.kind = t.kind.plain
  | none => t.kind.isEnd = true

/-- What is read says what a tag of the kind does. -/
def Says (kind : TagKind) (r : Reading) : Prop := ∀ tag, r = .ok tag → Fits ⟨kind, tag⟩

namespace Says
variable {kind : TagKind}

theorem ok {tag : Option Tag} (h : Fits ⟨kind, tag⟩) : Says kind (.ok tag) := by
  rintro _ ⟨⟩
  exact h

theorem error {e : Failure} : Says kind (.error e) := nofun

theorem bind {α : Type} {r : Except Failure α} {f : α → Reading} (hf : ∀ a, Says kind (f a)) :
    Says kind (r >>= f) := by
  cases r with
  | error e => exact error
  | ok a => exact hf a

theorem ofExpression {tag : Expr → Tag} (h : ∀ e, (tag e).kind = kind.plain) (cs : List Char) :
    Says kind (ofExpression tag cs) := by
  unfold TagText.ofExpression
  cases expression cs with
  | error e => exact error
  | ok e => exact ok (h e)

end Says

/-- A text that has the shape says what a tag of the kind does. -/
def Shapes (kind : TagKind) (reading : Option Reading) : Prop := ∀ r, reading = some r → Says kind r

namespace Shapes
variable {kind : TagKind}

theorem none : Shapes kind none := nofun

theorem some {r : Reading} (h : Says kind r) : Shapes kind (some r) := by
  rintro _ ⟨⟩
  exact h

theorem bind {α : Type} {o : Option α} {f : α → Option Reading} (hf : ∀ a, Shapes kind (f a)) :
    Shapes kind (o >>= f) := by
  cases o with
  | none => exact none
  | some a => exact hf a

end Shapes

variable {kind : TagKind}

theorem exactly?_shapes (word : String) {reading : Reading} (h : Says kind reading)
    (text : List Char) : Shapes kind (exactly? word reading text) := by
  unfold exactly?
  split
  · exact .some h
  · exact .none

theorem keyword?_shapes (word : String) {tag : Expr → Tag} (h : ∀ e, (tag e).kind = kind.plain)
    (text : List Char) : Shapes kind (keyword? word tag text) := by
  unfold keyword?
  cases argument? word text with
  | none => exact .none
  | some cs => exact .some (.ofExpression h cs)

theorem endTag?_shapes (word : String) (more : Char → Bool) (h : kind.isEnd = true)
    (text : List Char) : Shapes kind (endTag? word more text) := by
  refine .bind fun rest => ?_
  split
  · exact .some (.ok h)
  · refine .bind fun name => ?_
    split
    · exact .some (.ok h)
    · exact .none

theorem loop?_shapes (text : List Char) : Shapes .loop (loop? text) := by
  refine .bind fun rest => .bind fun ⟨names, subject, condition⟩ => ?_
  dsimp only
  split
  · refine .some ?_
    split
    · exact .error
    · exact .bind fun _ => .bind fun _ => .ok rfl
  · exact .none

theorem assign?_shapes (text : List Char) : Shapes .assign (assign? text) :=
  .bind fun _ => .bind fun _ => .bind fun _ => .bind fun _ => .some (.ofExpression (fun _ => rfl) _)

theorem capture?_shapes (text : List Char) : Shapes .capture (capture? text) :=
  .bind fun _ => .bind fun _ => .some (.ok rfl)

theorem block?_shapes (text : List Char) : Shapes .block (block? text) := by
  refine .bind fun rest => .bind fun ⟨name, rest⟩ => ?_
  dsimp only
  split
  · exact .bind fun _ => .some (.bind fun _ => .ok rfl)
  · exact .bind fun _ => .some (.bind fun _ => .ok rfl)

theorem uses?_shapes (text : List Char) : Shapes .uses (uses? text) :=
  .bind fun _ => .bind fun _ => .some (.bind fun _ => .bind fun _ => .ok rfl)

theorem inclusion?_shapes (word : String) {tag : Inclusion → Tag}
    (h : ∀ i, (tag i).kind = kind.plain) (text : List Char) :
    Shapes kind (inclusion? word tag text) :=
  .bind fun _ => .bind fun _ => .some (.bind fun _ => .bind fun _ => .ok (h _))

theorem imports?_shapes (text : List Char) : Shapes .imports (imports? text) :=
  .bind fun _ => .bind fun _ => .some (.ofExpression (fun _ => rfl) _)

theorem importsNames?_shapes (text : List Char) : Shapes .importsNames (importsNames? text) :=
  .bind fun _ => .bind fun _ => .some (.bind fun _ => .bind fun _ => .ok rfl)

theorem macroDef?_shapes (text : List Char) : Shapes .macroDef (macroDef? text) := by
  refine .bind fun rest => .bind fun ⟨name, rest⟩ => .bind fun _ => ?_
  split
  · exact .some (.bind fun _ => .ok rfl)
  · exact .none

theorem scoped?_shapes (text : List Char) : Shapes .scoped (scoped? text) := by
  refine .bind fun rest => ?_
  split
  · exact .some (.ok rfl)
  · refine .bind fun ⟨subject, only⟩ => ?_
    dsimp only
    split
    · exact .some (.ok rfl)
    · exact .some (.ofExpression (fun _ => rfl) _)

theorem applied?_shapes (word : String) (h : kind.plain = .apply) (text : List Char) :
    Shapes kind (applied? word text) :=
  .bind fun _ => .some (.ofExpression (fun e => show (Tag.apply e).kind = _ from h.symm) _)

/-- The strategy of an `autoescape` tag. -/
theorem strategy_shapes (text : List Char) (cs : Option (List Char)) : Shapes .autoescape (some <|
    match strategy? (cs.map trim) with
    | some strategy => .ok (some (.autoescape strategy))
    | none => .error (malformed text)) := by
  refine .some ?_
  split
  · exact .ok rfl
  · exact .error

theorem autoescape?_shapes (text : List Char) : Shapes .autoescape (autoescape? text) := by
  refine .bind fun rest => ?_
  dsimp only
  split
  · exact .bind (strategy_shapes text)
  · exact .bind (strategy_shapes text)

theorem shapes_shape : ∀ entry ∈ shapes, ∀ text, Shapes entry.1 (entry.2 text) := by
  have hend {kind : TagKind} (h : kind.isEnd = true) (word : String) :=
    exactly?_shapes word (@Says.ok kind none h)
  simp only [shapes, List.forall_mem_cons, List.not_mem_nil, false_imp_iff, implies_true, and_true]
  exact ⟨keyword?_shapes _ fun _ => rfl, keyword?_shapes _ fun _ => rfl,
    exactly?_shapes _ (.ok rfl), hend rfl _, loop?_shapes, hend rfl _, assign?_shapes,
    capture?_shapes, hend rfl _, block?_shapes, endTag?_shapes _ _ rfl,
    keyword?_shapes _ fun _ => rfl, uses?_shapes,
    inclusion?_shapes _ fun _ => rfl, inclusion?_shapes _ fun _ => rfl, hend rfl _, imports?_shapes,
    importsNames?_shapes, macroDef?_shapes, endTag?_shapes _ _ rfl, scoped?_shapes, hend rfl _,
    exactly?_shapes _ (.ok rfl), hend rfl _, applied?_shapes _ rfl, hend rfl _,
    applied?_shapes _ rfl, hend rfl _, autoescape?_shapes, hend rfl _,
    keyword?_shapes _ fun _ => rfl, keyword?_shapes _ fun _ => rfl⟩

/-- A tag that is read is one of the kind its text is taken for. -/
theorem read_fits {text : String} {t : TagText} (h : read text = .ok t) : t.Fits := by
  unfold read at h
  dsimp only at h
  split at h
  · next kind tag hfound =>
    cases h
    obtain ⟨⟨kind', shape⟩, hshape, hreading⟩ := List.exists_of_findSome?_eq_some hfound
    obtain ⟨reading, hread, heq⟩ := Option.map_eq_some_iff.mp hreading
    cases heq
    exact shapes_shape _ hshape text.toList _ hread tag rfl
  · cases h
  · cases h

end TagText
end Stencil
