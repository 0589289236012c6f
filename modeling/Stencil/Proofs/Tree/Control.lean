import Stencil.Proofs.Tree.Nesting
import Stencil.Proofs.Tree.Written
import Stencil.Tree.Builder

/-!
# Control tags in a tree that is being built

The open tags of a tree that is being built are those of the stack of the grammar
(`TreeBuilder.Opens`), and the parts of the tree so far are those of its nodes and open tags
(`TreeBuilder.written`).  A control tag is taken in exactly if the grammar has a place for it, and
then its part stands behind all others (`TreeBuilder.control_eq`).
-/
namespace Stencil

/-! ## Tags of a kind -/

theorem Tag.kind_isEnd (t : Tag) : t.kind.isEnd = false := by
  cases t <;> rfl

theorem TagKind.eq_block_of_plain {kind : TagKind} (h : kind.plain = .block) : kind = .block := by
  cases kind <;> simp [plain] at h ⊢

theorem TagKind.plain_isEnd (kind : TagKind) : kind.plain.isEnd = kind.isEnd := by
  cases kind <;> rfl

theorem Tag.ending?_of_ne_block {t : Tag} (h : ∀ name e, t ≠ .block name (some e))
    (afterLoop : Bool) : t.ending? afterLoop = t.kind.ending? afterLoop := by
  unfold ending?
  split
  · next name e => exact absurd rfl (h name e)
  · rfl

namespace Opened

theorem ending_isEnd (o : Opened) : o.ending.isEnd = true := by
  cases o with
  | otherwise ofLoop => cases ofLoop <;> rfl
  | enclosure e => cases e <;> rfl
  | _ => rfl

theorem next_ne_nil (o : Opened) : o.next ≠ [] := by
  cases o with
  | branch again => cases again <;> exact List.cons_ne_nil _ _
  | otherwise ofLoop => cases ofLoop <;> exact List.cons_ne_nil _ _
  | _ => exact List.cons_ne_nil _ _

end Opened

namespace TagText
variable {t : TagText}

theorem tag_of_isEnd (ht : t.Fits) (hend : t.kind.isEnd = true) : t.tag = none := by
  unfold Fits at ht
  split at ht
  · next tag _ =>
    have := tag.kind_isEnd
    rw [ht, TagKind.plain_isEnd, hend] at this
    cases this
  · next hnone => exact hnone

theorem exists_tag (ht : t.Fits) (hend : t.kind.isEnd = false) :
    ∃ tag, t.tag = some tag ∧ tag.kind = t.kind.plain := by
  unfold Fits at ht
  split at ht
  · next tag htag => exact ⟨tag, htag, ht⟩
  · rw [hend] at ht
    cases ht

theorem Fits.kind_eq (ht : t.Fits) {tag : Tag} (htag : t.tag = some tag) :
    tag.kind = t.kind.plain := by
  rwa [Fits, htag] at ht

theorem next_of_ne_block (ht : t.Fits) (hne : t.kind ≠ .block) : t.next = t.kind.next := by
  unfold next
  split
  · next htag =>
    exact absurd (TagKind.eq_block_of_plain (ht.kind_eq htag).symm) hne
  · rfl

theorem next_of_alone (ht : t.Fits) (hplace : t.place = .alone) : t.next = [] := by
  by_cases hblock : t.kind = .block
  · unfold place at hplace
    simp only [hblock] at hplace
    unfold next
    split at hplace
    · next htag => simp only [htag]
    · cases hplace
  · rw [next_of_ne_block ht hblock]
    unfold place at hplace
    split at hplace <;> simp_all [TagKind.next]

theorem next_of_opens (ht : t.Fits) {o : Opened} (hplace : t.place = .opens o) :
    t.next = o.next := by
  by_cases hblock : t.kind = .block
  · unfold place at hplace
    simp only [hblock] at hplace
    split at hplace
    · cases hplace
    · next hnot =>
      cases hplace
      unfold next
      split
      · next htag => exact absurd htag (hnot _ _)
      · simp only [hblock, TagKind.next, Opened.next, Enclosure.ending]
  · rw [next_of_ne_block ht hblock]
    obtain ⟨hkind, ho⟩ := kind_of_place hplace
    rw [hkind] at hblock ⊢
    rcases ho with rfl | rfl | ⟨e, rfl⟩
    · rfl
    · rfl
    · cases e <;> rfl

/-- A tag that stands alone is written without an end. -/
theorem ending?_of_alone (ht : t.Fits) (hplace : t.place = .alone) {tag : Tag}
    (htag : t.tag = some tag) :
    tag.isSection = false ∧ ∀ afterLoop, tag.ending? afterLoop = none := by
  have hkind := ht.kind_eq htag
  by_cases hblock : t.kind = .block
  · unfold place at hplace
    simp only [hblock, htag] at hplace
    split at hplace
    · next heq =>
      cases heq
      exact ⟨rfl, fun _ => rfl⟩
    · cases hplace
  · have hends : tag.isSection = false ∧ ∀ afterLoop, tag.kind.ending? afterLoop = none := by
      rw [Tag.isSection, hkind]
      unfold place at hplace
      split at hplace <;> simp_all [TagKind.plain, TagKind.ending?]
    refine ⟨hends.1, fun afterLoop => ?_⟩
    unfold Tag.ending?
    split
    · rfl
    · exact hends.2 afterLoop

end TagText

/-! ## The parts so far -/

namespace TreeBuilder

/-- The list into which new nodes go, the last first. -/
def targetOf (top : List Node) : List OpenTag → List Node
  | [] => top
  | t :: _ => t.body

/-- The parts of the nodes so far and of the open tags; `continued` if a section is to follow. -/
def writtenOf (top : List Node) (continued : Bool) : List OpenTag → List Part
  | [] => Node.writeBack continued top
  | t :: rest =>
    writtenOf top t.tag.isSection rest ++ .tag t.tag :: Node.writeBack continued t.body

def target (b : TreeBuilder) : List Node := targetOf b.top b.stack

def written (b : TreeBuilder) (continued : Bool) : List Part := writtenOf b.top continued b.stack

theorem target_modifyTarget (b : TreeBuilder) (f : List Node → List Node) :
    (b.modifyTarget f).target = f b.target := by
  unfold modifyTarget target
  cases b.stack <;> rfl

/-- What is written at the end of the list that a function changes. -/
theorem written_modifyTarget {b : TreeBuilder} {f : List Node → List Node} {continued was : Bool}
    {more : List Part}
    (h : Node.writeBack continued (f b.target) = Node.writeBack was b.target ++ more) :
    (b.modifyTarget f).written continued = b.written was ++ more := by
  unfold modifyTarget written target at *
  cases hstack : b.stack with
  | nil =>
    rw [hstack] at h
    exact h
  | cons t rest =>
    rw [hstack] at h
    simp only [writtenOf, List.append_assoc, List.cons_append]
    exact congrArg _ (congrArg _ h)

theorem written_emit (b : TreeBuilder) (n : Node) (continued : Bool) :
    (b.emit n).written continued =
      b.written n.isSection ++ n.write (Node.endWithLoop b.target) continued :=
  written_modifyTarget (Node.writeBack_cons continued n b.target)

theorem modifyTarget_modifyTarget (b : TreeBuilder) (f g : List Node → List Node) :
    (b.modifyTarget f).modifyTarget g = b.modifyTarget (g ∘ f) := by
  unfold modifyTarget
  cases b.stack <;> rfl

theorem modifyTarget_of_eq {b : TreeBuilder} {f : List Node → List Node}
    (h : f b.target = b.target) : b.modifyTarget f = b := by
  obtain ⟨top, stack, trimNext⟩ := b
  cases stack with
  | nil =>
    have htop : f top = top := h
    simp only [modifyTarget, htop]
  | cons t rest =>
    have hbody : f t.body = t.body := h
    simp only [modifyTarget, hbody]

end TreeBuilder

/-- An open tag is one of its kind, and an end that may follow it is the one it is written with
behind the nodes before it. -/
structure OpenTag.EndsAfter (t : OpenTag) (back : List Node) : Prop where
  kind : t.tag.kind = t.kind.plain
  ending : ∀ k ∈ t.next, k.isEnd = true → t.tag.ending? (Node.endWithLoop back) = some k.plain

namespace TreeBuilder

/-- All open tags end as they are written. -/
def EndsWell (top : List Node) : List OpenTag → Prop
  | [] => True
  | t :: rest => t.EndsAfter (targetOf top rest) ∧ EndsWell top rest

/-- The open tags of a tree that is being built are those of a stack. -/
structure Opens (b : TreeBuilder) (s : List Opened) : Prop where
  stack : b.stack.map (fun t => (t.kind, t.next)) = s.map (fun o => (o.kind, o.next))
  endsWell : EndsWell b.top b.stack

/-- The last node is not a text that may lose blanks. -/
def Settled (b : TreeBuilder) : Prop := trimLast b.target = b.target

theorem Opens.modifyTarget {b : TreeBuilder} {s : List Opened} (h : b.Opens s)
    (f : List Node → List Node) : (b.modifyTarget f).Opens s := by
  obtain ⟨hstack, hends⟩ := h
  unfold TreeBuilder.modifyTarget
  cases hb : b.stack with
  | nil =>
    rw [hb] at hstack
    refine ⟨?_, ?_⟩
    · simpa [hb] using hstack
    · simp [EndsWell]
  | cons t rest =>
    rw [hb] at hstack hends
    exact ⟨hstack, ⟨hends.1.kind, hends.1.ending⟩, hends.2⟩

/-! ## Control tags -/

/-- What a tag that cannot stand somewhere is said to follow. -/
def previous : List Opened → String
  | [] => "template start"
  | o :: _ => o.kind.name

open TagText

/-- The tree has taken in a control tag: nothing is lost, and no text is at its end. -/
structure TakenIn (b b' : TreeBuilder) (s' : List Opened) (t : TagText) : Prop where
  opens : b'.Opens s'
  written : b'.written false = b.written false ++ [t.part]
  settled : b'.Settled
  trimNext : b'.trimNext = b.trimNext

/-- The innermost open tag is closed. -/
def closed (b : TreeBuilder) (f : OpenTag) (rest : List OpenTag) : TreeBuilder :=
  { b with stack := rest }.emit (.logic f.tag f.body.reverse)

theorem written_closed {b : TreeBuilder} {f : OpenTag} {rest : List OpenTag}
    (hstack : b.stack = f :: rest) (continued : Bool) :
    (b.closed f rest).written continued = b.written false ++
      if continued then []
      else (f.tag.ending? (Node.endWithLoop (targetOf b.top rest))).toList.map .ending := by
  have hwritten : b.written false = writtenOf b.top f.tag.isSection rest ++
      .tag f.tag :: Node.writeAll false false f.body.reverse := by
    rw [written, hstack]
    rfl
  rw [closed, written_emit, hwritten, Node.write, List.append_assoc]
  rfl

theorem settled_emit_logic (b : TreeBuilder) (tag : Tag) (body : List Node) :
    (b.emit (.logic tag body)).Settled := by
  rw [Settled, emit, target_modifyTarget]
  rfl

theorem emit_trimNext (b : TreeBuilder) (n : Node) : (b.emit n).trimNext = b.trimNext := by
  unfold emit modifyTarget
  cases b.stack <;> rfl

theorem takenIn_alone {b : TreeBuilder} {s : List Opened} (hb : b.Opens s) {t : TagText}
    (ht : t.Fits) (hplace : t.place = .alone) {tag : Tag} (htag : t.tag = some tag) :
    b.TakenIn (b.emit (.logic tag [])) s t := by
  obtain ⟨hsection, hending⟩ := ending?_of_alone ht hplace htag
  refine ⟨hb.modifyTarget _, ?_, settled_emit_logic _ _ _, emit_trimNext _ _⟩
  have hwrite : Node.write (Node.endWithLoop b.target) false (.logic tag []) = [.tag tag] := by
    simp [Node.write, Node.writeAll, hending]
  rw [written_emit, hwrite, part, htag]
  exact congrArg (b.written · ++ _) hsection

/-- A tag that opens is written with the end that may follow it. -/
theorem endsAfter_of_opens {t : TagText} (ht : t.Fits) {o : Opened} (hplace : t.place = .opens o)
    {tag : Tag} (htag : t.tag = some tag) (back : List Node) :
    (⟨t.kind, tag, o.next, []⟩ : OpenTag).EndsAfter back ∧ tag.isSection = false := by
  have hkind := ht.kind_eq htag
  have hnot : ∀ name e, tag ≠ .block name (some e) := by
    rintro name e rfl
    have hblock := TagKind.eq_block_of_plain hkind.symm
    simp [place, hblock, htag] at hplace
  obtain ⟨hopened, ho⟩ := kind_of_place hplace
  have hends : ∀ k ∈ o.next, k.isEnd = true →
      ∀ afterLoop, o.kind.plain.ending? afterLoop = some k.plain := by
    rcases ho with rfl | rfl | ⟨e, rfl⟩
    · decide
    · decide
    · cases e <;> decide
  refine ⟨⟨hkind, fun k hk hend => ?_⟩, ?_⟩
  · rw [Tag.ending?_of_ne_block hnot, hkind, hopened]
    exact hends k hk hend _
  · rw [Tag.isSection, hkind, hopened]
    rcases ho with rfl | rfl | ⟨e, rfl⟩
    · rfl
    · rfl
    · cases e <;> rfl

theorem takenIn_opens {b : TreeBuilder} {s : List Opened} (hb : b.Opens s) {t : TagText}
    (ht : t.Fits) {o : Opened} (hplace : t.place = .opens o) {tag : Tag} (htag : t.tag = some tag) :
    b.TakenIn { b with stack := ⟨t.kind, tag, o.next, []⟩ :: b.stack } (o :: s) t := by
  obtain ⟨hends, hsection⟩ := endsAfter_of_opens ht hplace htag b.target
  refine ⟨⟨?_, hends, hb.endsWell⟩, ?_, rfl, rfl⟩
  · simp only [List.map_cons, hb.stack, (kind_of_place hplace).1]
  · rw [part, htag, written, written, writtenOf, hsection]
    rfl

/-- A tag that opens or stands alone is taken in. -/
theorem control_of_isOpen {b : TreeBuilder} {s s' : List Opened} (hb : b.Opens s) {t : TagText}
    (ht : t.Fits) (hopen : t.kind.isOpen = true) (h : advance s t = some s') :
    ∃ b', b.control t = .ok b' ∧ b.TakenIn b' s' t := by
  have hend : t.kind.isEnd = false := by
    revert hopen
    cases t.kind <;> simp [TagKind.isEnd, TagKind.isOpen]
  obtain ⟨tag, htag, -⟩ := exists_tag ht hend
  rw [advance.eq_def] at h
  split at h
  · next hplace =>
    cases h
    refine ⟨_, ?_, takenIn_alone hb ht hplace htag⟩
    simp [control, hopen, htag, openTag, next_of_alone ht hplace]
  · next o hplace =>
    cases h
    refine ⟨_, ?_, takenIn_opens hb ht hplace htag⟩
    simp [control, hopen, htag, openTag, next_of_opens ht hplace, o.next_ne_nil]
  · next hplace =>
    rw [t.place_eq_follows.mp hplace] at hopen
    cases hopen

/-- A tag that follows closes the innermost open tag if it may follow it. -/
theorem closeTag_eq {b : TreeBuilder} {s : List Opened} (hb : b.Opens s) (kind : TagKind) :
    match s with
    | [] => b.closeTag kind = .error ⟨.unexpectedTag kind.name (previous s), none⟩
    | o :: s => ∃ f rest, b.stack = f :: rest ∧ f.kind = o.kind ∧
        b.closeTag kind = if (o.follow kind).isSome then .ok (f.kind, b.closed f rest)
          else .error ⟨.unexpectedTag kind.name (previous (o :: s)), none⟩ := by
  have hstack := hb.stack
  cases s with
  | nil =>
    have hnil := List.map_eq_nil_iff.mp hstack
    simp only [closeTag, hnil, previous]
  | cons o s =>
    obtain ⟨f, rest, hcons, hf, hrest⟩ := List.map_eq_cons_iff.mp hstack
    obtain ⟨hkind, hnext⟩ := Prod.mk.inj hf
    refine ⟨f, rest, hcons, hkind, ?_⟩
    have hcontains : f.next.contains kind = (o.follow kind).isSome := by
      rw [hnext, Bool.eq_iff_iff, List.contains_iff_mem, Opened.mem_next_iff]
    simp only [closeTag, hcons, hcontains, previous, hkind]
    rfl

theorem Opens.closed {b : TreeBuilder} {o : Opened} {s : List Opened} (hb : b.Opens (o :: s))
    {f : OpenTag} {rest : List OpenTag} (hstack : b.stack = f :: rest) :
    (b.closed f rest).Opens s := by
  have hmap := hb.stack
  have hends := hb.endsWell
  rw [hstack] at hmap hends
  exact Opens.modifyTarget ⟨(List.cons.inj hmap).2, hends.2⟩ _

/-- The end of the innermost open tag is taken in. -/
theorem takenIn_end {b : TreeBuilder} {o : Opened} {s : List Opened} (hb : b.Opens (o :: s))
    {f : OpenTag} {rest : List OpenTag} (hstack : b.stack = f :: rest) {t : TagText} (ht : t.Fits)
    (hending : t.kind = o.ending) : b.TakenIn (b.closed f rest) s t := by
  have hend : t.kind.isEnd = true := hending ▸ o.ending_isEnd
  have hmem : t.kind ∈ f.next := by
    have hmap := hb.stack
    rw [hstack] at hmap
    have hnext : f.next = o.next := (Prod.mk.inj (List.cons.inj hmap).1).2
    rw [hnext, Opened.mem_next_iff, hending, o.follow_ending]
    rfl
  have hends := hb.endsWell
  rw [hstack] at hends
  refine ⟨hb.closed hstack, ?_, settled_emit_logic _ _ _, emit_trimNext _ _⟩
  rw [written_closed hstack, hends.1.ending t.kind hmem hend, part, tag_of_isEnd ht hend]
  rfl

end TreeBuilder

/-- What is open behind a section: it has the end of what it continues. -/
theorem Opened.follow_section {o inside : Opened} {kind : TagKind}
    (h : o.follow kind = some (some inside)) :
    kind = inside.kind ∧ kind.isEnd = false ∧ kind.plain = kind ∧
      (kind = .elseBranch ∨ kind = .otherwise) ∧
      inside.next = (if kind = .otherwise then (if o.kind = .loop then [.endLoop] else [.endBranch])
        else kind.next) ∧
      ∀ k ∈ inside.next, k.isEnd = true → kind.ending? (o.kind = .loop) = some k.plain := by
  rw [follow.eq_def] at h
  split at h
  · next again =>
    cases h
    cases again <;> decide
  · next again =>
    cases h
    cases again <;> decide
  · cases h
  · cases h
    decide
  · cases h
  · cases h
  · cases h
  · split at h <;> cases h
  · cases h

namespace TreeBuilder
open TagText

/-- A section takes the place of the innermost open tag. -/
theorem takenIn_section {b : TreeBuilder} {o inside : Opened} {s : List Opened}
    (hb : b.Opens (o :: s)) {f : OpenTag} {rest : List OpenTag} (hstack : b.stack = f :: rest)
    {t : TagText} (ht : t.Fits) (hfollow : o.follow t.kind = some (some inside)) {tag : Tag}
    (htag : t.tag = some tag) :
    b.TakenIn { b.closed f rest with
      stack := ⟨t.kind, tag, inside.next, []⟩ :: (b.closed f rest).stack } (inside :: s) t := by
  obtain ⟨hkind, -, hplain, hsections, -, hends⟩ := Opened.follow_section hfollow
  have htagkind : tag.kind = t.kind := (ht.kind_eq htag).trans hplain
  have hclosed := hb.closed hstack
  have hsection : tag.isSection = true := by
    rw [Tag.isSection, htagkind]
    rcases hsections with h | h <;> rw [h] <;> rfl
  have hbehind : Node.endWithLoop (b.closed f rest).target = decide (o.kind = .loop) := by
    have hmap := hb.stack
    have hfits := hb.endsWell
    rw [hstack] at hmap hfits
    have hf : f.kind = o.kind := (Prod.mk.inj (List.cons.inj hmap).1).1
    have hloop : decide (f.tag.kind = .loop) = decide (o.kind = .loop) := by
      rw [hfits.1.kind, hf]
      cases o with
      | branch again => cases again <;> rfl
      | enclosure e => cases e <;> rfl
      | _ => rfl
    rw [TreeBuilder.closed, emit, target_modifyTarget]
    exact (Option.any_some ..).trans hloop
  refine ⟨⟨?_, ⟨?_, ?_⟩, hclosed.endsWell⟩, ?_, rfl, emit_trimNext _ _⟩
  · simp only [List.map_cons, hclosed.stack, hkind]
  · exact ht.kind_eq htag
  · intro k hk hend
    have hnot : ∀ name e, tag ≠ .block name (some e) := by
      rintro name e rfl
      cases hsection
    rw [Tag.ending?_of_ne_block hnot, htagkind]
    exact hbehind ▸ hends k hk hend
  · have hwritten : writtenOf (b.closed f rest).top true (b.closed f rest).stack =
        b.written false := by
      simpa [written] using written_closed hstack true
    rw [part, htag, written, writtenOf, hsection, hwritten]
    rfl

/-- A tag that follows is taken in if it may follow the innermost open tag. -/
theorem control_of_follows {b : TreeBuilder} {s : List Opened} (hb : b.Opens s) {t : TagText}
    (ht : t.Fits) (hopen : t.kind.isOpen = false) :
    match advance s t with
    | some s' => ∃ b', b.control t = .ok b' ∧ b.TakenIn b' s' t
    | none => b.control t = .error ⟨.unexpectedTag t.kind.name (previous s), none⟩ := by
  have hclose := closeTag_eq hb t.kind
  cases s with
  | nil =>
    have hadvance : advance [] t = none := by simp only [advance, t.place_eq_follows.mpr hopen]
    rw [hadvance]
    simp [control, hopen, hclose, bind, Except.bind]
  | cons o s =>
    obtain ⟨f, rest, hstack, hkind, hclosed⟩ := hclose
    rw [advance_follows rfl hopen]
    rcases hfollow : o.follow t.kind with _ | _ | inside
    · rw [hfollow] at hclosed
      simp [control, hopen, hclosed, bind, Except.bind]
    · rw [hfollow] at hclosed
      rcases Opened.follow_eq_some hfollow with ⟨-, hending, -⟩ | ⟨inside, hinside, -, -⟩
      · have hin := takenIn_end hb hstack ht hending
        have hnone : t.tag = none := tag_of_isEnd ht (hending ▸ o.ending_isEnd)
        refine ⟨_, ?_, hin⟩
        simp [control, hopen, hclosed, hnone, bind, Except.bind]
      · cases hinside
    · rw [hfollow] at hclosed
      obtain ⟨-, hend, -, -, hnext, -⟩ := Opened.follow_section hfollow
      obtain ⟨tag, htag, -⟩ := exists_tag ht hend
      refine ⟨_, ?_, takenIn_section hb hstack ht hfollow htag⟩
      have hne := inside.next_ne_nil
      have hblock : t.kind ≠ .block := by
        intro hblock
        rw [hblock] at hopen
        cases hopen
      have hnext' : inside.next = if t.kind = .otherwise then
          (if f.kind = .loop then [.endLoop] else [.endBranch]) else t.next := by
        rw [hnext, hkind, next_of_ne_block ht hblock]
      simp [control, hopen, hclosed, htag, bind, Except.bind, openTag, ← hnext', hne]

/-- What a control tag does to a tree that is being built. -/
theorem control_eq {b : TreeBuilder} {s : List Opened} (hb : b.Opens s) {t : TagText}
    (ht : t.Fits) :
    match advance s t with
    | some s' => ∃ b', b.control t = .ok b' ∧ b.TakenIn b' s' t
    | none => b.control t = .error ⟨.unexpectedTag t.kind.name (previous s), none⟩ := by
  cases hopen : t.kind.isOpen with
  | false => exact control_of_follows hb ht hopen
  | true =>
    cases hadvance : advance s t with
    | some s' => exact control_of_isOpen hb ht hopen hadvance
    | none =>
      rw [advance.eq_def] at hadvance
      split at hadvance
      · cases hadvance
      · cases hadvance
      · next hplace =>
        rw [t.place_eq_follows.mp hplace] at hopen
        cases hopen

end TreeBuilder
end Stencil
