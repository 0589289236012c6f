import Stencil.Proofs.Tree.Control

/-!
# Sections stand behind what they continue

A section is a node of its own, and nothing in a tree says to which node it belongs.  In the tree
of a source it need not be said: on every level of the tree a section stands right behind what it
continues (`Node.allJoined_ofSource`), because the tag of a section puts the node before it into
the tree in the same step, and a tag that is still open always fits behind the nodes before it
(`TreeBuilder.Joins`).
-/
namespace Stencil

/-! ## Trees with joined sections -/

/-- The kind is one of a section. -/
def TagKind.isSection (kind : TagKind) : Bool := kind = .elseBranch || kind = .otherwise

theorem Tag.isSection_eq (tag : Tag) : tag.isSection = tag.kind.isSection := rfl

theorem TagKind.plain_of_isSection {kind : TagKind} (h : kind.plain.isSection = true) :
    kind.plain = kind := by
  cases kind <;> first | rfl | cases h

theorem TagKind.isOpen_of_isSection {kind : TagKind} (h : kind.isSection = true) :
    kind.isOpen = false := by
  cases kind <;> first | rfl | cases h

/-- The sections that may follow do not tell `filter` from `apply`. -/
theorem TagKind.mem_next_plain {kind k : TagKind} (h : k ∈ kind.next)
    (hsection : k.isSection = true) : k ∈ kind.plain.next := by
  cases kind with
  | filter =>
    obtain rfl := List.mem_singleton.mp h
    cases hsection
  | endFilter => cases h
  | _ => exact h

namespace Node

/-- A section stands behind a tag that it may continue. -/
def Continues (n : Node) (before : Option Node) : Prop :=
  match n with
  | .logic tag _ => tag.isSection = true →
    ∃ earlier body, before = some (.logic earlier body) ∧ tag.kind ∈ earlier.kind.next
  | _ => True

mutual

/-- Inside the node, all sections stand behind what they continue. -/
def Joined : Node → Prop
  | .logic _ body => allJoined none body
  | _ => True
termination_by structural n => n

/-- In a list behind a node, and inside its nodes, all sections do. -/
def allJoined (before : Option Node) : List Node → Prop
  | [] => True
  | n :: rest => n.Continues before ∧ n.Joined ∧ allJoined (some n) rest
termination_by structural l => l

end

/-- A level of a tree: the nodes outside all tags, or those in the body of a tag at any depth. -/
inductive Level (nodes : List Node) : List Node → Prop
  | top : Level nodes nodes
  | body {level : List Node} {tag : Tag} {body : List Node} (h : Level nodes level)
    (hmem : .logic tag body ∈ level) : Level nodes body

theorem allJoined.joined {before : Option Node} {nodes : List Node} (h : allJoined before nodes)
    {n : Node} (hn : n ∈ nodes) : n.Joined := by
  induction nodes generalizing before with
  | nil => cases hn
  | cons m rest ih =>
    rcases List.mem_cons.mp hn with rfl | hrest
    · exact h.2.1
    · exact ih h.2.2 hrest

theorem Level.allJoined {nodes level : List Node} (h : Level nodes level)
    (hnodes : allJoined none nodes) : Node.allJoined none level := by
  induction h with
  | top => exact hnodes
  | body _ hmem ih => exact ih.joined hmem

theorem allJoined_append {before : Option Node} {nodes : List Node} {n : Node} :
    allJoined before (nodes ++ [n]) ↔
      allJoined before nodes ∧ n.Continues (nodes.getLast?.or before) ∧ n.Joined := by
  induction nodes generalizing before with
  | nil => simp [allJoined]
  | cons m rest ih =>
    have hlast : (m :: rest).getLast?.or before = rest.getLast?.or (some m) := by
      cases rest <;> simp [List.getLast?_cons]
    rw [List.cons_append, allJoined, allJoined, ih, hlast, and_assoc, and_assoc]

/-- The nodes, given the last first, are joined. -/
def BackJoined (back : List Node) : Prop := allJoined none back.reverse

theorem backJoined_cons {n : Node} {back : List Node} :
    BackJoined (n :: back) ↔ BackJoined back ∧ n.Continues back.head? ∧ n.Joined := by
  rw [BackJoined, List.reverse_cons, allJoined_append, List.getLast?_reverse, Option.or_none]
  rfl

end Node

/-! ## Trees that are being built -/

/-- An open tag fits behind the nodes before it, and what may follow it continues it. -/
structure OpenTag.Joins (t : OpenTag) (back : List Node) : Prop where
  continues : (Node.logic t.tag []).Continues back.head?
  body : Node.BackJoined t.body
  next : ∀ k ∈ t.next, k.isSection = true → k ∈ t.tag.kind.next

namespace TreeBuilder
open Node

/-- The nodes so far are joined, and the open tags will be. -/
def JoinsOf (top : List Node) : List OpenTag → Prop
  | [] => BackJoined top
  | t :: rest => t.Joins (targetOf top rest) ∧ JoinsOf top rest

def Joins (b : TreeBuilder) : Prop := JoinsOf b.top b.stack

theorem Joins.target {b : TreeBuilder} (h : b.Joins) : BackJoined b.target := by
  unfold Joins at h
  unfold TreeBuilder.target
  cases hstack : b.stack with
  | nil =>
    rw [hstack] at h
    exact h
  | cons t rest =>
    rw [hstack] at h
    exact h.1.body

theorem Joins.modifyTarget {b : TreeBuilder} (h : b.Joins) {f : List Node → List Node}
    (hf : BackJoined (f b.target)) : (b.modifyTarget f).Joins := by
  unfold TreeBuilder.modifyTarget Joins at *
  unfold TreeBuilder.target at hf
  cases hstack : b.stack with
  | nil =>
    rw [hstack] at hf
    exact hf
  | cons t rest =>
    rw [hstack] at h hf
    exact ⟨⟨h.1.continues, hf, h.1.next⟩, h.2⟩

theorem Joins.emit {b : TreeBuilder} (h : b.Joins) {n : Node} (hn : n.Continues b.target.head?)
    (hinside : n.Joined) : (b.emit n).Joins :=
  h.modifyTarget (backJoined_cons.mpr ⟨h.target, hn, hinside⟩)

theorem Joins.trimLast {b : TreeBuilder} (h : b.Joins) : (b.modifyTarget trimLast).Joins := by
  refine h.modifyTarget ?_
  have htarget := h.target
  unfold TreeBuilder.trimLast
  split
  · next heq =>
    rw [heq] at htarget
    exact backJoined_cons.mpr ⟨(backJoined_cons.mp htarget).1, trivial, trivial⟩
  · exact htarget

theorem Joins.text {b : TreeBuilder} (h : b.Joins) (trimStart : Bool) (value : String) :
    (b.text trimStart value).Joins := by
  unfold TreeBuilder.text
  generalize (if trimStart then String.ofList (Text.trimStart value.toList) else value) = shown
  dsimp only
  split
  · exact h
  · exact h.emit trivial trivial

/-- A tag that fits behind the nodes so far may be opened. -/
theorem Joins.openTag {b : TreeBuilder} (h : b.Joins) {kind : TagKind} {next : List TagKind}
    {tag : Tag} (htag : (Node.logic tag []).Continues b.target.head?)
    (hnext : ∀ k ∈ next, k.isSection = true → k ∈ tag.kind.next) :
    (b.openTag kind next tag).Joins := by
  unfold TreeBuilder.openTag
  split
  · exact h.emit htag trivial
  · exact ⟨⟨htag, trivial, hnext⟩, h⟩

/-- What follows a tag behind a closed one, if that may be continued by it. -/
theorem Joins.closeTag {b b' : TreeBuilder} (h : b.Joins) {kind closed : TagKind}
    (hclose : b.closeTag kind = .ok (closed, b')) :
    b'.Joins ∧ ∀ tag : Tag, tag.kind = kind.plain →
      (Node.logic tag []).Continues b'.target.head? := by
  unfold TreeBuilder.closeTag at hclose
  split at hclose
  · cases hclose
  · next t rest hstack =>
    split at hclose
    · next hfollows =>
      cases hclose
      unfold Joins at h
      rw [hstack] at h
      have hrest : Joins { b with stack := rest } := h.2
      refine ⟨hrest.emit h.1.continues h.1.body, fun tag htag hsection => ?_⟩
      refine ⟨t.tag, t.body.reverse, by rw [TreeBuilder.emit, target_modifyTarget]; rfl, ?_⟩
      rw [Tag.isSection_eq, htag] at hsection
      rw [htag, TagKind.plain_of_isSection hsection]
      rw [TagKind.plain_of_isSection hsection] at hsection
      exact h.1.next kind (List.contains_iff_mem.mp hfollows) hsection
    · cases hclose

/-- What may follow a tag that was read continues it. -/
theorem mem_next_of_fits {t : TagText} (ht : t.Fits) {tag : Tag} (htag : t.tag = some tag) :
    ∀ k ∈ t.next, k.isSection = true → k ∈ tag.kind.next := by
  intro k hk hsection
  rw [ht.kind_eq htag]
  refine TagKind.mem_next_plain ?_ hsection
  unfold TagText.next at hk
  split at hk
  · cases hk
  · exact hk

theorem Joins.control {b b' : TreeBuilder} (h : b.Joins) {t : TagText} (ht : t.Fits)
    (hcontrol : b.control t = .ok b') : b'.Joins := by
  unfold TreeBuilder.control at hcontrol
  split at hcontrol
  · next hopen =>
    cases hcontrol
    split
    · next tag htag =>
      refine h.openTag (fun hsection => ?_) (mem_next_of_fits ht htag)
      rw [Tag.isSection_eq, ht.kind_eq htag] at hsection
      rw [TagKind.plain_of_isSection hsection] at hsection
      rw [TagKind.isOpen_of_isSection hsection] at hopen
      cases hopen
    · exact h
  · obtain ⟨⟨closed, b₁⟩, hclose, ⟨⟩⟩ := exists_of_bind hcontrol
    obtain ⟨hjoins, hfits⟩ := h.closeTag hclose
    split
    · next tag htag =>
      refine hjoins.openTag (hfits tag (ht.kind_eq htag)) ?_
      split
      · split <;> simp [TagKind.isSection]
      · exact mem_next_of_fits ht htag
    · exact hjoins

theorem Joins.step {b b' : TreeBuilder} (h : b.Joins) {t : Source.Token}
    (hstep : b.step t = .ok b') : b'.Joins := by
  unfold TreeBuilder.step at hstep
  dsimp only at hstep
  have htrimmed :
      (if t.kind.trimsBefore then b.modifyTarget TreeBuilder.trimLast else b).Joins := by
    split
    · exact h.trimLast
    · exact h
  generalize (if t.kind.trimsBefore then b.modifyTarget TreeBuilder.trimLast else b) = trimmed
    at hstep htrimmed
  replace htrimmed : Joins { trimmed with trimNext := t.kind.trimsAfter } := htrimmed
  split at hstep
  · cases hstep
    exact htrimmed.text _ _
  · cases hstep
    exact htrimmed
  · obtain ⟨e, -, ⟨⟩⟩ := exists_of_bind hstep
    exact htrimmed.emit trivial trivial
  · obtain ⟨text, hread, hcontrol⟩ := exists_of_bind hstep
    exact htrimmed.control (TagText.read_fits hread) hcontrol

theorem Joins.foldlM {b b' : TreeBuilder} (h : b.Joins) {ts : List Source.Token}
    (hsteps : ts.foldlM TreeBuilder.step b = .ok b') : b'.Joins := by
  induction ts generalizing b with
  | nil =>
    cases hsteps
    exact h
  | cons t rest ih =>
    rw [List.foldlM_cons] at hsteps
    obtain ⟨b₁, hstep, hrest⟩ := exists_of_bind hsteps
    exact ih (h.step hstep) hrest

end TreeBuilder

namespace Node

theorem allJoined_ofTokens {ts : List Source.Token} {nodes : List Node}
    (h : ofTokens ts = .ok nodes) : allJoined none nodes := by
  obtain ⟨b, hsteps, hfinish⟩ := exists_of_bind h
  have hstart : TreeBuilder.Joins {} := trivial
  have hjoins := hstart.foldlM hsteps
  unfold TreeBuilder.finish at hfinish
  split at hfinish
  · next hstack =>
    cases hfinish
    unfold TreeBuilder.Joins at hjoins
    rw [hstack] at hjoins
    exact hjoins
  · cases hfinish

/-- **Sections stand behind what they continue**, on all levels of the tree of a source. -/
theorem allJoined_ofSource {source : String} {nodes level : List Node}
    (h : ofSource source = .ok nodes) (hlevel : Level nodes level) : allJoined none level := by
  obtain ⟨ts, -, htokens⟩ := exists_of_bind h
  exact hlevel.allJoined (allJoined_ofTokens htokens)

end Node
end Stencil
