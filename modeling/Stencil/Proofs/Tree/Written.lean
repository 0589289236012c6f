import Stencil.Proofs.Tree.Kinds

/-!
# Trees written back

A tree can be written back as the parts of its template (`Node.writeAll`): each tag before its body,
and its end behind it unless the next node is a section that continues it.  Only the blanks and the
comments that the tree does not keep are missing.
-/
namespace Stencil

/-- A part of a template. -/
inductive Part where
  | text (value : String)
  | expression (e : Expr)
  | tag (t : Tag)
  /-- The end of a tag. -/
  | ending (kind : TagKind)

/-- The part that a tag stands for.  A tree does not tell `filter` from `apply`. -/
def TagText.part (t : TagText) : Part :=
  match t.tag with
  | some tag => .tag tag
  | none => .ending t.kind.plain

/-- The end of a tag of the kind; the last section has the end of what it continues. -/
def TagKind.ending? (afterLoop : Bool) : TagKind → Option TagKind
  | .branch | .elseBranch => some .endBranch
  | .otherwise => some (if afterLoop then .endLoop else .endBranch)
  | .loop => some .endLoop
  | .capture => some .endCapture
  | .block => some .endBlock
  | .embeds => some .endEmbeds
  | .macroDef => some .endMacro
  | .scoped => some .endScoped
  | .spaceless => some .endSpaceless
  | .apply => some .endApply
  | .autoescape => some .endAutoescape
  | _ => none

namespace Tag

/-- The tag continues the one before it. -/
def isSection (t : Tag) : Bool := t.kind = .elseBranch || t.kind = .otherwise

def isLoop (t : Tag) : Bool := t.kind = .loop

/-- The end of the tag.  A block with an expression has none. -/
def ending? (afterLoop : Bool) : Tag → Option TagKind
  | .block _ (some _) => none
  | t => t.kind.ending? afterLoop

end Tag

namespace Node

def isSection : Node → Bool
  | .logic tag _ => tag.isSection
  | _ => false

def isLoop : Node → Bool
  | .logic tag _ => tag.isLoop
  | _ => false

/-- The nodes, or what follows them, start with a section. -/
def startWithSection (continued : Bool) : List Node → Bool
  | [] => continued
  | n :: _ => n.isSection

mutual

/-- The parts of a node: `afterLoop` if the node before it is a loop, `continued` if the one behind
it is a section. -/
def write (afterLoop continued : Bool) : Node → List Part
  | .raw value => [.text value]
  | .output e => [.expression e]
  | .logic tag body =>
    .tag tag :: (writeAll false false body ++
      if continued then [] else (tag.ending? afterLoop).toList.map .ending)
termination_by structural n => n

/-- The parts of some nodes. -/
def writeAll (afterLoop continued : Bool) : List Node → List Part
  | [] => []
  | n :: rest =>
    write afterLoop (startWithSection continued rest) n ++ writeAll n.isLoop continued rest
termination_by structural l => l

end

/-- The last of some nodes, which are given the last first, is a loop. -/
def endWithLoop (back : List Node) : Bool := back.head?.any isLoop

theorem writeAll_append (afterLoop continued : Bool) (ns : List Node) (n : Node) :
    writeAll afterLoop continued (ns ++ [n]) = writeAll afterLoop n.isSection ns ++
      write (ns.getLast?.elim afterLoop isLoop) continued n := by
  induction ns generalizing afterLoop with
  | nil => simp [writeAll, startWithSection]
  | cons m ns ih =>
    have hstart : startWithSection continued (ns ++ [n]) = startWithSection n.isSection ns := by
      cases ns <;> rfl
    have hlast : (m :: ns).getLast?.elim afterLoop isLoop = ns.getLast?.elim m.isLoop isLoop := by
      cases ns <;> simp [List.getLast?_cons]
    rw [List.cons_append, writeAll, writeAll, ih, hstart, hlast, List.append_assoc]

/-- The parts of nodes that are given the last first. -/
def writeBack (continued : Bool) (back : List Node) : List Part :=
  writeAll false continued back.reverse

theorem writeBack_cons (continued : Bool) (n : Node) (back : List Node) :
    writeBack continued (n :: back) =
      writeBack n.isSection back ++ write (endWithLoop back) continued n := by
  have hlast : back.reverse.getLast?.elim false isLoop = endWithLoop back := by
    rw [List.getLast?_reverse]
    cases back <;> rfl
  rw [writeBack, List.reverse_cons, writeAll_append, hlast, writeBack]

end Node
end Stencil
