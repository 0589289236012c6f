import Stencil.Source.Token
import Stencil.Tree.TagText

/-!
From source tokens to a tree.  Open tags wait on a stack, and new nodes go into the innermost one; a
tag that closes or continues an open tag takes it off the stack and puts its node one level up.
-/

namespace Stencil

/-- A tag that is still open. -/
structure OpenTag where
  kind : TagKind
  tag : Tag
  /-- The tags that may close or continue it. -/
  next : List TagKind
  /-- The nodes inside it so far, the last first. -/
  body : List Node

/-- A tree that is being built. -/
structure TreeBuilder where
  /-- The nodes outside all open tags so far, the last first. -/
  top : List Node := []
  /-- The open tags, the innermost first. -/
  stack : List OpenTag := []
  /-- The last tag takes away the leading blanks of the text after it. -/
  trimNext : Bool := false

namespace TreeBuilder
open Source

/-- Change the list into which new nodes go. -/
def modifyTarget (b : TreeBuilder) (f : List Node → List Node) : TreeBuilder :=
  match b.stack with
  | [] => { b with top := f b.top }
  | t :: rest => { b with stack := { t with body := f t.body } :: rest }

/-- Add a node to the innermost open tag. -/
def emit (b : TreeBuilder) (n : Node) : TreeBuilder := b.modifyTarget (n :: ·)

/-- Take away the trailing blanks of a text that is the last node. -/
def trimLast : List Node → List Node
  | .raw value :: rest => .raw (String.ofList (Text.trimEnd value.toList)) :: rest
  | nodes => nodes

/-- Add the text of a raw token, unless nothing is left of it. -/
def text (b : TreeBuilder) (trimStart : Bool) (value : String) : TreeBuilder :=
  let value := if trimStart then String.ofList (Text.trimStart value.toList) else value
  if value.isEmpty then b else b.emit (.raw value)

/-- Add a tag that stands on its own, or open it. -/
def openTag (b : TreeBuilder) (kind : TagKind) (next : List TagKind) (tag : Tag) : TreeBuilder :=
  if next.isEmpty then b.emit (.logic tag [])
  else { b with stack := ⟨kind, tag, next, []⟩ :: b.stack }

/-- Close the innermost open tag, which a tag of the given kind has to be able to follow, and add
its node. Also gives the kind of the tag that was closed. -/
def closeTag (b : TreeBuilder) (kind : TagKind) : Except Failure (TagKind × TreeBuilder) :=
  match b.stack with
  | [] => .error ⟨.unexpectedTag kind.name "template start", none⟩
  | t :: rest =>
    if t.next.contains kind then
      .ok (t.kind, { b with stack := rest }.emit (.logic t.tag t.body.reverse))
    else .error ⟨.unexpectedTag kind.name t.kind.name, none⟩

/-- Take in a control tag. After a loop, `else` may be followed by the end of the loop only, and
after a branch by the end of the branch only. -/
def control (b : TreeBuilder) (t : TagText) : Except Failure TreeBuilder :=
  if t.kind.isOpen then
    .ok (match t.tag with
      | some tag => b.openTag t.kind t.next tag
      | none => b)
  else do
    let (closed, b) ← b.closeTag t.kind
    let next :=
      if t.kind = .otherwise then (if closed = .loop then [.endLoop] else [.endBranch])
      else t.next
    .ok (match t.tag with
      | some tag => b.openTag t.kind next tag
      | none => b)

/-- Take in a token. -/
def step (b : TreeBuilder) (t : Token) : Except Failure TreeBuilder :=
  let trimStart := b.trimNext
  let b := if t.kind.trimsBefore then b.modifyTarget trimLast else b
  let b := { b with trimNext := t.kind.trimsAfter }
  match t.kind with
  | .raw => .ok (b.text trimStart t.value)
  | .comment => .ok b
  | .output _ => do
    let expression ← Expr.compile t.value
    .ok (b.emit (.output expression))
  | .logic _ => do
    let tag ← TagText.read t.value
    b.control tag

/-- The tree, once no tag is open. -/
def finish (b : TreeBuilder) : Except Failure (List Node) :=
  match b.stack with
  | [] => .ok b.top.reverse
  | t :: _ =>
    .error ⟨.unterminatedTag t.kind.name (", ".intercalate (t.next.map TagKind.name)), none⟩

end TreeBuilder

/-- The tree that the tokens of a template make. -/
def Node.ofTokens (ts : List Source.Token) : Except Failure (List Node) := do
  let b ← ts.foldlM TreeBuilder.step {}
  b.finish

/-- The tree of a template. -/
def Node.ofSource (source : String) : Except Failure (List Node) := do
  let ts ← (Source.Tokens.read source).all
  Node.ofTokens ts

end Stencil
