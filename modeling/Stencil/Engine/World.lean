import Stencil.Json.Basic
import Stencil.Render.Program

/-!
What outlives a render: the links between templates, the templates that are stored by name, the
cached trees, and the journal of what happened.
-/

namespace Stencil

/-- The state that renders share. -/
structure World where
  /-- All identities from here on are free. -/
  next : Nat := 0
  /-- The links of the templates that have any, by number. -/
  links : List (Nat × Links) := []
  /-- The stored templates by name. -/
  store : Dict Template := []
  /-- The cached trees as documents, by locator. -/
  cache : Dict Json := []
  /-- What host extensions wrote down, the last line first. -/
  notes : List String := []
  /-- What was reported, the last report first. -/
  reports : List Report := []
  /-- Some value had to be waited for. -/
  waited : Bool := false
  deriving Inhabited

namespace World

/-- The links of a template. -/
def linksOf (w : World) (t : Template) : Links := (w.links.lookup t.number).getD {}

/-- The list with the links of a number replaced. -/
def replaceLinks (number : Nat) (l : Links) : List (Nat × Links) → List (Nat × Links)
  | [] => [(number, l)]
  | (n, old) :: rest =>
    if n = number then (n, l) :: rest else (n, old) :: replaceLinks number l rest

/-- Change the links of a template. -/
def modifyLinks (w : World) (t : Template) (f : Links → Links) : World :=
  { w with links := replaceLinks t.number (f (w.linksOf t)) w.links }

/-- Store a template under its name, in the place of one that was stored so before. A template
without a name is not stored. -/
def storeTemplate (w : World) (t : Template) : World :=
  match t.id with
  | some id => { w with store := w.store.insert id t }
  | none => w

/-- The same state with an empty journal. -/
def withoutJournal (w : World) : World := { w with notes := [], reports := [], waited := false }

/-- The `use` tags of a template are still to be resolved. -/
def isUnresolved (w : World) (t : Template) : Bool :=
  !t.blockImports.isEmpty && !(w.linksOf t).claimed

end World
end Stencil
