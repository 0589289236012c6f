import Stencil.Dict
import Stencil.Escape

/-!
The settings of a template.  They hold for the template and for all that it pulls in.
-/

namespace Stencil

/-- How output is escaped: not at all, or for a place. -/
abbrev Autoescape := Option Strategy

/-- Settings of a template. -/
structure Options where
  /-- Unknown variables and keys are failures. -/
  strictVariables : Bool := false
  autoescape : Autoescape := none
  /-- References are looked up among the stored templates as they are written, before anything
  else. -/
  allowInlineIncludes : Bool := false
  /-- Failures end the render; otherwise they are reported and the output so far is kept. -/
  rethrow : Bool := false
  /-- The path that each namespace of a reference stands for. -/
  namespaces : Dict String := []
  deriving DecidableEq, Repr, Inhabited

end Stencil
