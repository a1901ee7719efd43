import Stencil.Clock
import Stencil.Environment
import Stencil.Files
import Stencil.Storage

/-!
# Surroundings

Everything outside the program that a token can be read from while a template is expanded.
-/

set_option autoImplicit false

namespace Stencil

/-- The answer to asking which directory is the current one. It may have been removed in the
meantime, or be out of reach. -/
inductive CurrentDirectory where
  | found (path : String)
  | lost (fault : FileFault)
deriving DecidableEq, Repr

instance : Coe String CurrentDirectory := ⟨.found⟩

structure Surroundings where
  environment : Environment
  storage : Storage
  thread : String
  directory : CurrentDirectory
  instant : Instant

/-- States that know their surroundings. Strategies may keep a state of their own besides. -/
class Situated (σ : Type) where
  surroundings : σ → Surroundings

instance : Situated Surroundings := ⟨id⟩

end Stencil
