import CliGen.Target.JavaScript
import CliGen.Target.Python
import CliGen.Target.Registry
import CliGen.Target.Rust

/-!
# The targets at hand

The registry that every run begins with.
-/

namespace CliGen.Registry

/-- All targets of this library. -/
def builtin : Registry :=
  [Target.python, Target.nodejs, Target.typescript, Target.rust].map fun t => (t.id, t)

end CliGen.Registry
