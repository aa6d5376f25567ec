/-!
# Instances

Numbers are raised to powers and summed, and bytes are compared, by the instances of the core
library, also where a library is at hand that has instances of its own.
-/

namespace CliGen

attribute [scoped instance (high)] instPowNat Zero.ofOfNat0 ByteArray.instDecidableEq

attribute [default_instance (high + 1)] instPowNat

end CliGen
