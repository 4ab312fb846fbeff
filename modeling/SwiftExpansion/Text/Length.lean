/-!
# How long a text can be

Lengths past a bound cannot be counted. How many characters fit into memory is for the machine to
say.
-/
namespace SwiftExpansion

def Text.maxLength : Nat := 0x7FFFFFFFFFFFFFFF

/-- The machine, as far as texts are concerned: a longer text than its capacity cannot be built. -/
class Memory where
  capacity : Nat

namespace Memory

/-- A machine that holds every text whose length can be counted. -/
scoped instance ample : Memory :=
  ⟨Text.maxLength⟩

end Memory

end SwiftExpansion
