import SwiftExpansion.Text.ControlSequence

/-!
# What is printed

A command hands its texts to a console. What a stream shows of them is for the console to say, and
depends on where the stream leads.
-/
namespace SwiftExpansion

class Console where
  shown : String → String

namespace Console

/-- The console of a stream that leads into a file or a pipe: control sequences are for terminals
and are left out. -/
scoped instance piped : Console :=
  ⟨Text.withoutControls⟩

end Console

end SwiftExpansion
