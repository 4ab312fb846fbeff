import SwiftExpansion.Expansion.Output
import SwiftExpansion.Request

/-!
# Echoing an expression

The expression `x + y` becomes the pair of itself and its source text, `(x + y, "x + y")`.
-/
namespace SwiftExpansion.Expansion

def echo (r : Request Json) : Draft Output := do
  match r.arguments with
  | [] => .fail (.contract .noArguments)
  | a :: _ =>
    let literal ← a.value.text.literal
    return { expression := some ⟨"(" ++ a.value.text.display ++ ", " ++ literal ++ ")", none⟩ }

end SwiftExpansion.Expansion
