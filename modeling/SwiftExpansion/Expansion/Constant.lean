import SwiftExpansion.Expansion.Output
import SwiftExpansion.Render
import SwiftExpansion.Request

/-!
# Declaring a constant

The text `app_icon` becomes a constant of that value with a camel-case name,
`static let appIcon = "app_icon"`.
-/
namespace SwiftExpansion.Expansion

def constantText (name : String) : String :=
  "static let " ++ Render.camelCase name ++ " = " ++ Literal.write name

/-- The first argument has to be a string literal whose content is not blank. -/
def constant (r : Request Json) : Draft Output := do
  match r.arguments.head?.bind (·.value.stringValue) with
  | none => .fail (.contract .invalidArguments)
  | some name =>
    let name ← name.textFor "strip"
    if Text.isBlankText name.toList then .fail (.contract .invalidArguments)
    else return { declarations := [⟨.freestanding, constantText name⟩] }

end SwiftExpansion.Expansion
