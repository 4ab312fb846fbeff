import SwiftExpansion.Text.Case
import SwiftExpansion.Text.Search

/-!
# Rendering generated code

Blocks with one statement a line, and the names that snake-case texts become.
-/
namespace SwiftExpansion.Render

def block (header : String) (statements : List String) (indent : String) : String :=
  if statements.isEmpty then header ++ " \x7b\x7d"
  else header ++ " \x7b\n" ++ "\n".intercalate (statements.map (indent ++ ·)) ++ "\n\x7d"

/-- The words of a snake-case name in camel case: the first in lower case, the others
capitalised. -/
def camelWords : List (List Char) → List Char
  | [] => []
  | word :: words => Text.lower word ++ words.flatMap Text.capitalize

def camelCase (name : String) : String :=
  String.ofList (camelWords (name.toList.splitOn '_'))

end SwiftExpansion.Render
