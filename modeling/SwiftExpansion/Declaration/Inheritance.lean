import SwiftExpansion.Declaration.Basic
import SwiftExpansion.Json.Access

/-!
# Inheritance clauses

Whether a declaration inherits from a type, under its plain name or qualified by a module or an
enclosing type.
-/
namespace SwiftExpansion

def Json.namesType (name entry : Json) : Except Fault Bool :=
  if entry.same name then .ok true
  else do
    let s ← entry.textFor "endswith"
    return ('.' :: name.display.toList).isSuffixOf s.toList

/-- Looks through the entries in order, up to the first that names the type. -/
def Declaration.inheritsFrom (d : Declaration Json) (name : Json) : Except Fault Bool :=
  d.inherits.anyM name.namesType

end SwiftExpansion
