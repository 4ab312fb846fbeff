import SwiftExpansion.Config.Settings
import SwiftExpansion.Expansion.Output
import SwiftExpansion.Request

/-!
# Looking up a resource

The first argument is the key of a resource, the second may name its type by a metatype such as
`Int.self`. The lookup is a template from the settings, cast to the type.
-/
namespace SwiftExpansion.Expansion

/-- The type asked for by the arguments after the key, or the default, with a warning if there is
an argument that names no type. -/
def resourceType (s : Settings) : List (Argument Json) → Draft String
  | [] => pure s.defaultResourceType
  | a :: _ => do
    match ((← a.value.metatypeBase).filter (!·.isEmpty)) with
    | some base => return base
    | none =>
      Draft.warning ("type argument '" ++ (← a.value.trimmedText) ++
        "' is not a metatype reference such as Int.self; using " ++ s.defaultResourceType)
      return s.defaultResourceType

def lookupText (s : Settings) (key : String) : String :=
  String.ofList
    (Text.replaceAll Settings.placeholder.toList key.toList s.resourceLookup.toList)

def resource (s : Settings) (r : Request Json) : Draft Output := do
  match r.arguments with
  | [] =>
    Draft.error "missing required key argument"
    return { expression := some ⟨"", none⟩ }
  | a :: rest =>
    let key ← a.value.trimmedText
    let type ← resourceType s rest
    Draft.debug ("Resource lookup for " ++ key ++ " typed as " ++ type ++ "?")
    return { expression := some ⟨lookupText s key ++ " as? " ++ type, some (type ++ "?")⟩ }

end SwiftExpansion.Expansion
