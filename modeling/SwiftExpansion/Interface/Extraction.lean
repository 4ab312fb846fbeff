import SwiftExpansion.Config.Settings
import SwiftExpansion.Expansion.Output
import SwiftExpansion.Interface.Requirement
import SwiftExpansion.Request

/-!
# Extracting an interface from a class

The interface of a class lists its properties and methods that are not private, in declaration
order: first the properties, then an empty line, then the methods. Initializers are left out, and
so are properties whose type is not written down, with a warning for each.
-/
namespace SwiftExpansion.Interface

def isInitializer (m : Method Json) : Bool :=
  m.name.isText "init"

def interfaceName (s : Settings) (d : Declaration Json) : String :=
  d.name.display ++ s.interfaceSuffix

def propertyText (p : Property Json) (type : Json) : Except Fault String := do
  let type ← type.textFor "strip"
  return (if p.isStatic then "static " else "") ++ "var " ++ p.name.display ++ ": " ++
    Text.trimmed type ++ " \x7b get \x7d"

def propertyLines (name : String) : List (Property Json) → Draft (List String)
  | [] => pure []
  | p :: ps => do
    match p.type.filter Json.isTruthy with
    | some type =>
      let line ← propertyText p type
      return line :: (← propertyLines name ps)
    | none =>
      Draft.warning ("property '" ++ p.name.display ++
        "' has no type annotation and was left out of " ++ name)
      propertyLines name ps

variable [Memory]

def sectionText (s : Settings) (lines : List String) : Except Fault String := do
  let indent ← s.indent
  return "\n".intercalate (lines.map (indent ++ ·))

/-- The sections that hold anything. -/
def sectionTexts (s : Settings) (properties requirements : List String) :
    Except Fault (List String) :=
  ([properties, requirements].filter (!·.isEmpty)).mapM (sectionText s)

def requirementTexts (d : Declaration Json) : Except Fault (List String) :=
  (d.exposedMethods.filter (!isInitializer ·)).mapM requirementText

def headerText (s : Settings) (d : Declaration Json) : String :=
  "public protocol " ++ interfaceName s d ++ ": " ++ s.interfaceBase

/-- The header with its sections in braces, an empty line between them. -/
def bodyText (header : String) (sections : List String) : String :=
  if sections.isEmpty then header ++ " \x7b\x7d"
  else header ++ " \x7b\n" ++ "\n\n".intercalate sections ++ "\n\x7d"

def extract (s : Settings) (d : Declaration Json) : Draft GeneratedDeclaration := do
  let properties ← propertyLines (interfaceName s d) d.exposedProperties
  let requirements ← requirementTexts d
  let sections ← sectionTexts s properties requirements
  Draft.debug ("Generated " ++ interfaceName s d ++ " with " ++ toString properties.length ++
    " properties and " ++ toString requirements.length ++ " methods")
  return ⟨.peer, bodyText (headerText s d) sections⟩

/-- Only a class has an interface to extract. -/
def expand (s : Settings) (d : Declaration Json) : Draft Output := do
  match d.kind with
  | .referenceType => return { declarations := [← extract s d] }
  | .valueType | .interface | .enumeration =>
    Draft.error "unsupported declaration kind for interface extraction"
    return {}

end SwiftExpansion.Interface
