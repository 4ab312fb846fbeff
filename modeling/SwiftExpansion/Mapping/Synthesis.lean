import SwiftExpansion.Declaration.Inheritance
import SwiftExpansion.Expansion.Output
import SwiftExpansion.Mapping.Decoder
import SwiftExpansion.Render
import SwiftExpansion.Request

/-!
# Synthesizing a mapping

A struct or class gets a failable initializer that takes a decoder, a mapping function that binds
every mappable property to its key, and a conformance. What the declaration already has is not
generated again. A subclass delegates to its superclass and leaves the conformance to it.
-/
namespace SwiftExpansion.Mapping

/-- How the members of a declaration are written: the words before the initializer and before the
mapping function, and whether both delegate to a superclass. -/
structure Shape where
  initializerWords : String
  mappingWords : String
  isDerived : Bool
  deriving Repr, DecidableEq

/-- The first argument labelled `isSubclass` decides. -/
def isSubclassRequested (arguments : List (Argument Json)) : Bool :=
  (Argument.find? arguments (.text "isSubclass")).any (·.value.isTrueLiteral)

/-- The parameter list of a member that takes the decoder. -/
def parameterText (s : Settings) : String :=
  "(" ++ s.decoderParameter ++ ": " ++ s.decoderType ++ ")"

def delegation (s : Settings) (shape : Shape) (method : String) : List String :=
  if shape.isDerived then
    ["super." ++ method ++ "(" ++ s.decoderParameter ++ ": " ++ s.decoderParameter ++ ")"]
  else []

def bindingText (s : Settings) (p : Property Json) : Except Fault String := do
  let key ← p.name.literal
  return p.name.display ++ " " ++ s.bindOperator ++ " " ++ s.decoderParameter ++ "[" ++ key ++ "]"

def bindingTexts (s : Settings) (d : Declaration Json) : Except Fault (List String) :=
  d.mappableProperties.mapM (bindingText s)

variable [Memory]

def initializer (s : Settings) (d : Declaration Json) (shape : Shape) :
    Draft (List GeneratedDeclaration) := do
  if ← hasDecodingInitializer s d then
    Draft.debug (d.name.display ++ " already declares init?(" ++ s.decoderParameter ++ ":)")
    return []
  else
    let header := shape.initializerWords ++ "init?" ++ parameterText s
    return [⟨.member, Render.block header (delegation s shape "init") (← s.indent)⟩]

def mappingFunction (s : Settings) (d : Declaration Json) (shape : Shape) :
    Draft (List GeneratedDeclaration) := do
  if ← hasMappingFunction s d then
    Draft.debug (d.name.display ++ " already declares " ++ s.mappingFunction ++ "(" ++
      s.decoderParameter ++ ":)")
    return []
  else
    let bindings ← bindingTexts s d
    let header := shape.mappingWords ++ "func " ++ s.mappingFunction ++ parameterText s
    return [⟨.member,
      Render.block header (delegation s shape s.mappingFunction ++ bindings) (← s.indent)⟩]

def conformance (s : Settings) (d : Declaration Json) (shape : Shape) :
    Draft (List GeneratedDeclaration) := do
  if shape.isDerived then
    Draft.debug (d.name.display ++ " inherits " ++ s.conformanceName ++ " conformance")
    return []
  else if ← d.inheritsFrom (.text s.conformanceName) then
    Draft.debug (d.name.display ++ " already conforms to " ++ s.conformanceName)
    return []
  else
    return [⟨.extension,
      "extension " ++ d.name.display ++ ": " ++ s.conformanceName ++ " \x7b\x7d"⟩]

def synthesize (s : Settings) (d : Declaration Json) (shape : Shape) :
    Draft (List GeneratedDeclaration) := do
  let first ← initializer s d shape
  let second ← mappingFunction s d shape
  let third ← conformance s d shape
  return first ++ second ++ third

def expand (s : Settings) (r : Request Json) (d : Declaration Json) : Draft Output := do
  let isSubclass := isSubclassRequested r.arguments
  match d.kind with
  | .valueType =>
    if isSubclass then Draft.warning "value types do not support subclass composition"
    return { declarations := ← synthesize s d ⟨"", "mutating ", false⟩ }
  | .referenceType =>
    if isSubclass && d.inherits.isEmpty then
      Draft.error "the inherited class was not found"
      return {}
    else
      return { declarations :=
        ← synthesize s d ⟨"required ", if isSubclass then "override " else "", isSubclass⟩ }
  | .interface | .enumeration =>
    Draft.error "unsupported declaration kind"
    return {}

end SwiftExpansion.Mapping
