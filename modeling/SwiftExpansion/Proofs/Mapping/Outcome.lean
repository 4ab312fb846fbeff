import SwiftExpansion.Engine.Macro
import SwiftExpansion.Proofs.Journal

/-!
# What a synthesis comes to

The three parts of a mapping and what each of them yields when it succeeds, then the synthesis as a
whole. A declaration is refused by its kind alone, or because it is a class that asks for a
superclass and has none; any other declaration gets its parts, in a shape that follows from its kind
and from what the usage asks for.
-/
namespace SwiftExpansion.Mapping

/-- Whether a usage is answered by an error and nothing else. -/
def isRefused (r : Request Json) (d : Declaration Json) : Bool :=
  match d.kind with
  | .valueType => false
  | .referenceType => isSubclassRequested r.arguments && d.inherits.isEmpty
  | .interface | .enumeration => true

/-- The shape of the members of a declaration that is not refused. -/
def shapeFor (kind : DeclarationKind) (isSubclass : Bool) : Shape :=
  if kind = .valueType then ⟨"", "mutating ", false⟩
  else ⟨"required ", if isSubclass then "override " else "", isSubclass⟩

def initializerHeader (s : Settings) (shape : Shape) : String :=
  shape.initializerWords ++ "init?" ++ parameterText s

def functionHeader (s : Settings) (shape : Shape) : String :=
  shape.mappingWords ++ "func " ++ s.mappingFunction ++ parameterText s

variable {s : Settings} {d : Declaration Json} {shape : Shape} {l : List GeneratedDeclaration}

theorem initializer_eq_ok [Memory] : (initializer s d shape).outcome = .ok l ↔
    (hasDecodingInitializer s d = .ok true ∧ l = []) ∨
    (hasDecodingInitializer s d = .ok false ∧ ∃ indent, s.indent = .ok indent ∧
      [⟨.member, Render.block (initializerHeader s shape) (delegation s shape "init") indent⟩] =
        l) := by
  simp [initializer, initializerHeader, or_comm]

theorem mappingFunction_eq_ok [Memory] : (mappingFunction s d shape).outcome = .ok l ↔
    (hasMappingFunction s d = .ok true ∧ l = []) ∨
    (hasMappingFunction s d = .ok false ∧ ∃ bindings, bindingTexts s d = .ok bindings ∧
      ∃ indent, s.indent = .ok indent ∧
        [⟨.member, Render.block (functionHeader s shape)
          (delegation s shape s.mappingFunction ++ bindings) indent⟩] = l) := by
  simp [mappingFunction, functionHeader, or_comm]

theorem conformance_eq_ok : (conformance s d shape).outcome = .ok l ↔
    ((shape.isDerived = true ∨ d.inheritsFrom (.text s.conformanceName) = .ok true) ∧ l = []) ∨
    (shape.isDerived = false ∧ d.inheritsFrom (.text s.conformanceName) = .ok false ∧
      [⟨.extension, "extension " ++ d.name.display ++ ": " ++ s.conformanceName ++ " \x7b\x7d"⟩] =
        l) := by
  unfold conformance
  cases hderived : shape.isDerived with
  | true => simp
  | false => simp [or_comm]

theorem conformance_role (h : (conformance s d shape).outcome = .ok l) :
    ∀ g ∈ l, g.role = .extension := by
  rcases conformance_eq_ok.mp h with ⟨-, rfl⟩ | ⟨-, -, rfl⟩
  · simp
  · simp

theorem synthesize_eq_ok [Memory] : (synthesize s d shape).outcome = .ok l ↔
    ∃ first, (initializer s d shape).outcome = .ok first ∧
    ∃ second, (mappingFunction s d shape).outcome = .ok second ∧
    ∃ third, (conformance s d shape).outcome = .ok third ∧ first ++ second ++ third = l := by
  simp [synthesize]

/-- The outcome of the rule: nothing for a refused declaration, all parts for any other. -/
theorem expand_eq_ok [Memory] {r : Request Json} {out : Output} :
    (expand s r d).outcome = .ok out ↔ (isRefused r d = true ∧ {} = out) ∨
    (isRefused r d = false ∧
      ∃ l, (synthesize s d (shapeFor d.kind (isSubclassRequested r.arguments))).outcome = .ok l ∧
        { declarations := l } = out) := by
  unfold expand isRefused
  cases d.kind with
  | valueType => cases isSubclassRequested r.arguments <;> simp [shapeFor]
  | referenceType =>
    dsimp only
    cases isSubclassRequested r.arguments && d.inherits.isEmpty <;> simp [shapeFor]
  | interface => simp
  | enumeration => simp

end SwiftExpansion.Mapping
