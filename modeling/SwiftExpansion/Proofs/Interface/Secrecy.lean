import SwiftExpansion.Proofs.Expansion.Discipline

/-!
# What an interface keeps to itself

The interface of a class is a function of the name of the class and of its surface: the members that
are neither private nor initializers, without the defaults of their parameters, their bodies, and
whatever else has no place in a requirement. So two classes that look the same on the surface cannot
be told apart by their interfaces, nor by what is reported while they are extracted. Nothing is
assumed of the texts in a declaration: it may be as ill-typed as a host can send it.
-/
namespace SwiftExpansion

variable {τ : Type}

def Parameter.surface (p : Parameter τ) : Parameter τ :=
  { p with defaultValue := none }

def Property.surface (p : Property τ) : Property τ :=
  { p with visibility := .internalLevel, isComputed := false }

def Method.surface (m : Method τ) : Method τ :=
  { m with
    parameters := m.parameters.map Parameter.surface
    visibility := .internalLevel
    hasBody := false
    isFailable := false }

/-- What a member shows to the outside, if it shows anything. -/
def Member.surface? : Member Json → Option (Member Json)
  | .property p => if p.visibility = .privateLevel then none else some (.property p.surface)
  | .method m =>
    if m.visibility = .privateLevel ∨ m.name.isText "init" then none else some (.method m.surface)

def Declaration.surface (d : Declaration Json) : List (Member Json) :=
  d.members.filterMap Member.surface?

namespace Interface

theorem exposedProperties_surface (d : Declaration Json) :
    d.exposedProperties.map Property.surface = d.surface.filterMap Member.property? := by
  rw [Declaration.exposedProperties, Declaration.properties, Declaration.surface,
    List.filter_filterMap, List.map_filterMap, List.filterMap_filterMap]
  congr 1
  funext m
  cases m with
  | property p =>
    by_cases hprivate : p.visibility = .privateLevel
    · simp [Member.property?, Member.surface?, Visibility.isPrivate, hprivate]
    · simp [Member.property?, Member.surface?, Visibility.isPrivate, Option.filter, hprivate]
  | method m =>
    by_cases hhidden : m.visibility = .privateLevel ∨ m.name.isText "init"
    · simp [Member.property?, Member.surface?, hhidden]
    · simp [Member.property?, Member.surface?, hhidden]

theorem requiredMethods_surface (d : Declaration Json) :
    (d.exposedMethods.filter (!isInitializer ·)).map Method.surface =
      d.surface.filterMap Member.method? := by
  rw [Declaration.exposedMethods, Declaration.methods, Declaration.surface, List.filter_filterMap,
    List.filter_filterMap, List.map_filterMap, List.filterMap_filterMap]
  congr 1
  funext m
  cases m with
  | property p =>
    by_cases hprivate : p.visibility = .privateLevel
    · simp [Member.method?, Member.surface?, hprivate]
    · simp [Member.method?, Member.surface?, hprivate]
  | method m =>
    by_cases hprivate : m.visibility = .privateLevel
    · simp [Member.method?, Member.surface?, Visibility.isPrivate, hprivate]
    · cases hinit : m.name.isText "init" <;>
        simp [Member.method?, Member.surface?, Visibility.isPrivate, isInitializer, Option.filter,
          hprivate, hinit]

/-- The lines of properties, and the warnings about them, come from their surfaces alone. -/
theorem propertyLines_surface (name : String) (properties : List (Property Json)) :
    propertyLines name (properties.map Property.surface) = propertyLines name properties := by
  induction properties with
  | nil => rfl
  | cons p properties ih =>
    rw [List.map_cons, propertyLines, propertyLines, ih]
    rfl

theorem requirementText_surface (m : Method Json) :
    requirementText m.surface = requirementText m := by
  have hparameters : m.surface.parameters.mapM parameterText = m.parameters.mapM parameterText := by
    rw [Method.surface, List.mapM_map]
    rfl
  rw [requirementText, requirementText, hparameters]
  rfl

theorem requirementTexts_surface (d : Declaration Json) :
    requirementTexts d = (d.surface.filterMap Member.method?).mapM requirementText := by
  rw [← requiredMethods_surface, List.mapM_map, requirementTexts]
  congr 1
  funext m
  exact (requirementText_surface m).symm

/-- The extraction sees nothing of a declaration but its name and its surface. -/
theorem extract_eq_of_surface [Memory] (s : Settings) {d₁ d₂ : Declaration Json}
    (hname : d₁.name = d₂.name) (hsurface : d₁.surface = d₂.surface) :
    extract s d₁ = extract s d₂ := by
  have hproperties (name : String) :
      propertyLines name d₁.exposedProperties = propertyLines name d₂.exposedProperties := by
    rw [← propertyLines_surface, ← propertyLines_surface name d₂.exposedProperties,
      exposedProperties_surface, exposedProperties_surface, hsurface]
  have hrequirements : requirementTexts d₁ = requirementTexts d₂ := by
    rw [requirementTexts_surface, requirementTexts_surface, hsurface]
  have hinterface : interfaceName s d₁ = interfaceName s d₂ := by
    rw [interfaceName, interfaceName, hname]
  unfold extract headerText
  rw [hinterface, hproperties, hrequirements]

/-- Two classes of one name and one surface, attached to any two usages, have the same interface:
the output, the diagnostics, the debugging records and the faults of the rule are the same. -/
theorem expand_eq_of_surface [Memory] {s : Settings} {name : String} {r₁ r₂ : Request Json}
    {d₁ d₂ : Declaration Json} (h₁ : r₁.declaration = some d₁) (h₂ : r₂.declaration = some d₂)
    (hclass₁ : d₁.kind = .referenceType) (hclass₂ : d₂.kind = .referenceType)
    (hname : d₁.name = d₂.name) (hsurface : d₁.surface = d₂.surface) :
    Rule.interface.expand name s r₁ = Rule.interface.expand name s r₂ := by
  have hexpand : expand s d₁ = expand s d₂ := by
    rw [expand, expand, hclass₁, hclass₂, extract_eq_of_surface s hname hsurface]
  calc Rule.interface.expand name s r₁
      = expand s d₁ := Rule.attachedDeclaration_bind h₁ _
    _ = expand s d₂ := hexpand
    _ = Rule.interface.expand name s r₂ := (Rule.attachedDeclaration_bind h₂ _).symm

/-- A class with members that its interface must not tell of: a private property, an initializer,
the default of a parameter. -/
def guardedClass : Declaration Json :=
  ⟨.referenceType, .text "Store", [.text "Base"],
    [.property ⟨.text "secret", some (.text "Key"), .privateLevel, false, false⟩,
      .property ⟨.text "size", some (.text "Int"), .publicLevel, false, true⟩,
      .property ⟨.text "cache", none, .fileprivateLevel, false, false⟩,
      .method ⟨.text "init", [⟨.text "key", .text "Key", none, none, false⟩], .publicLevel, true, none,
        [], [], none, true⟩,
      .method ⟨.text "find", [⟨.text "id", .text "Int", none, some (.text "42"), false⟩], .openLevel,
        true, some (.text "Item"), [.text "class"], [], none, false⟩]⟩

def bareClass : Declaration Json :=
  ⟨.referenceType, .text "Store", [],
    [.property ⟨.text "size", some (.text "Int"), .internalLevel, false, false⟩,
      .property ⟨.text "cache", none, .publicLevel, false, true⟩,
      .method ⟨.text "find", [⟨.text "id", .text "Int", none, none, false⟩], .internalLevel, false,
        some (.text "Item"), [.text "class"], [], none, true⟩]⟩

def attachedTo (d : Declaration Json) : Request Json :=
  ⟨.text "InterfaceGen", [], some d, .unreported⟩

open scoped Memory in
theorem expand_eq_of_surface_guardedClass :
    guardedClass.members.length ≠ bareClass.members.length ∧
      guardedClass.surface = bareClass.surface ∧
      Rule.interface.expand "InterfaceGen" {} (attachedTo guardedClass) =
        Rule.interface.expand "InterfaceGen" {} (attachedTo bareClass) := by
  have hsurface : guardedClass.surface = bareClass.surface := rfl
  exact ⟨by decide, hsurface, expand_eq_of_surface rfl rfl rfl rfl rfl hsurface⟩

end Interface

end SwiftExpansion
