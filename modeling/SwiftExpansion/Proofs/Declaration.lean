import SwiftExpansion.Declaration.Basic

/-!
# Members by what they are

Which members of a declaration a classification keeps does not depend on what stands for texts, and
the filters that are laid one over the other come to a single pass over the members.
-/
namespace SwiftExpansion

variable {τ σ : Type}

theorem Member.property?_map (f : τ → σ) (m : Member τ) :
    (m.map f).property? = m.property?.map (Property.map f) := by
  cases m with
  | property p => rfl
  | method m => rfl

theorem Member.method?_map (f : τ → σ) (m : Member τ) :
    (m.map f).method? = m.method?.map (Method.map f) := by
  cases m with
  | property p => rfl
  | method m => rfl

namespace Declaration

theorem methods_map (f : τ → σ) (d : Declaration τ) :
    (d.map f).methods = d.methods.map (Method.map f) := by
  simp only [methods, Declaration.map, List.filterMap_map, List.map_filterMap]
  congr 1
  funext m
  exact m.method?_map f

theorem properties_map (f : τ → σ) (d : Declaration τ) :
    (d.map f).properties = d.properties.map (Property.map f) := by
  simp only [properties, Declaration.map, List.filterMap_map, List.map_filterMap]
  congr 1
  funext m
  exact m.property?_map f

theorem exposedProperties_map (f : τ → σ) (d : Declaration τ) :
    (d.map f).exposedProperties = d.exposedProperties.map (Property.map f) := by
  rw [exposedProperties, properties_map, List.filter_map]
  rfl

theorem exposedMethods_map (f : τ → σ) (d : Declaration τ) :
    (d.map f).exposedMethods = d.exposedMethods.map (Method.map f) := by
  rw [exposedMethods, methods_map, List.filter_map]
  rfl

theorem mappableProperties_map (f : τ → σ) (d : Declaration τ) :
    (d.map f).mappableProperties = d.mappableProperties.map (Property.map f) := by
  simp only [mappableProperties, exposedProperties, properties_map, List.filter_map]
  rfl

/-- The properties that a mapping binds, in one pass: neither private nor computed nor static. -/
def boundProperties (d : Declaration τ) : List (Property τ) :=
  d.members.filterMap fun m => match m with
    | .property p =>
      if p.visibility ≠ .privateLevel ∧ p.isComputed = false ∧ p.isStatic = false then some p
      else none
    | .method _ => none

theorem mappableProperties_eq_boundProperties (d : Declaration τ) :
    d.mappableProperties = d.boundProperties := by
  rw [mappableProperties, exposedProperties, properties, boundProperties, List.filter_filterMap,
    List.filter_filterMap]
  congr 1
  funext m
  cases m with
  | method m => rfl
  | property p =>
    by_cases hprivate : p.visibility = .privateLevel
    · simp [Member.property?, Visibility.isPrivate, hprivate]
    · cases hcomputed : p.isComputed <;> cases hstatic : p.isStatic <;>
        simp [Member.property?, Visibility.isPrivate, Property.isStored, hprivate, hcomputed,
          hstatic]

end Declaration

end SwiftExpansion
