import SwiftExpansion.Request

/-!
# The values in a request

A request holds values wherever its source has a text. `All` says of each part of a request that all
of its values are of one sort: any values at all, or texts only, as in a request that keeps to the
format.
-/
namespace SwiftExpansion

variable {τ : Type}

structure Expression.All (T : τ → Prop) (e : Expression τ) : Prop where
  text : T e.text
  value : ∀ j ∈ e.value, T j
  base : ∀ j ∈ e.base, T j

structure Argument.All (T : τ → Prop) (a : Argument τ) : Prop where
  value : a.value.All T
  label : ∀ j ∈ a.label, T j

structure Parameter.All (T : τ → Prop) (p : Parameter τ) : Prop where
  name : T p.name
  type : T p.type
  label : ∀ j ∈ p.label, T j
  defaultValue : ∀ j ∈ p.defaultValue, T j

structure Property.All (T : τ → Prop) (p : Property τ) : Prop where
  name : T p.name
  type : ∀ j ∈ p.type, T j

structure Method.All (T : τ → Prop) (m : Method τ) : Prop where
  name : T m.name
  parameters : ∀ p ∈ m.parameters, p.All T
  returnType : ∀ j ∈ m.returnType, T j
  modifiers : ∀ j ∈ m.modifiers, T j
  effects : ∀ j ∈ m.effects, T j
  genericClause : ∀ j ∈ m.genericClause, T j

def Member.All (T : τ → Prop) : Member τ → Prop
  | .property p => p.All T
  | .method m => m.All T

structure Declaration.All (T : τ → Prop) (d : Declaration τ) : Prop where
  name : T d.name
  inherits : ∀ j ∈ d.inherits, T j
  members : ∀ m ∈ d.members, m.All T

structure Request.All (T : τ → Prop) (r : Request τ) : Prop where
  name : T r.name
  arguments : ∀ a ∈ r.arguments, a.All T
  declaration : ∀ d ∈ r.declaration, d.All T

variable {T : τ → Prop}

namespace Declaration.All

variable {d : Declaration τ}

theorem exposedProperties (hd : d.All T) {p : Property τ} (hp : p ∈ d.exposedProperties) :
    p.All T := by
  obtain ⟨m, hm, hproperty⟩ := List.mem_filterMap.mp (List.mem_filter.mp hp).1
  cases m with
  | method m => cases hproperty
  | property q =>
    cases hproperty
    exact hd.members _ hm

theorem methods (hd : d.All T) {m : Method τ} (hm : m ∈ d.methods) : m.All T := by
  obtain ⟨n, hn, hmethod⟩ := List.mem_filterMap.mp hm
  cases n with
  | property p => cases hmethod
  | method n =>
    cases hmethod
    exact hd.members _ hn

end Declaration.All

/-- Every value is a value of some sort. -/
theorem Request.all_of_forall (h : ∀ j, T j) (r : Request τ) : r.All T where
  name := h _
  arguments _ _ := ⟨⟨h _, fun j _ => h j, fun j _ => h j⟩, fun j _ => h j⟩
  declaration d _ := by
    refine ⟨h _, fun j _ => h j, fun m _ => ?_⟩
    cases m with
    | property p => exact ⟨h _, fun j _ => h j⟩
    | method m =>
      exact ⟨h _, fun p _ => ⟨h _, h _, fun j _ => h j, fun j _ => h j⟩, fun j _ => h j,
        fun j _ => h j, fun j _ => h j, fun j _ => h j⟩

end SwiftExpansion
