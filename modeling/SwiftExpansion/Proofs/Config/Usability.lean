import SwiftExpansion.Proofs.Config.RoundTrip
import SwiftExpansion.Proofs.Engine.ErrorContract

/-!
# What an accepted configuration is good for

The two lists of macros are the one part of a configuration that is taken in unchecked. With lists
in their places an accepted configuration can be written, an engine can be built from it, and a
macro is enabled by the equality of names. Texts and objects are searched in ways of their own, and
other values cannot be searched at all: they are found out when the configuration is written, or
when an engine asks for its macros.
-/
namespace SwiftExpansion

namespace Json

/-- What a document gives under a key for one of the lists of macros. -/
def macroList (data : Json) (key : String) : Json :=
  match data with
  | .object entries => (entries.lookup key).getD (.list [])
  | _ => .list []

def isCollection : Json → Bool
  | .text _ | .list _ | .object _ => true
  | _ => false

theorem elements_isOk_iff {j : Json} :
    (∃ items, j.elements = .ok items) ↔ j.isCollection = true := by
  cases j <;> simp [elements, isCollection]

theorem holds_text_isOk_iff {j : Json} (name : String) :
    (∃ b, j.holds (.text name) = .ok b) ↔ j.isCollection = true := by
  cases j <;> simp [holds, isCollection, isContainer]

theorem any_sameItem_text {items : List Json} {name : String} :
    items.any (·.sameItem (.text name)) = true ↔ .text name ∈ items := by
  simp [sameItem_text]

end Json

namespace Config

/-- Something is said of a macro: the enabled ones are always searched, the disabled ones only for a
name that is not among them. -/
theorem isEnabled_isOk_iff {c : Config} {name : String} :
    (∃ b, c.isEnabled (.text name) = .ok b) ↔ c.options.enabledMacros.isCollection = true ∧
      (c.options.disabledMacros.isCollection = true ∨
        c.options.enabledMacros.holds (.text name) = .ok true) := by
  unfold isEnabled
  rw [← Json.holds_text_isOk_iff name, ← Json.holds_text_isOk_iff name]
  cases henabled : c.options.enabledMacros.holds (.text name) with
  | error f => simp
  | ok b =>
    cases b with
    | true => simp
    | false => simp [or_comm]

theorem toJson_isOk_iff {c : Config} :
    (∃ j, c.toJson = .ok j) ↔ c.options.enabledMacros.isCollection = true ∧
      c.options.disabledMacros.isCollection = true := by
  simp [toJson, ← Json.elements_isOk_iff]

end Config

theorem Macro.exists_name {m : Macro} (h : m ∈ defaults) : ∃ name, m.name = .text name := by
  simp only [defaults, List.mem_cons, List.not_mem_nil, or_false] at h
  rcases h with rfl | rfl | rfl | rfl | rfl <;> exact ⟨_, rfl⟩

namespace Engine

theorem refresh_eq_none_iff {c : Config} {macros : List Macro} :
    (refresh c macros).2 = none ↔ ∀ m ∈ macros, ∃ b, c.isEnabled m.name = .ok b := by
  induction macros with
  | nil => simp [refresh]
  | cons m macros ih =>
    unfold refresh
    cases henabled : c.isEnabled m.name with
    | ok b => simp [henabled, ih]
    | error f => simp [henabled]

theorem ofConfig_eq_ok_iff {c : Config} :
    (∃ e, ofConfig c = .ok e) ↔ ∀ m ∈ Macro.defaults, ∃ b, c.isEnabled m.name = .ok b := by
  rw [← refresh_eq_none_iff]
  unfold ofConfig applyConfig
  cases hfault : (refresh c Macro.defaults).2 <;> simp [hfault]

theorem ofConfig_isOk_iff {c : Config} :
    (∃ e, ofConfig c = .ok e) ↔ c.options.enabledMacros.isCollection = true ∧
      (c.options.disabledMacros.isCollection = true ∨
        ∀ m ∈ Macro.defaults, c.options.enabledMacros.holds m.name = .ok true) := by
  have hanswer : ∀ m ∈ Macro.defaults, (∃ b, c.isEnabled m.name = .ok b) ↔
      c.options.enabledMacros.isCollection = true ∧
        (c.options.disabledMacros.isCollection = true ∨
          c.options.enabledMacros.holds m.name = .ok true) := by
    intro m hm
    obtain ⟨name, hname⟩ := Macro.exists_name hm
    rw [hname]
    exact Config.isEnabled_isOk_iff
  rw [ofConfig_eq_ok_iff]
  constructor
  · intro h
    have hfirst := (hanswer _ List.mem_cons_self).mp (h _ List.mem_cons_self)
    by_cases hdisabled : c.options.disabledMacros.isCollection = true
    · exact ⟨hfirst.1, .inl hdisabled⟩
    · exact ⟨hfirst.1, .inr fun m hm => ((hanswer m hm).mp (h m hm)).2.resolve_left hdisabled⟩
  · rintro ⟨henabled, hcase⟩ m hm
    exact (hanswer m hm).mpr ⟨henabled, hcase.imp_right fun hall => hall m hm⟩

end Engine

namespace Config

theorem macroLists_of_update {data : Json} {c : Config} {events : List Event}
    (h : ({} : Config).perform (.update data) = (c, events, none)) :
    c.options.enabledMacros = data.macroList "enabled_macros" ∧
      c.options.disabledMacros = data.macroList "disabled_macros" := by
  obtain ⟨entries, fields, rfl, -, hoptions⟩ := perform_update_eq_ok h
  rw [hoptions]
  exact ⟨rfl, rfl⟩

/-- What can be done with a configuration that was accepted depends on what was given for the lists
of macros. It can be written exactly when both can be listed; an engine can be built from it, or a
single name be looked up, exactly when those that are searched for it can be searched. If both are
lists, then all of this can be done, and a macro is enabled exactly when its name is an item of the
first or no item of the second. -/
theorem update_usable_iff {data : Json} {c : Config} {events : List Event}
    (h : ({} : Config).perform (.update data) = (c, events, none)) :
    ((∃ j, c.toJson = .ok j) ↔ (data.macroList "enabled_macros").isCollection = true ∧
      (data.macroList "disabled_macros").isCollection = true) ∧
    ((∃ e, Engine.ofConfig c = .ok e) ↔ (data.macroList "enabled_macros").isCollection = true ∧
      ((data.macroList "disabled_macros").isCollection = true ∨
        ∀ m ∈ Macro.defaults, (data.macroList "enabled_macros").holds m.name = .ok true)) ∧
    (∀ name, (∃ b, c.isEnabled (.text name) = .ok b) ↔
      (data.macroList "enabled_macros").isCollection = true ∧
        ((data.macroList "disabled_macros").isCollection = true ∨
          (data.macroList "enabled_macros").holds (.text name) = .ok true)) ∧
    ∀ enabled disabled, data.macroList "enabled_macros" = .list enabled →
      data.macroList "disabled_macros" = .list disabled → ∀ name : String, ∃ b,
        c.isEnabled (.text name) = .ok b ∧
          (b = true ↔ .text name ∈ enabled ∨ .text name ∉ disabled) := by
  obtain ⟨henabled, hdisabled⟩ := macroLists_of_update h
  rw [← henabled, ← hdisabled]
  refine ⟨toJson_isOk_iff, Engine.ofConfig_isOk_iff, fun name => isEnabled_isOk_iff, ?_⟩
  intro enabled disabled hxs hys name
  refine ⟨_, isEnabled_of_lists hxs hys (.text name), ?_⟩
  rw [Bool.or_eq_true, Bool.not_eq_true', ← Bool.not_eq_true, Json.any_sameItem_text,
    Json.any_sameItem_text]

def mixedDocument : Json :=
  .object [("disabled_macros", .list [.text "Mappable", .int 5])]

theorem update_usable_iff_mixedDocument :
    ∃ c, ({} : Config).perform (.update mixedDocument) = (c, [], none) ∧
      (∃ j, c.toJson = .ok j) ∧ (∃ e, Engine.ofConfig c = .ok e) ∧
      c.isEnabled (.text "Mappable") = .ok false ∧ c.isEnabled (.text "Map") = .ok true := by
  have hupdate : ({} : Config).perform (.update mixedDocument) =
      (⟨{}, { disabledMacros := .list [.text "Mappable", .int 5] }⟩, [], none) := rfl
  obtain ⟨hwritten, hbuilt, -, hlists⟩ := update_usable_iff hupdate
  obtain ⟨mappable, hmappable, hdisabled⟩ := hlists _ _ rfl rfl "Mappable"
  obtain ⟨map, hmap, henabled⟩ := hlists _ _ rfl rfl "Map"
  have hfalse : mappable = false := by simpa using hdisabled
  have htrue : map = true := henabled.mpr (by simp)
  exact ⟨_, hupdate, hwritten.mpr ⟨rfl, rfl⟩, hbuilt.mpr ⟨rfl, .inl rfl⟩, hfalse ▸ hmappable,
    htrue ▸ hmap⟩

/-- A null in place of a list is accepted without a warning, but nothing can be done with it. -/
theorem update_unusable_null :
    ∃ c, ({} : Config).perform (.update (.object [("enabled_macros", .null)])) = (c, [], none) ∧
      Engine.ofConfig c = .error (.misuse "NoneType" .membership) ∧
      c.toJson = .error (.misuse "NoneType" .iteration) ∧
      c.isEnabled (.text "stringify") = .error (.misuse "NoneType" .membership) :=
  ⟨_, rfl, rfl, rfl, rfl⟩

/-- A text in place of a list is searched for parts of it, so that one name may hide in another. -/
example :
    ∃ c, ({} : Config).perform (.update (.object [("disabled_macros", .text "Mappable")])) =
      (c, [], none) ∧ c.isEnabled (.text "Map") = .ok false :=
  ⟨_, rfl, rfl⟩

end Config

end SwiftExpansion
