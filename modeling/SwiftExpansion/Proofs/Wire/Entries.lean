import SwiftExpansion.Proofs.Wire.Schema

/-!
# What an object gives

Readers look at an object key by key. This module says for each part of a declaration which values
under which keys make it up, without the order in which they are looked at and without the faults on
the way: a part is read from a value exactly when it is given by it. Nothing is assumed of the
value; one that is not an object has nothing under any key, so that no part is given by it.
-/
namespace SwiftExpansion

namespace Json

def field? (data : Json) (key : String) : Option Json :=
  match data with
  | .object entries => entries.lookup key
  | _ => none

/-- What stands under a key, where null is the same as nothing. -/
def optional? (data : Json) (key : String) : Option Json :=
  (data.field? key).bind nonNull?

/-- The truth of what stands under a key. -/
def isSet (data : Json) (key : String) (default : Bool) : Bool :=
  ((data.field? key).getD (.bool default)).isTruthy

/-- What is listed under a key; nothing is listed under a key that is not there. -/
def Lists (data : Json) (key : String) (items : List Json) : Prop :=
  ((data.field? key).getD (.list [])).elements = .ok items

theorem isText_eq_true {j : Json} {s : String} : j.isText s = true ↔ j = .text s := by
  cases j <;> simp [isText]

theorem require_eq_ok {data j : Json} {key part : String} :
    data.require key part = .ok j ↔ data.field? key = some j := by
  cases data with
  | object entries =>
    rw [require, contains_object]
    cases hlookup : entries.lookup key <;> simp [field?, hlookup, bind, Except.bind]
  | text s =>
    simp only [require, contains, holds, field?]
    cases Text.occursIn key.toList s.toList <;> simp [bind, Except.bind]
  | list items =>
    simp only [require, contains, holds, field?]
    cases items.any (·.sameItem (.text key)) <;> simp [bind, Except.bind]
  | _ => simp [require, contains, holds, field?]

theorem exists_object_of_field? {data j : Json} {key : String} (h : data.field? key = some j) :
    ∃ entries, data = .object entries := by
  cases data with
  | object entries => exact ⟨entries, rfl⟩
  | _ => cases h

theorem exists_object_of_getD {data default j : Json} {key : String}
    (h : data.getD key default = .ok j) : ∃ entries, data = .object entries := by
  cases data with
  | object entries => exact ⟨entries, rfl⟩
  | _ => cases h

end Json

theorem DeclarationKind.ofJson?_eq_some {j : Json} {k : DeclarationKind} :
    ofJson? j = some k ↔ j = .text k.keyword := by
  constructor
  · intro h
    have hk : j.isText k.keyword = true := by simpa using List.find?_some h
    exact Json.isText_eq_true.mp hk
  · rintro rfl
    cases k <;> rfl

theorem Visibility.ofJson?_eq_some {j : Json} {v : Visibility} :
    ofJson? j = some v ↔ j = .text v.keyword := by
  constructor
  · intro h
    have hv : j.isText v.keyword = true := by simpa using List.find?_some h
    exact Json.isText_eq_true.mp hv
  · rintro rfl
    cases v <;> rfl

/-- The visibility that a member states, or the internal one. -/
def Visibility.IsGivenBy (data : Json) (v : Visibility) : Prop :=
  (data.field? "visibility").getD (.text internalLevel.keyword) = .text v.keyword

structure Parameter.IsGivenBy (data : Json) (p : Parameter Json) : Prop where
  name : data.field? "name" = some p.name
  type : data.field? "type" = some p.type
  label : data.optional? "label" = p.label
  defaultValue : data.optional? "default" = p.defaultValue
  isInout : data.isSet "inout" false = p.isInout

structure Property.IsGivenBy (data : Json) (p : Property Json) : Prop where
  name : data.field? "name" = some p.name
  type : data.optional? "type" = p.type
  visibility : p.visibility.IsGivenBy data
  isStatic : data.isSet "static" false = p.isStatic
  isComputed : data.isSet "computed" false = p.isComputed

structure Method.IsGivenBy (data : Json) (m : Method Json) : Prop where
  name : data.field? "name" = some m.name
  parameters : ∃ items, data.Lists "parameters" items ∧
    List.Forall₂ Parameter.IsGivenBy items m.parameters
  visibility : m.visibility.IsGivenBy data
  hasBody : data.isSet "has_body" true = m.hasBody
  returnType : data.optional? "return_type" = m.returnType
  modifiers : data.Lists "modifiers" m.modifiers
  effects : data.Lists "effects" m.effects
  genericClause : data.optional? "generic_clause" = m.genericClause
  isFailable : data.isSet "failable" false = m.isFailable

/-- A member is given together with its tag. -/
def Member.IsGivenBy (data : Json) : Member Json → Prop
  | .property p => data.field? "member" = some (.text "field") ∧ p.IsGivenBy data
  | .method m => data.field? "member" = some (.text "function") ∧ m.IsGivenBy data

structure Declaration.IsGivenBy (data : Json) (d : Declaration Json) : Prop where
  kind : data.field? "kind" = some (.text d.kind.keyword)
  name : data.field? "name" = some d.name
  inherits : data.Lists "inherits" d.inherits
  members : ∃ items, data.Lists "members" items ∧ List.Forall₂ Member.IsGivenBy items d.members

variable {data : Json}

theorem Visibility.read_eq_ok {entries : List (String × Json)} {v : Visibility} :
    read (.object entries) = .ok v ↔ v.IsGivenBy (.object entries) := by
  unfold read IsGivenBy
  rw [Json.getD_object, ← ofJson?_eq_some]
  cases h : ofJson? ((entries.lookup "visibility").getD (.text internalLevel.keyword)) with
  | none => simp [Json.field?, bind, Except.bind, h]
  | some w => simp [Json.field?, bind, Except.bind, h]

theorem Parameter.read_eq_ok {p : Parameter Json} : read data = .ok p ↔ p.IsGivenBy data := by
  simp only [read, Except.bind_eq_ok, Json.require_eq_ok, Except.pure_eq_ok]
  constructor
  · rintro ⟨name, hname, type, htype, label, hlabel, default, hdefault, isInout, hinout, rfl⟩
    obtain ⟨entries, rfl⟩ := Json.exists_object_of_field? hname
    exact ⟨hname, htype, Except.ok.inj hlabel, Except.ok.inj hdefault, Except.ok.inj hinout⟩
  · intro h
    obtain ⟨entries, rfl⟩ := Json.exists_object_of_field? h.name
    exact ⟨_, h.name, _, h.type, _, congrArg Except.ok h.label, _,
      congrArg Except.ok h.defaultValue, _, congrArg Except.ok h.isInout, rfl⟩

theorem Property.read_eq_ok {p : Property Json} : read data = .ok p ↔ p.IsGivenBy data := by
  simp only [read, Except.bind_eq_ok, Json.require_eq_ok, Except.pure_eq_ok]
  constructor
  · rintro ⟨name, hname, type, htype, visibility, hvisibility, isStatic, hstatic, isComputed,
      hcomputed, rfl⟩
    obtain ⟨entries, rfl⟩ := Json.exists_object_of_field? hname
    exact ⟨hname, Except.ok.inj htype, Visibility.read_eq_ok.mp hvisibility, Except.ok.inj hstatic,
      Except.ok.inj hcomputed⟩
  · intro h
    obtain ⟨entries, rfl⟩ := Json.exists_object_of_field? h.name
    exact ⟨_, h.name, _, congrArg Except.ok h.type, _, Visibility.read_eq_ok.mpr h.visibility, _,
      congrArg Except.ok h.isStatic, _, congrArg Except.ok h.isComputed, rfl⟩

theorem Method.read_eq_ok {m : Method Json} : read data = .ok m ↔ m.IsGivenBy data := by
  simp only [read, Except.bind_eq_ok, Json.require_eq_ok, Except.pure_eq_ok, Except.mapM_eq_ok,
    Parameter.read_eq_ok]
  constructor
  · rintro ⟨name, hname, items, hitems, parameters, hparameters, visibility, hvisibility, hasBody,
      hbody, returnType, hreturn, modifiers, hmodifiers, effects, heffects, genericClause, hclause,
      isFailable, hfailable, rfl⟩
    obtain ⟨entries, rfl⟩ := Json.exists_object_of_field? hname
    exact ⟨hname, ⟨items, hitems, hparameters⟩, Visibility.read_eq_ok.mp hvisibility,
      Except.ok.inj hbody, Except.ok.inj hreturn, hmodifiers, heffects, Except.ok.inj hclause,
      Except.ok.inj hfailable⟩
  · intro h
    obtain ⟨entries, rfl⟩ := Json.exists_object_of_field? h.name
    obtain ⟨items, hitems, hparameters⟩ := h.parameters
    exact ⟨_, h.name, items, hitems, _, hparameters, _, Visibility.read_eq_ok.mpr h.visibility, _,
      congrArg Except.ok h.hasBody, _, congrArg Except.ok h.returnType, _, h.modifiers, _,
      h.effects, _, congrArg Except.ok h.genericClause, _, congrArg Except.ok h.isFailable, rfl⟩

/-- A tag that is looked for is there only if something stands under its key. -/
theorem Json.getD_null_eq_text {data : Json} {key tag : String} :
    data.getD key .null = .ok (.text tag) ↔ data.field? key = some (.text tag) := by
  cases data with
  | object entries =>
    rw [getD_object, field?]
    cases entries.lookup key <;> simp
  | _ => simp [getD, get?, entriesFor, field?]

theorem Member.read_eq_ok {m : Member Json} : read data = .ok m ↔ m.IsGivenBy data := by
  constructor
  · intro h
    rw [read, Except.bind_eq_ok] at h
    obtain ⟨tag, htag, h⟩ := h
    split at h
    · rename_i hfield
      rw [Json.isText_eq_true.mp hfield, Json.getD_null_eq_text] at htag
      obtain ⟨p, hp, hm⟩ := Except.bind_eq_ok.mp h
      cases hm
      exact ⟨htag, Property.read_eq_ok.mp hp⟩
    · split at h
      · rename_i hfunction
        rw [Json.isText_eq_true.mp hfunction, Json.getD_null_eq_text] at htag
        obtain ⟨n, hn, hm⟩ := Except.bind_eq_ok.mp h
        cases hm
        exact ⟨htag, Method.read_eq_ok.mp hn⟩
      · cases h
  · intro h
    rw [read, Except.bind_eq_ok]
    cases m with
    | property p =>
      refine ⟨_, Json.getD_null_eq_text.mpr h.1, Except.bind_eq_ok.mpr ?_⟩
      exact ⟨p, Property.read_eq_ok.mpr h.2, rfl⟩
    | method m =>
      refine ⟨_, Json.getD_null_eq_text.mpr h.1, Except.bind_eq_ok.mpr ?_⟩
      exact ⟨m, Method.read_eq_ok.mpr h.2, rfl⟩

/-- The kind of an object is looked up, and then looked for among the known ones. -/
theorem DeclarationKind.read_object (entries : List (String × Json)) :
    read (.object entries) =
      match ofJson? ((entries.lookup "kind").getD .null) with
      | some k => .ok k
      | none => .error (.unknown "declaration kind" ((entries.lookup "kind").getD .null)) := by
  have hrequire : ∀ j, entries.lookup "kind" = some j →
      (Json.object entries).require "kind" "Declaration" = .ok j :=
    fun j hj => Json.require_eq_ok.mpr hj
  rw [read, Json.contains_object]
  cases hlookup : entries.lookup "kind" with
  | none =>
    simp only [Option.isSome_none, bind, Except.bind, Json.getD_object, hlookup]
    rfl
  | some j =>
    simp only [Option.isSome_some, bind, Except.bind, if_true, hrequire j hlookup]
    rfl

theorem DeclarationKind.exists_object_of_read {k : DeclarationKind} (h : read data = .ok k) :
    ∃ entries, data = .object entries := by
  rw [read, Except.bind_eq_ok] at h
  obtain ⟨found, -, h⟩ := h
  cases found with
  | true =>
    obtain ⟨value, hvalue, -⟩ := Except.bind_eq_ok.mp h
    exact Json.exists_object_of_field? (Json.require_eq_ok.mp hvalue)
  | false =>
    obtain ⟨value, hvalue, -⟩ := Except.bind_eq_ok.mp h
    exact Json.exists_object_of_getD hvalue

theorem DeclarationKind.read_eq_ok {k : DeclarationKind} :
    read data = .ok k ↔ data.field? "kind" = some (.text k.keyword) := by
  have hobject (entries : List (String × Json)) : read (.object entries) = .ok k ↔
      (Json.object entries).field? "kind" = some (.text k.keyword) := by
    have hkind : (Json.object entries).field? "kind" = some (.text k.keyword) ↔
        ofJson? ((entries.lookup "kind").getD .null) = some k := by
      rw [ofJson?_eq_some, Json.field?]
      cases entries.lookup "kind" <;> simp
    rw [hkind, read_object]
    cases ofJson? ((entries.lookup "kind").getD .null) <;> simp
  constructor
  · intro h
    obtain ⟨entries, rfl⟩ := exists_object_of_read h
    exact (hobject entries).mp h
  · intro h
    obtain ⟨entries, rfl⟩ := Json.exists_object_of_field? h
    exact (hobject entries).mpr h

theorem Declaration.read_eq_ok {d : Declaration Json} : read data = .ok d ↔ d.IsGivenBy data := by
  simp only [read, Except.bind_eq_ok, Json.require_eq_ok, Except.pure_eq_ok, Except.mapM_eq_ok,
    DeclarationKind.read_eq_ok, Member.read_eq_ok]
  constructor
  · rintro ⟨kind, hkind, name, hname, inherits, hinherits, items, hitems, members, hmembers, rfl⟩
    obtain ⟨entries, rfl⟩ := Json.exists_object_of_field? hname
    exact ⟨hkind, hname, hinherits, items, hitems, hmembers⟩
  · intro h
    obtain ⟨entries, rfl⟩ := Json.exists_object_of_field? h.name
    obtain ⟨items, hitems, hmembers⟩ := h.members
    exact ⟨_, h.kind, _, h.name, _, h.inherits, items, hitems, _, hmembers, rfl⟩

end SwiftExpansion
