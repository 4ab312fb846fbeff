import SwiftExpansion.Declaration.Writer
import SwiftExpansion.Proofs.Wire.Entries

/-!
# A declaration is read back from its document

The canonical document of a declaration has all of its keys. A host need not write those that hold
what a reader takes in their place anyway, and may leave out as many of them as it likes, in any
part of the document. Every such abridged document is read as the declaration it was made from.
-/
namespace SwiftExpansion

namespace Json

/-- The keys that may be left out, with what a reader takes in their place. A key has the same
default in all the parts where it is optional; in a parameter, where the type is not, there is no
null under its key. -/
def defaultEntries : List (String × Json) :=
  [("label", .null), ("default", .null), ("inout", .bool false), ("type", .null),
    ("visibility", .text "internal"), ("static", .bool false), ("computed", .bool false),
    ("parameters", .list []), ("has_body", .bool true), ("return_type", .null),
    ("modifiers", .list []), ("effects", .list []), ("generic_clause", .null),
    ("failable", .bool false), ("inherits", .list []), ("members", .list [])]

/-- Entries with some of the defaults left out, and the other values related to those before. -/
inductive Sheds (R : Json → Json → Prop) : List (String × Json) → List (String × Json) → Prop
  | nil : Sheds R [] []
  | keep {key : String} {v w : Json} {es fs : List (String × Json)} (h : R v w)
      (hrest : Sheds R es fs) : Sheds R ((key, v) :: es) ((key, w) :: fs)
  | drop {key : String} {v : Json} {es fs : List (String × Json)}
      (h : (key, v) ∈ defaultEntries) (hrest : Sheds R es fs) : Sheds R ((key, v) :: es) fs

/-- Leaving out defaults at any depth. -/
inductive Abridges : Json → Json → Prop
  | same (j : Json) : Abridges j j
  | list {xs ys : List Json} (h : List.Forall₂ Abridges xs ys) : Abridges (.list xs) (.list ys)
  | object {es fs : List (String × Json)} (h : Sheds Abridges es fs) :
      Abridges (.object es) (.object fs)

section

variable {R : Json → Json → Prop} {es fs : List (String × Json)}

theorem Sheds.refl (hR : ∀ j, R j j) (es : List (String × Json)) : Sheds R es es := by
  induction es with
  | nil => exact .nil
  | cons e es ih => exact .keep (hR e.2) ih

theorem Sheds.lookup_eq_none (h : Sheds R es fs) {key : String} (hkey : key ∉ es.map Prod.fst) :
    fs.lookup key = none := by
  induction h with
  | nil => rfl
  | keep hvw hrest ih =>
    rw [List.map_cons, List.mem_cons, not_or] at hkey
    rw [List.lookup_cons, beq_false_of_ne hkey.1]
    exact ih hkey.2
  | drop hv hrest ih =>
    rw [List.map_cons, List.mem_cons, not_or] at hkey
    exact ih hkey.2

/-- What stands under a key stays there, related to what it was, unless it is left out. -/
theorem Sheds.lookup_cases (h : Sheds R es fs) (hkeys : (es.map Prod.fst).Nodup) {key : String}
    {v : Json} (hv : es.lookup key = some v) :
    (∃ w, fs.lookup key = some w ∧ R v w) ∨ (fs.lookup key = none ∧ (key, v) ∈ defaultEntries) := by
  induction h with
  | nil => cases hv
  | @keep name u w es fs huw hrest ih =>
    rw [List.map_cons, List.nodup_cons] at hkeys
    rw [List.lookup_cons] at hv ⊢
    cases hname : key == name with
    | true =>
      rw [hname] at hv
      cases hv
      exact .inl ⟨w, rfl, huw⟩
    | false =>
      rw [hname] at hv
      exact ih hkeys.2 hv
  | @drop name u es fs hu hrest ih =>
    rw [List.map_cons, List.nodup_cons] at hkeys
    rw [List.lookup_cons] at hv
    cases hname : key == name with
    | true =>
      rw [hname] at hv
      cases hv
      obtain rfl := eq_of_beq hname
      exact .inr ⟨hrest.lookup_eq_none hkeys.1, hu⟩
    | false =>
      rw [hname] at hv
      exact ih hkeys.2 hv

end

namespace Abridges

theorem eq_of_not_isContainer {v w : Json} (h : Abridges v w) (hv : v.isContainer = false) :
    w = v := by
  cases h with
  | same j => rfl
  | list h => cases hv
  | object h => cases hv

theorem exists_list {xs : List Json} {w : Json} (h : Abridges (.list xs) w) :
    ∃ ys, w = .list ys ∧ List.Forall₂ Abridges xs ys := by
  cases h with
  | same j => exact ⟨xs, rfl, List.forall₂_same.mpr fun j _ => .same j⟩
  | list h => exact ⟨_, rfl, h⟩

theorem exists_object {es : List (String × Json)} {w : Json} (h : Abridges (.object es) w) :
    ∃ fs, w = .object fs ∧ Sheds Abridges es fs := by
  cases h with
  | same j => exact ⟨es, rfl, Sheds.refl .same es⟩
  | object h => exact ⟨_, rfl, h⟩

variable {es : List (String × Json)} {data : Json} {key : String} {v : Json}

/-- A key that is not optional is still there. -/
theorem exists_field? (h : Abridges (.object es) data) (hkeys : (es.map Prod.fst).Nodup)
    (hv : es.lookup key = some v) (hrequired : (key, v) ∉ defaultEntries) :
    ∃ w, data.field? key = some w ∧ Abridges v w := by
  obtain ⟨fs, rfl, hsheds⟩ := h.exists_object
  exact (hsheds.lookup_cases hkeys hv).resolve_right fun hdrop => hrequired hdrop.2

/-- Left out or not, the value is found again if its default is put in its place. -/
theorem field?_getD (h : Abridges (.object es) data) (hkeys : (es.map Prod.fst).Nodup)
    (hv : es.lookup key = some v) {default : Json}
    (hdefault : (key, v) ∈ defaultEntries → v = default) :
    Abridges v ((data.field? key).getD default) := by
  obtain ⟨fs, rfl, hsheds⟩ := h.exists_object
  rcases hsheds.lookup_cases hkeys hv with ⟨w, hw, hvw⟩ | ⟨hnone, hmem⟩
  · rw [field?, hw]
    exact hvw
  · rw [field?, hnone, ← hdefault hmem]
    exact .same v

theorem field?_text (h : Abridges (.object es) data) (hkeys : (es.map Prod.fst).Nodup) {s : String}
    (hv : es.lookup key = some (.text s)) (hrequired : (key, .text s) ∉ defaultEntries) :
    data.field? key = some (.text s) := by
  obtain ⟨w, hw, htext⟩ := h.exists_field? hkeys hv hrequired
  rw [hw, htext.eq_of_not_isContainer rfl]

theorem optional?_text (h : Abridges (.object es) data) (hkeys : (es.map Prod.fst).Nodup)
    {text : Option String} (hv : es.lookup key = some (.ofOptionalText text))
    (hdefault : ∀ v, (key, v) ∈ defaultEntries → v = .null) :
    data.optional? key = text.map .text := by
  have hoptional : data.optional? key = ((data.field? key).getD .null).nonNull? := by
    rw [optional?]
    cases data.field? key <;> rfl
  have hvalue := h.field?_getD hkeys hv (hdefault _)
  rw [hoptional]
  cases text with
  | none => rw [hvalue.eq_of_not_isContainer rfl]; rfl
  | some s => rw [hvalue.eq_of_not_isContainer rfl]; rfl

theorem isSet_flag (h : Abridges (.object es) data) (hkeys : (es.map Prod.fst).Nodup) {b : Bool}
    (hv : es.lookup key = some (.bool b)) {default : Bool}
    (hdefault : ∀ v, (key, v) ∈ defaultEntries → v = .bool default) :
    data.isSet key default = b := by
  rw [isSet, (h.field?_getD hkeys hv (hdefault _)).eq_of_not_isContainer rfl]
  rfl

theorem lists_items (h : Abridges (.object es) data) (hkeys : (es.map Prod.fst).Nodup)
    {xs : List Json} (hv : es.lookup key = some (.list xs))
    (hdefault : ∀ v, (key, v) ∈ defaultEntries → v = .list []) :
    ∃ items, data.Lists key items ∧ List.Forall₂ Abridges xs items := by
  obtain ⟨items, hitems, hforall⟩ := (h.field?_getD hkeys hv (hdefault _)).exists_list
  exact ⟨items, by rw [Lists, hitems]; rfl, hforall⟩

theorem lists_texts (h : Abridges (.object es) data) (hkeys : (es.map Prod.fst).Nodup)
    {texts : List String} (hv : es.lookup key = some (.ofTexts texts))
    (hdefault : ∀ v, (key, v) ∈ defaultEntries → v = .list []) :
    data.Lists key (texts.map .text) := by
  obtain ⟨items, hitems, hforall⟩ := h.lists_items hkeys hv hdefault
  have heq : items = texts.map .text := by
    rw [List.forall₂_map_left_iff] at hforall
    clear hv hitems
    induction hforall with
    | nil => rfl
    | cons htext _ ih => rw [htext.eq_of_not_isContainer rfl, List.map_cons, ih]
  rwa [← heq]

/-- What each part gives, abridged as it may be, the list of them gives. -/
theorem forall₂_parts {α β : Type} {write : α → Json} {f : α → β} {G : Json → β → Prop}
    (hpart : ∀ x data, (write x).Abridges data → G data (f x)) {xs : List α} {items : List Json}
    (h : List.Forall₂ Abridges (xs.map write) items) : List.Forall₂ G items (xs.map f) := by
  rw [List.forall₂_map_left_iff] at h
  rw [List.forall₂_map_right_iff]
  exact List.Forall₂.flip (h.imp hpart)

end Abridges

end Json

/-! What is given by an abridged document, part by part. -/

section

open Json (defaultEntries)

variable {data : Json}

theorem Parameter.isGivenBy_of_abridges {p : Parameter String} (h : p.toJson.Abridges data) :
    (p.map Json.text).IsGivenBy data := by
  have hkeys : ["name", "type", "label", "default", "inout"].Nodup := by decide
  exact {
    name := h.field?_text hkeys rfl (by simp [defaultEntries])
    type := h.field?_text hkeys rfl (by simp [defaultEntries])
    label := h.optional?_text hkeys rfl (by simp [defaultEntries])
    defaultValue := h.optional?_text hkeys rfl (by simp [defaultEntries])
    isInout := h.isSet_flag hkeys rfl (by simp [defaultEntries]) }

theorem Visibility.isGivenBy_of_abridges {v : Visibility} {es : List (String × Json)}
    (h : (Json.object es).Abridges data) (hkeys : (es.map Prod.fst).Nodup)
    (hv : es.lookup "visibility" = some (.text v.keyword)) : v.IsGivenBy data := by
  refine (h.field?_getD hkeys hv fun hmem => ?_).eq_of_not_isContainer rfl
  have hinternal : v.keyword = "internal" := by simpa [defaultEntries] using hmem
  rw [hinternal]
  rfl

theorem Property.nodup_keys :
    ["member", "name", "type", "visibility", "static", "computed"].Nodup := by
  decide

theorem Property.isGivenBy_of_abridges {p : Property String} (h : p.toJson.Abridges data) :
    (p.map Json.text).IsGivenBy data := by
  have hkeys := nodup_keys
  exact {
    name := h.field?_text hkeys rfl (by simp [defaultEntries])
    type := h.optional?_text hkeys rfl (by simp [defaultEntries])
    visibility := Visibility.isGivenBy_of_abridges h hkeys rfl
    isStatic := h.isSet_flag hkeys rfl (by simp [defaultEntries])
    isComputed := h.isSet_flag hkeys rfl (by simp [defaultEntries]) }

theorem Method.nodup_keys : ["member", "name", "parameters", "visibility", "has_body",
    "return_type", "modifiers", "effects", "generic_clause", "failable"].Nodup := by
  decide

theorem Method.isGivenBy_of_abridges {m : Method String} (h : m.toJson.Abridges data) :
    (m.map Json.text).IsGivenBy data := by
  have hkeys := nodup_keys
  obtain ⟨items, hitems, hparts⟩ : ∃ items, data.Lists "parameters" items ∧
      List.Forall₂ Json.Abridges (m.parameters.map Parameter.toJson) items :=
    h.lists_items hkeys rfl (by simp [defaultEntries])
  exact {
    name := h.field?_text hkeys rfl (by simp [defaultEntries])
    parameters := ⟨items, hitems,
      Json.Abridges.forall₂_parts (fun _ _ => Parameter.isGivenBy_of_abridges) hparts⟩
    visibility := Visibility.isGivenBy_of_abridges h hkeys rfl
    hasBody := h.isSet_flag hkeys rfl (by simp [defaultEntries])
    returnType := h.optional?_text hkeys rfl (by simp [defaultEntries])
    modifiers := h.lists_texts hkeys rfl (by simp [defaultEntries])
    effects := h.lists_texts hkeys rfl (by simp [defaultEntries])
    genericClause := h.optional?_text hkeys rfl (by simp [defaultEntries])
    isFailable := h.isSet_flag hkeys rfl (by simp [defaultEntries]) }

theorem Member.isGivenBy_of_abridges {m : Member String} (h : m.toJson.Abridges data) :
    (m.map Json.text).IsGivenBy data := by
  cases m with
  | property p =>
    have htag : data.field? "member" = some (.text "field") :=
      h.field?_text Property.nodup_keys rfl (by simp [defaultEntries])
    exact ⟨htag, Property.isGivenBy_of_abridges h⟩
  | method m =>
    have htag : data.field? "member" = some (.text "function") :=
      h.field?_text Method.nodup_keys rfl (by simp [defaultEntries])
    exact ⟨htag, Method.isGivenBy_of_abridges h⟩

theorem Declaration.isGivenBy_of_abridges {d : Declaration String} (h : d.toJson.Abridges data) :
    (d.map Json.text).IsGivenBy data := by
  have hkeys : ["kind", "name", "inherits", "members"].Nodup := by decide
  obtain ⟨items, hitems, hparts⟩ : ∃ items, data.Lists "members" items ∧
      List.Forall₂ Json.Abridges (d.members.map Member.toJson) items :=
    h.lists_items hkeys rfl (by simp [defaultEntries])
  exact {
    kind := h.field?_text hkeys rfl (by simp [defaultEntries])
    name := h.field?_text hkeys rfl (by simp [defaultEntries])
    inherits := h.lists_texts hkeys rfl (by simp [defaultEntries])
    members := ⟨items, hitems,
      Json.Abridges.forall₂_parts (fun _ _ => Member.isGivenBy_of_abridges) hparts⟩ }

end

namespace Declaration

/-- A declaration is read from its canonical document, and from every document that comes of it by
leaving out optional keys that hold their defaults, at any depth. -/
theorem read_abridged (d : Declaration String) :
    read d.toJson = .ok (d.map .text) ∧
      ∀ j, d.toJson.Abridges j → read j = .ok (d.map .text) := by
  have hread : ∀ j, d.toJson.Abridges j → read j = .ok (d.map .text) :=
    fun j hj => read_eq_ok.mpr (isGivenBy_of_abridges hj)
  exact ⟨hread _ (.same _), hread⟩

/-- A class whose parts have defaults in many places. -/
def plainClass : Declaration String :=
  ⟨.referenceType, "A", [],
    [.property ⟨"a", none, .internalLevel, true, false⟩,
      .method ⟨"f", [⟨"x", "Int", none, some "0", false⟩], .internalLevel, true, none, ["final"],
        [], none, false⟩]⟩

def shortProperty : Json :=
  .object [("member", .text "field"), ("name", .text "a"), ("static", .bool true)]

def shortParameter : Json :=
  .object [("name", .text "x"), ("type", .text "Int"), ("default", .text "0")]

def shortMethod : Json :=
  .object [("member", .text "function"), ("name", .text "f"),
    ("parameters", .list [shortParameter]), ("has_body", .bool true),
    ("modifiers", .list [.text "final"])]

/-- The document of the class without most of its defaults. -/
def shortDocument : Json :=
  .object [("kind", .text "class"), ("name", .text "A"),
    ("members", .list [shortProperty, shortMethod])]

theorem read_abridged_shortDocument :
    plainClass.toJson.Abridges shortDocument ∧
      read shortDocument = .ok (plainClass.map .text) := by
  have hproperty : (Property.toJson ⟨"a", none, .internalLevel, true, false⟩).Abridges
      shortProperty := by
    refine .object (.keep (.same _) (.keep (.same _) (.drop ?_ (.drop ?_ (.keep (.same _)
      (.drop ?_ .nil))))))
    all_goals simp [Json.defaultEntries, Json.ofOptionalText, Visibility.keyword]
  have hparameter : (Parameter.toJson ⟨"x", "Int", none, some "0", false⟩).Abridges
      shortParameter := by
    refine .object (.keep (.same _) (.keep (.same _) (.drop ?_ (.keep (.same _) (.drop ?_ .nil)))))
    all_goals simp [Json.defaultEntries, Json.ofOptionalText]
  have hmethod : (Method.toJson ⟨"f", [⟨"x", "Int", none, some "0", false⟩], .internalLevel, true,
      none, ["final"], [], none, false⟩).Abridges shortMethod := by
    refine .object (.keep (.same _) (.keep (.same _) (.keep (.list (.cons hparameter .nil))
      (.drop ?_ (.keep (.same _) (.drop ?_ (.keep (.same _) (.drop ?_ (.drop ?_
        (.drop ?_ .nil))))))))))
    all_goals simp [Json.defaultEntries, Json.ofOptionalText, Json.ofTexts, Visibility.keyword]
  have hclass : plainClass.toJson.Abridges shortDocument := by
    refine .object (.keep (.same _) (.keep (.same _) (.drop ?_
      (.keep (.list (.cons hproperty (.cons hmethod .nil))) .nil))))
    simp [Json.defaultEntries, Json.ofTexts, plainClass]
  exact ⟨hclass, (read_abridged plainClass).2 _ hclass⟩

end Declaration

end SwiftExpansion
