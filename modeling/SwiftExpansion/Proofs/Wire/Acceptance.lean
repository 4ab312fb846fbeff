import SwiftExpansion.Proofs.Wire.Entries

/-!
# Which documents are declarations

A host that keeps to the format may still leave out a key, or use a word that nobody knows where a
kind, a visibility or a tag stands. Those are the documents that are refused, at whatever depth it
happens; they are refused by naming the missing key or the unknown word, and nothing else goes
wrong. Every other document gives a declaration whose members are those of the document, one for one
and in order. Extra keys play no part.
-/
namespace SwiftExpansion

open SwiftExpansion.Except

/-- The list under a key. Under an absent key, and under any other value, nothing is listed. -/
def Json.items (data : Json) (key : String) : List Json :=
  match data.field? key with
  | some (.list items) => items
  | _ => []

namespace Schema

mutual

/-- The same schema, except that null cannot stand for a list. -/
def listed : Schema → Schema
  | .nullable (.listOf item) => .listOf item.listed
  | .nullable schema => .nullable schema.listed
  | .listOf item => .listOf item.listed
  | .record fields => .record (listedFields fields)
  | .tagged key variants => .tagged key (listedFields variants)
  | schema => schema

def listedFields : List (String × Schema) → List (String × Schema)
  | [] => []
  | (key, schema) :: fields => (key, schema.listed) :: listedFields fields

end

def declaration : Schema :=
  (record declarationFields).listed

theorem admits_tagged {key : String} {variants : List (String × Schema)} {j : Json}
    (h : (tagged key variants).admits j = true) : ∃ entries, j = .object entries := by
  cases j with
  | object entries => exact ⟨entries, rfl⟩
  | _ => simp [admits] at h

/-- Where the schema has a list there is one, be it the empty one of an absent key. -/
theorem lists_items {fields : List (String × Schema)} {data : Json}
    (h : (record fields).admits data = true) (key : String) (item : Schema)
    (hkey : (key, listOf item) ∈ fields) :
    data.Lists key (data.items key) ∧ ∀ j ∈ data.items key, item.admits j = true := by
  obtain ⟨entries, rfl, hfields⟩ := admits_record h
  unfold Json.Lists Json.items
  cases hentry : (Json.object entries).field? key with
  | none => exact ⟨rfl, by simp⟩
  | some j =>
    obtain ⟨items, rfl, hitems⟩ := admits_listOf (admitsFields_lookup hfields hkey hentry)
    exact ⟨rfl, hitems⟩

end Schema

/-- Whether a fault is one of a document: a key that is missing, or a word that is unknown. -/
def Fault.isMalformed : Fault → Bool
  | .missing _ _ _ | .unknown _ _ => true
  | _ => false

/-! What a document is refused for. -/

def Visibility.IsUnknown (data : Json) : Prop :=
  ∃ j, data.field? "visibility" = some j ∧ ∀ v : Visibility, j ≠ .text v.keyword

def Parameter.IsRefused (data : Json) : Prop :=
  data.field? "name" = none ∨ data.field? "type" = none

/-- A member without a tag is of no known sort either. -/
def Member.IsRefused (data : Json) : Prop :=
  (data.field? "member" ≠ some (.text "field") ∧ data.field? "member" ≠ some (.text "function")) ∨
    data.field? "name" = none ∨ Visibility.IsUnknown data ∨
    (data.field? "member" = some (.text "function") ∧
      ∃ j ∈ data.items "parameters", Parameter.IsRefused j)

def Declaration.IsRefused (data : Json) : Prop :=
  (∀ k : DeclarationKind, data.field? "kind" ≠ some (.text k.keyword)) ∨
    data.field? "name" = none ∨ ∃ j ∈ data.items "members", Member.IsRefused j

/-- Whether a reader refuses exactly under a condition, by a fault of the document. -/
abbrev RefusesIff {α : Type} (c : Prop) (x : Except Fault α) : Prop :=
  FailsIff (fun f => f.isMalformed = true) c x

variable {entries : List (String × Json)}

theorem Json.require_refusesIff (key part : String) :
    RefusesIff ((Json.object entries).field? key = none)
      ((Json.object entries).require key part) := by
  cases hentry : (Json.object entries).field? key with
  | some j =>
    rw [require_eq_ok.mpr hentry]
    exact (failsIff_ok j).congr (by simp)
  | none =>
    have hmissing : (Json.object entries).require key part =
        .error (.missing part key (.object entries)) := by
      rw [require, contains_object, show entries.lookup key = none from hentry]
      rfl
    rw [hmissing]
    exact ⟨fun _ => ⟨_, rfl, rfl⟩, fun h => absurd rfl h⟩

theorem Json.sequence_refusesIff {key : String} {items : List Json}
    (h : (Json.object entries).Lists key items) :
    RefusesIff False ((Json.object entries).sequence key) := by
  have hsequence : (Json.object entries).sequence key = .ok items := h
  rw [hsequence]
  exact failsIff_ok items

theorem Json.mapM_refusesIff {α : Type} {reader : Json → Except Fault α} {bad : Json → Prop}
    {key : String} {items found : List Json} (h : (Json.object entries).Lists key items)
    (hreader : ∀ j ∈ items, RefusesIff (bad j) (reader j))
    (hfound : (Json.object entries).sequence key = .ok found) :
    RefusesIff (∃ j ∈ items, bad j) (found.mapM reader) := by
  rw [← Except.ok.inj (h.symm.trans hfound)]
  exact .mapM hreader

theorem Visibility.read_refusesIff :
    RefusesIff (IsUnknown (.object entries)) (read (.object entries)) := by
  have hok (v : Visibility) (hv : v.IsGivenBy (.object entries))
      (hknown : ¬ IsUnknown (.object entries)) :
      RefusesIff (IsUnknown (.object entries)) (read (.object entries)) := by
    rw [read_eq_ok.mpr hv]
    exact (failsIff_ok v).congr (by simp [hknown])
  cases hentry : (Json.object entries).field? "visibility" with
  | none => exact hok .internalLevel (by simp [IsGivenBy, hentry]) (by simp [IsUnknown, hentry])
  | some j =>
    cases hfind : ofJson? j with
    | some v =>
      obtain rfl := ofJson?_eq_some.mp hfind
      exact hok v (by simp [IsGivenBy, hentry]) (by simp [IsUnknown, hentry])
    | none =>
      have hunknown : IsUnknown (.object entries) := by
        refine ⟨j, hentry, fun v hv => ?_⟩
        rw [ofJson?_eq_some.mpr hv] at hfind
        cases hfind
      have hread : read (.object entries) = .error (.unknown "visibility" j) := by
        rw [read, Json.getD_object, show entries.lookup "visibility" = some j from hentry]
        simp [bind, Except.bind, hfind]
      rw [hread]
      exact ⟨fun _ => ⟨_, rfl, rfl⟩, fun h => absurd hunknown h⟩

theorem Parameter.read_refusesIff :
    RefusesIff (IsRefused (.object entries)) (read (.object entries)) := by
  refine FailsIff.congr ((Json.require_refusesIff _ _).bind fun name _ =>
    (Json.require_refusesIff _ _).bind fun type _ => failsIff_ok _) ?_
  simp [IsRefused]

theorem Property.read_refusesIff :
    RefusesIff ((Json.object entries).field? "name" = none ∨
      Visibility.IsUnknown (.object entries)) (read (.object entries)) := by
  refine FailsIff.congr ((Json.require_refusesIff _ _).bind fun name _ =>
    (failsIff_ok _).bind fun type _ =>
    Visibility.read_refusesIff.bind fun visibility _ => failsIff_ok _) ?_
  simp

theorem Method.read_refusesIff
    (h : (Schema.record Schema.methodFields).listed.admits (.object entries) = true) :
    RefusesIff ((Json.object entries).field? "name" = none ∨
      (∃ j ∈ (Json.object entries).items "parameters", Parameter.IsRefused j) ∨
      Visibility.IsUnknown (.object entries)) (read (.object entries)) := by
  obtain ⟨hlisted, hitems⟩ := Schema.lists_items h "parameters"
    (Schema.record Schema.parameterFields).listed
    (by simp [Schema.listedFields, Schema.methodFields, Schema.listed])
  obtain ⟨hmodifiers, -⟩ := Schema.lists_items h "modifiers" .text
    (by simp [Schema.listedFields, Schema.methodFields, Schema.listed])
  obtain ⟨heffects, -⟩ := Schema.lists_items h "effects" .text
    (by simp [Schema.listedFields, Schema.methodFields, Schema.listed])
  have hparameters : ∀ j ∈ (Json.object entries).items "parameters",
      RefusesIff (Parameter.IsRefused j) (Parameter.read j) := by
    intro j hj
    obtain ⟨fields, rfl, -⟩ := Schema.admits_record (hitems j hj)
    exact Parameter.read_refusesIff
  refine FailsIff.congr ((Json.require_refusesIff _ _).bind fun name _ =>
    (Json.sequence_refusesIff hlisted).bind fun items hread =>
    (Json.mapM_refusesIff hlisted hparameters hread).bind fun parameters _ =>
    Visibility.read_refusesIff.bind fun visibility _ =>
    (failsIff_ok _).bind fun hasBody _ =>
    (failsIff_ok _).bind fun returnType _ =>
    (Json.sequence_refusesIff hmodifiers).bind fun modifiers _ =>
    (Json.sequence_refusesIff heffects).bind fun effects _ => failsIff_ok _) ?_
  simp

/-- The tag decides which reader refuses. -/
theorem Member.read_refusesIff (h : Schema.member.listed.admits (.object entries) = true) :
    RefusesIff (IsRefused (.object entries)) (read (.object entries)) := by
  by_cases hfield : (Json.object entries).field? "member" = some (.text "field")
  · have hread : read (.object entries) =
        (do return .property (← Property.read (.object entries))) := by
      rw [read, Json.getD_null_eq_text.mpr hfield]
      rfl
    rw [hread]
    refine FailsIff.congr (Property.read_refusesIff.bind fun p _ => failsIff_ok _) ?_
    simp [IsRefused, hfield]
  by_cases hfunction : (Json.object entries).field? "member" = some (.text "function")
  · have htag := Json.getD_null_eq_text.mpr hfunction
    have hentries : (Schema.record Schema.methodFields).listed.admits (.object entries) = true :=
      Schema.variant_admits h htag (Json.isText_eq_true.mpr rfl) rfl
    have hread : read (.object entries) =
        (do return .method (← Method.read (.object entries))) := by
      rw [read, htag]
      rfl
    rw [hread]
    refine FailsIff.congr ((Method.read_refusesIff hentries).bind fun m _ => failsIff_ok _) ?_
    simp [IsRefused, hfunction, or_comm]
  · have hnot (tag : String) (hentry : (Json.object entries).field? "member" ≠ some (.text tag)) :
        ((entries.lookup "member").getD .null).isText tag = false := by
      rw [Bool.eq_false_iff, Ne, Json.isText_eq_true]
      exact fun htag => hentry (Json.getD_null_eq_text.mp (congrArg Except.ok htag))
    have hread : read (.object entries) =
        .error (.unknown "member type" ((entries.lookup "member").getD .null)) := by
      rw [read, Json.getD_object]
      simp [bind, Except.bind, hnot _ hfield, hnot _ hfunction]
    rw [hread]
    exact ⟨fun _ => ⟨_, rfl, rfl⟩, fun hfine => absurd (.inl ⟨hfield, hfunction⟩) hfine⟩

theorem DeclarationKind.read_refusesIff :
    RefusesIff (∀ k : DeclarationKind, (Json.object entries).field? "kind" ≠ some (.text k.keyword))
      (read (.object entries)) := by
  cases hread : read (.object entries) with
  | ok k =>
    have hkind := read_eq_ok.mp hread
    exact (failsIff_ok k).congr ⟨False.elim, fun hnone => hnone k hkind⟩
  | error f =>
    have hnone (k : DeclarationKind) :
        (Json.object entries).field? "kind" ≠ some (.text k.keyword) := by
      intro hkind
      rw [read_eq_ok.mpr hkind] at hread
      cases hread
    have hf : f.isMalformed = true := by
      rw [read_object] at hread
      split at hread
      · cases hread
      · cases hread
        rfl
    exact ⟨fun _ => ⟨f, rfl, hf⟩, fun hsome => absurd hnone hsome⟩

theorem Declaration.read_refusesIff {data : Json} (h : Schema.declaration.admits data = true) :
    RefusesIff (IsRefused data) (read data) := by
  obtain ⟨entries, rfl, -⟩ := Schema.admits_record h
  obtain ⟨hinherits, -⟩ := Schema.lists_items h "inherits" .text
    (by simp [Schema.listedFields, Schema.declarationFields, Schema.listed])
  obtain ⟨hlisted, hitems⟩ := Schema.lists_items h "members" Schema.member.listed
    (by simp [Schema.listedFields, Schema.declarationFields, Schema.listed])
  have hmembers : ∀ j ∈ (Json.object entries).items "members",
      RefusesIff (Member.IsRefused j) (Member.read j) := by
    intro j hj
    obtain ⟨fields, rfl⟩ := Schema.admits_tagged (hitems j hj)
    exact Member.read_refusesIff (hitems _ hj)
  refine FailsIff.congr (DeclarationKind.read_refusesIff.bind fun kind _ =>
    (Json.require_refusesIff _ _).bind fun name _ =>
    (Json.sequence_refusesIff hinherits).bind fun inherits _ =>
    (Json.sequence_refusesIff hlisted).bind fun items hread =>
    (Json.mapM_refusesIff hlisted hmembers hread).bind fun members _ => failsIff_ok _) ?_
  simp [IsRefused]

namespace Member

def isTagged (tag : String) (data : Json) : Bool :=
  (data.field? "member").any (·.isText tag)

/-- Members of one sort are given by the objects with the tag of that sort, in their order. -/
theorem forall₂_select {α : Type} {tag : String} {select : Member Json → Option α}
    {R : Json → α → Prop} (hselect : ∀ j m, IsGivenBy j m →
      (isTagged tag j = true ∧ ∃ a, select m = some a ∧ R j a) ∨
      (isTagged tag j = false ∧ select m = none))
    {items : List Json} {members : List (Member Json)} (h : List.Forall₂ IsGivenBy items members) :
    List.Forall₂ R (items.filter (isTagged tag)) (members.filterMap select) := by
  induction h with
  | nil => exact .nil
  | @cons j m items members hm _ ih =>
    rcases hselect j m hm with ⟨htag, a, ha, hR⟩ | ⟨htag, hnone⟩
    · rw [List.filter_cons_of_pos htag, List.filterMap_cons_some ha]
      exact .cons hR ih
    · rw [List.filter_cons_of_neg (by simp [htag]), List.filterMap_cons_none hnone]
      exact ih

theorem forall₂_properties {items : List Json} {members : List (Member Json)}
    (h : List.Forall₂ IsGivenBy items members) :
    List.Forall₂ Property.IsGivenBy (items.filter (isTagged "field"))
      (members.filterMap property?) := by
  refine forall₂_select (fun j m hm => ?_) h
  cases m with
  | property p => exact .inl ⟨by simp [isTagged, hm.1, Json.isText], p, rfl, hm.2⟩
  | method m => exact .inr ⟨by simp [isTagged, hm.1, Json.isText], rfl⟩

theorem forall₂_methods {items : List Json} {members : List (Member Json)}
    (h : List.Forall₂ IsGivenBy items members) :
    List.Forall₂ Method.IsGivenBy (items.filter (isTagged "function"))
      (members.filterMap method?) := by
  refine forall₂_select (fun j m hm => ?_) h
  cases m with
  | property p => exact .inr ⟨by simp [isTagged, hm.1, Json.isText], rfl⟩
  | method m => exact .inl ⟨by simp [isTagged, hm.1, Json.isText], m, rfl, hm.2⟩

end Member

namespace Declaration

theorem IsGivenBy.forall₂_members {data : Json} {d : Declaration Json} (hd : d.IsGivenBy data)
    (hdata : Schema.declaration.admits data = true) :
    List.Forall₂ Member.IsGivenBy (data.items "members") d.members := by
  obtain ⟨hlisted, -⟩ := Schema.lists_items hdata "members" Schema.member.listed
    (by simp [Schema.listedFields, Schema.declarationFields, Schema.listed])
  obtain ⟨items, hitems, hmembers⟩ := hd.members
  rwa [Except.ok.inj (hlisted.symm.trans hitems)]

/-- A document that keeps to the format is refused exactly when its kind is missing or unknown, its
name is missing, or one of its members is refused: for its tag, a missing name, an unknown
visibility, or a parameter without a name or a type. It is refused by a fault of the document. Any
other document is read without a fault, and gives the declaration key by key: its members are given
by the objects under `members`, one for one and in order, and its properties and its methods by
those with the tag of a field and of a function. -/
theorem read_refused_iff {data : Json} (hdata : Schema.declaration.admits data = true) :
    ((∃ f, read data = .error f ∧ f.isMalformed = true) ↔ IsRefused data) ∧
      (¬ IsRefused data → ∃ d, read data = .ok d ∧ d.IsGivenBy data ∧
        List.Forall₂ Member.IsGivenBy (data.items "members") d.members ∧
        List.Forall₂ Property.IsGivenBy
          ((data.items "members").filter (Member.isTagged "field")) d.properties ∧
        List.Forall₂ Method.IsGivenBy
          ((data.items "members").filter (Member.isTagged "function")) d.methods) := by
  have hrefuses := read_refusesIff hdata
  refine ⟨⟨?_, hrefuses.1⟩, fun hfine => ?_⟩
  · rintro ⟨f, hf, -⟩
    exact (hrefuses.of_error hf).1
  · obtain ⟨d, hd⟩ := hrefuses.2 hfine
    have hgiven := read_eq_ok.mp hd
    have hmembers := hgiven.forall₂_members hdata
    exact ⟨d, hd, hgiven, hmembers, Member.forall₂_properties hmembers,
      Member.forall₂_methods hmembers⟩

/-- A class with an extra key, a null label, and a function between two fields. The object of the
parameter is left open. -/
def classDocument (parameter : Json) : Json :=
  .object [("kind", .text "class"), ("name", .text "A"), ("line", .int 7),
    ("members", .list [
      .object [("member", .text "field"), ("name", .text "a"), ("type", .null)],
      .object [("member", .text "function"), ("name", .text "f"), ("visibility", .text "open"),
        ("parameters", .list [parameter]), ("modifiers", .list [.text "final"])],
      .object [("member", .text "field"), ("name", .text "b"), ("static", .bool true)]])]

def typedParameter : Json :=
  .object [("name", .text "x"), ("label", .null), ("type", .text "Int")]

def untypedParameter : Json :=
  .object [("name", .text "x"), ("label", .null)]

theorem read_refused_iff_classDocument :
    (∃ d, read (classDocument typedParameter) = .ok d ∧
      d.properties.length = 2 ∧ d.methods.length = 1) ∧
    ∃ f, read (classDocument untypedParameter) = .error f ∧ f.isMalformed = true := by
  have htyped : Schema.declaration.admits (classDocument typedParameter) = true := rfl
  have huntyped : Schema.declaration.admits (classDocument untypedParameter) = true := rfl
  have hfine : ¬ IsRefused (classDocument typedParameter) := (read_refusesIff htyped).of_ok rfl
  obtain ⟨d, hd, -, -, hproperties, hmethods⟩ := (read_refused_iff htyped).2 hfine
  refine ⟨⟨d, hd, hproperties.length_eq.symm, hmethods.length_eq.symm⟩, ?_⟩
  refine (read_refused_iff huntyped).1.mpr (.inr (.inr ⟨_, .tail _ (.head _), ?_⟩))
  exact .inr (.inr (.inr ⟨rfl, untypedParameter, .head _, .inr rfl⟩))

end Declaration

end SwiftExpansion
