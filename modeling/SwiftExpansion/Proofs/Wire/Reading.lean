import SwiftExpansion.Proofs.Json.Short
import SwiftExpansion.Proofs.Request
import SwiftExpansion.Proofs.Wire.Schema

/-!
# Reading what keeps to the format

A document that keeps to the schema of requests and is accepted by the reader gives a request that
holds nothing but texts, also where the reader fills in what the host left out. The readers are
followed key by key. Whatever a document holds, its usage is at a place that can be written, if the
numbers in the document can.
-/
namespace SwiftExpansion

open Schema

variable {data : Json}

namespace Expression

/-- What follows from the text of an expression is a text again. -/
theorem complete_all {kind : ExpressionKind} {text : Json} {value base : Option Json}
    {e : Expression Json} (htext : IsText text) (hvalue : ∀ j ∈ value, IsText j)
    (hbase : ∀ j ∈ base, IsText j) (h : complete kind text value base = .ok e) : e.All IsText := by
  -- one case per kind of expression that has something to fill in
  unfold complete at h
  split at h
  · simp only [Except.bind_eq_ok, Except.pure_eq_ok] at h
    obtain ⟨s, -, content, -, rfl⟩ := h
    refine ⟨htext, ?_, hbase⟩
    intro j hj
    obtain ⟨t, -, rfl⟩ := Option.map_eq_some_iff.mp hj
    rfl
  · simp only [Except.bind_eq_ok] at h
    obtain ⟨found, -, h⟩ := h
    cases found with
    | false =>
      cases h
      exact ⟨htext, hvalue, hbase⟩
    | true =>
      simp only [if_true, Except.bind_eq_ok, Except.pure_eq_ok] at h
      obtain ⟨s, -, rfl⟩ := h
      refine ⟨htext, ?_, ?_⟩
      · intro j hj
        cases value with
        | none =>
          cases hj
          rfl
        | some v => exact hvalue j hj
      · intro j hj
        cases hj
        rfl
  · simp only [Except.bind_eq_ok, Except.pure_eq_ok] at h
    obtain ⟨s, -, rfl⟩ := h
    refine ⟨htext, ?_, hbase⟩
    intro j hj
    cases hj
    rfl
  · cases h
    exact ⟨htext, hvalue, hbase⟩

theorem read_all {e : Expression Json} (hdata : (record expressionFields).admits data = true)
    (h : read data = .ok e) : e.All IsText := by
  simp only [read, Except.bind_eq_ok] at h
  obtain ⟨found, hfound, h⟩ := h
  cases found with
  | false => cases h
  | true =>
    simp only [if_true, Except.bind_eq_ok] at h
    obtain ⟨tag, -, h⟩ := h
    split at h
    · cases h
    · simp only [Except.bind_eq_ok] at h
      obtain ⟨text, htext, value, hvalue, base, hbase, h⟩ := h
      refine complete_all ?_ ?_ ?_ h
      · exact getD_admits_of_contains hdata (by simp [expressionFields]) hfound htext
      · exact getNonNull?_admits hdata (by simp [expressionFields]) hvalue
      · exact getNonNull?_admits hdata (by simp [expressionFields]) hbase

end Expression

theorem Argument.read_all {a : Argument Json} (hdata : (record argumentFields).admits data = true)
    (h : read data = .ok a) : a.All IsText := by
  simp only [read, Except.bind_eq_ok, Except.pure_eq_ok] at h
  obtain ⟨value, hvalue, e, he, label, hlabel, rfl⟩ := h
  have hvalueData : (record expressionFields).admits value = true :=
    require_admits hdata (by simp [argumentFields]) hvalue
  exact ⟨Expression.read_all hvalueData he,
    getNonNull?_admits hdata (by simp [argumentFields]) hlabel⟩

theorem Parameter.read_all {p : Parameter Json}
    (hdata : (record parameterFields).admits data = true) (h : read data = .ok p) :
    p.All IsText := by
  simp only [read, Except.bind_eq_ok, Except.pure_eq_ok] at h
  obtain ⟨name, hname, type, htype, label, hlabel, default, hdefault, isInout, -, rfl⟩ := h
  exact {
    name := require_admits hdata (by simp [parameterFields]) hname
    type := require_admits hdata (by simp [parameterFields]) htype
    label := getNonNull?_admits hdata (by simp [parameterFields]) hlabel
    defaultValue := getNonNull?_admits hdata (by simp [parameterFields]) hdefault }

theorem Property.read_all {p : Property Json} (hdata : (record propertyFields).admits data = true)
    (h : read data = .ok p) : p.All IsText := by
  simp only [read, Except.bind_eq_ok, Except.pure_eq_ok] at h
  obtain ⟨name, hname, type, htype, visibility, -, isStatic, -, isComputed, -, rfl⟩ := h
  exact ⟨require_admits hdata (by simp [propertyFields]) hname,
    getNonNull?_admits hdata (by simp [propertyFields]) htype⟩

theorem Method.read_all {m : Method Json} (hdata : (record methodFields).admits data = true)
    (h : read data = .ok m) : m.All IsText := by
  simp only [read, Except.bind_eq_ok, Except.pure_eq_ok] at h
  obtain ⟨name, hname, items, hitems, parameters, hparameters, visibility, -, hasBody, -,
    returnType, hreturnType, modifiers, hmodifiers, effects, heffects, genericClause,
    hgenericClause, isFailable, -, rfl⟩ := h
  have hitemsData : ∀ j ∈ items, (record parameterFields).admits j = true :=
    sequence_admits hdata (by simp [methodFields]) hitems
  exact {
    name := require_admits hdata (by simp [methodFields]) hname
    parameters := Except.forall_of_mapM hparameters fun j hj p hp =>
      Parameter.read_all (hitemsData j hj) hp
    returnType := getNonNull?_admits hdata (by simp [methodFields]) hreturnType
    modifiers := sequence_admits hdata (by simp [methodFields]) hmodifiers
    effects := sequence_admits hdata (by simp [methodFields]) heffects
    genericClause := getNonNull?_admits hdata (by simp [methodFields]) hgenericClause }

/-- The tag of a member decides which schema its entries keep to. -/
theorem Member.read_all {m : Member Json} (hdata : Schema.member.admits data = true)
    (h : read data = .ok m) : m.All IsText := by
  simp only [read, Except.bind_eq_ok] at h
  obtain ⟨tag, htag, h⟩ := h
  split at h
  · rename_i hproperty
    simp only [Except.bind_eq_ok, Except.pure_eq_ok] at h
    obtain ⟨p, hp, rfl⟩ := h
    exact Property.read_all (variant_admits hdata htag hproperty rfl) hp
  · split at h
    · rename_i hmethod
      simp only [Except.bind_eq_ok, Except.pure_eq_ok] at h
      obtain ⟨n, hn, rfl⟩ := h
      exact Method.read_all (variant_admits hdata htag hmethod rfl) hn
    · cases h

theorem Declaration.read_all {d : Declaration Json}
    (hdata : (record declarationFields).admits data = true) (h : read data = .ok d) :
    d.All IsText := by
  simp only [read, Except.bind_eq_ok, Except.pure_eq_ok] at h
  obtain ⟨kind, -, name, hname, inherits, hinherits, items, hitems, members, hmembers, rfl⟩ := h
  have hitemsData : ∀ j ∈ items, Schema.member.admits j = true :=
    sequence_admits hdata (by simp [declarationFields]) hitems
  exact {
    name := require_admits hdata (by simp [declarationFields]) hname
    inherits := sequence_admits hdata (by simp [declarationFields]) hinherits
    members := Except.forall_of_mapM hmembers fun j hj m hm => Member.read_all (hitemsData j hj) hm }

theorem Json.isShort_of_getD {default j : Json} {key : String} (hdata : data.isShort = true)
    (hdefault : default.isShort = true) (h : data.getD key default = .ok j) : j.isShort = true := by
  cases data with
  | object entries =>
    cases h
    cases hlookup : entries.lookup key with
    | none => simpa [hlookup] using hdefault
    | some value => simpa [hlookup] using isShort_of_lookup (isShort_object.mp hdata) hlookup
  | _ => cases h

theorem Json.isShort_of_getNonNull? {j : Json} {key : String} (hdata : data.isShort = true)
    (h : data.getNonNull? key = .ok (some j)) : j.isShort = true := by
  cases data with
  | object entries =>
    obtain ⟨value, hlookup, hvalue⟩ := Option.bind_eq_some_iff.mp (Except.ok.inj h)
    have hshort := isShort_of_lookup (isShort_object.mp hdata) hlookup
    cases value with
    | null => cases hvalue
    | _ =>
      cases hvalue
      exact hshort
  | _ => cases h

theorem Position.ofJson_isShort {line column : Json} {p : Position} (hline : line.isShort = true)
    (hcolumn : column.isShort = true) (h : ofJson line column = .ok p) : p.isShort = true := by
  have hcoordinate {j : Json} {c : Coordinate} (hj : j.isShort = true)
      (hc : Coordinate.ofJson j = .ok c) : c.isShort = true := by
    cases j <;> cases hc
    · rfl
    · exact hj
    · rfl
  rw [ofJson, Except.bind_eq_ok] at h
  obtain ⟨l, hl, h⟩ := h
  split at h
  · cases h
  · obtain ⟨c, hc, h⟩ := Except.bind_eq_ok.mp h
    split at h
    · cases h
    · cases h
      exact Bool.and_eq_true_iff.mpr ⟨hcoordinate hline hl, hcoordinate hcolumn hc⟩

namespace Request

theorem readLocation_isShort {location : Json} {span : Span} (hlocation : location.isShort = true)
    (h : readLocation location = .ok span) : span.isShort = true := by
  simp only [readLocation, Except.bind_eq_ok, Except.pure_eq_ok] at h
  obtain ⟨file, hfile, line, hline, column, hcolumn, p, hp, rfl⟩ := h
  have hzero : (Json.int 0).isShort = true := by decide +kernel
  have hposition := Position.ofJson_isShort (Json.isShort_of_getD hlocation hzero hline)
    (Json.isShort_of_getD hlocation hzero hcolumn) hp
  have hnamed : file.all Json.isShort = true := by
    cases file with
    | none => rfl
    | some name => exact Json.isShort_of_getNonNull? hlocation hfile
  simp [Span.isShort, Span.atPosition, hnamed, hposition]

/-- What is read once the declaration is known. -/
theorem rest_eq_ok {declaration : Option (Declaration Json)} {r : Request Json}
    (h : (do
      let location ← data.getD "location" .null
      let span ← if location.isTruthy then readLocation location else pure .unreported
      let name ← data.getD "macro" .null
      let arguments ← (← data.sequence "arguments").mapM Argument.read
      return (⟨name, arguments, declaration, span⟩ : Request Json)) = .ok r) :
    r.declaration = declaration ∧ data.getD "macro" .null = .ok r.name ∧
      (∃ items, data.sequence "arguments" = .ok items ∧
        items.mapM Argument.read = .ok r.arguments) ∧
      ∃ location, data.getD "location" .null = .ok location ∧
        (r.span = .unreported ∨ readLocation location = .ok r.span) := by
  rw [Except.bind_eq_ok] at h
  obtain ⟨location, hlocation, h⟩ := h
  split at h
  all_goals
    simp only [Except.bind_eq_ok, Except.pure_eq_ok] at h
    obtain ⟨span, hspan, name, hname, items, hitems, arguments, harguments, rfl⟩ := h
    exact ⟨rfl, hname, ⟨items, hitems, harguments⟩, location, hlocation, by simp [hspan]⟩

/-- Where the parts of a request come from. -/
theorem read_eq_ok {r : Request Json} (h : read data = .ok r) :
    data.contains "macro" = .ok true ∧ data.getD "macro" .null = .ok r.name ∧
      (∃ items, data.sequence "arguments" = .ok items ∧
        items.mapM Argument.read = .ok r.arguments) ∧
      (∃ location, data.getD "location" .null = .ok location ∧
        (r.span = .unreported ∨ readLocation location = .ok r.span)) ∧
      ∀ d ∈ r.declaration, ∃ j, data.getNonNull? "declaration" = .ok (some j) ∧
        Declaration.read j = .ok d := by
  rw [read, Except.bind_eq_ok] at h
  obtain ⟨found, hfound, h⟩ := h
  cases found with
  | false => cases h
  | true =>
    rw [if_pos rfl, Except.bind_eq_ok] at h
    obtain ⟨attached, hattached, h⟩ := h
    cases attached with
    | none =>
      obtain ⟨hdeclaration, hname, harguments, hlocation⟩ := rest_eq_ok h
      exact ⟨hfound, hname, harguments, hlocation, by simp [hdeclaration]⟩
    | some j =>
      obtain ⟨declaration, hread, h⟩ := Except.bind_eq_ok.mp h
      obtain ⟨d, hd, rfl⟩ := Except.map_eq_ok.mp hread
      obtain ⟨hdeclaration, hname, harguments, hlocation⟩ := rest_eq_ok h
      refine ⟨hfound, hname, harguments, hlocation, fun d' hd' => ⟨j, hattached, ?_⟩⟩
      rw [hdeclaration] at hd'
      cases hd'
      exact hd

/-- A request that keeps to the format holds nothing but texts. -/
theorem read_all {r : Request Json} (hdata : Schema.request.admits data = true)
    (h : read data = .ok r) : r.All IsText := by
  obtain ⟨hfound, hname, ⟨items, hitems, harguments⟩, -, hdeclaration⟩ := read_eq_ok h
  have hitemsData : ∀ j ∈ items, (record argumentFields).admits j = true :=
    sequence_admits hdata (by simp [requestFields]) hitems
  refine ⟨?_, ?_, ?_⟩
  · exact getD_admits_of_contains hdata (by simp [requestFields]) hfound hname
  · exact Except.forall_of_mapM harguments fun j hj a ha => Argument.read_all (hitemsData j hj) ha
  · intro d hd
    obtain ⟨j, hj, hread⟩ := hdeclaration d hd
    have hjData : (record declarationFields).admits j = true :=
      getNonNull?_admits hdata (by simp [requestFields]) hj j rfl
    exact Declaration.read_all hjData hread

theorem read_isShort {r : Request Json} (hdata : data.isShort = true) (h : read data = .ok r) :
    r.span.isShort = true := by
  obtain ⟨-, -, -, ⟨location, hlocation, hspan⟩, -⟩ := read_eq_ok h
  rcases hspan with hspan | hspan
  · rw [hspan]
    decide +kernel
  · exact readLocation_isShort (Json.isShort_of_getD hdata rfl hlocation) hspan

end Request

end SwiftExpansion
