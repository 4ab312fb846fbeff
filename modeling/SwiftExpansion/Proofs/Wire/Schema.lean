import SwiftExpansion.Proofs.Fault
import SwiftExpansion.Request

/-!
# The format of the wire

Hosts send objects with known keys. A schema says what may stand under each of them; a key may be
missing, null may stand for what is optional and other keys may be there, since that is for the
readers to judge. The schemas below are those of requests and of their parts.
-/
namespace SwiftExpansion

/-- An object holds the keys that something stands under. -/
theorem Json.contains_object (entries : List (String × Json)) (key : String) :
    (Json.object entries).contains key = .ok (entries.lookup key).isSome := by
  have hany : (entries.any fun e => (Json.text key).isText e.1) = (entries.lookup key).isSome := by
    induction entries with
    | nil => rfl
    | cons entry entries ih =>
      rw [List.any_cons, ih, List.lookup_cons]
      cases hkey : key == entry.1 <;> simp [Json.isText, hkey]
  rw [← hany]
  rfl

theorem Json.getD_object (entries : List (String × Json)) (key : String) (default : Json) :
    (Json.object entries).getD key default = .ok ((entries.lookup key).getD default) :=
  rfl

/-- Kinds of values. A tagged object is told by the text under its tag which variant it is; under an
unknown tag anything may stand. -/
inductive Schema
  | text
  | flag
  | whole
  | nullable (schema : Schema)
  | listOf (item : Schema)
  | record (fields : List (String × Schema))
  | tagged (key : String) (variants : List (String × Schema))

namespace Schema

mutual

/-- Whether a value keeps to the schema. -/
def admits : Schema → Json → Bool
  | .text, .text _ => true
  | .flag, .bool _ => true
  | .whole, .int _ => true
  | .nullable _, .null => true
  | .nullable schema, j => schema.admits j
  | .listOf item, .list items => items.all item.admits
  | .record fields, .object entries => admitsFields fields entries
  | .tagged key variants, .object entries =>
    match entries.lookup key with
    | some (.text tag) => admitsVariant variants tag (.object entries)
    | some _ => false
    | none => true
  | _, _ => false

def admitsFields : List (String × Schema) → List (String × Json) → Bool
  | [], _ => true
  | (key, schema) :: fields, entries =>
    (entries.lookup key).all schema.admits && admitsFields fields entries

def admitsVariant : List (String × Schema) → String → Json → Bool
  | [], _, _ => true
  | (name, schema) :: variants, tag, j =>
    if name == tag then schema.admits j else admitsVariant variants tag j

end

def parameterFields : List (String × Schema) :=
  [("name", .text), ("label", .nullable .text), ("type", .text), ("default", .nullable .text),
    ("inout", .nullable .flag)]

def propertyFields : List (String × Schema) :=
  [("name", .text), ("type", .nullable .text), ("visibility", .nullable .text),
    ("static", .nullable .flag), ("computed", .nullable .flag)]

def methodFields : List (String × Schema) :=
  [("name", .text), ("parameters", .nullable (.listOf (.record parameterFields))),
    ("visibility", .nullable .text), ("has_body", .nullable .flag),
    ("return_type", .nullable .text), ("modifiers", .nullable (.listOf .text)),
    ("effects", .nullable (.listOf .text)), ("generic_clause", .nullable .text),
    ("failable", .nullable .flag)]

def member : Schema :=
  .tagged "member" [("field", .record propertyFields), ("function", .record methodFields)]

def declarationFields : List (String × Schema) :=
  [("kind", .text), ("name", .text), ("inherits", .nullable (.listOf .text)),
    ("members", .nullable (.listOf member))]

def expressionFields : List (String × Schema) :=
  [("kind", .text), ("text", .text), ("value", .nullable .text), ("base", .nullable .text)]

def argumentFields : List (String × Schema) :=
  [("label", .nullable .text), ("value", .record expressionFields)]

def locationFields : List (String × Schema) :=
  [("file", .nullable .text), ("line", .whole), ("column", .whole)]

def requestFields : List (String × Schema) :=
  [("macro", .text), ("arguments", .nullable (.listOf (.record argumentFields))),
    ("declaration", .nullable (.record declarationFields)),
    ("location", .nullable (.record locationFields))]

/-- What a host sends to have a usage expanded. -/
def request : Schema :=
  .record requestFields

/-- A value that keeps to the schema of texts. -/
abbrev IsText (j : Json) : Prop :=
  Schema.text.admits j = true

theorem isText_iff {j : Json} : IsText j ↔ ∃ s, j = .text s := by
  cases j <;> simp [IsText, admits]

theorem admits_nullable {schema : Schema} {j : Json} (h : (nullable schema).admits j = true)
    (hj : j ≠ .null) : schema.admits j = true := by
  cases j <;> simp_all [admits]

theorem admits_listOf {item : Schema} {j : Json} (h : (listOf item).admits j = true) :
    ∃ items, j = .list items ∧ ∀ i ∈ items, item.admits i = true := by
  cases j <;> simp_all [admits]

theorem admitsFields_lookup {fields : List (String × Schema)} {entries : List (String × Json)}
    (h : admitsFields fields entries = true) {key : String} {schema : Schema}
    (hkey : (key, schema) ∈ fields) {j : Json} (hj : entries.lookup key = some j) :
    schema.admits j = true := by
  induction fields with
  | nil => cases hkey
  | cons field fields ih =>
    simp only [admitsFields, Bool.and_eq_true] at h
    rcases List.mem_cons.mp hkey with rfl | hkey
    · simpa [hj] using h.1
    · exact ih h.2 hkey

theorem admits_record {fields : List (String × Schema)} {j : Json}
    (h : (record fields).admits j = true) :
    ∃ entries, j = .object entries ∧ admitsFields fields entries = true := by
  cases j <;> simp_all [admits]

theorem admitsVariant_mem {variants : List (String × Schema)} {tag : String} {j : Json}
    (h : admitsVariant variants tag j = true) {schema : Schema}
    (hfind : variants.lookup tag = some schema) : schema.admits j = true := by
  induction variants with
  | nil => cases hfind
  | cons variant variants ih =>
    obtain ⟨name, first⟩ := variant
    simp only [admitsVariant] at h
    by_cases hname : tag = name
    · simp_all
    · rw [List.lookup_cons, beq_false_of_ne hname] at hfind
      rw [beq_false_of_ne (Ne.symm hname)] at h
      exact ih h hfind

/-! What the accessors find in an object that keeps to its schema. -/

section

variable {fields : List (String × Schema)} {data : Json} {key : String} {schema : Schema}

theorem get?_admits (h : (record fields).admits data = true) (hkey : (key, schema) ∈ fields)
    {value : Option Json} (hget : data.get? key = .ok value) :
    ∀ j ∈ value, schema.admits j = true := by
  obtain ⟨entries, rfl, hfields⟩ := admits_record h
  have hlookup : entries.lookup key = value := by simpa [Json.get?, Json.entriesFor] using hget
  intro j hj
  exact admitsFields_lookup hfields hkey (hlookup.trans hj)

theorem getD_admits (h : (record fields).admits data = true) (hkey : (key, schema) ∈ fields)
    {default j : Json} (hdefault : schema.admits default = true)
    (hget : data.getD key default = .ok j) : schema.admits j = true := by
  simp only [Json.getD, Except.bind_eq_ok, Except.pure_eq_ok] at hget
  obtain ⟨value, hvalue, rfl⟩ := hget
  cases value with
  | none => exact hdefault
  | some j => exact get?_admits h hkey hvalue j rfl

theorem getNonNull?_admits (h : (record fields).admits data = true)
    (hkey : (key, nullable schema) ∈ fields) {value : Option Json}
    (hget : data.getNonNull? key = .ok value) : ∀ j ∈ value, schema.admits j = true := by
  simp only [Json.getNonNull?, Except.bind_eq_ok, Except.pure_eq_ok] at hget
  obtain ⟨found, hfound, rfl⟩ := hget
  intro j hj
  obtain ⟨i, hi, hnonNull⟩ := Option.bind_eq_some_iff.mp hj
  have hadmits := get?_admits h hkey hfound i hi
  cases i <;> cases hnonNull <;> exact admits_nullable hadmits (by simp)

/-- A key that an object is known to hold needs no default. -/
theorem getD_admits_of_contains (h : (record fields).admits data = true)
    (hkey : (key, schema) ∈ fields) {default j : Json} (hfound : data.contains key = .ok true)
    (hget : data.getD key default = .ok j) : schema.admits j = true := by
  obtain ⟨entries, rfl, hfields⟩ := admits_record h
  rw [Json.contains_object, Except.ok.injEq] at hfound
  obtain ⟨i, hi⟩ := Option.isSome_iff_exists.mp hfound
  have hij : i = j := by simpa [Json.getD_object, hi] using hget
  exact admitsFields_lookup hfields hkey (hij ▸ hi)

theorem require_admits (h : (record fields).admits data = true) (hkey : (key, schema) ∈ fields)
    {part : String} {j : Json} (hget : data.require key part = .ok j) : schema.admits j = true := by
  simp only [Json.require, Except.bind_eq_ok] at hget
  obtain ⟨found, hfound, hget⟩ := hget
  cases found with
  | false => cases hget
  | true =>
    have hgetD : data.getD key .null = .ok j := by
      obtain ⟨entries, rfl, -⟩ := admits_record h
      exact hget
    exact getD_admits_of_contains h hkey hfound hgetD

/-- The variant of a tagged object, known by the text under its tag. -/
theorem variant_admits {variants : List (String × Schema)}
    (h : (tagged key variants).admits data = true) {tag : Json} {name : String}
    (htag : data.getD key .null = .ok tag) (hname : tag.isText name = true)
    (hvariant : variants.lookup name = some schema) : schema.admits data = true := by
  obtain rfl : tag = .text name := by
    cases tag <;> simp_all [Json.isText]
  cases data with
  | object entries =>
    have hlookup : entries.lookup key = some (.text name) := by
      rw [Json.getD_object, Except.ok.injEq] at htag
      cases hentry : entries.lookup key with
      | none => simp [hentry] at htag
      | some j => simpa [hentry] using htag
    simp only [admits, hlookup] at h
    exact admitsVariant_mem h hvariant
  | _ => simp [admits] at h

theorem sequence_admits (h : (record fields).admits data = true)
    (hkey : (key, nullable (listOf schema)) ∈ fields) {items : List Json}
    (hget : data.sequence key = .ok items) : ∀ j ∈ items, schema.admits j = true := by
  simp only [Json.sequence, Except.bind_eq_ok] at hget
  obtain ⟨j, hj, hitems⟩ := hget
  have hadmits := getD_admits h hkey (by simp [admits]) hj
  have hnonNull : j ≠ .null := by
    rintro rfl
    cases hitems
  obtain ⟨found, rfl, hfound⟩ := admits_listOf (admits_nullable hadmits hnonNull)
  cases hitems
  exact hfound

end

end Schema

end SwiftExpansion
