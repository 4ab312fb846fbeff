import SwiftExpansion.Proofs.Mapping.Production

/-!
# What is generated is found again

A host puts what was generated into the declaration and expands the usage anew. Each part that was
put in is then found, whatever the decoder, the function and the protocol are called, and wherever
the part stands. It does not hide the other parts, with one exception: a mapping function called
`init` may pass for the initializer, and the initializer for it.
-/
namespace SwiftExpansion.Mapping

/-- The only parameter of a method is the decoder, as it is written for generated members. -/
def DeclaresDecoder (s : Settings) (m : Method String) : Prop :=
  ∃ p, m.parameters = [p] ∧ p.argumentLabel = s.decoderParameter ∧ p.type = s.decoderType ∧
    p.isInout = false

theorem DeclaresDecoder.takesDecoder {s : Settings} {m : Method String}
    (h : DeclaresDecoder s m) : takesDecoder s m = true := by
  obtain ⟨p, hparameters, hlabel, htype, hinout⟩ := h
  simp [Mapping.takesDecoder, hparameters, hlabel, htype, hinout, decoderSpellings]

/-- A declaration becomes another one when a part is put into it at some position. -/
inductive Inserts (s : Settings) (d : Declaration String) : Part → Declaration String → Prop
  | initializer {before after : List (Member String)} {m : Method String}
      (hmembers : d.members = before ++ after) (hname : m.name = "init")
      (hfailable : m.isFailable = true) (hdecoder : DeclaresDecoder s m) :
      Inserts s d .initializer { d with members := before ++ .method m :: after }
  | function {before after : List (Member String)} {m : Method String}
      (hmembers : d.members = before ++ after) (hname : m.name = s.mappingFunction)
      (hdecoder : DeclaresDecoder s m) :
      Inserts s d .function { d with members := before ++ .method m :: after }
  | conformance {before after : List String} (hinherits : d.inherits = before ++ after) :
      Inserts s d .conformance { d with inherits := before ++ s.conformanceName :: after }

/-- The parts are put into a declaration one after the other. -/
inductive InsertsAll (s : Settings) : List Part → Declaration String → Declaration String → Prop
  | nil {d : Declaration String} : InsertsAll s [] d d
  | cons {part : Part} {parts : List Part} {d next last : Declaration String}
      (hfirst : Inserts s d part next) (hrest : InsertsAll s parts next last) :
      InsertsAll s (part :: parts) d last

variable {s : Settings} {d d' : Declaration String} {part other : Part} {parts : List Part}
  {isSubclass : Bool}

theorem isPresent_insertMethod {before after : List (Member String)} {m : Method String}
    (h : d.members = before ++ after) :
    other.isPresent s { d with members := before ++ .method m :: after } isSubclass =
      (other.isDeclaredBy s m || other.isPresent s d isSubclass) := by
  have hmethods (test : Method String → Bool) :
      (Declaration.methods { d with members := before ++ .method m :: after }).any test =
        (test m || d.methods.any test) := by
    simp only [Declaration.methods, h, List.filterMap_append, List.filterMap_cons, Member.method?,
      List.any_append, List.any_cons]
    exact Bool.or_left_comm ..
  cases other with
  | initializer => exact hmethods _
  | function => exact hmethods _
  | conformance => rfl

theorem isPresent_insertConformance {before after : List String} :
    other.isPresent s { d with inherits := before ++ s.conformanceName :: after } isSubclass =
      (other == .conformance || other.isPresent s d isSubclass) := by
  cases other with
  | initializer => rfl
  | function => rfl
  | conformance => simp [Part.isPresent]

namespace Inserts

/-- A part changes nothing that the texts are written from. -/
theorem written_eq (h : Inserts s d part d') :
    Part.written s d' isSubclass = Part.written s d isSubclass := by
  have hbound {before after : List (Member String)} {m : Method String}
      (hmembers : d.members = before ++ after) :
      Declaration.boundProperties { d with members := before ++ .method m :: after } =
        d.boundProperties := by
    simp [Declaration.boundProperties, hmembers]
  funext other
  cases h with
  | initializer hmembers => simp only [Part.written, hbound hmembers]
  | function hmembers => simp only [Part.written, hbound hmembers]
  | conformance => rfl

theorem kind_eq (h : Inserts s d part d') : d'.kind = d.kind := by
  cases h <;> rfl

theorem inherits_ne_nil (h : Inserts s d part d') (hd : d.inherits ≠ []) : d'.inherits ≠ [] := by
  cases h with
  | initializer => exact hd
  | function => exact hd
  | conformance => simp

theorem isPresent_self (h : Inserts s d part d') : part.isPresent s d' isSubclass = true := by
  cases h with
  | initializer hmembers hname hfailable hdecoder =>
    rw [isPresent_insertMethod hmembers]
    simp [Part.isDeclaredBy, hname, hfailable, hdecoder.takesDecoder]
  | function hmembers hname hdecoder =>
    rw [isPresent_insertMethod hmembers]
    simp [Part.isDeclaredBy, hname, hdecoder.takesDecoder]
  | conformance =>
    rw [isPresent_insertConformance]
    rfl

theorem isPresent_mono (h : Inserts s d part d') (hother : other.isPresent s d isSubclass = true) :
    other.isPresent s d' isSubclass = true := by
  cases h with
  | initializer hmembers => rw [isPresent_insertMethod hmembers, hother, Bool.or_true]
  | function hmembers => rw [isPresent_insertMethod hmembers, hother, Bool.or_true]
  | conformance => rw [isPresent_insertConformance, hother, Bool.or_true]

/-- A part passes for no other, unless the mapping function is called like an initializer. -/
theorem isPresent_of_ne (h : Inserts s d part d') (hinit : s.mappingFunction ≠ "init")
    (hne : other ≠ part) : other.isPresent s d' isSubclass = other.isPresent s d isSubclass := by
  cases h with
  | initializer hmembers hname =>
    rw [isPresent_insertMethod hmembers]
    cases other with
    | initializer => exact absurd rfl hne
    | function => simp [Part.isDeclaredBy, hname, hinit.symm]
    | conformance => rfl
  | function hmembers hname =>
    rw [isPresent_insertMethod hmembers]
    cases other with
    | initializer => simp [Part.isDeclaredBy, hname, hinit]
    | function => exact absurd rfl hne
    | conformance => rfl
  | conformance =>
    rw [isPresent_insertConformance, beq_false_of_ne hne, Bool.false_or]

end Inserts

namespace InsertsAll

theorem written_eq (h : InsertsAll s parts d d') :
    Part.written s d' isSubclass = Part.written s d isSubclass := by
  induction h with
  | nil => rfl
  | cons hfirst _ ih => rw [ih, hfirst.written_eq]

theorem kind_eq (h : InsertsAll s parts d d') : d'.kind = d.kind := by
  induction h with
  | nil => rfl
  | cons hfirst _ ih => rw [ih, hfirst.kind_eq]

theorem inherits_ne_nil (h : InsertsAll s parts d d') (hd : d.inherits ≠ []) :
    d'.inherits ≠ [] := by
  induction h with
  | nil => exact hd
  | cons hfirst _ ih => exact ih (hfirst.inherits_ne_nil hd)

theorem isPresent_mono (h : InsertsAll s parts d d')
    (hpart : part.isPresent s d isSubclass = true) : part.isPresent s d' isSubclass = true := by
  induction h with
  | nil => exact hpart
  | cons hfirst _ ih => exact ih (hfirst.isPresent_mono hpart)

theorem isPresent_of_mem (h : InsertsAll s parts d d') (hpart : part ∈ parts) :
    part.isPresent s d' isSubclass = true := by
  induction h with
  | nil => cases hpart
  | cons hfirst hrest ih =>
    rcases List.mem_cons.mp hpart with rfl | hpart
    · exact hrest.isPresent_mono hfirst.isPresent_self
    · exact ih hpart

theorem isPresent_of_not_mem (h : InsertsAll s parts d d') (hinit : s.mappingFunction ≠ "init")
    (hpart : part ∉ parts) : part.isPresent s d' isSubclass = part.isPresent s d isSubclass := by
  induction h with
  | nil => rfl
  | cons hfirst _ ih =>
    obtain ⟨hne, hpart⟩ := not_or.mp (mt List.mem_cons.mpr hpart)
    rw [ih hpart, hfirst.isPresent_of_ne hinit hne]

/-- Nothing is missing anymore once all that was missing is put in. -/
theorem missing_eq_nil (h : InsertsAll s parts d d')
    (hall : Part.missing s d isSubclass ⊆ parts) : Part.missing s d' isSubclass = [] := by
  refine List.filter_eq_nil_iff.mpr fun part hpart => ?_
  cases hpresent : part.isPresent s d isSubclass with
  | true => simp [h.isPresent_mono hpresent]
  | false =>
    have hmissing : part ∈ Part.missing s d isSubclass :=
      List.mem_filter.mpr ⟨hpart, by simp [hpresent]⟩
    simp [h.isPresent_of_mem (hall hmissing)]

/-- What was put in is not missing anymore, and nothing else has changed. -/
theorem missing_eq_filter (h : InsertsAll s parts d d') (hinit : s.mappingFunction ≠ "init") :
    Part.missing s d' isSubclass = (Part.missing s d isSubclass).filter (· ∉ parts) := by
  rw [Part.missing, Part.missing, List.filter_filter]
  refine List.filter_congr fun part _ => ?_
  by_cases hpart : part ∈ parts
  · simp [hpart, h.isPresent_of_mem hpart]
  · simp [hpart, h.isPresent_of_not_mem hinit hpart]

theorem isWritable [Memory] (h : InsertsAll s parts d d') (hd : IsWritable s d isSubclass) :
    IsWritable s d' isSubclass := by
  rw [isWritable_iff] at hd ⊢
  intro part hnew
  refine hd part (Bool.eq_false_iff.mpr fun hpresent => ?_)
  rw [h.isPresent_mono hpresent] at hnew
  cases hnew

theorem isRefused_eq_false {r : Request Json} (h : InsertsAll s parts d d')
    (hd : isRefused r (d.map .text) = false) : isRefused r (d'.map .text) = false := by
  rw [isRefused_map_eq_false rfl] at hd ⊢
  rw [h.kind_eq]
  exact hd.imp_right fun ⟨hkind, hinherits⟩ =>
    ⟨hkind, fun hasked => h.inherits_ne_nil (hinherits hasked)⟩

end InsertsAll

/-- Where no error is reported, the declaration was not refused. -/
theorem isRefused_of_quiet [Memory] {r : Request Json} {d : Declaration Json} {span : Span}
    (h : ∀ x ∈ (expand s r d).diagnostics span, x.isError = false) : isRefused r d = false := by
  refine Bool.eq_false_iff.mpr fun hrefused => ?_
  rw [expand_of_isRefused hrefused] at h
  have herror := h _ (List.mem_singleton.mpr rfl)
  cases herror

/-- What was generated and put into the declaration, part by part and at any positions, is not
generated again, and the same is reported. As long as the mapping function is not called like an
initializer, this holds of each part by itself: those that were put in are left out, and the others
come out as they did before. -/
theorem expand_inserted [Memory] {name : String} {r : Request Json}
    {args : List (Argument String)} {out : Output}
    (hargs : r.arguments = args.map (Argument.map .text))
    (hd : r.declaration = some (d.map .text))
    (hout : (Rule.mapping.expand name s r).outcome = .ok out)
    (hquiet : ∀ x ∈ (Rule.mapping.expand name s r).diagnostics r.span, x.isError = false) :
    let missing := Part.missing s d (asksForSubclass args)
    let written := Part.written s d (asksForSubclass args)
    out = { declarations := missing.map written } ∧
    ∀ parts d', InsertsAll s parts d d' →
      let again := Rule.mapping.expand name s { r with declaration := some (d'.map .text) }
      again.diagnostics r.span = (Rule.mapping.expand name s r).diagnostics r.span ∧
      (missing ⊆ parts → again.outcome = .ok {}) ∧
      (s.mappingFunction ≠ "init" →
        again.outcome = .ok { declarations := (missing.filter (· ∉ parts)).map written }) := by
  intro missing written
  have hsub : isSubclassRequested r.arguments = asksForSubclass args := by
    rw [hargs, isSubclassRequested_map]
  have hexpand : Rule.mapping.expand name s r = expand s r (d.map .text) :=
    Rule.attachedDeclaration_bind hd _
  rw [hexpand] at hout hquiet
  have hrefused := isRefused_of_quiet hquiet
  obtain ⟨hwritable, rfl⟩ := (outcome_expand_map hsub hrefused out).mp hout
  refine ⟨rfl, fun parts d' hinserts => ?_⟩
  intro again
  have hrefused' := hinserts.isRefused_eq_false hrefused
  -- apart from the declaration, the rule reads the arguments only
  have hagain : again = expand s r (d'.map .text) := Rule.attachedDeclaration_bind rfl _
  have houtcome {l : List GeneratedDeclaration}
      (hl : (Part.missing s d' (asksForSubclass args)).map written = l) :
      again.outcome = .ok { declarations := l } := by
    rw [hagain, outcome_expand_map hsub hrefused', hinserts.written_eq, hl]
    exact ⟨hinserts.isWritable hwritable, rfl⟩
  refine ⟨?_, fun hall => ?_, fun hinit => ?_⟩
  · rw [hexpand, hagain, diagnostics_expand hrefused, diagnostics_expand hrefused']
    have hkind : (d'.map Json.text).kind = (d.map Json.text).kind := hinserts.kind_eq
    rw [hkind]
  · exact houtcome (by rw [hinserts.missing_eq_nil hall, List.map_nil])
  · exact houtcome (by rw [hinserts.missing_eq_filter hinit])

/-- A decoder whose type is written with blanks and accepted in no other spelling. -/
def spacedSettings : Settings :=
  { decoderType := "Core . Map", acceptedDecoderTypes := [], decoderParameter := "d" }

def decodingMethod (name : String) (isFailable : Bool) : Method String :=
  ⟨name, [⟨"d", "Core . Map", none, none, false⟩], .internalLevel, true, none, [], [], none,
    isFailable⟩

def plainProperty : Member String :=
  .property ⟨"b", none, .internalLevel, false, false⟩

def plainStruct : Declaration String :=
  ⟨.valueType, "A", ["Codable"], [plainProperty]⟩

def mappedStruct : Declaration String :=
  ⟨.valueType, "A", ["Codable", "Mappable"],
    [.method (decodingMethod "mapping" false), plainProperty,
      .method (decodingMethod "init" true)]⟩

def boundStruct : Declaration String :=
  ⟨.valueType, "A", ["Codable"], [.method (decodingMethod "mapping" false), plainProperty]⟩

def plainRequest : Request Json :=
  ⟨.text "Mappable", [], some (plainStruct.map .text), .unreported⟩

def plainOutput : Output :=
  { declarations :=
      [⟨.member, "init?(d: Core . Map) \x7b\x7d"⟩,
        ⟨.member, "mutating func mapping(d: Core . Map) \x7b\n    b <- d[\"b\"]\n\x7d"⟩,
        ⟨.extension, "extension A: Mappable \x7b\x7d"⟩] }

theorem declaresDecoder_decodingMethod (name : String) (isFailable : Bool) :
    DeclaresDecoder spacedSettings (decodingMethod name isFailable) :=
  ⟨_, rfl, rfl, rfl, rfl⟩

open scoped Memory in
theorem expand_inserted_plainStruct :
    (Rule.mapping.expand "Mappable" spacedSettings plainRequest).outcome =
      .ok plainOutput ∧
    (Rule.mapping.expand "Mappable" spacedSettings
      { plainRequest with declaration := some (mappedStruct.map .text) }).outcome = .ok {} ∧
    (Rule.mapping.expand "Mappable" spacedSettings
      { plainRequest with declaration := some (boundStruct.map .text) }).outcome =
      .ok { declarations :=
        [⟨.member, "init?(d: Core . Map) \x7b\x7d"⟩,
          ⟨.extension, "extension A: Mappable \x7b\x7d"⟩] } := by
  have hargs : plainRequest.arguments = ([] : List (Argument String)).map (Argument.map .text) :=
    rfl
  have hd : plainRequest.declaration = some (plainStruct.map .text) := rfl
  have hout : (Rule.mapping.expand "Mappable" spacedSettings plainRequest).outcome =
      .ok plainOutput := by
    rfl
  have hquiet : ∀ x ∈ (Rule.mapping.expand "Mappable" spacedSettings plainRequest).diagnostics
      plainRequest.span, x.isError = false := by
    intro x hx
    cases hx
  have hall : InsertsAll spacedSettings Part.all plainStruct mappedStruct :=
    .cons (@Inserts.initializer _ _ [plainProperty] [] _ rfl rfl rfl
        (declaresDecoder_decodingMethod "init" true))
      (.cons (@Inserts.function _ _ [] _ _ rfl rfl (declaresDecoder_decodingMethod "mapping" false))
        (.cons (@Inserts.conformance _ _ ["Codable"] [] rfl) .nil))
  have hone : InsertsAll spacedSettings [.function] plainStruct boundStruct :=
    .cons (@Inserts.function _ _ [] _ _ rfl rfl (declaresDecoder_decodingMethod "mapping" false))
      .nil
  obtain ⟨-, hinserted⟩ := expand_inserted hargs hd hout hquiet
  refine ⟨hout, (hinserted _ _ hall).2.1 List.filter_sublist.subset, ?_⟩
  exact ((hinserted _ _ hone).2.2 (by decide)).trans rfl

end SwiftExpansion.Mapping
