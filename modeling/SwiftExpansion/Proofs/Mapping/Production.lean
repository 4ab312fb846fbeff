import SwiftExpansion.Proofs.Declaration.Inheritance
import SwiftExpansion.Proofs.Engine.ErrorContract
import SwiftExpansion.Proofs.Fault
import SwiftExpansion.Proofs.Mapping.FunctionText

/-!
# What is generated for which declaration

A mapping has three parts: an initializer and a function that take the decoder, and a conformance.
Those of them that a declaration does not have yet are generated, in this order. This module says
what it means for a declaration that keeps to the format to have a part, what is written for a part
that it lacks, and what is reported.
-/
namespace SwiftExpansion

namespace Mapping

/-- Whether a usage asks for a subclass: the first argument labelled so has to be the literal
`true`. -/
def asksForSubclass (arguments : List (Argument String)) : Bool :=
  (arguments.find? (·.label == some "isSubclass")).any fun a =>
    a.value.kind == .booleanLiteral && a.value.value == some "true"

theorem isSubclassRequested_map (arguments : List (Argument String)) :
    isSubclassRequested (arguments.map (Argument.map .text)) = asksForSubclass arguments := by
  have hlabel : Argument.hasLabel (.text "isSubclass") ∘ Argument.map Json.text =
      fun a => a.label == some "isSubclass" := by
    funext a
    cases hl : a.label <;>
      simp [Argument.hasLabel, Argument.map, hl, Json.same, Json.sameScalar, Json.number?]
  have hvalue (a : Argument String) : (a.map Json.text).value.isTrueLiteral =
      (a.value.kind == .booleanLiteral && a.value.value == some "true") := by
    cases hv : a.value.value <;>
      simp [Expression.isTrueLiteral, Argument.map, Expression.map, hv, Json.isText]
  unfold isSubclassRequested asksForSubclass Argument.find?
  rw [List.find?_map, hlabel, Option.any_map]
  congr 1
  funext a
  exact hvalue a

def takesDecoder (s : Settings) (m : Method String) : Bool :=
  match m.parameters with
  | [p] =>
    p.argumentLabel == s.decoderParameter && !p.isInout &&
      (decoderSpellings s).contains (Text.squeezed p.type)
  | _ => false

theorem acceptsDecoder_map (s : Settings) (m : Method String) :
    acceptsDecoder s (m.map .text) = .ok (takesDecoder s m) := by
  have hlabel (p : Parameter String) : (p.map Json.text).argumentLabel = .text p.argumentLabel := by
    cases hl : p.label <;> simp [Parameter.argumentLabel, Parameter.map, hl]
  unfold acceptsDecoder takesDecoder
  simp only [Method.map]
  match m.parameters with
  | [] => rfl
  | [p] =>
    simp only [List.map_cons, List.map_nil, hlabel, Json.isText]
    cases hshape : p.argumentLabel == s.decoderParameter && !p.isInout
    · simp [Parameter.map, hshape]
    · simp [Parameter.map, hshape, Json.textFor]
  | p :: q :: ps => rfl

inductive Part
  | initializer
  | function
  | conformance
  deriving Repr, DecidableEq

namespace Part

def all : List Part :=
  [.initializer, .function, .conformance]

/-- Whether a method is a part. Nothing is asked of it but its name, its parameters and, for an
initializer, that it can fail. -/
def isDeclaredBy (s : Settings) (m : Method String) : Part → Bool
  | .initializer => m.name == "init" && m.isFailable && takesDecoder s m
  | .function => m.name == s.mappingFunction && takesDecoder s m
  | .conformance => false

/-- Whether a declaration has a part, or leaves it to its superclass. -/
def isPresent (s : Settings) (d : Declaration String) (isSubclass : Bool) : Part → Bool
  | .initializer => d.methods.any fun m => initializer.isDeclaredBy s m
  | .function => d.methods.any fun m => function.isDeclaredBy s m
  | .conformance => (d.kind == .referenceType && isSubclass) || d.inherits.any fun entry =>
      entry == s.conformanceName || ('.' :: s.conformanceName.toList).isSuffixOf entry.toList

def missing (s : Settings) (d : Declaration String) (isSubclass : Bool) : List Part :=
  all.filter fun part => !part.isPresent s d isSubclass

def written (s : Settings) (d : Declaration String) (isSubclass : Bool) :
    Part → GeneratedDeclaration
  | .initializer =>
    ⟨.member, Render.block
      ((if d.kind = .referenceType then "required " else "") ++ "init?" ++ parameterText s)
      (if d.kind = .referenceType ∧ isSubclass then
        ["super.init(" ++ s.decoderParameter ++ ": " ++ s.decoderParameter ++ ")"]
      else [])
      s.spaces⟩
  | .function =>
    ⟨.member, Render.block
      ((if d.kind = .valueType then "mutating " else if isSubclass then "override " else "") ++
        "func " ++ s.mappingFunction ++ parameterText s)
      ((if d.kind = .referenceType ∧ isSubclass then
        ["super." ++ s.mappingFunction ++ "(" ++ s.decoderParameter ++ ": " ++
          s.decoderParameter ++ ")"]
      else []) ++ d.boundProperties.map (bindingLine s))
      s.spaces⟩
  | .conformance =>
    ⟨.extension, "extension " ++ d.name ++ ": " ++ s.conformanceName ++ " \x7b\x7d"⟩

end Part

section

variable (s : Settings) (d : Declaration String) (isSubclass : Bool)

theorem hasDecodingInitializer_map : hasDecodingInitializer s (d.map .text) =
    .ok (Part.initializer.isPresent s d isSubclass) := by
  rw [hasDecodingInitializer, Declaration.methods_map]
  refine Except.anyM_map_eq_ok fun m _ => ?_
  rw [acceptsDecoder_map]
  cases hname : m.name == "init" <;> cases hfailable : m.isFailable <;>
    simp [Method.map, Json.isText, Part.isDeclaredBy, hname, hfailable]

theorem hasMappingFunction_map : hasMappingFunction s (d.map .text) =
    .ok (Part.function.isPresent s d isSubclass) := by
  rw [hasMappingFunction, Declaration.methods_map]
  refine Except.anyM_map_eq_ok fun m _ => ?_
  rw [acceptsDecoder_map]
  cases hname : m.name == s.mappingFunction <;>
    simp [Method.map, Json.isText, Part.isDeclaredBy, hname]

theorem inheritsFrom_map (name : String) : (d.map .text).inheritsFrom (.text name) =
    .ok (d.inherits.any fun entry =>
      entry == name || ('.' :: name.toList).isSuffixOf entry.toList) :=
  Except.anyM_map_eq_ok fun entry _ => Json.namesType_text name entry

variable [Memory]

/-- What a part of the synthesis comes to: nothing if the part is there, and what is written for it
if it is not. Only the members are indented. -/
def Part.Yields (part : Part) (l : List GeneratedDeclaration) : Prop :=
  (part.isPresent s d isSubclass = false → part ≠ .conformance → s.CanIndent) ∧
  l = if part.isPresent s d isSubclass then [] else [part.written s d isSubclass]

variable {s d isSubclass} {l : List GeneratedDeclaration}

theorem Part.yields_of_isPresent {part : Part} (h : part.isPresent s d isSubclass = true) :
    part.Yields s d isSubclass l ↔ l = [] := by
  simp [Yields, h]

theorem Part.yields_of_not_isPresent {part : Part} (h : part.isPresent s d isSubclass = false) :
    part.Yields s d isSubclass l ↔ (part ≠ .conformance → s.CanIndent) ∧
      l = [part.written s d isSubclass] := by
  simp [Yields, h]

theorem initializer_yields (hkind : d.kind = .valueType ∨ d.kind = .referenceType) :
    (initializer s (d.map .text) (shapeFor d.kind isSubclass)).outcome = .ok l ↔
      Part.initializer.Yields s d isSubclass l := by
  have htext : Part.initializer.written s d isSubclass =
      ⟨.member, Render.block (initializerHeader s (shapeFor d.kind isSubclass))
        (delegation s (shapeFor d.kind isSubclass) "init") s.spaces⟩ := by
    rcases hkind with hkind | hkind <;>
      simp [initializerHeader, delegation, shapeFor, Part.written, hkind]
  rw [initializer_eq_ok, hasDecodingInitializer_map s d isSubclass]
  cases hpresent : Part.initializer.isPresent s d isSubclass with
  | true => simp [Part.yields_of_isPresent hpresent]
  | false =>
    rw [Part.yields_of_not_isPresent hpresent, htext]
    simp only [Settings.indent_eq_ok]
    constructor
    · rintro (⟨hcontra, -⟩ | ⟨-, indent, ⟨hfit, rfl⟩, rfl⟩)
      · cases hcontra
      · exact ⟨fun _ => hfit, rfl⟩
    · rintro ⟨hfit, rfl⟩
      exact .inr ⟨trivial, s.spaces, ⟨hfit (by decide), rfl⟩, rfl⟩

theorem mappingFunction_yields (hkind : d.kind = .valueType ∨ d.kind = .referenceType) :
    (mappingFunction s (d.map .text) (shapeFor d.kind isSubclass)).outcome = .ok l ↔
      Part.function.Yields s d isSubclass l := by
  have htext : Part.function.written s d isSubclass =
      ⟨.member, Render.block (functionHeader s (shapeFor d.kind isSubclass))
        (delegation s (shapeFor d.kind isSubclass) s.mappingFunction ++
          d.boundProperties.map (bindingLine s)) s.spaces⟩ := by
    rcases hkind with hkind | hkind <;>
      simp [functionHeader, delegation, shapeFor, Part.written, hkind]
  rw [mappingFunction_eq_ok, hasMappingFunction_map s d isSubclass, bindingTexts_map]
  cases hpresent : Part.function.isPresent s d isSubclass with
  | true => simp [Part.yields_of_isPresent hpresent]
  | false =>
    rw [Part.yields_of_not_isPresent hpresent, htext]
    simp only [Settings.indent_eq_ok]
    constructor
    · rintro (⟨hcontra, -⟩ | ⟨-, bindings, hbindings, indent, ⟨hfit, rfl⟩, rfl⟩)
      · cases hcontra
      · cases hbindings
        exact ⟨fun _ => hfit, rfl⟩
    · rintro ⟨hfit, rfl⟩
      exact .inr ⟨trivial, _, rfl, s.spaces, ⟨hfit (by decide), rfl⟩, rfl⟩

theorem conformance_yields (hkind : d.kind = .valueType ∨ d.kind = .referenceType) :
    (conformance s (d.map .text) (shapeFor d.kind isSubclass)).outcome = .ok l ↔
      Part.conformance.Yields s d isSubclass l := by
  have hderived : (shapeFor d.kind isSubclass).isDerived =
      (d.kind == .referenceType && isSubclass) := by
    rcases hkind with hkind | hkind <;> simp [shapeFor, hkind]
  rw [conformance_eq_ok, inheritsFrom_map, hderived]
  cases hpresent : Part.conformance.isPresent s d isSubclass with
  | true =>
    rw [Part.yields_of_isPresent hpresent]
    rcases Bool.or_eq_true_iff.mp hpresent with h | h <;> simp [h]
  | false =>
    obtain ⟨hbase, hnew⟩ := Bool.or_eq_false_iff.mp hpresent
    rw [Part.yields_of_not_isPresent hpresent]
    simp [hbase, hnew, Part.written, Declaration.map, Json.display, eq_comm]

/-- Whether the indentation of the members that a declaration lacks can be written. -/
def IsWritable (s : Settings) (d : Declaration String) (isSubclass : Bool) : Prop :=
  ∀ part ∈ Part.missing s d isSubclass, part ≠ .conformance → s.CanIndent

theorem isWritable_iff : IsWritable s d isSubclass ↔ ∀ part : Part,
    part.isPresent s d isSubclass = false → part ≠ .conformance → s.CanIndent := by
  have hall (part : Part) : part ∈ Part.all := by cases part <;> decide
  simp [IsWritable, Part.missing, hall]

omit [Memory] in
theorem map_written_missing : (Part.missing s d isSubclass).map (Part.written s d isSubclass) =
    (Part.all.map fun part =>
      if part.isPresent s d isSubclass then [] else [part.written s d isSubclass]).flatten := by
  unfold Part.missing
  induction Part.all with
  | nil => rfl
  | cons part parts ih =>
    cases hpresent : part.isPresent s d isSubclass <;> simp [hpresent, ih]

/-- A synthesis writes the parts that are missing, in their order. -/
theorem synthesize_map (hkind : d.kind = .valueType ∨ d.kind = .referenceType) :
    (synthesize s (d.map .text) (shapeFor d.kind isSubclass)).outcome = .ok l ↔
      IsWritable s d isSubclass ∧
      l = (Part.missing s d isSubclass).map (Part.written s d isSubclass) := by
  rw [synthesize_eq_ok, isWritable_iff, map_written_missing]
  simp only [initializer_yields hkind, mappingFunction_yields hkind, conformance_yields hkind]
  constructor
  · rintro ⟨first, ⟨hfirst, rfl⟩, second, ⟨hsecond, rfl⟩, third, ⟨hthird, rfl⟩, rfl⟩
    refine ⟨?_, by simp [Part.all]⟩
    rintro (_ | _ | _)
    exacts [hfirst, hsecond, hthird]
  · rintro ⟨hwritable, rfl⟩
    exact ⟨_, ⟨hwritable _, rfl⟩, _, ⟨hwritable _, rfl⟩, _, ⟨hwritable _, rfl⟩, by simp [Part.all]⟩

end

section

variable [Memory]

theorem diagnostics_synthesize (s : Settings) (d : Declaration Json) (shape : Shape)
    (span : Span) : (synthesize s d shape).diagnostics span = [] :=
  Draft.diagnostics_eq_nil (synthesize_leaves s d shape fun _ => rfl)

theorem expand_of_isRefused {s : Settings} {r : Request Json} {d : Declaration Json}
    (h : isRefused r d = true) : expand s r d =
      (do
        Draft.error (if d.kind = .referenceType then "the inherited class was not found"
          else "unsupported declaration kind")
        return {}) := by
  unfold expand
  unfold isRefused at h
  cases hkind : d.kind with
  | valueType => simp [hkind] at h
  | referenceType =>
    rw [hkind] at h
    dsimp only at h ⊢
    rw [h]
    rfl
  | interface => rfl
  | enumeration => rfl

theorem diagnostics_expand {s : Settings} {r : Request Json} {d : Declaration Json} {span : Span}
    (h : isRefused r d = false) : (expand s r d).diagnostics span =
      if d.kind = .valueType ∧ isSubclassRequested r.arguments then
        [⟨.warning, "value types do not support subclass composition", span⟩]
      else [] := by
  have hrest (shape : Shape) : (synthesize s d shape >>= fun l =>
      (pure { declarations := l } : Draft Output)).diagnostics span = [] := by
    rw [Draft.diagnostics_bind fun _ => rfl, diagnostics_synthesize]
  unfold expand
  unfold isRefused at h
  cases hkind : d.kind with
  | valueType =>
    cases isSubclassRequested r.arguments with
    | true => exact Draft.diagnostics_bind fun _ => hrest _
    | false => exact hrest _
  | referenceType =>
    rw [hkind] at h
    dsimp only at h ⊢
    rw [h]
    exact (hrest _).trans (if_neg (by simp)).symm
  | interface => simp [hkind] at h
  | enumeration => simp [hkind] at h

/-- What a struct gets does not depend on what its usage asks for. -/
theorem outcome_expand_of_valueType {s : Settings} {d : Declaration Json}
    (h : d.kind = .valueType) (r r' : Request Json) :
    (expand s r d).outcome = (expand s r' d).outcome := by
  have hsynthesis (r : Request Json) : (expand s r d).outcome =
      (synthesize s d ⟨"", "mutating ", false⟩ >>= fun l =>
        (pure { declarations := l } : Draft Output)).outcome := by
    unfold expand
    rw [h]
    cases isSubclassRequested r.arguments <;> rfl
  rw [hsynthesis r, hsynthesis r']

section

variable {s : Settings} {r : Request Json} {d : Declaration String} {isSubclass : Bool}

omit [Memory] in
theorem isRefused_map_eq_false (hsub : isSubclassRequested r.arguments = isSubclass) :
    isRefused r (d.map .text) = false ↔ d.kind = .valueType ∨
      d.kind = .referenceType ∧ (isSubclass = true → d.inherits ≠ []) := by
  rw [isRefused, hsub]
  cases hkind : d.kind <;> simp [Declaration.map, hkind]

/-- A declaration that is not refused gets the parts that it lacks. -/
theorem outcome_expand_map (hsub : isSubclassRequested r.arguments = isSubclass)
    (hrefused : isRefused r (d.map .text) = false) (out : Output) :
    (expand s r (d.map .text)).outcome = .ok out ↔ IsWritable s d isSubclass ∧ out =
      { declarations := (Part.missing s d isSubclass).map (Part.written s d isSubclass) } := by
  have hkind := ((isRefused_map_eq_false hsub).mp hrefused).imp_right And.left
  have hkindMap : (d.map Json.text).kind = d.kind := rfl
  rw [expand_eq_ok, hrefused, hsub, hkindMap]
  simp only [synthesize_map hkind]
  constructor
  · rintro (⟨hcontra, -⟩ | ⟨-, l, ⟨hwritable, rfl⟩, rfl⟩)
    · cases hcontra
    · exact ⟨hwritable, rfl⟩
  · rintro ⟨hwritable, rfl⟩
    exact .inr ⟨trivial, _, ⟨hwritable, rfl⟩, rfl⟩

end

/-- What a usage of the macro comes to, for arguments and declarations that keep to the format. A
protocol or an enumeration is refused by one error, and so is a class that is declared a subclass
and inherits from nothing. Any other declaration gets the parts that it lacks, in their order and in
their words, provided that their indentation can be written; all that is reported then is a warning
about a struct that is declared a subclass, which changes nothing else. -/
theorem expand_production {s : Settings} {name : String} {r : Request Json}
    {args : List (Argument String)} {d : Declaration String}
    (hargs : r.arguments = args.map (Argument.map .text))
    (hd : r.declaration = some (d.map .text)) :
    let isSubclass := asksForSubclass args
    let draft := Rule.mapping.expand name s r
    (d.kind = .interface ∨ d.kind = .enumeration →
      draft.outcome = .ok {} ∧
      draft.diagnostics r.span = [⟨.error, "unsupported declaration kind", r.span⟩]) ∧
    (d.kind = .referenceType → isSubclass = true → d.inherits = [] →
      draft.outcome = .ok {} ∧
      draft.diagnostics r.span = [⟨.error, "the inherited class was not found", r.span⟩]) ∧
    (d.kind = .valueType ∨ d.kind = .referenceType ∧ (isSubclass = true → d.inherits ≠ []) →
      (∀ out, draft.outcome = .ok out ↔ IsWritable s d isSubclass ∧
        out = { declarations := (Part.missing s d isSubclass).map (Part.written s d isSubclass) }) ∧
      draft.diagnostics r.span =
        if d.kind = .valueType ∧ isSubclass = true then
          [⟨.warning, "value types do not support subclass composition", r.span⟩]
        else []) ∧
    (d.kind = .valueType → ∀ r' : Request Json, r'.declaration = r.declaration →
      (Rule.mapping.expand name s r').outcome = draft.outcome) := by
  intro isSubclass draft
  have hsub : isSubclassRequested r.arguments = isSubclass := by
    rw [hargs, isSubclassRequested_map]
  have hkindMap : (d.map Json.text).kind = d.kind := rfl
  have hdraft : draft = expand s r (d.map .text) := Rule.attachedDeclaration_bind hd _
  rw [hdraft]
  refine ⟨?_, ?_, ?_, ?_⟩
  · intro hkind
    have hrefused : isRefused r (d.map .text) = true := by
      rcases hkind with hkind | hkind <;> rw [isRefused, hkindMap, hkind]
    have hclass : d.kind ≠ .referenceType := by
      rcases hkind with hkind | hkind <;> simp [hkind]
    rw [expand_of_isRefused hrefused, hkindMap, if_neg hclass]
    exact ⟨rfl, rfl⟩
  · intro hkind hasked hinherits
    have hrefused : isRefused r (d.map .text) = true := by
      simp [isRefused, hkind, hsub, hasked, Declaration.map, hinherits]
    rw [expand_of_isRefused hrefused, hkindMap, if_pos hkind]
    exact ⟨rfl, rfl⟩
  · intro hkind
    have hrefused := (isRefused_map_eq_false hsub).mpr hkind
    refine ⟨outcome_expand_map hsub hrefused, ?_⟩
    rw [diagnostics_expand hrefused, hsub, hkindMap]
  · intro hkind r' hr'
    have hdraft' : Rule.mapping.expand name s r' = expand s r' (d.map .text) :=
      Rule.attachedDeclaration_bind (hr'.trans hd) _
    rw [hdraft', outcome_expand_of_valueType hkind r' r]

end

open scoped Memory

/-- A struct with an initializer that cannot fail and with a mapping function, whose usage says two
things about a superclass. -/
def halfMappedStruct : Declaration String :=
  ⟨.valueType, "A", ["Core.Mappable"],
    [.method ⟨"init", [⟨"map", "Map", none, none, false⟩], .internalLevel, true, none, [], [], none,
        false⟩,
      .method ⟨"mapping", [⟨"m", "ObjectMapper . Map", some "map", none, false⟩], .privateLevel,
        true, none, ["static"], [], none, false⟩]⟩

def contradictoryArguments : List (Argument String) :=
  [⟨⟨.booleanLiteral, "true", some "true", none⟩, some "isSubclass"⟩,
    ⟨⟨.booleanLiteral, "false", some "false", none⟩, some "isSubclass"⟩]

def halfMappedRequest : Request Json :=
  ⟨.text "Mappable", contradictoryArguments.map (Argument.map .text),
    some (halfMappedStruct.map .text), .unreported⟩

theorem expand_production_halfMapped :
    (Rule.mapping.expand "Mappable" {} halfMappedRequest).outcome =
      .ok { declarations := [⟨.member, "init?(map: ObjectMapper.Map) \x7b\x7d"⟩] } ∧
    (Rule.mapping.expand "Mappable" {} halfMappedRequest).diagnostics .unreported =
      [⟨.warning, "value types do not support subclass composition", .unreported⟩] := by
  have hargs : halfMappedRequest.arguments = contradictoryArguments.map (Argument.map .text) := rfl
  have hd : halfMappedRequest.declaration = some (halfMappedStruct.map .text) := rfl
  obtain ⟨-, -, hsupported, -⟩ := expand_production hargs hd
  obtain ⟨houtcome, hdiagnostics⟩ := hsupported (.inl rfl)
  refine ⟨(houtcome _).mpr ⟨?_, ?_⟩, hdiagnostics⟩
  · intro part _ _
    exact ⟨_, rfl⟩
  · rfl

def wideSettings : Settings :=
  (Settings.assess [("indent_size", .int 0x8000000000000000)]).1

/-- With such settings a struct without members lacks all parts and gets none. -/
theorem expand_production_fails_wideSettings :
    let d : Declaration String := ⟨.valueType, "A", [], []⟩
    Part.missing wideSettings d false = Part.all ∧
      (Rule.mapping.expand "Mappable" wideSettings
        ⟨.text "Mappable", [], some (d.map .text), .unreported⟩).outcome =
          .error .indentTooLarge := by
  exact ⟨by decide +kernel, rfl⟩

end Mapping

end SwiftExpansion
