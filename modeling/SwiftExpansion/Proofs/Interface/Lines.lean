import Mathlib.Data.List.Forall2
import SwiftExpansion.Proofs.Config.Settings
import SwiftExpansion.Proofs.Declaration
import SwiftExpansion.Proofs.Engine.ErrorContract
import SwiftExpansion.Proofs.Fault
import SwiftExpansion.Proofs.Render

/-!
# What stands in an interface

Every member of a class that keeps to the format goes one of four ways: a property with a type gets
a line, a property without one gets a warning, a method gets a requirement, and private members and
initializers get nothing at all. Lines and warnings keep the order of the declaration. A line end in
a name or in a type would break a line in two, so there is none in what is shown; what is not shown
may be of any form. A wide indentation may be impossible to build, and then there is no interface,
unless there is nothing to indent.
-/
namespace SwiftExpansion

/-- An optional text counts as given exactly when it is not empty. -/
theorem Json.filter_isTruthy_map_text (o : Option String) :
    (o.map Json.text).filter isTruthy = (o.filter (· ≠ "")).map .text := by
  cases o with
  | none => rfl
  | some s => by_cases hempty : s = "" <;> simp [Option.filter, isTruthy, hempty]

/-- The type that is written down for a property; an empty text is none. -/
def Property.writtenType? (p : Property String) : Option String :=
  p.type.filter (· ≠ "")

namespace Declaration

/-- The properties with a line in the interface, each with its type. -/
def typedProperties (d : Declaration String) : List (Property String × String) :=
  d.members.filterMap fun m => match m with
    | .property p =>
      if p.visibility = .privateLevel then none else p.writtenType?.map fun type => (p, type)
    | .method _ => none

/-- The properties that are left out of the interface with a warning. -/
def untypedProperties (d : Declaration String) : List (Property String) :=
  d.members.filterMap fun m => match m with
    | .property p =>
      if p.visibility ≠ .privateLevel ∧ p.writtenType? = none then some p else none
    | .method _ => none

def requiredMethods (d : Declaration String) : List (Method String) :=
  d.members.filterMap fun m => match m with
    | .property _ => none
    | .method m =>
      if m.visibility ≠ .privateLevel ∧ m.name ≠ "init" then some m else none

theorem filterMap_exposedProperties_typed (d : Declaration String) :
    (d.exposedProperties.filterMap fun p => p.writtenType?.map fun type => (p, type)) =
      d.typedProperties := by
  rw [exposedProperties, properties, typedProperties, List.filter_filterMap,
    List.filterMap_filterMap]
  congr 1
  funext m
  cases m with
  | method m => rfl
  | property p =>
    by_cases hprivate : p.visibility = .privateLevel <;>
      simp [Member.property?, Visibility.isPrivate, Option.filter, hprivate]

theorem filter_exposedProperties_untyped (d : Declaration String) :
    d.exposedProperties.filter (·.writtenType?.isNone) = d.untypedProperties := by
  rw [exposedProperties, properties, untypedProperties, List.filter_filterMap,
    List.filter_filterMap]
  congr 1
  funext m
  cases m with
  | method m => rfl
  | property p =>
    by_cases hprivate : p.visibility = .privateLevel <;> cases htype : p.writtenType? <;>
      simp [Member.property?, Visibility.isPrivate, hprivate, htype]

theorem filter_exposedMethods (d : Declaration String) :
    d.exposedMethods.filter (·.name ≠ "init") = d.requiredMethods := by
  rw [exposedMethods, methods, requiredMethods, List.filter_filterMap, List.filter_filterMap]
  congr 1
  funext m
  cases m with
  | property p => rfl
  | method m =>
    by_cases hprivate : m.visibility = .privateLevel <;> by_cases hinit : m.name = "init" <;>
      simp [Member.method?, Visibility.isPrivate, hprivate, hinit]

end Declaration

namespace Interface

/-! Properties and the warnings about them. -/

def propertyLine (p : Property String × String) : String :=
  (if p.1.isStatic then "static " else "") ++ "var " ++ p.1.name ++ ": " ++ Text.trimmed p.2 ++
    " \x7b get \x7d"

def untypedWarning (name : String) (p : Property String) : String :=
  "property '" ++ p.name ++ "' has no type annotation and was left out of " ++ name

/-- Going through the properties either writes a line or warns, at each of them. -/
theorem propertyLines_map (name : String) (properties : List (Property String)) :
    propertyLines name (properties.map (Property.map .text)) =
      ⟨(properties.filter (·.writtenType?.isNone)).map fun p =>
          .report .warning (untypedWarning name p),
        .ok ((properties.filterMap fun p => p.writtenType?.map fun type => (p, type)).map
          propertyLine)⟩ := by
  induction properties with
  | nil => rfl
  | cons p properties ih =>
    have hfilter : (p.map Json.text).type.filter Json.isTruthy = p.writtenType?.map .text :=
      Json.filter_isTruthy_map_text p.type
    rw [List.map_cons, propertyLines, hfilter, ih]
    cases htype : p.writtenType? with
    | some type =>
      have hline : propertyText (p.map .text) (.text type) = .ok (propertyLine (p, type)) := rfl
      rw [List.filter_cons_of_neg (by simp [htype]), List.filterMap_cons_some (by rw [htype]; rfl),
        Option.map_some]
      dsimp only
      rw [hline, Logged.liftM_ok_bind]
      simp [bind, Logged.bind]
    | none =>
      rw [List.filter_cons_of_pos (by simp [htype]), List.filterMap_cons_none (by rw [htype]; rfl)]
      rfl

/-! Requirements. -/

/-- The label of a parameter with the blank behind it; none if it repeats the name. -/
def labelLine (p : Parameter String) : String :=
  ((p.label.filter (· ≠ p.name)).map (· ++ " ")).getD ""

def parameterLine (p : Parameter String) : String :=
  labelLine p ++ p.name ++ ": " ++ (if p.isInout then "inout " else "") ++ Text.trimmed p.type

def resultLine (returnType : Option String) : String :=
  ((returnType.filter (· ≠ "")).map (" -> " ++ Text.trimmed ·)).getD ""

def signatureLine (m : Method String) : String :=
  "func " ++ m.name ++ m.genericClause.getD "" ++
    "(" ++ ", ".intercalate (m.parameters.map parameterLine) ++ ")"

def requirementLine (m : Method String) : String :=
  " ".intercalate (requirementModifiers (m.modifiers.map .text) ++ [signatureLine m] ++ m.effects) ++
    resultLine m.returnType

theorem parameterText_map (p : Parameter String) :
    parameterText (p.map .text) = .ok (parameterLine p) := by
  cases hlabel : p.label with
  | none =>
    simp [parameterText, parameterLine, labelLine, Parameter.map, hlabel, Json.textFor, Json.display]
  | some label =>
    by_cases hsame : label = p.name <;>
      simp [parameterText, parameterLine, labelLine, Parameter.map, hlabel, hsame, Json.textFor,
        Json.display, Json.same, Json.sameScalar, Option.filter]

theorem joinable_map (index : Nat) (ss : List String) :
    joinable index (ss.map .text) = .ok ss := by
  induction ss generalizing index with
  | nil => rfl
  | cons s ss ih =>
    rw [List.map_cons, joinable, ih]
    rfl

theorem resultText_map (returnType : Option String) :
    resultText (returnType.map .text) = .ok (resultLine returnType) := by
  rw [resultText, resultLine, Json.filter_isTruthy_map_text]
  cases returnType.filter (· ≠ "") <;> rfl

theorem clauseText_map (genericClause : Option String) :
    clauseText (genericClause.map .text) = genericClause.getD "" := by
  rw [clauseText, Json.filter_isTruthy_map_text]
  cases genericClause with
  | none => rfl
  | some clause => by_cases hempty : clause = "" <;> simp [Option.filter, Json.display, hempty]

theorem requirementText_map (m : Method String) :
    requirementText (m.map .text) = .ok (requirementLine m) := by
  have hparameters := Except.mapM_map_eq_ok parameterText_map m.parameters
  simp only [requirementText, Method.map, hparameters, joinable_map, resultText_map, clauseText_map]
  rfl

theorem requirementTexts_map (d : Declaration String) :
    requirementTexts (d.map .text) = .ok (d.requiredMethods.map requirementLine) := by
  have hinit : ((fun m : Method Json => !isInitializer m) ∘ Method.map Json.text) =
      fun m : Method String => decide (m.name ≠ "init") := by
    funext m
    by_cases hname : m.name = "init" <;> simp [isInitializer, Method.map, Json.isText, hname]
  rw [requirementTexts, Declaration.exposedMethods_map, List.filter_map, hinit,
    Declaration.filter_exposedMethods]
  exact Except.mapM_map_eq_ok requirementText_map _

/-! Sections and the braces around them. -/

/-- What stands between the braces: indented lines, with an empty line between properties and
requirements where there are both. -/
def interiorLines (properties requirements : List String) (indent : String) : List String :=
  properties.map (indent ++ ·) ++
    (if properties ≠ [] ∧ requirements ≠ [] then [""] else []) ++ requirements.map (indent ++ ·)

/-- The lines of an interface with some properties and requirements. -/
def interfaceLines (header : String) (properties requirements : List String) (indent : String) :
    List String :=
  if properties = [] ∧ requirements = [] then [header ++ " \x7b\x7d"]
  else (header ++ " \x7b") :: interiorLines properties requirements indent ++ ["\x7d"]

def indentedSections (properties requirements : List String) (indent : String) : List String :=
  ([properties, requirements].filter (!·.isEmpty)).map fun lines =>
    "\n".intercalate (lines.map (indent ++ ·))

theorem mapM_sectionText_eq_ok [Memory] {s : Settings} {blocks : List (List String)}
    {texts : List String} :
    blocks.mapM (sectionText s) = .ok texts ↔
      (blocks = [] ∨ s.CanIndent) ∧
        texts = blocks.map fun lines => "\n".intercalate (lines.map (s.spaces ++ ·)) := by
  induction blocks generalizing texts with
  | nil => simp [pure, Except.pure, eq_comm]
  | cons lines blocks ih =>
    simp only [List.mapM_cons, Except.bind_eq_ok, ih, sectionText, Settings.indent_eq_ok,
      Except.pure_eq_ok, List.map_cons]
    constructor
    · rintro ⟨_, ⟨_, ⟨hfit, rfl⟩, rfl⟩, _, ⟨-, rfl⟩, rfl⟩
      exact ⟨.inr hfit, rfl⟩
    · rintro ⟨hfit | hfit, rfl⟩
      · cases hfit
      · exact ⟨_, ⟨_, ⟨hfit, rfl⟩, rfl⟩, _, ⟨.inr hfit, rfl⟩, rfl⟩

/-- Sections can be written exactly when there are none or the indentation can be built. -/
theorem sectionTexts_eq_ok [Memory] {s : Settings}
    {properties requirements sections : List String} :
    sectionTexts s properties requirements = .ok sections ↔
      (properties = [] ∧ requirements = [] ∨ s.CanIndent) ∧
        sections = indentedSections properties requirements s.spaces := by
  have hnone : [properties, requirements].filter (!·.isEmpty) = [] ↔
      properties = [] ∧ requirements = [] := by
    cases properties <;> cases requirements <;> simp
  rw [sectionTexts, mapM_sectionText_eq_ok, hnone]
  rfl

/-- The empty line between two sections is what the two line ends between them amount to. -/
theorem intercalate_indentedSections (properties requirements : List String) (indent : String) :
    "\n\n".intercalate (indentedSections properties requirements indent) =
      "\n".intercalate (interiorLines properties requirements indent) := by
  cases properties with
  | nil => cases requirements <;> simp [indentedSections, interiorLines]
  | cons p properties =>
    cases requirements with
    | nil => simp [indentedSections, interiorLines]
    | cons r requirements =>
      rw [interiorLines, if_pos (by simp), String.intercalate_append_of_ne_nil (by simp) (by simp),
        String.intercalate_append_of_ne_nil (by simp) (by simp), String.intercalate_singleton]
      apply String.toList_inj.mp
      simp [indentedSections]

theorem lines_bodyText {header indent : String} {properties requirements : List String}
    (hheader : Text.IsLine header) (hindent : Text.IsLine indent)
    (hproperties : ∀ l ∈ properties, Text.IsLine l)
    (hrequirements : ∀ l ∈ requirements, Text.IsLine l) :
    Text.lines (bodyText header (indentedSections properties requirements indent)) =
      interfaceLines header properties requirements indent := by
  by_cases hnone : properties = [] ∧ requirements = []
  · obtain ⟨rfl, rfl⟩ := hnone
    have hline : Text.IsLine (header ++ " \x7b\x7d") := by simp +decide [hheader]
    exact Text.lines_of_isLine hline
  · have hsections : (indentedSections properties requirements indent).isEmpty = false := by
      cases properties <;> cases requirements <;> simp_all [indentedSections]
    have hinterior : interiorLines properties requirements indent ≠ [] := by
      cases properties <;> cases requirements <;> simp_all [interiorLines]
    rw [bodyText, if_neg (by simp [hsections]), interfaceLines, if_neg hnone,
      intercalate_indentedSections]
    apply Render.lines_braced hinterior hheader
    rw [interiorLines, List.forall_mem_append, List.forall_mem_append, List.forall_mem_map,
      List.forall_mem_map]
    refine ⟨⟨fun l hl => ?_, ?_⟩, fun l hl => ?_⟩
    · exact Text.isLine_append.mpr ⟨hindent, hproperties l hl⟩
    · split <;> decide
    · exact Text.isLine_append.mpr ⟨hindent, hrequirements l hl⟩

/-! What is shown has no line ends. -/

@[mk_iff]
structure IsLineParameter (p : Parameter String) : Prop where
  name : Text.IsLine p.name
  type : Text.IsLine p.type
  label : ∀ l ∈ p.label, Text.IsLine l

@[mk_iff]
structure IsLineMethod (m : Method String) : Prop where
  name : Text.IsLine m.name
  parameters : ∀ p ∈ m.parameters, IsLineParameter p
  genericClause : ∀ c ∈ m.genericClause, Text.IsLine c
  effects : ∀ e ∈ m.effects, Text.IsLine e
  returnType : ∀ t ∈ m.returnType, Text.IsLine t

/-- The settings and the members that an interface is written from hold no line ends. -/
@[mk_iff]
structure SingleLineSurface (s : Settings) (d : Declaration String) : Prop where
  suffix : Text.IsLine s.interfaceSuffix
  base : Text.IsLine s.interfaceBase
  name : Text.IsLine d.name
  properties : ∀ p ∈ d.typedProperties, Text.IsLine p.1.name ∧ Text.IsLine p.2
  methods : ∀ m ∈ d.requiredMethods, IsLineMethod m

instance (p : Parameter String) : Decidable (IsLineParameter p) :=
  decidable_of_iff _ (isLineParameter_iff p).symm

instance (m : Method String) : Decidable (IsLineMethod m) :=
  decidable_of_iff _ (isLineMethod_iff m).symm

instance (s : Settings) (d : Declaration String) : Decidable (SingleLineSurface s d) :=
  decidable_of_iff _ (singleLineSurface_iff s d).symm

theorem isLine_propertyLine {p : Property String × String} (hname : Text.IsLine p.1.name)
    (htype : Text.IsLine p.2) : Text.IsLine (propertyLine p) := by
  cases hstatic : p.1.isStatic <;>
    simp +decide [propertyLine, hstatic, hname, Text.isLine_trimmed htype]

theorem isLine_parameterLine {p : Parameter String} (hp : IsLineParameter p) :
    Text.IsLine (parameterLine p) := by
  have hlabel : Text.IsLine (labelLine p) := by
    unfold labelLine
    cases hfilter : p.label.filter (· ≠ p.name) with
    | none => decide
    | some label =>
      have hmem : label ∈ p.label := (Option.filter_eq_some_iff.mp hfilter).1
      simp +decide [hp.label label hmem]
  cases hinout : p.isInout <;>
    simp +decide [parameterLine, hinout, hlabel, hp.name, Text.isLine_trimmed hp.type]

theorem isLine_resultLine {returnType : Option String} (h : ∀ t ∈ returnType, Text.IsLine t) :
    Text.IsLine (resultLine returnType) := by
  unfold resultLine
  cases hfilter : returnType.filter (· ≠ "") with
  | none => decide
  | some type =>
    have hmem : type ∈ returnType := (Option.filter_eq_some_iff.mp hfilter).1
    simp +decide [Text.isLine_trimmed (h type hmem)]

theorem requirementModifier?_allowed {modifier : Json} {m : String}
    (h : requirementModifier? modifier = some m) : m ∈ allowedModifiers := by
  unfold requirementModifier? at h
  split at h
  · cases h
    decide
  · exact List.mem_of_find?_eq_some h

/-- Whatever the modifiers of a method are, only allowed ones get into its requirement. -/
theorem modifiersFrom_allowed {found : List String} (h : ∀ m ∈ found, m ∈ allowedModifiers)
    (modifiers : List Json) : ∀ m ∈ modifiersFrom found modifiers, m ∈ allowedModifiers := by
  induction modifiers generalizing found with
  | nil => exact h
  | cons modifier modifiers ih =>
    rw [modifiersFrom]
    split
    · rename_i m hm
      apply ih
      split
      · exact h
      · rw [List.forall_mem_append]
        exact ⟨h, by simpa using requirementModifier?_allowed hm⟩
    · exact ih h

theorem isLine_requirementLine {m : Method String} (hm : IsLineMethod m) :
    Text.IsLine (requirementLine m) := by
  have hmodifiers : ∀ w ∈ requirementModifiers (m.modifiers.map .text), Text.IsLine w := by
    have hallowed : ∀ w ∈ allowedModifiers, Text.IsLine w := by decide
    exact fun w hw => hallowed w (modifiersFrom_allowed (by simp) _ w hw)
  have hparameters : Text.IsLine (", ".intercalate (m.parameters.map parameterLine)) := by
    apply Text.isLine_intercalate (by decide)
    simpa using fun p hp => isLine_parameterLine (hm.parameters p hp)
  have hclause : Text.IsLine (m.genericClause.getD "") := by
    cases hclause : m.genericClause with
    | none => decide
    | some clause => exact hm.genericClause clause hclause
  have hsignature : Text.IsLine (signatureLine m) := by
    simp +decide [signatureLine, hm.name, hclause, hparameters]
  rw [requirementLine, Text.isLine_append]
  refine ⟨Text.isLine_intercalate (by decide) ?_, isLine_resultLine hm.returnType⟩
  simp only [List.forall_mem_append, List.forall_mem_singleton]
  exact ⟨⟨hmodifiers, hsignature⟩, hm.effects⟩

/-! The extraction as a whole. -/

/-- Whether an interface can be written: there is nothing to indent, or the indentation can be
built. -/
def IsWritable [Memory] (s : Settings) (d : Declaration String) : Prop :=
  d.typedProperties = [] ∧ d.requiredMethods = [] ∨ s.CanIndent

def interfaceHeader (s : Settings) (d : Declaration String) : String :=
  "public protocol " ++ (d.name ++ s.interfaceSuffix) ++ ": " ++ s.interfaceBase

def interfaceText (s : Settings) (d : Declaration String) : String :=
  bodyText (interfaceHeader s d)
    (indentedSections (d.typedProperties.map propertyLine) (d.requiredMethods.map requirementLine)
      s.spaces)

theorem propertyLines_exposedProperties (name : String) (d : Declaration String) :
    propertyLines name (d.map .text).exposedProperties =
      ⟨d.untypedProperties.map fun p => .report .warning (untypedWarning name p),
        .ok (d.typedProperties.map propertyLine)⟩ := by
  rw [Declaration.exposedProperties_map, propertyLines_map,
    Declaration.filter_exposedProperties_untyped, Declaration.filterMap_exposedProperties_typed]

theorem outcome_extract_map [Memory] {s : Settings} {d : Declaration String}
    {g : GeneratedDeclaration} :
    (extract s (d.map .text)).outcome = .ok g ↔ IsWritable s d ∧ g = ⟨.peer, interfaceText s d⟩ := by
  have hheader : headerText s (d.map .text) = interfaceHeader s d := rfl
  have hsections {sections : List String} :
      sectionTexts s (d.typedProperties.map propertyLine) (d.requiredMethods.map requirementLine) =
        .ok sections ↔ IsWritable s d ∧ sections = indentedSections
          (d.typedProperties.map propertyLine) (d.requiredMethods.map requirementLine) s.spaces := by
    rw [sectionTexts_eq_ok, List.map_eq_nil_iff, List.map_eq_nil_iff, IsWritable]
  rw [extract, propertyLines_exposedProperties, requirementTexts_map, hheader]
  simp only [Logged.outcome_bind_eq_ok, Logged.outcome_liftM, Logged.outcome_pure,
    Draft.outcome_debug, Except.ok.injEq, exists_eq_left', hsections]
  constructor
  · rintro ⟨_, ⟨hwritable, rfl⟩, _, -, rfl⟩
    exact ⟨hwritable, rfl⟩
  · rintro ⟨hwritable, rfl⟩
    exact ⟨_, ⟨hwritable, rfl⟩, (), trivial, rfl⟩

theorem diagnostics_extract_map [Memory] (s : Settings) (d : Declaration String) (span : Span) :
    (extract s (d.map .text)).diagnostics span = d.untypedProperties.map fun p =>
      ⟨.warning, untypedWarning (d.name ++ s.interfaceSuffix) p, span⟩ := by
  have hname : interfaceName s (d.map .text) = d.name ++ s.interfaceSuffix := rfl
  rw [extract, propertyLines_exposedProperties, requirementTexts_map, Draft.diagnostics_bind]
  · rw [Draft.diagnostics, List.filterMap_map, hname, ← List.filterMap_eq_map]
    rfl
  · intro properties
    rw [Logged.liftM_ok_bind, Draft.diagnostics_bind fun _ => rfl]
    rfl

theorem lines_interfaceText {s : Settings} {d : Declaration String} (h : SingleLineSurface s d) :
    Text.lines (interfaceText s d) = interfaceLines (interfaceHeader s d)
      (d.typedProperties.map propertyLine) (d.requiredMethods.map requirementLine) s.spaces := by
  have hheader : Text.IsLine (interfaceHeader s d) := by
    have hwords : Text.IsLine "public protocol " := by decide +kernel
    have hcolon : Text.IsLine ": " := by decide
    unfold interfaceHeader
    simp only [Text.isLine_append]
    exact ⟨⟨⟨hwords, h.name, h.suffix⟩, hcolon⟩, h.base⟩
  have hindent : Text.IsLine s.spaces := isLine_spaces _
  rw [interfaceText, lines_bodyText hheader hindent]
  · rw [List.forall_mem_map]
    exact fun p hp => isLine_propertyLine (h.properties p hp).1 (h.properties p hp).2
  · rw [List.forall_mem_map]
    exact fun m hm => isLine_requirementLine (h.methods m hm)

/-- The interface of a class that keeps to the format, wherever it can be written: one declaration
beside the class, with a line for each property that has a type and a requirement for each method,
both in the order of the declaration. All that is reported is one warning for each property that has
no type, in order. -/
theorem expand_accounts_members [Memory] {s : Settings} {name : String} {r : Request Json}
    {d : Declaration String} (hd : r.declaration = some (d.map .text))
    (hclass : d.kind = .referenceType) (hlines : SingleLineSurface s d) :
    let draft := Rule.interface.expand name s r
    ∃ requirements text,
      List.Forall₂ (fun m line => requirementText (m.map .text) = .ok line) d.requiredMethods
        requirements ∧
      (∀ out, draft.outcome = .ok out ↔
        IsWritable s d ∧ out = { expression := none, declarations := [⟨.peer, text⟩] }) ∧
      Text.lines text = interfaceLines
        ("public protocol " ++ (d.name ++ s.interfaceSuffix) ++ ": " ++ s.interfaceBase)
        (d.typedProperties.map propertyLine) requirements s.spaces ∧
      draft.diagnostics r.span = d.untypedProperties.map fun p =>
        ⟨.warning, "property '" ++ p.name ++ "' has no type annotation and was left out of " ++
          (d.name ++ s.interfaceSuffix), r.span⟩ := by
  intro draft
  have hdraft : draft = (do return { declarations := [← extract s (d.map .text)] }) := by
    have hexpand : draft = expand s (d.map .text) := Rule.attachedDeclaration_bind hd _
    have hkind : (d.map Json.text).kind = .referenceType := hclass
    rw [hexpand, expand, hkind]
  refine ⟨d.requiredMethods.map requirementLine, interfaceText s d, ?_, fun out => ?_,
    lines_interfaceText hlines, ?_⟩
  · rw [List.forall₂_map_right_iff, List.forall₂_same]
    exact fun m _ => requirementText_map m
  · simp only [hdraft, Logged.outcome_bind_eq_ok, outcome_extract_map, Logged.outcome_pure,
      Except.ok.injEq]
    constructor
    · rintro ⟨_, ⟨hwritable, rfl⟩, rfl⟩
      exact ⟨hwritable, rfl⟩
    · rintro ⟨hwritable, rfl⟩
      exact ⟨_, ⟨hwritable, rfl⟩, rfl⟩
  · rw [hdraft, Draft.diagnostics_bind fun _ => rfl, diagnostics_extract_map]
    rfl

/-- A class whose members go all the ways that there are. -/
def mixedClass : Declaration String :=
  ⟨.referenceType, "Store", ["Base"],
    [.property ⟨"cache", none, .internalLevel, false, false⟩,
      .method ⟨"find", [⟨"id", " Int", some "by", some "0", false⟩], .openLevel, true,
        some "Item? ", ["class", "final"], ["throws"], some "<T>", false⟩,
      .property ⟨"shared", some " Store ", .publicLevel, true, false⟩,
      .property ⟨"secret\n", some "Key", .privateLevel, false, false⟩,
      .method ⟨"init", [], .publicLevel, true, none, [], [], none, false⟩,
      .property ⟨"size", some "Int", .internalLevel, false, true⟩,
      .property ⟨"rest", some "", .fileprivateLevel, false, false⟩,
      .method ⟨"fill", [⟨"box", "Box", some "box", none, true⟩], .internalLevel, true, none, [], [],
        none, false⟩]⟩

def mixedRequest : Request Json :=
  ⟨.text "InterfaceGen", [], some (mixedClass.map .text), .unreported⟩

open scoped Memory in
theorem expand_accounts_members_mixedClass :
    let draft := Rule.interface.expand "InterfaceGen" {} mixedRequest
    (∃ text, draft.outcome = .ok { declarations := [⟨.peer, text⟩] } ∧ Text.lines text =
      ["public protocol StoreInterface: AnyObject \x7b",
        "    static var shared: Store \x7b get \x7d",
        "    var size: Int \x7b get \x7d",
        "",
        "    static func find<T>(by id: Int) throws -> Item?",
        "    func fill(box: inout Box)",
        "\x7d"]) ∧
    draft.diagnostics .unreported =
      [⟨.warning, "property 'cache' has no type annotation and was left out of StoreInterface",
          .unreported⟩,
        ⟨.warning, "property 'rest' has no type annotation and was left out of StoreInterface",
          .unreported⟩] := by
  intro draft
  have hlines : SingleLineSurface {} mixedClass := by decide +kernel
  obtain ⟨requirements, text, hrequirements, houtcome, htext, hdiagnostics⟩ :=
    @expand_accounts_members _ {} "InterfaceGen" mixedRequest mixedClass rfl rfl hlines
  have htexts : mixedClass.requiredMethods.mapM (fun m => requirementText (m.map .text)) =
      .ok ["static func find<T>(by id: Int) throws -> Item?", "func fill(box: inout Box)"] := rfl
  cases (Except.mapM_eq_ok.mpr hrequirements).symm.trans htexts
  exact ⟨⟨text, (houtcome _).mpr ⟨.inr ⟨_, rfl⟩, rfl⟩, htext⟩, hdiagnostics⟩

open scoped Memory in
/-- A class with a single method gets no interface under settings that are accepted and ask for more
blanks than can be counted. -/
theorem expand_accounts_members_fails_wideIndent :
    let s := (Settings.assess [("indent_size", .int 0x8000000000000000)]).1
    let d : Declaration String := ⟨.referenceType, "A", [],
      [.method ⟨"f", [], .internalLevel, true, none, [], [], none, false⟩]⟩
    SingleLineSurface s d ∧ d.requiredMethods ≠ [] ∧
      (Rule.interface.expand "InterfaceGen" s
        ⟨.text "InterfaceGen", [], some (d.map .text), .unreported⟩).outcome =
          .error .indentTooLarge := by
  exact ⟨by decide +kernel, by decide +kernel, rfl⟩

end Interface

end SwiftExpansion
