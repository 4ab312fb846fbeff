import Mathlib.Data.List.Forall2
import SwiftExpansion.Proofs.Config.Settings
import SwiftExpansion.Proofs.Declaration
import SwiftExpansion.Proofs.Literal.Isolation
import SwiftExpansion.Proofs.Mapping.Outcome
import SwiftExpansion.Proofs.Render

/-!
# The text of a mapping function

What stands on the lines of a generated mapping function, for declarations that keep to the format:
the header, the call of the superclass where there is one, and one binding for each property that
can be bound, in the order of the declaration. Keys are compared by what their literals read as, not
by how they are spelled. A name or a setting with a line end in it would break a line in two, so
there is none in them.
-/
namespace SwiftExpansion.Mapping

/-- The settings that a mapping function is written from hold no line ends. -/
structure SingleLineSettings (s : Settings) : Prop where
  function : Text.IsLine s.mappingFunction
  parameter : Text.IsLine s.decoderParameter
  type : Text.IsLine s.decoderType
  operator : Text.IsLine s.bindOperator

/-- A statement that binds a property to the key of its name. -/
def Binds (s : Settings) (p : Property String) (statement : String) : Prop :=
  ∃ key, Literal.read key = .ok (some p.name) ∧
    statement = p.name ++ " " ++ s.bindOperator ++ " " ++ s.decoderParameter ++ "[" ++ key ++ "]"

def bindingLine (s : Settings) (p : Property String) : String :=
  p.name ++ " " ++ s.bindOperator ++ " " ++ s.decoderParameter ++ "[" ++ Literal.write p.name ++ "]"

theorem binds_bindingLine (s : Settings) (p : Property String) : Binds s p (bindingLine s p) := by
  refine ⟨Literal.write p.name, ?_, rfl⟩
  rw [Literal.write, Literal.read_encode, String.ofList_toList]

theorem isLine_write (s : String) : Text.IsLine (Literal.write s) := by
  have h := (Literal.single_line_encode s.toList).2
  simpa [Text.IsLine, Literal.write] using h

theorem isLine_bindingLine {s : Settings} (hs : SingleLineSettings s) {p : Property String}
    (hp : Text.IsLine p.name) : Text.IsLine (bindingLine s p) := by
  simp +decide [bindingLine, hp, hs.operator, hs.parameter, isLine_write]

theorem isLine_functionHeader {s : Settings} (hs : SingleLineSettings s) {shape : Shape}
    (hwords : Text.IsLine shape.mappingWords) : Text.IsLine (functionHeader s shape) := by
  simp +decide [functionHeader, parameterText, hwords, hs.function, hs.parameter, hs.type]

theorem isLine_delegation {s : Settings} (hs : SingleLineSettings s) (shape : Shape) :
    ∀ t ∈ delegation s shape s.mappingFunction, Text.IsLine t := by
  intro t ht
  unfold delegation at ht
  split at ht
  · rw [List.mem_singleton.mp ht]
    simp +decide [hs.function, hs.parameter]
  · cases ht

/-- A declaration that keeps to the format is bound without a fault, property by property. -/
theorem bindingTexts_map (s : Settings) (d : Declaration String) :
    bindingTexts s (d.map .text) = .ok (d.boundProperties.map (bindingLine s)) := by
  rw [bindingTexts, Declaration.mappableProperties_map,
    Declaration.mappableProperties_eq_boundProperties, List.mapM_map]
  exact List.mapM_pure

/-- Whether a generated declaration is a function of the declaration that has the shape. -/
def IsFunction (shape : Shape) (g : GeneratedDeclaration) : Prop :=
  g.role = .member ∧ (shape.mappingWords ++ "func ").toList <+: g.text.toList

/-- An initializer is no function: the two already differ in their first character. -/
theorem not_isFunction_initializer (s : Settings) (kind : DeclarationKind) (isSubclass : Bool)
    (statements : List String) (indent : String) :
    ¬ IsFunction (shapeFor kind isSubclass)
      ⟨.member,
        Render.block (initializerHeader s (shapeFor kind isSubclass)) statements indent⟩ := by
  rintro ⟨-, rest, hrest⟩
  obtain ⟨more, hmore⟩ :=
    Render.block_eq_append (initializerHeader s (shapeFor kind isSubclass)) statements indent
  simp only [hmore, String.toList_append] at hrest
  unfold shapeFor initializerHeader at hrest
  split at hrest
  · simp at hrest
  · cases isSubclass <;> simp at hrest

/-- A function among the generated declarations is the block of a header, the call of the superclass
and the bindings. -/
theorem isFunction_text [Memory] {s : Settings} {r : Request Json} {d : Declaration String}
    {out : Output}
    {g : GeneratedDeclaration} (hout : (expand s r (d.map .text)).outcome = .ok out)
    (hg : g ∈ out.declarations)
    (hfunction : IsFunction (shapeFor d.kind (isSubclassRequested r.arguments)) g) :
    ∃ indent, isRefused r (d.map .text) = false ∧ s.indent = .ok indent ∧
      g.text = Render.block (functionHeader s (shapeFor d.kind (isSubclassRequested r.arguments)))
        (delegation s (shapeFor d.kind (isSubclassRequested r.arguments)) s.mappingFunction ++
          d.boundProperties.map (bindingLine s)) indent := by
  rcases expand_eq_ok.mp hout with ⟨-, rfl⟩ | ⟨hrefused, l, hl, rfl⟩
  · cases hg
  obtain ⟨first, hfirst, second, hsecond, third, hthird, rfl⟩ := synthesize_eq_ok.mp hl
  rcases List.mem_append.mp hg with hg | hg
  · rcases List.mem_append.mp hg with hg | hg
    · rcases initializer_eq_ok.mp hfirst with ⟨-, rfl⟩ | ⟨-, indent, -, rfl⟩
      · cases hg
      · rw [List.mem_singleton.mp hg] at hfunction
        exact absurd hfunction (not_isFunction_initializer s _ _ _ _)
    · rcases mappingFunction_eq_ok.mp hsecond with ⟨-, rfl⟩ | ⟨-, bindings, hb, indent, hi, rfl⟩
      · cases hg
      · rw [bindingTexts_map] at hb
        cases hb
        exact ⟨indent, hrefused, hi, by rw [List.mem_singleton.mp hg]; rfl⟩
  · rw [IsFunction, conformance_role hthird g hg] at hfunction
    exact absurd hfunction.1 (by decide)

theorem isFunction_block (s : Settings) (shape : Shape) (statements : List String)
    (indent : String) :
    IsFunction shape ⟨.member, Render.block (functionHeader s shape) statements indent⟩ := by
  obtain ⟨more, hmore⟩ := Render.block_eq_append (functionHeader s shape) statements indent
  refine ⟨rfl, s.mappingFunction.toList ++ ((parameterText s).toList ++ more.toList), ?_⟩
  rw [hmore]
  simp [functionHeader]

/-- A function is generated for every declaration that is not refused and does not have one. -/
theorem exists_isFunction [Memory] {s : Settings} {r : Request Json} {d : Declaration Json}
    {out : Output}
    (hout : (expand s r d).outcome = .ok out) (hrefused : isRefused r d = false)
    (hnew : hasMappingFunction s d = .ok false) :
    ∃ g ∈ out.declarations, IsFunction (shapeFor d.kind (isSubclassRequested r.arguments)) g := by
  rcases expand_eq_ok.mp hout with ⟨hcontra, -⟩ | ⟨-, l, hl, rfl⟩
  · rw [hrefused] at hcontra
    cases hcontra
  obtain ⟨first, -, second, hsecond, third, -, rfl⟩ := synthesize_eq_ok.mp hl
  rcases mappingFunction_eq_ok.mp hsecond with ⟨hfound, -⟩ | ⟨-, bindings, -, indent, -, rfl⟩
  · rw [hnew] at hfound
    cases hfound
  · have hfunction := isFunction_block s (shapeFor d.kind (isSubclassRequested r.arguments))
      (delegation s (shapeFor d.kind (isSubclassRequested r.arguments)) s.mappingFunction ++
        bindings) indent
    exact ⟨_, by simp, hfunction⟩

theorem indent_eq_spaces [Memory] {s : Settings} {indent : String} (h : s.indent = .ok indent) :
    indent = String.ofList (List.replicate s.indentSize ' ') :=
  (Settings.indent_eq_ok.mp h).2

theorem isLine_mappingWords (kind : DeclarationKind) (isSubclass : Bool) :
    Text.IsLine (shapeFor kind isSubclass).mappingWords := by
  cases kind <;> cases isSubclass <;> decide

theorem delegation_shapeFor (s : Settings) {r : Request Json} {d : Declaration String}
    (h : isRefused r (d.map .text) = false) (method : String) :
    delegation s (shapeFor d.kind (isSubclassRequested r.arguments)) method =
      if d.kind = .referenceType ∧ isSubclassRequested r.arguments then
        ["super." ++ method ++ "(" ++ s.decoderParameter ++ ": " ++ s.decoderParameter ++ ")"]
      else [] := by
  unfold isRefused Declaration.map at h
  cases hkind : d.kind <;> simp_all [delegation, shapeFor]

/-- Where a declaration is not refused and has no mapping function yet, there is one among what is
generated. Its lines are the header, then the call of the superclass, which is there exactly for a
class that is declared a subclass, then one binding for each property that is neither private nor
computed nor static, in declaration order. -/
theorem mappingFunction_lines [Memory] {s : Settings} {name : String} {r : Request Json}
    {d : Declaration String} {out : Output} (hd : r.declaration = some (d.map .text))
    (hs : SingleLineSettings s) (hnames : ∀ p ∈ d.properties, Text.IsLine p.name)
    (hout : (Rule.mapping.expand name s r).outcome = .ok out) :
    let shape := shapeFor d.kind (isSubclassRequested r.arguments)
    (isRefused r (d.map .text) = false → hasMappingFunction s (d.map .text) = .ok false →
      ∃ g ∈ out.declarations, IsFunction shape g) ∧
    ∀ g ∈ out.declarations, IsFunction shape g →
      ∃ bindings, List.Forall₂ (Binds s) d.boundProperties bindings ∧
        Text.lines g.text = Render.blockLines
          (shape.mappingWords ++ "func " ++ s.mappingFunction ++
            "(" ++ s.decoderParameter ++ ": " ++ s.decoderType ++ ")")
          ((if d.kind = .referenceType ∧ isSubclassRequested r.arguments then
            ["super." ++ s.mappingFunction ++ "(" ++ s.decoderParameter ++ ": " ++
              s.decoderParameter ++ ")"]
            else []) ++ bindings)
          (String.ofList (List.replicate s.indentSize ' ')) := by
  have hexpand : (expand s r (d.map .text)).outcome = .ok out := by
    simpa [Rule.expand, Rule.attachedDeclaration, hd] using hout
  refine ⟨exists_isFunction hexpand, fun g hg hfunction => ?_⟩
  obtain ⟨indent, hrefused, hindent, htext⟩ := isFunction_text hexpand hg hfunction
  have hbound : ∀ p ∈ d.boundProperties, Text.IsLine p.name := by
    intro p hp
    rw [← Declaration.mappableProperties_eq_boundProperties] at hp
    exact hnames p (List.mem_of_mem_filter (List.mem_of_mem_filter hp))
  refine ⟨d.boundProperties.map (bindingLine s), ?_, ?_⟩
  · rw [List.forall₂_map_right_iff, List.forall₂_same]
    exact fun p _ => binds_bindingLine s p
  · have hheader := isLine_functionHeader hs
      (isLine_mappingWords d.kind (isSubclassRequested r.arguments))
    rw [htext, indent_eq_spaces hindent, ← delegation_shapeFor s hrefused]
    rw [Render.lines_block hheader (isLine_spaces _)]
    · simp [functionHeader, parameterText, String.append_assoc]
    · intro t ht
      rcases List.mem_append.mp ht with ht | ht
      · exact isLine_delegation hs _ t ht
      · obtain ⟨p, hp, rfl⟩ := List.mem_map.mp ht
        exact isLine_bindingLine hs (hbound p hp)

def quotedClass : Declaration String :=
  ⟨.referenceType, "A", ["B"],
    [.property ⟨"p", none, .privateLevel, false, false⟩,
      .property ⟨"a\"#", none, .publicLevel, false, false⟩,
      .method ⟨"f", [], .internalLevel, true, none, [], [], none, false⟩,
      .property ⟨"s", none, .internalLevel, true, false⟩,
      .property ⟨"b", none, .internalLevel, false, false⟩]⟩

def shortSettings : Settings :=
  { decoderType := "M", decoderParameter := "m", mappingFunction := "bind", indentSize := 2 }

def subclassRequest : Request Json :=
  ⟨.text "Mappable",
    [⟨⟨.booleanLiteral, .text "true", some (.text "true"), none⟩, some (.text "isSubclass")⟩],
    some (quotedClass.map .text), .unreported⟩

def boundFunction : GeneratedDeclaration :=
  ⟨.member, "override func bind(m: M) \x7b\n  super.bind(m: m)\n" ++
    "  a\"# <- m[##\"a\"#\"##]\n  b <- m[\"b\"]\n\x7d"⟩

def boundOutput : Output :=
  { declarations :=
      [⟨.member, "required init?(m: M) \x7b\n  super.init(m: m)\n\x7d"⟩, boundFunction] }

open scoped Memory in
theorem mappingFunction_lines_quotedClass :
    (Rule.mapping.expand "Mappable" shortSettings subclassRequest).outcome = .ok boundOutput ∧
      boundFunction ∈ boundOutput.declarations ∧
      ∃ bindings, List.Forall₂ (Binds shortSettings) quotedClass.boundProperties bindings ∧
        Text.lines boundFunction.text =
          Render.blockLines "override func bind(m: M)" ("super.bind(m: m)" :: bindings) "  " := by
  have hout : (Rule.mapping.expand "Mappable" shortSettings subclassRequest).outcome =
      .ok boundOutput := by
    rfl
  have hg : boundFunction ∈ boundOutput.declarations := by simp [boundOutput]
  have hsub : isSubclassRequested subclassRequest.arguments = true := by decide
  have hshape : shapeFor quotedClass.kind (isSubclassRequested subclassRequest.arguments) =
      ⟨"required ", "override ", true⟩ := by
    rw [hsub]
    rfl
  have hfunction : IsFunction (shapeFor quotedClass.kind
      (isSubclassRequested subclassRequest.arguments)) boundFunction := by
    rw [hshape]
    exact ⟨rfl, by decide +kernel⟩
  have hnames : ∀ p ∈ quotedClass.properties, Text.IsLine p.name := by decide
  have hs : SingleLineSettings shortSettings := ⟨by decide, by decide, by decide, by decide⟩
  obtain ⟨bindings, hbindings, hlines⟩ :=
    (mappingFunction_lines (d := quotedClass) rfl hs hnames hout).2 boundFunction hg hfunction
  refine ⟨hout, hg, bindings, hbindings, ?_⟩
  rw [hshape, hsub] at hlines
  simpa [quotedClass, shortSettings] using hlines

end SwiftExpansion.Mapping
