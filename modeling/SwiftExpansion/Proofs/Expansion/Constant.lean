import SwiftExpansion.Proofs.Expansion.Breach
import SwiftExpansion.Proofs.Literal.RoundTrip
import SwiftExpansion.Proofs.Render.CamelCase

/-!
# How a constant is named

A constant is declared for every content that is not blank, with a literal that reads back as the
content. Its name is the content in camel case. Underscores do not become part of a name, but they
are not blank either: a content of nothing but underscores and blanks is accepted, and its constant
is declared without a name.
-/
namespace SwiftExpansion.Expansion

theorem isSpacingProperty_not_blank :
    Text.IsSpacingProperty fun c => Text.isBlank c = false := by
  intro c d h
  simp only [h.blank]

theorem isBlankText_eq_false {cs : List Char} :
    Text.isBlankText cs = false ↔ ∃ c ∈ cs, Text.isBlank c = false := by
  simp [Text.isBlankText]

theorem constant_eq_ok {r : Request Json} {content : String}
    (h : r.content? = some (.text content)) {out : Output} :
    (constant r).outcome = .ok out ↔ (∃ c ∈ content.toList, Text.isBlank c = false) ∧
      out = { declarations := [⟨.freestanding, constantText content⟩] } := by
  rw [constant_of_some h, Json.textFor, ← isBlankText_eq_false]
  cases hblank : Text.isBlankText content.toList with
  | true => simp [bind, Except.bind, hblank]
  | false => simp [bind, Except.bind, hblank, eq_comm]

/-- The declaration of a constant, for every content. There is one exactly if the content is not
blank; its literal reads back as the content, and its name is the content in camel case. This name
has a character other than a blank exactly if the content has one that is no underscore either. -/
theorem constant_named_iff [Memory] {r : Request Json} {content : String}
    (h : r.content? = some (.text content)) (name : String) (s : Settings) :
    ∃ literal, Literal.read literal = .ok (some content) ∧
      (∀ out, (Rule.constant.expand name s r).outcome = .ok out ↔
        (∃ c ∈ content.toList, Text.isBlank c = false) ∧
          out = { declarations := [⟨.freestanding,
            "static let " ++ Render.camelCase content ++ " = " ++ literal⟩] }) ∧
      ((∃ c ∈ (Render.camelCase content).toList, Text.isBlank c = false) ↔
        ∃ c ∈ content.toList, c ≠ '_' ∧ Text.isBlank c = false) := by
  have hread : Literal.read (Literal.write content) = .ok (some content) := by
    rw [Literal.write, Literal.read_encode, String.ofList_toList]
  exact ⟨Literal.write content, hread, fun out => constant_eq_ok h,
    Render.exists_mem_camelCase isSpacingProperty_not_blank content⟩

def constantRequest (content : String) : Request Json :=
  ⟨.text "Constant", [⟨⟨.stringLiteral, .text "", some (.text content), none⟩, none⟩], none,
    .unreported⟩

open scoped Memory

/-- A content that starts with an underscore and becomes longer in its name. -/
theorem constant_named_iff_sharpS :
    (∃ literal, Literal.read literal = .ok (some "_ß\t") ∧
      (Rule.constant.expand "Constant" {} (constantRequest "_ß\t")).outcome =
        .ok { declarations := [⟨.freestanding, "static let Ss\t = " ++ literal⟩] }) ∧
    ∃ c ∈ (Render.camelCase "_ß\t").toList, Text.isBlank c = false := by
  have hcontent : (constantRequest "_ß\t").content? = some (.text "_ß\t") := rfl
  obtain ⟨literal, hread, hdeclared, hnamed⟩ := constant_named_iff hcontent "Constant" {}
  have hname : Render.camelCase "_ß\t" = "Ss\t" := by decide +kernel
  rw [hname] at hdeclared
  refine ⟨⟨literal, hread, (hdeclared _).mpr ⟨⟨'ß', by decide, by decide⟩, rfl⟩⟩, ?_⟩
  exact hnamed.mpr ⟨'ß', by decide, by decide, by decide⟩

/-- Nothing but underscores is accepted as a content and leaves no name. -/
theorem constant_unnamed_underscores :
    (Rule.constant.expand "Constant" {} (constantRequest "__")).outcome =
        .ok { declarations := [⟨.freestanding, "static let  = \"__\""⟩] } ∧
      Render.camelCase "__" = "" := by
  exact ⟨rfl, rfl⟩

end SwiftExpansion.Expansion
