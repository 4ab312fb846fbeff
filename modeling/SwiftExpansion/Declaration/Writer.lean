import SwiftExpansion.Declaration.Basic
import SwiftExpansion.Json.Basic

/-!
# Writing type declarations

The canonical document of a declaration that keeps to the format: every key is written, and an
optional text that is not there is written as null.
-/
namespace SwiftExpansion

def Json.ofTexts (ss : List String) : Json :=
  .list (ss.map .text)

def Json.ofOptionalText : Option String → Json
  | some s => .text s
  | none => .null

def Parameter.toJson (p : Parameter String) : Json :=
  .object [
    ("name", .text p.name),
    ("type", .text p.type),
    ("label", .ofOptionalText p.label),
    ("default", .ofOptionalText p.defaultValue),
    ("inout", .bool p.isInout)]

def Property.toJson (p : Property String) : Json :=
  .object [
    ("member", .text "field"),
    ("name", .text p.name),
    ("type", .ofOptionalText p.type),
    ("visibility", .text p.visibility.keyword),
    ("static", .bool p.isStatic),
    ("computed", .bool p.isComputed)]

def Method.toJson (m : Method String) : Json :=
  .object [
    ("member", .text "function"),
    ("name", .text m.name),
    ("parameters", .list (m.parameters.map Parameter.toJson)),
    ("visibility", .text m.visibility.keyword),
    ("has_body", .bool m.hasBody),
    ("return_type", .ofOptionalText m.returnType),
    ("modifiers", .ofTexts m.modifiers),
    ("effects", .ofTexts m.effects),
    ("generic_clause", .ofOptionalText m.genericClause),
    ("failable", .bool m.isFailable)]

def Member.toJson : Member String → Json
  | .property p => p.toJson
  | .method m => m.toJson

def Declaration.toJson (d : Declaration String) : Json :=
  .object [
    ("kind", .text d.kind.keyword),
    ("name", .text d.name),
    ("inherits", .ofTexts d.inherits),
    ("members", .list (d.members.map Member.toJson))]

end SwiftExpansion
