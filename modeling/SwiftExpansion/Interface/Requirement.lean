import SwiftExpansion.Declaration.Basic
import SwiftExpansion.Json.Access
import SwiftExpansion.Json.Equality
import SwiftExpansion.Text.Blank

/-!
# Requirements of an interface

A method as a requirement: its signature without a body, without defaults, and with only those
modifiers that keep their meaning on a requirement.
-/
namespace SwiftExpansion.Interface

/-- The names and the type of a parameter. The label is left out when it equals the name. -/
def parameterText (p : Parameter Json) : Except Fault String := do
  let names := match p.label with
    | some label =>
      if label.same p.name then p.name.display else label.display ++ " " ++ p.name.display
    | none => p.name.display
  let type ← p.type.textFor "strip"
  return names ++ ": " ++ (if p.isInout then "inout " else "") ++ Text.trimmed type

def allowedModifiers : List String :=
  ["static", "mutating", "nonmutating"]

/-- The modifier of a requirement for a modifier of a method: a class method is a static one. -/
def requirementModifier? (modifier : Json) : Option String :=
  if modifier.isText "class" then some "static"
  else allowedModifiers.find? fun m => modifier.isText m

/-- Each modifier once, at the place where it comes first. -/
def modifiersFrom (found : List String) : List Json → List String
  | [] => found
  | modifier :: modifiers =>
    match requirementModifier? modifier with
    | some m => modifiersFrom (if m ∈ found then found else found ++ [m]) modifiers
    | none => modifiersFrom found modifiers

def requirementModifiers (modifiers : List Json) : List String :=
  modifiersFrom [] modifiers

def joinable (index : Nat) : List Json → Except Fault (List String)
  | [] => .ok []
  | .text s :: items => do return s :: (← joinable (index + 1) items)
  | j :: _ => .error (j.misused (.joining index))

def resultText (returnType : Option Json) : Except Fault String :=
  match returnType.filter Json.isTruthy with
  | some type => do return " -> " ++ Text.trimmed (← type.textFor "strip")
  | none => .ok ""

def clauseText (genericClause : Option Json) : String :=
  ((genericClause.filter Json.isTruthy).map Json.display).getD ""

def requirementText (m : Method Json) : Except Fault String := do
  let parameters ← m.parameters.mapM parameterText
  let signature := "func " ++ m.name.display ++ clauseText m.genericClause ++
    "(" ++ ", ".intercalate parameters ++ ")"
  let effects ← joinable 0 m.effects
  let result ← resultText m.returnType
  return " ".intercalate (requirementModifiers m.modifiers ++ [signature] ++ effects) ++ result

end SwiftExpansion.Interface
