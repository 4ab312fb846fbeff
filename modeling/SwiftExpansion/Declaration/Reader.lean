import SwiftExpansion.Declaration.Basic
import SwiftExpansion.Json.Access

/-!
# Reading type declarations

Declarations come as objects with fixed keys. A missing required key and an unknown tag are
refused; the value under a key is taken as it is, whatever its type. Keys are read in a fixed
order, and the first fault ends the reading.
-/
namespace SwiftExpansion

def Json.flag (data : Json) (key : String) (default : Bool) : Except Fault Bool := do
  return (← data.getD key (.bool default)).isTruthy

/-- The elements of the sequence under a key; none if the key is absent. -/
def Json.sequence (data : Json) (key : String) : Except Fault (List Json) := do
  (← data.getD key (.list [])).elements

def DeclarationKind.ofJson? (j : Json) : Option DeclarationKind :=
  all.find? fun k => j.isText k.keyword

def Visibility.ofJson? (j : Json) : Option Visibility :=
  all.find? fun v => j.isText v.keyword

/-- The visibility of a member; members are internal unless they say otherwise. -/
def Visibility.read (data : Json) : Except Fault Visibility := do
  let value ← data.getD "visibility" (.text internalLevel.keyword)
  match ofJson? value with
  | some v => return v
  | none => .error (.unknown "visibility" value)

def Parameter.read (data : Json) : Except Fault (Parameter Json) := do
  let name ← data.require "name" "Parameter"
  let type ← data.require "type" "Parameter"
  let label ← data.getNonNull? "label"
  let defaultValue ← data.getNonNull? "default"
  let isInout ← data.flag "inout" false
  return ⟨name, type, label, defaultValue, isInout⟩

def Property.read (data : Json) : Except Fault (Property Json) := do
  let name ← data.require "name" "Field"
  let type ← data.getNonNull? "type"
  let visibility ← Visibility.read data
  let isStatic ← data.flag "static" false
  let isComputed ← data.flag "computed" false
  return ⟨name, type, visibility, isStatic, isComputed⟩

def Method.read (data : Json) : Except Fault (Method Json) := do
  let name ← data.require "name" "Function"
  let parameters ← (← data.sequence "parameters").mapM Parameter.read
  let visibility ← Visibility.read data
  let hasBody ← data.flag "has_body" true
  let returnType ← data.getNonNull? "return_type"
  let modifiers ← data.sequence "modifiers"
  let effects ← data.sequence "effects"
  let genericClause ← data.getNonNull? "generic_clause"
  let isFailable ← data.flag "failable" false
  return ⟨name, parameters, visibility, hasBody, returnType, modifiers, effects, genericClause,
    isFailable⟩

def Member.read (data : Json) : Except Fault (Member Json) := do
  let tag ← data.getD "member" .null
  if tag.isText "field" then return .property (← Property.read data)
  else if tag.isText "function" then return .method (← Method.read data)
  else .error (.unknown "member type" tag)

/-- The kind of a declaration. A missing kind is an unknown one. -/
def DeclarationKind.read (data : Json) : Except Fault DeclarationKind := do
  let value ←
    if ← data.contains "kind" then data.require "kind" "Declaration"
    else data.getD "kind" .null
  match ofJson? value with
  | some k => return k
  | none => .error (.unknown "declaration kind" value)

def Declaration.read (data : Json) : Except Fault (Declaration Json) := do
  let kind ← DeclarationKind.read data
  let name ← data.require "name" "Declaration"
  let inherits ← data.sequence "inherits"
  let members ← (← data.sequence "members").mapM Member.read
  return ⟨kind, name, inherits, members⟩

end SwiftExpansion
