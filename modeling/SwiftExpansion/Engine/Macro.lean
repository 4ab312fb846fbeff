import SwiftExpansion.Expansion.Constant
import SwiftExpansion.Expansion.Echo
import SwiftExpansion.Expansion.Resource
import SwiftExpansion.Interface.Extraction
import SwiftExpansion.Mapping.Synthesis

/-!
# Macros

A macro is a name with the rule that expands its usages. Five macros come with the engine; others
can be registered by name only, and fail whenever they are used.
-/
namespace SwiftExpansion

/-- How a macro is attached at its usage site. -/
inductive MacroKind
  | expression
  | declaration
  | peer
  | member
  deriving Repr, DecidableEq, Inhabited

namespace MacroKind

def name : MacroKind → String
  | .expression => "expression"
  | .declaration => "declaration"
  | .peer => "peer"
  | .member => "member"

def all : List MacroKind :=
  [.expression, .declaration, .peer, .member]

def ofJson (j : Json) : Except Fault MacroKind :=
  match all.find? fun k => j.isText k.name with
  | some k => .ok k
  | none => .error (.notMember "MacroKind" j)

end MacroKind

inductive Rule
  | echo
  | resource
  | constant
  | interface
  | mapping
  | unimplemented
  deriving Repr, DecidableEq

namespace Rule

def attachedDeclaration (name : String) (r : Request Json) : Draft (Declaration Json) :=
  match r.declaration with
  | some d => pure d
  | none => .fail (.contract (.noDeclaration name))

def expand [Memory] (rule : Rule) (name : String) (s : Settings) (r : Request Json) : Draft Output :=
  match rule with
  | .echo => Expansion.echo r
  | .resource => Expansion.resource s r
  | .constant => Expansion.constant r
  | .interface => do Interface.expand s (← attachedDeclaration name r)
  | .mapping => do Mapping.expand s r (← attachedDeclaration name r)
  | .unimplemented => .fail .noRule

end Rule

/-- A registered macro. The macros of the engine have texts for names; a host may register others
under any value that can be looked up by, and switch a macro by any value. -/
structure Macro where
  name : Json
  description : Json
  kind : MacroKind
  rule : Rule
  enabled : Json := .bool true
  deriving Repr

namespace Macro

def isEnabled (m : Macro) : Bool :=
  m.enabled.isTruthy

def defaults : List Macro :=
  [{ name := .text "stringify"
     description := .text "Produce a tuple of a value and the source code that produced it"
     kind := .expression
     rule := .echo },
   { name := .text "mainBundle"
     description := .text "Read a value from the main bundle's Info.plist"
     kind := .expression
     rule := .resource },
   { name := .text "Constant"
     description := .text "Declare a camelCase static constant holding a snake_case string"
     kind := .declaration
     rule := .constant },
   { name := .text "InterfaceGen"
     description := .text "Generate a protocol from the non-private members of a class"
     kind := .peer
     rule := .interface },
   { name := .text "Mappable"
     description := .text "Generate init?(map:), mapping(map:) and Mappable conformance"
     kind := .member
     rule := .mapping }]

def withoutRule (name description : Json) (kind : MacroKind) : Macro :=
  { name, description, kind, rule := .unimplemented }

/-- Adds a macro; it takes the place of one with the same name. -/
def register (macros : List Macro) (m : Macro) : List Macro :=
  if macros.any (·.name.sameItem m.name) then
    macros.map fun other => if other.name.sameItem m.name then m else other
  else macros ++ [m]

def find? (macros : List Macro) (name : Json) : Option Macro :=
  macros.find? (·.name.sameItem name)

end Macro

end SwiftExpansion
