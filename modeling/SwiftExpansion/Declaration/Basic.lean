/-!
# Type declarations

The structural view of a type declaration: its kind, its inheritance clause and its members in
order. All of it is generic in the type `τ` that stands where a well-formed document has a text:
`Json` for declarations as a host sends them, `String` for those that keep to the format.
-/
namespace SwiftExpansion

inductive DeclarationKind
  | valueType
  | referenceType
  | interface
  | enumeration
  deriving Repr, DecidableEq, Inhabited

namespace DeclarationKind

/-- The keyword that introduces declarations of a kind. -/
def keyword : DeclarationKind → String
  | .valueType => "struct"
  | .referenceType => "class"
  | .interface => "protocol"
  | .enumeration => "enum"

def all : List DeclarationKind :=
  [.valueType, .referenceType, .interface, .enumeration]

end DeclarationKind

/-- Access levels, from most to least restrictive. -/
inductive Visibility
  | privateLevel
  | fileprivateLevel
  | internalLevel
  | publicLevel
  | openLevel
  deriving Repr, DecidableEq, Inhabited

namespace Visibility

def keyword : Visibility → String
  | .privateLevel => "private"
  | .fileprivateLevel => "fileprivate"
  | .internalLevel => "internal"
  | .publicLevel => "public"
  | .openLevel => "open"

def all : List Visibility :=
  [.privateLevel, .fileprivateLevel, .internalLevel, .publicLevel, .openLevel]

/-- Only the private level hides a member from generated code. -/
def isPrivate (v : Visibility) : Bool :=
  v == .privateLevel

end Visibility

structure Parameter (τ : Type) where
  name : τ
  type : τ
  label : Option τ
  defaultValue : Option τ
  isInout : Bool
  deriving Repr, DecidableEq

structure Property (τ : Type) where
  name : τ
  type : Option τ
  visibility : Visibility
  isStatic : Bool
  isComputed : Bool
  deriving Repr, DecidableEq

/-- A function or initializer declared in a type body. -/
structure Method (τ : Type) where
  name : τ
  parameters : List (Parameter τ)
  visibility : Visibility
  hasBody : Bool
  returnType : Option τ
  modifiers : List τ
  effects : List τ
  genericClause : Option τ
  isFailable : Bool
  deriving Repr, DecidableEq

inductive Member (τ : Type)
  | property (p : Property τ)
  | method (m : Method τ)
  deriving Repr, DecidableEq

structure Declaration (τ : Type) where
  kind : DeclarationKind
  name : τ
  inherits : List τ
  members : List (Member τ)
  deriving Repr, DecidableEq

variable {τ σ : Type}

/-- The label at call sites; a lone name doubles as the label. -/
def Parameter.argumentLabel (p : Parameter τ) : τ :=
  p.label.getD p.name

def Property.isStored (p : Property τ) : Bool :=
  !p.isComputed

def Member.property? : Member τ → Option (Property τ)
  | .property p => some p
  | .method _ => none

def Member.method? : Member τ → Option (Method τ)
  | .property _ => none
  | .method m => some m

namespace Declaration

def properties (d : Declaration τ) : List (Property τ) :=
  d.members.filterMap Member.property?

def methods (d : Declaration τ) : List (Method τ) :=
  d.members.filterMap Member.method?

def exposedProperties (d : Declaration τ) : List (Property τ) :=
  d.properties.filter (!·.visibility.isPrivate)

def exposedMethods (d : Declaration τ) : List (Method τ) :=
  d.methods.filter (!·.visibility.isPrivate)

/-- The exposed properties that a decoder can assign: stored ones of an instance. -/
def mappableProperties (d : Declaration τ) : List (Property τ) :=
  d.exposedProperties.filter fun p => p.isStored && !p.isStatic

end Declaration

/-! Changing what stands for texts. -/

def Parameter.map (f : τ → σ) (p : Parameter τ) : Parameter σ :=
  ⟨f p.name, f p.type, p.label.map f, p.defaultValue.map f, p.isInout⟩

def Property.map (f : τ → σ) (p : Property τ) : Property σ :=
  ⟨f p.name, p.type.map f, p.visibility, p.isStatic, p.isComputed⟩

def Method.map (f : τ → σ) (m : Method τ) : Method σ :=
  ⟨f m.name, m.parameters.map (Parameter.map f), m.visibility, m.hasBody, m.returnType.map f,
    m.modifiers.map f, m.effects.map f, m.genericClause.map f, m.isFailable⟩

def Member.map (f : τ → σ) : Member τ → Member σ
  | .property p => .property (p.map f)
  | .method m => .method (m.map f)

def Declaration.map (f : τ → σ) (d : Declaration τ) : Declaration σ :=
  ⟨d.kind, f d.name, d.inherits.map f, d.members.map (Member.map f)⟩

end SwiftExpansion
