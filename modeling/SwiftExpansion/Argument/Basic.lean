import SwiftExpansion.Json.Access
import SwiftExpansion.Text.Blank

/-!
# Arguments of a usage

The expressions a host passes to a macro, already parsed: the source text as it was written, the
kind of expression, and for some kinds a value and a base. Like declarations they are generic in
what stands for texts.
-/
namespace SwiftExpansion

inductive ExpressionKind
  | stringLiteral
  | booleanLiteral
  | integerLiteral
  | memberAccess
  | other
  deriving Repr, DecidableEq, Inhabited

namespace ExpressionKind

def name : ExpressionKind → String
  | .stringLiteral => "string_literal"
  | .booleanLiteral => "boolean_literal"
  | .integerLiteral => "integer_literal"
  | .memberAccess => "member_access"
  | .other => "other"

def all : List ExpressionKind :=
  [.stringLiteral, .booleanLiteral, .integerLiteral, .memberAccess, .other]

end ExpressionKind

/-- For a string literal `value` is its content, for a member access the member, with `base` what
stands before the last dot. -/
structure Expression (τ : Type) where
  kind : ExpressionKind
  text : τ
  value : Option τ
  base : Option τ
  deriving Repr, DecidableEq

structure Argument (τ : Type) where
  value : Expression τ
  label : Option τ
  deriving Repr, DecidableEq

variable {τ σ : Type}

def Expression.map (f : τ → σ) (e : Expression τ) : Expression σ :=
  ⟨e.kind, f e.text, e.value.map f, e.base.map f⟩

def Argument.map (f : τ → σ) (a : Argument τ) : Argument σ :=
  ⟨a.value.map f, a.label.map f⟩

namespace Expression

def stringValue (e : Expression τ) : Option τ :=
  if e.kind == .stringLiteral then e.value else none

def isTrueLiteral (e : Expression Json) : Bool :=
  e.kind == .booleanLiteral && e.value.any (·.isText "true")

/-- The type named by a `Type.self` expression. -/
def metatypeBase (e : Expression Json) : Except Fault (Option String) :=
  if e.kind == .memberAccess && e.value.any (·.isText "self") then
    match e.base.filter Json.isTruthy with
    | some base => do return some (Text.trimmed (← base.textFor "strip"))
    | none => .ok none
  else .ok none

def trimmedText (e : Expression Json) : Except Fault String := do
  return Text.trimmed (← e.text.textFor "strip")

end Expression

namespace Argument

/-- Whether the argument carries the label; null asks for an argument without one. -/
def hasLabel (label : Json) (a : Argument Json) : Bool :=
  (a.label.getD .null).same label

def find? (arguments : List (Argument Json)) (label : Json) : Option (Argument Json) :=
  arguments.find? (hasLabel label)

end Argument

end SwiftExpansion
