import SwiftExpansion.Argument.Basic
import SwiftExpansion.Literal.Reader

/-!
# Reading arguments

A host may leave out what follows from the source text: the content of a string literal, the value
of a boolean literal, and the two parts of a member access. What it does give is taken as it is.
-/
namespace SwiftExpansion

def ExpressionKind.ofJson? (j : Json) : Option ExpressionKind :=
  all.find? fun k => j.isText k.name

namespace Expression

/-- The base and the member of an access, cut at the last dot. -/
def splitAccess (s : String) : String × String :=
  match Text.splitLast? '.' s.toList with
  | some (base, member) => (String.ofList base, String.ofList member)
  | none => ("", s)

/-- Fills in what follows from the source text. -/
def complete (kind : ExpressionKind) (text : Json) (value base : Option Json) :
    Except Fault (Expression Json) := do
  match kind, value, base with
  | .stringLiteral, none, base =>
    let content ← Literal.read (← text.textFor "strip")
    return ⟨kind, text, content.map .text, base⟩
  | .memberAccess, value, none =>
    if ← text.contains "." then
      let (base, member) := splitAccess (← text.textFor "rpartition")
      return ⟨kind, text, value.or (some (.text member)), some (.text base)⟩
    else return ⟨kind, text, value, none⟩
  | .booleanLiteral, none, base =>
    return ⟨kind, text, some (.text (Text.trimmed (← text.textFor "strip"))), base⟩
  | kind, value, base => return ⟨kind, text, value, base⟩

def read (data : Json) : Except Fault (Expression Json) := do
  if ← data.contains "text" then
    let tag ← data.getD "kind" (.text ExpressionKind.other.name)
    match ExpressionKind.ofJson? tag with
    | none => .error (.unknown "expression kind" tag)
    | some kind =>
      complete kind (← data.getD "text" .null) (← data.getNonNull? "value")
        (← data.getNonNull? "base")
  else .error (.missing "Expression" "text" data)

end Expression

def Argument.read (data : Json) : Except Fault (Argument Json) := do
  let value ← Expression.read (← data.require "value" "Argument")
  let label ← data.getNonNull? "label"
  return ⟨value, label⟩

end SwiftExpansion
