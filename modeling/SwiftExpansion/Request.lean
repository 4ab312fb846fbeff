import SwiftExpansion.Argument.Reader
import SwiftExpansion.Declaration.Reader
import SwiftExpansion.Location

/-!
# Expansion requests

One usage of a macro: its name, the arguments, the declaration it is attached to, if any, and the
place of the usage.
-/
namespace SwiftExpansion

structure Request (τ : Type) where
  name : τ
  arguments : List (Argument τ)
  declaration : Option (Declaration τ)
  span : Span
  deriving Repr

namespace Request

/-- The span of a reported location. Line and column start at zero unless they are given. -/
def readLocation (location : Json) : Except Fault Span := do
  let file ← location.getNonNull? "file"
  let line ← location.getD "line" (.int 0)
  let column ← location.getD "column" (.int 0)
  return .atPosition file (← Position.ofJson line column)

/-- Reads a request: the name has to be there, then come the declaration, the location and the
arguments, each optional. -/
def read (data : Json) : Except Fault (Request Json) := do
  if ← data.contains "macro" then
    let declaration ← match ← data.getNonNull? "declaration" with
      | some d => some <$> Declaration.read d
      | none => pure none
    let location ← data.getD "location" .null
    let span ← if location.isTruthy then readLocation location else pure .unreported
    let name ← data.getD "macro" .null
    let arguments ← (← data.sequence "arguments").mapM Argument.read
    return ⟨name, arguments, declaration, span⟩
  else .error (.missing "Request" "macro" data)

def readDocument (document : Json) : Except Fault (List (Request Json)) :=
  let items := match document with
    | .list items => items
    | j => [j]
  match items.find? (fun j => match j with | .object _ => false | _ => true) with
  | some j => .error (.requestKind j.kind)
  | none => items.mapM read

end Request

end SwiftExpansion
