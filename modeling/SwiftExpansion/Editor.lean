import SwiftExpansion.Location

/-!
# What editors read

The form of diagnostics for editors is not ours: which positions it takes, the numbers it has for
severities and how it is written are for the protocol of the editors to say. `Editor` holds what is
asked of that protocol, and the instance at the end answers as the protocol in use does.
-/
namespace SwiftExpansion

inductive Severity
  | error
  | warning
  deriving Repr, DecidableEq, Inhabited

def Severity.name : Severity → String
  | .error => "error"
  | .warning => "warning"

structure EditorRange where
  start : Json
  stop : Json
  deriving Repr

class Editor where
  position : Position → Except Fault Json
  severity : Severity → Json
  diagnostic (range : EditorRange) (message severity : Json) (code source : String) :
    Except Fault Json

namespace Editor

def limit : Int := 2147483647

/-- Whole numbers up to the limit are taken and nothing else; a flag counts as a number. -/
def coordinate (axis : String) (c : Coordinate) : Except Fault Json :=
  match c with
  | .flag b => .ok (.bool b)
  | .whole n => if 0 ≤ n ∧ n ≤ limit then .ok (.int n) else .error (.editorRange axis (.int n))
  | .real x => .error (.editorRange axis (.real x))

scoped instance languageServer : Editor where
  position p := do
    let line ← coordinate "line" p.line
    let character ← coordinate "character" p.column
    return .object [("line", line), ("character", character)]
  severity
    | .error => .int 1
    | .warning => .int 2
  diagnostic range message severity code source :=
    match message with
    | .text _ => .ok (.object [
        ("range", .object [("start", range.start), ("end", range.stop)]),
        ("message", message),
        ("severity", severity),
        ("code", .text code),
        ("source", .text source)])
    | j => .error (.misuse j.kind .editorMessage)

end Editor

end SwiftExpansion
