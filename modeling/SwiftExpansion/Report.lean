import SwiftExpansion.Engine.Basic
import SwiftExpansion.Json.Writer

/-!
# Reports

A batch of expansions as text, the generated code followed by compiler-style diagnostics, or as a
JSON document with a summary and with the diagnostics also in the form that editors read.
-/
namespace SwiftExpansion

def GeneratedDeclaration.toJson (d : GeneratedDeclaration) : Json :=
  .object [("role", .text d.role.name), ("text", .text d.text)]

def GeneratedExpression.toJson (e : GeneratedExpression) : Json :=
  .object [
    ("text", .text e.text),
    ("type", (e.resultType.map Json.text).getD .null)]

namespace Expansion

/-- The entries of the record of an expansion. -/
def entries (e : Expansion) : List (String × Json) :=
  [("macro", e.name),
   ("expression", (e.expression.map GeneratedExpression.toJson).getD .null),
   ("declarations", .list (e.declarations.map GeneratedDeclaration.toJson)),
   ("diagnostics", .list (e.diagnostics.map Diagnostic.toJson))]

def toJson (e : Expansion) : Json :=
  .object e.entries

/-- The parts of an expansion in a text report; an empty expression is left out. -/
def textParts (e : Expansion) : Except Fault (List String) := do
  let lines ← e.diagnostics.mapM Diagnostic.format
  return ((e.expression.map (·.text)).filter (!·.isEmpty)).toList ++ e.declarations.map (·.text) ++
    lines

def textBlock (e : Expansion) : Except Fault String := do
  let parts ← e.textParts
  return "// " ++ e.name.display ++
    (if parts.isEmpty then "" else "\n" ++ "\n\n".intercalate parts)

/-- The record of an expansion with the diagnostics for editors. -/
def document [Editor] (e : Expansion) : Except Fault Json := do
  let editor ← e.diagnostics.mapM Diagnostic.toEditor
  return .object (e.entries ++ [("lsp_diagnostics", .list editor)])

end Expansion

inductive ReportFormat
  | text
  | json
  deriving Repr, DecidableEq, Inhabited

namespace ReportFormat

def name : ReportFormat → String
  | .text => "text"
  | .json => "json"

def all : List ReportFormat :=
  [.text, .json]

end ReportFormat

namespace Report

def text (results : List Expansion) : Except Fault String := do
  return "\n\n".intercalate (← results.mapM Expansion.textBlock)

def countDiagnostics (p : Diagnostic String → Bool) (results : List Expansion) : Nat :=
  (results.flatMap (·.diagnostics)).countP p

def summary (results : List Expansion) : Json :=
  .object [
    ("total_requests", .int results.length),
    ("total_errors", .int (countDiagnostics Diagnostic.isError results)),
    ("total_warnings", .int (countDiagnostics (!·.isError) results))]

variable [Editor]

def document (results : List Expansion) : Except Fault Json := do
  let documents ← results.mapM Expansion.document
  return .object [("summary", summary results), ("results", .list documents)]

def render (format : ReportFormat) (results : List Expansion) : Except Fault String :=
  match format with
  | .text => text results
  | .json => do return (← document results).pretty

end Report

/-! The list of the registered macros. -/

namespace Macro

def toJson (m : Macro) : Json :=
  .object [
    ("description", m.description),
    ("kind", .text m.kind.name),
    ("enabled", m.enabled)]

def padded (width : Nat) (s : String) : String :=
  s ++ String.ofList (List.replicate (width - s.length) ' ')

def listingLine (m : Macro) : String :=
  padded 14 m.name.display ++ " " ++ padded 12 m.kind.name ++ " " ++
    padded 9 (if m.isEnabled then "enabled" else "disabled") ++ " " ++ m.description.display

def listing (format : ReportFormat) (macros : List Macro) : String :=
  match format with
  | .text => String.join (macros.map fun m => m.listingLine ++ "\n")
  | .json => (Json.object (macros.map fun m => (m.name.display, m.toJson))).pretty ++ "\n"

end Macro

end SwiftExpansion
