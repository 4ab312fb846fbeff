import SwiftExpansion.Editor

/-!
# Diagnostics

Messages bound to a usage site, and the three forms they are shown in: a compiler-style line for
people, a record for the JSON report, and the form that editors read. Two diagnostics with the
same severity and message have the same identity, so that a host can drop repetitions.
-/
namespace SwiftExpansion

/-- A message at a usage site. Rules report texts; a host that reports on its own may give any value
for a message. -/
structure Diagnostic (τ : Type) where
  severity : Severity
  message : τ
  span : Span
  deriving Repr, Inhabited

class Message (τ : Type) where
  toJson : τ → Json

instance : Message String := ⟨.text⟩

instance : Message Json := ⟨id⟩

structure MessageId where
  domain : String
  id : String
  deriving Repr, DecidableEq

def MessageId.text (m : MessageId) : String :=
  m.domain ++ "." ++ m.id

namespace Diagnostic

def domain : String := "SyMacrosDiagnostic"

def source : String := "sy-macros"

variable {τ : Type} [Message τ]

def messageText (d : Diagnostic τ) : String :=
  (Message.toJson d.message).display

def messageId (d : Diagnostic τ) : MessageId :=
  ⟨domain, d.severity.name ++ d.messageText⟩

def isError {τ : Type} (d : Diagnostic τ) : Bool :=
  d.severity == .error

/-- The line a compiler would print, counting lines and columns from one. -/
def format (d : Diagnostic τ) : Except Fault String :=
  let start := d.span.range.start.oneIndexed
  if start.isShort then
    .ok (d.span.fileName?.getD "<unknown>" ++ ":" ++ start.line.text ++ ":" ++
      start.column.text ++ ": " ++ d.severity.name ++ ": " ++ d.messageText)
  else .error .digitLimit

def toJson (d : Diagnostic τ) : Json :=
  let start := d.span.range.start
  .object [
    ("severity", .text d.severity.name),
    ("message", Message.toJson d.message),
    ("id", .object [("domain", .text d.messageId.domain), ("id", .text d.messageId.id)]),
    ("location", .object [
      ("file", d.span.file.getD .null),
      ("line", start.line.toJson),
      ("column", start.column.toJson)])]

/-- The form that editors read. -/
def toEditor [Editor] (d : Diagnostic τ) : Except Fault Json := do
  let start ← Editor.position d.span.range.start
  let stop ← Editor.position d.span.range.stop
  Editor.diagnostic ⟨start, stop⟩ (Message.toJson d.message) (Editor.severity d.severity)
    d.messageId.id source

end Diagnostic

end SwiftExpansion
