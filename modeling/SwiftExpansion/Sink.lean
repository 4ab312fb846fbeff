import SwiftExpansion.Diagnostic

/-!
# Collecting the diagnostics of one request

A sink is bound to the usage site of its request. Reports are kept in order until they are drained,
which empties the sink.
-/
namespace SwiftExpansion

structure Sink where
  span : Span
  pending : List (Diagnostic String) := []

namespace Sink

def report (s : Sink) (severity : Severity) (message : String) : Sink :=
  { s with pending := s.pending ++ [⟨severity, message, s.span⟩] }

def error (s : Sink) (message : String) : Sink :=
  s.report .error message

def warning (s : Sink) (message : String) : Sink :=
  s.report .warning message

/-- The diagnostics reported since the last time, and the sink without them. -/
def drain (s : Sink) : List (Diagnostic String) × Sink :=
  (s.pending, { s with pending := [] })

end Sink

end SwiftExpansion
