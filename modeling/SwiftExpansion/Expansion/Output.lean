import SwiftExpansion.Diagnostic
import SwiftExpansion.Journal
import SwiftExpansion.Literal.Writer

/-!
# What an expansion produces

Generated code is either an expression in place of the usage, or declarations that the host places
by their role. A rule drafts its output: on the way it may report diagnostics and leave debugging
records, which stay when it fails.
-/
namespace SwiftExpansion

/-- Where the host places a generated declaration: in place of the usage, inside the annotated
type, beside it, or as an extension of it. -/
inductive Role
  | freestanding
  | member
  | peer
  | extension
  deriving Repr, DecidableEq, Inhabited

namespace Role

def name : Role → String
  | .freestanding => "freestanding"
  | .member => "member"
  | .peer => "peer"
  | .extension => "extension"

def all : List Role :=
  [.freestanding, .member, .peer, .extension]

end Role

structure GeneratedDeclaration where
  role : Role
  text : String
  deriving Repr, DecidableEq

structure GeneratedExpression where
  text : String
  resultType : Option String := none
  deriving Repr, DecidableEq

structure Output where
  expression : Option GeneratedExpression := none
  declarations : List GeneratedDeclaration := []
  deriving Repr, DecidableEq

/-- What a rule leaves behind besides its output. -/
inductive Note
  | report (severity : Severity) (message : String)
  | debug (message : String)
  deriving Repr, DecidableEq

abbrev Draft := Logged Fault Note

namespace Draft

def error (message : String) : Draft Unit :=
  .note (.report .error message)

def warning (message : String) : Draft Unit :=
  .note (.report .warning message)

def debug (message : String) : Draft Unit :=
  .note (.debug message)

end Draft

/-- The literal of a text; nothing else has one. -/
def Json.literal : Json → Except Fault String
  | .text s => .ok (Literal.write s)
  | j => .error (.misuse j.kind .literalText)

end SwiftExpansion
