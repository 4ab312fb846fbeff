import SwiftExpansion.Config.Basic
import SwiftExpansion.Engine.Macro
import SwiftExpansion.Sink

/-!
# The expansion engine

The engine finds the macro of a request and runs its rule. A disabled macro expands to a warning. A
breach of the invocation contract ends the request; any other fault of a rule is contained: it is
recorded and becomes the last diagnostic of an otherwise empty expansion. Requests share no state,
so a batch is the list of its single expansions.
-/
namespace SwiftExpansion

structure Expansion where
  name : Json
  expression : Option GeneratedExpression := none
  declarations : List GeneratedDeclaration := []
  diagnostics : List (Diagnostic String) := []
  deriving Repr

namespace Expansion

def hasErrors (e : Expansion) : Bool :=
  e.diagnostics.any Diagnostic.isError

def withRole (e : Expansion) (role : Role) : List GeneratedDeclaration :=
  e.declarations.filter (·.role == role)

end Expansion

structure Engine where
  config : Config
  macros : List Macro
  deriving Repr

namespace Engine

/-- Sets the flags of the macros from the configuration, in order. A configuration that cannot tell
whether a macro may run stops at it. -/
def refresh (c : Config) : List Macro → List Macro × Option Fault
  | [] => ([], none)
  | m :: ms =>
    match c.isEnabled m.name with
    | .ok b =>
      let (rest, fault) := refresh c ms
      ({ m with enabled := .bool b } :: rest, fault)
    | .error f => (m :: ms, some f)

def applyConfig (e : Engine) : Engine × Option Fault :=
  let (macros, fault) := refresh e.config e.macros
  ({ e with macros }, fault)

def ofConfig (c : Config) : Except Fault Engine :=
  match applyConfig ⟨c, Macro.defaults⟩ with
  | (e, none) => .ok e
  | (_, some f) => .error f

def checkName (name : Json) : Except Fault Unit :=
  if name.isContainer then .error (name.misused .hashing) else .ok ()

def register (e : Engine) (m : Macro) : Except Fault Engine := do
  checkName m.name
  return { e with macros := Macro.register e.macros m }

def setEnabled (e : Engine) (name enabled : Json) : Except Fault Engine := do
  checkName name
  match Macro.find? e.macros name with
  | none => .error (.absentKey name.display)
  | some m => return { e with macros := Macro.register e.macros { m with enabled } }

def findMacro (e : Engine) (name : Json) : Except Fault Macro := do
  checkName name
  match Macro.find? e.macros name with
  | some m => return m
  | none => .error (.contract (.unregistered name))

/-- The reports among the notes of a rule, handed to a sink. -/
def collect (sink : Sink) : List Note → Sink
  | [] => sink
  | .report severity message :: notes => collect (sink.report severity message) notes
  | .debug _ :: notes => collect sink notes

def debugEvents (notes : List Note) : List Event :=
  notes.filterMap fun n => match n with
    | .debug message => some (.log .debug message)
    | .report _ _ => none

def finish (name : Json) (output : Output) (sink : Sink) : Logged Fault Event Expansion :=
  let diagnostics := sink.drain.1
  ⟨[.log .debug ("Expanded " ++ name.display ++ ": " ++ toString output.declarations.length ++
      " declarations, " ++ toString diagnostics.length ++ " diagnostics")],
    .ok ⟨name, output.expression, output.declarations, diagnostics⟩⟩

variable [Memory]

/-- The record of a fault that a rule ran into. There is none for a place that cannot be written. -/
def malfunction (m : Macro) (span : Span) (f : Fault) : Except Fault Record := do
  internalErrorOf "expanding \x7b\x7d at \x7b\x7d failed: \x7b\x7d"
    [m.name, .text (← span.printed), .text f.message]

/-- What a rule came to, as an expansion. Breaches are let through, other faults contained. -/
def conclude (m : Macro) (sink : Sink) : Except Fault Output → Logged Fault Event Expansion
  | .ok output => finish m.name output sink
  | .error (.contract breach) => .fail (.contract breach)
  | .error f => do
    Logged.note (.record (← malfunction m sink.span f))
    finish m.name {}
      (sink.error ("internal error while expanding " ++ m.name.display ++ ": " ++ f.message))

def settle (m : Macro) (span : Span) (draft : Draft Output) : Logged Fault Event Expansion :=
  let x := conclude m (collect ⟨span, []⟩ draft.notes) draft.outcome
  ⟨debugEvents draft.notes ++ x.notes, x.outcome⟩

def expand (e : Engine) (r : Request Json) : Logged Fault Event Expansion :=
  match e.findMacro r.name with
  | .error f => .fail f
  | .ok m =>
    if m.isEnabled then settle m r.span (m.rule.expand m.name.display e.config.settings r)
    else
      let sink : Sink := ⟨r.span, []⟩
      pure { name := m.name
             diagnostics := (sink.warning ("macro '" ++ m.name.display ++ "' is disabled")).drain.1 }

/-- Expands a batch. The results keep the order of the requests, and the first request that fails
decides the fault. -/
def expandAll (e : Engine) (requests : List (Request Json)) : Except Fault (List Expansion) :=
  requests.mapM fun r => (e.expand r).outcome

end Engine

end SwiftExpansion
