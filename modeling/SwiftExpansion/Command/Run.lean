import SwiftExpansion.Command.Console
import SwiftExpansion.Command.Invocation
import SwiftExpansion.Config.Session

/-!
# Running a command

A command reads files, prints, and may write one file. All of it is a function of the arguments and
of the files there are. The expansion of request files is all or nothing: a report is delivered
only when every file was read and every request expanded.
-/
namespace SwiftExpansion.Command

/-- What a run leaves behind. A fault that no command answers for escapes the run. -/
structure Outcome where
  exitCode : Nat
  stdout : String := ""
  stderr : String := ""
  escaped : Option Fault := none
  store : Store
  events : List Event := []

inductive Failure
  | configuration (f : Fault)
  | requests (path : String) (f : Fault)
  | aborted (f : Fault)
  | unexpected (f : Fault)
  deriving Repr

def Failure.complaint? : Failure → Option String
  | .configuration f => some ("Error: cannot load configuration: " ++ f.message ++ "\n")
  | .requests path f =>
    some ("Error: cannot load requests from " ++ path ++ ": " ++ f.message ++ "\n")
  | .aborted f => some ("Error: expansion aborted: " ++ f.message ++ "\n")
  | .unexpected _ => none

def Failure.events : Failure → List Event
  | .unexpected f => [.log .error ("Expansion failed with error: " ++ f.message)]
  | _ => []

/-- Refused inputs are answered, anything else is unexpected. -/
def refusalOr (answer : Fault → Failure) (f : Fault) : Failure :=
  if f.tier == .refusal then answer f else .unexpected f

abbrev Batch := Logged Failure Event

def loadConfig (store : Store) : Option String → Batch Config
  | none => pure {}
  | some path =>
    (Config.load (Path.shown path) (store.readJson path)).mapFault (refusalOr .configuration)

def loadRequests (store : Store) (path : String) : Except Failure (List (Request Json)) :=
  (store.readJson path).bind Request.readDocument
    |>.mapError (refusalOr (.requests (Path.shown path)))

def loadAllRequests (store : Store) (paths : List String) :
    Except Failure (List (Request Json)) := do
  return (← paths.mapM (loadRequests store)).flatten

variable [Memory] [Editor] [Console]

/-- Expands all requests; only a breach of contract is answered. -/
def expandRequests (c : Config) (requests : List (Request Json)) :
    Except Failure (List Expansion) := do
  let engine ← (Engine.ofConfig c).mapError .unexpected
  (engine.expandAll requests).mapError fun f =>
    if f.tier == .contract then .aborted f else .unexpected f

def prepare (store : Store) (o : ExpandOptions) : Batch (List Expansion × String) := do
  Logged.note (.log .debug "Running expansion from the command line")
  let config ← loadConfig store o.config
  let requests ← loadAllRequests store o.files
  Logged.note (.log .info ("Expanding " ++ toString requests.length ++ " requests"))
  let results ← expandRequests config requests
  let report ← (Report.render o.format results).mapError Failure.unexpected
  return (results, report)

def exitCodeOf (results : List Expansion) : Nat :=
  if results.any Expansion.hasErrors then 1 else 0

def failed (store : Store) (events : List Event) (f : Failure) : Outcome :=
  { exitCode := 1, stderr := (f.complaint?.map Console.shown).getD "", store,
    events := events ++ f.events }

def deliver (store : Store) (events : List Event) (output : Option String)
    (results : List Expansion) (report : String) : Outcome :=
  match output with
  | none =>
    { exitCode := exitCodeOf results, stdout := Console.shown (report ++ "\n"), store, events }
  | some path =>
    match store.write (Path.shown path) (Text.toOctets report) with
    | .ok written =>
      { exitCode := exitCodeOf results
        store := written
        events := events ++ [.log .info ("Report written to " ++ Path.shown path)] }
    | .error f => failed store events (.unexpected f)

def runExpand (store : Store) (o : ExpandOptions) : Outcome :=
  let start : Event := .threshold (if o.verbose then .debug else .warning)
  let batch := prepare store o
  let events := start :: batch.notes
  match batch.outcome with
  | .ok (results, report) => deliver store events o.output results report
  | .error f => failed store events f

def listingConfig (store : Store) : Option String → Logged Fault Event Config
  | none => pure {}
  | some path => Config.load (Path.shown path) (store.readJson path)

def runMacros (store : Store) (o : MacrosOptions) : Outcome :=
  let config := listingConfig store o.config
  let events := .threshold .warning :: config.notes
  match config.outcome.bind Engine.ofConfig with
  | .ok engine =>
    { exitCode := 0, stdout := Console.shown (Macro.listing o.format engine.macros), store, events }
  | .error f =>
    if f.tier == .refusal then
      { exitCode := 1, stderr := Console.shown ("Error: " ++ f.message ++ "\n"), store, events }
    else { exitCode := 1, escaped := some f, store, events }

def runInvocation (store : Store) : Invocation → Outcome
  | .showVersion => { exitCode := 0, stdout := Console.shown versionLine, store }
  | .showHelp page => { exitCode := 0, stdout := Console.shown page.help, store }
  | .expand o => runExpand store o
  | .macros o => runMacros store o

/-- A faulty command line is complained about; the breakdown of a check escapes. -/
def refused (store : Store) (r : Refusal) : Outcome :=
  match r.obstacle with
  | .usage fault => { exitCode := 2, stderr := Console.shown (r.page.complaint fault), store }
  | .breakdown fault => { exitCode := 1, escaped := some fault, store }

/-- Runs a command line. Without any arguments the help is shown as a complaint. -/
def run (store : Store) (args : List String) : Outcome :=
  if args.isEmpty then { exitCode := 2, stderr := Console.shown Page.group.help, store }
  else match readInvocation store args with
    | .ok invocation => runInvocation store invocation
    | .error refusal => refused store refusal

end SwiftExpansion.Command
