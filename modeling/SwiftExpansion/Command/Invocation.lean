import SwiftExpansion.Command.Page
import SwiftExpansion.Command.Store
import SwiftExpansion.Report
import SwiftExpansion.Text.Integer

/-!
# Invocations

A command line that passed all checks: a request for a page or the version, or a command with its
options. Values are checked in the order their switches were given, the files of the command after
them; of a switch given twice only the last value counts.
-/
namespace SwiftExpansion.Command

structure ExpandOptions where
  files : List String
  config : Option String := none
  format : ReportFormat := .text
  output : Option String := none
  jobs : Option Nat := none
  verbose : Bool := false
  deriving Repr, DecidableEq

structure MacrosOptions where
  config : Option String := none
  format : ReportFormat := .text
  deriving Repr, DecidableEq

inductive Invocation
  | showVersion
  | showHelp (page : Page)
  | expand (options : ExpandOptions)
  | macros (options : MacrosOptions)
  deriving Repr, DecidableEq

/-- Why a command line is not carried out: it is faulty, or a check of it broke down. -/
inductive Obstacle
  | usage (fault : UsageFault)
  | breakdown (fault : Fault)
  deriving Repr

structure Refusal where
  page : Page
  obstacle : Obstacle
  deriving Repr

def Switch.hint : Switch → String
  | .config => "'--config' / '-c'"
  | .format => "'--format' / '-f'"
  | .output => "'--output' / '-o'"
  | .jobs => "'--jobs' / '-j'"
  | .verbose => "'--verbose' / '-v'"
  | .version => "'--version'"
  | .help => "'--help'"

def filesHint : String := "'REQUEST_FILES...'"

/-- What is wrong with a path that has to lead to a file, or may also be free if it need not
exist. -/
def pathFault? (mustExist : Bool) : PathStatus → Option String
  | .file _ => none
  | .directory => some "is a directory."
  | _ => if mustExist then some "does not exist." else none

/-- Checks a path. One with a null character in it cannot even be looked up. -/
def checkPath (store : Store) (parameter : String) (mustExist : Bool) (path : String) :
    Except Obstacle Unit :=
  if path.toList.contains '\x00' then .error (.breakdown .nullInPath)
  else
    match pathFault? mustExist (store.status path) with
    | none => .ok ()
    | some reason =>
      .error (.usage (.invalidValue parameter ("File " ++ Text.quoted path ++ " " ++ reason)))

def readFormat (value : String) : Except Obstacle ReportFormat :=
  match ReportFormat.all.find? (·.name == value) with
  | some f => .ok f
  | none => .error (.usage (.invalidValue Switch.format.hint
      (Text.quoted value ++ " is not one of " ++
        ", ".intercalate (ReportFormat.all.map fun f => Text.quoted f.name) ++ ".")))

def readJobs (value : String) : Except Obstacle Nat :=
  let refuse (reason : String) : Except Obstacle Nat :=
    .error (.usage (.invalidValue Switch.jobs.hint reason))
  match Text.integer? value with
  | none => refuse (Text.quoted value ++ " is not a valid integer range.")
  | some n =>
    if 1 ≤ n then .ok n.toNat else refuse (toString n ++ " is not in the range x>=1.")

def checkSwitch (store : Store) (p : Parsed) (switch : Switch) : Except Obstacle Unit :=
  match p.value? switch with
  | none => .ok ()
  | some value =>
    match switch with
    | .config => checkPath store Switch.config.hint true value
    | .output => checkPath store Switch.output.hint false value
    | .format => do discard (readFormat value)
    | .jobs => do discard (readJobs value)
    | _ => .ok ()

def formatOf (p : Parsed) : Except Obstacle ReportFormat :=
  match p.value? .format with
  | some value => readFormat value
  | none => .ok .text

def jobsOf (p : Parsed) : Except Obstacle (Option Nat) :=
  match p.value? .jobs with
  | some value => do return some (← readJobs value)
  | none => .ok none

def expandOptions (store : Store) (p : Parsed) : Except Obstacle ExpandOptions := do
  p.switches.forM (checkSwitch store p)
  if p.positional.isEmpty then .error (.usage .missingFiles)
  p.positional.forM (checkPath store filesHint true)
  return {
    files := p.positional
    config := p.value? .config
    format := ← formatOf p
    output := p.value? .output
    jobs := ← jobsOf p
    verbose := p.has .verbose }

def macrosOptions (store : Store) (p : Parsed) : Except Obstacle MacrosOptions := do
  p.switches.forM (checkSwitch store p)
  if p.positional.isEmpty then
    return { config := p.value? .config, format := ← formatOf p }
  else .error (.usage (.extraArguments p.positional))

def blame {α : Type} (page : Page) (x : Except Obstacle α) : Except Refusal α :=
  x.mapError (⟨page, ·⟩)

def parseFor (page : Page) (anywhere : Bool) (args : List String) : Except Refusal Parsed :=
  blame page ((parse page.switches anywhere args).mapError .usage)

/-- Reads the arguments of a command. A request for help comes before every check of values. -/
def readCommand (store : Store) (page : Page) (args : List String) : Except Refusal Invocation := do
  let p ← parseFor page true args
  if p.has .help then return .showHelp page
  else match page with
    | .macros => return .macros (← blame page (macrosOptions store p))
    | _ => return .expand (← blame page (expandOptions store p))

/-- The page or version that was asked for in front of the command; the first one counts. -/
def eager? (p : Parsed) : Option Invocation :=
  p.given.head?.bind fun g => match g.switch with
    | .version => some .showVersion
    | .help => some (.showHelp .group)
    | _ => none

/-- Reads the arguments of the group, up to the command. A command that looks like an option is
tried as one before it is refused. -/
def readInvocation (store : Store) (args : List String) : Except Refusal Invocation := do
  let p ← parseFor .group false args
  match eager? p with
  | some invocation => return invocation
  | none =>
    match p.positional with
    | [] => .error ⟨.group, .usage .missingCommand⟩
    | "expand" :: rest => readCommand store .expand rest
    | "macros" :: rest => readCommand store .macros rest
    | name :: rest =>
      let again ← parseFor .group false (name :: rest)
      match eager? again with
      | some invocation => return invocation
      | none => .error ⟨.group, .usage (.noSuchCommand name)⟩

end SwiftExpansion.Command
