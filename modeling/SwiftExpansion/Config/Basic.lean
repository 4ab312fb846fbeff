import SwiftExpansion.Config.Settings

/-!
# Configurations

A configuration holds the rendering settings and the options of the engine: which macros run, how
many workers a batch may use, and the log level. What it is read from settles all of it at once.
The lists of enabled and disabled macros are kept as they come.
-/
namespace SwiftExpansion

inductive LogLevel
  | error
  | warn
  | info
  | debug
  | trace
  deriving Repr, DecidableEq, Inhabited

namespace LogLevel

def name : LogLevel → String
  | .error => "error"
  | .warn => "warn"
  | .info => "info"
  | .debug => "debug"
  | .trace => "trace"

def all : List LogLevel :=
  [.error, .warn, .info, .debug, .trace]

def ofJson? (j : Json) : Option LogLevel :=
  all.find? fun l => j.isText l.name

def ofJson (j : Json) : Except Fault LogLevel :=
  match ofJson? j with
  | some l => .ok l
  | none => .error (.notMember "LogLevel" j)

/-- The threshold of the log; there is nothing finer than debugging records. -/
def threshold : LogLevel → Level
  | .error => .error
  | .warn => .warning
  | .info => .info
  | .debug | .trace => .debug

end LogLevel

structure Options where
  enabledMacros : Json := .list []
  disabledMacros : Json := .list []
  maxWorkers : Nat := 4
  logLevel : LogLevel := .info
  deriving Repr, BEq, Inhabited

namespace Options

/-- The log level of a configuration; an unknown one is reported and counts as the default. -/
def readLogLevel (entries : List (String × Json)) : LogLevel × List ConfigWarning :=
  match entries.lookup "log_level" with
  | none => (.info, [])
  | some value =>
    match LogLevel.ofJson? value with
    | some l => (l, [])
    | none => (.info, [.invalidLogLevel value])

/-- At least one worker is needed; a flag is no number here. -/
def workers? : Json → Option Nat
  | .int n => if 1 ≤ n then some n.toNat else none
  | _ => none

def readWorkers (entries : List (String × Json)) : Nat × List ConfigWarning :=
  match entries.lookup "max_workers" with
  | none => (4, [])
  | some value =>
    match workers? value with
    | some n => (n, [])
    | none => (4, [.invalidWorkers value])

def assess (entries : List (String × Json)) : Options × List ConfigWarning :=
  let (logLevel, warnings) := readLogLevel entries
  let (maxWorkers, more) := readWorkers entries
  ({ enabledMacros := (entries.lookup "enabled_macros").getD (.list [])
     disabledMacros := (entries.lookup "disabled_macros").getD (.list [])
     maxWorkers, logLevel }, warnings ++ more)

def read (entries : List (String × Json)) : Logged Fault Event Options :=
  ConfigWarning.reported (assess entries)

end Options

structure Config where
  settings : Settings := {}
  options : Options := {}
  deriving Repr, Inhabited

namespace Config

/-- The entries under `macros`; the object may be left out. -/
def settingsEntries (entries : List (String × Json)) : Except Fault (List (String × Json)) :=
  match entries.lookup "macros" with
  | none => .ok []
  | some (.object settings) => .ok settings
  | some _ => .error .macrosKind

/-- Whether a macro may run; being enabled by name wins over being disabled. -/
def isEnabled (c : Config) (name : Json) : Except Fault Bool := do
  if ← c.options.enabledMacros.holds name then return true
  else return !(← c.options.disabledMacros.holds name)

def toJson (c : Config) : Except Fault Json := do
  let enabled ← c.options.enabledMacros.elements
  let disabled ← c.options.disabledMacros.elements
  return .object [
    ("macros", c.settings.toJson),
    ("enabled_macros", .list enabled),
    ("disabled_macros", .list disabled),
    ("max_workers", .int c.options.maxWorkers),
    ("log_level", .text c.options.logLevel.name)]

end Config

end SwiftExpansion
