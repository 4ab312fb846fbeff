import SwiftExpansion.Config.Basic

/-!
# Configurations in use

An action on a configuration in use is a row of effects: records in the log, the assignment of the
settings, that of the options, a new threshold. The effects of an action are carried out one after
the other, and what was done before a fault stays done.
-/
namespace SwiftExpansion

inductive ConfigAction
  | update (data : Json)
  | load (path : String) (document : Except Fault Json)
  | clear
  | setLogLevel (level : LogLevel)

inductive Effect
  | settings (s : Settings)
  | options (o : Options)
  | event (e : Event)

namespace Effect

def event? : Effect → Option Event
  | .event e => some e
  | _ => none

/-- The document is checked first. Then the settings are read and assigned, and only then the
options are read. -/
def update (data : Json) : Logged Fault Effect Unit :=
  match data with
  | .object entries => do
    let fields ← Config.settingsEntries entries
    let settings ← (Settings.read fields).mapNotes .event
    Logged.note (.settings settings)
    let options ← (Options.read entries).mapNotes .event
    Logged.note (.options options)
    if (entries.lookup "log_level").isSome then
      Logged.note (.event (.threshold options.logLevel.threshold))
  | j => .fail (.settingsKind j.kind)

/-- Loading a file is an update, if there is a document, with a record behind it. -/
def load (path : String) (document : Except Fault Json) : Logged Fault Effect Unit :=
  let attempt := (Logged.lift document : Logged Fault Effect Json).bind update
  match attempt.outcome with
  | .ok () =>
    ⟨attempt.notes ++ [.event (.log .info ("Loaded configuration from " ++ path))], .ok ()⟩
  | .error f =>
    ⟨attempt.notes ++ [.event (.log .error
      ("Failed to load configuration from " ++ path ++ ": " ++ f.message))], .error f⟩

def ofAction : ConfigAction → Logged Fault Effect Unit
  | .update data => update data
  | .load path document => load path document
  | .clear => ⟨[.settings {}, .options {}, .event (.log .debug "Configuration cleared")], .ok ()⟩
  | .setLogLevel level => .note (.event (.threshold level.threshold))

end Effect

namespace Config

def apply (c : Config) : Effect → Config
  | .settings settings => { c with settings }
  | .options options => { c with options }
  | .event _ => c

def perform (c : Config) (a : ConfigAction) : Config × List Event × Option Fault :=
  let x := Effect.ofAction a
  (x.notes.foldl apply c, x.notes.filterMap Effect.event?, x.fault?)

/-- What an action makes of a fresh configuration. -/
def ofAction (a : ConfigAction) : Logged Fault Event Config :=
  let x := Effect.ofAction a
  ⟨x.notes.filterMap Effect.event?, x.outcome.map fun _ => x.notes.foldl apply {}⟩

def read (data : Json) : Logged Fault Event Config :=
  ofAction (.update data)

def load (path : String) (document : Except Fault Json) : Logged Fault Event Config :=
  ofAction (.load path document)

end Config

/-- A configuration in use, with the threshold of the log it writes to. -/
structure Session where
  config : Config := {}
  level : Level

namespace Session

def apply (s : Session) : Effect → Session
  | .event e => { s with level := e.thresholdAfter s.level }
  | e => { s with config := s.config.apply e }

def act (s : Session) (a : ConfigAction) : Session × Option Fault :=
  let x := Effect.ofAction a
  (x.notes.foldl apply s, x.fault?)

def run (s : Session) (actions : List ConfigAction) : Session :=
  actions.foldl (fun s a => (s.act a).1) s

end Session

end SwiftExpansion
