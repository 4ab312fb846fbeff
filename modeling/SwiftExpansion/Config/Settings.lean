import SwiftExpansion.Journal
import SwiftExpansion.Json.Access

/-!
# Rendering settings

The settings that the expansion rules share. They are read from an object whose entries are
checked one by one: an unknown key or an unfit value is reported and leaves its setting at the
default, and no entry affects the setting of another. Reading fails only over a report that cannot
be written, for want of a text for the value in it.
-/
namespace SwiftExpansion

structure Settings where
  decoderType : String := "ObjectMapper.Map"
  acceptedDecoderTypes : List String := ["Map", "ObjectMapper.Map"]
  decoderParameter : String := "map"
  bindOperator : String := "<-"
  conformanceName : String := "Mappable"
  mappingFunction : String := "mapping"
  resourceLookup : String := "Bundle.main.object(forInfoDictionaryKey: \x7bkey\x7d)"
  defaultResourceType : String := "String"
  interfaceSuffix : String := "Interface"
  interfaceBase : String := "AnyObject"
  indentSize : Nat := 4
  deriving Repr, DecidableEq, Inhabited

inductive Setting
  | decoderType
  | acceptedDecoderTypes
  | decoderParameter
  | bindOperator
  | conformanceName
  | mappingFunction
  | resourceLookup
  | defaultResourceType
  | interfaceSuffix
  | interfaceBase
  | indentSize
  deriving Repr, DecidableEq

namespace Setting

def key : Setting → String
  | .decoderType => "decoder_type"
  | .acceptedDecoderTypes => "accepted_decoder_types"
  | .decoderParameter => "decoder_parameter"
  | .bindOperator => "bind_operator"
  | .conformanceName => "conformance_name"
  | .mappingFunction => "mapping_function"
  | .resourceLookup => "resource_lookup"
  | .defaultResourceType => "default_resource_type"
  | .interfaceSuffix => "interface_suffix"
  | .interfaceBase => "interface_base"
  | .indentSize => "indent_size"

def all : List Setting :=
  [.decoderType, .acceptedDecoderTypes, .decoderParameter, .bindOperator, .conformanceName,
    .mappingFunction, .resourceLookup, .defaultResourceType, .interfaceSuffix, .interfaceBase,
    .indentSize]

def ofKey? (key : String) : Option Setting :=
  all.find? (·.key == key)

end Setting

/-- What was wrong with a configuration that was accepted nevertheless. -/
inductive ConfigWarning
  | unknownSetting (key : String)
  | invalidSetting (key : String) (value : Json)
  | noPlaceholder
  | invalidLogLevel (value : Json)
  | invalidWorkers (value : Json)
  deriving Repr

namespace ConfigWarning

def message : ConfigWarning → String
  | .unknownSetting key => "Ignoring unknown macro setting: " ++ key
  | .invalidSetting key value =>
    "Invalid value for " ++ key ++ ": " ++ value.quoted ++ ", using default"
  | .noPlaceholder => "resource_lookup must contain a '\x7bkey\x7d' placeholder, using default"
  | .invalidLogLevel value => "Invalid log level: " ++ value.display
  | .invalidWorkers value => "Invalid max_workers: " ++ value.quoted

def isShort : ConfigWarning → Bool
  | .invalidSetting _ value | .invalidLogLevel value | .invalidWorkers value => value.isShort
  | _ => true

def event (w : ConfigWarning) : Event :=
  .log .warning w.message

/-- Logs the warnings in order, up to one that cannot be written. -/
def logAll : List ConfigWarning → Logged Fault Event Unit
  | [] => pure ()
  | w :: ws =>
    if w.isShort then do
      Logged.note w.event
      logAll ws
    else .fail .digitLimit

/-- What was read with warnings is handed out once they are logged. -/
def reported {α : Type} (x : α × List ConfigWarning) : Logged Fault Event α := do
  logAll x.2
  return x.1

end ConfigWarning

namespace Settings

def placeholder : String := "\x7bkey\x7d"

/-- A text setting takes any text but the empty one. -/
def text? : Json → Option String
  | .text s => if s.isEmpty then none else some s
  | _ => none

def texts? : Json → Option (List String)
  | .list items => items.mapM fun j => match j with
    | .text s => some s
    | _ => none
  | _ => none

/-- A size takes whole numbers from zero on; a flag is no number here. -/
def size? : Json → Option Nat
  | .int n => if 0 ≤ n then some n.toNat else none
  | _ => none

def set? (s : Settings) (setting : Setting) (value : Json) : Option Settings :=
  match setting with
  | .decoderType => (text? value).map fun v => { s with decoderType := v }
  | .acceptedDecoderTypes => (texts? value).map fun v => { s with acceptedDecoderTypes := v }
  | .decoderParameter => (text? value).map fun v => { s with decoderParameter := v }
  | .bindOperator => (text? value).map fun v => { s with bindOperator := v }
  | .conformanceName => (text? value).map fun v => { s with conformanceName := v }
  | .mappingFunction => (text? value).map fun v => { s with mappingFunction := v }
  | .resourceLookup => (text? value).map fun v => { s with resourceLookup := v }
  | .defaultResourceType => (text? value).map fun v => { s with defaultResourceType := v }
  | .interfaceSuffix => (text? value).map fun v => { s with interfaceSuffix := v }
  | .interfaceBase => (text? value).map fun v => { s with interfaceBase := v }
  | .indentSize => (size? value).map fun v => { s with indentSize := v }

def readEntry (s : Settings) (entry : String × Json) : Settings × List ConfigWarning :=
  match Setting.ofKey? entry.1 with
  | none => (s, [.unknownSetting entry.1])
  | some setting =>
    match s.set? setting entry.2 with
    | some s => (s, [])
    | none => (s, [.invalidSetting entry.1 entry.2])

def readEntries (s : Settings) : List (String × Json) → Settings × List ConfigWarning
  | [] => (s, [])
  | entry :: entries =>
    let (s, warnings) := s.readEntry entry
    let (s, more) := s.readEntries entries
    (s, warnings ++ more)

/-- A resource lookup without its placeholder is replaced at the end. -/
def requirePlaceholder (s : Settings) : Settings × List ConfigWarning :=
  if Text.occursIn placeholder.toList s.resourceLookup.toList then (s, [])
  else ({ s with resourceLookup := ({} : Settings).resourceLookup }, [.noPlaceholder])

/-- What the entries of an object come to, and what is wrong with them. -/
def assess (entries : List (String × Json)) : Settings × List ConfigWarning :=
  let (s, warnings) := readEntries {} entries
  let (s, more) := s.requirePlaceholder
  (s, warnings ++ more)

def read (entries : List (String × Json)) : Logged Fault Event Settings :=
  ConfigWarning.reported (assess entries)

def toJson (s : Settings) : Json :=
  .object [
    (Setting.decoderType.key, .text s.decoderType),
    (Setting.acceptedDecoderTypes.key, .list (s.acceptedDecoderTypes.map .text)),
    (Setting.decoderParameter.key, .text s.decoderParameter),
    (Setting.bindOperator.key, .text s.bindOperator),
    (Setting.conformanceName.key, .text s.conformanceName),
    (Setting.mappingFunction.key, .text s.mappingFunction),
    (Setting.resourceLookup.key, .text s.resourceLookup),
    (Setting.defaultResourceType.key, .text s.defaultResourceType),
    (Setting.interfaceSuffix.key, .text s.interfaceSuffix),
    (Setting.interfaceBase.key, .text s.interfaceBase),
    (Setting.indentSize.key, .int s.indentSize)]

def checkIndent [Memory] (s : Settings) : Except Fault Unit :=
  if Text.maxLength < s.indentSize then .error .indentTooLarge
  else if Memory.capacity < s.indentSize then .error .outOfMemory
  else .ok ()

def indent [Memory] (s : Settings) : Except Fault String := do
  s.checkIndent
  return String.ofList (List.replicate s.indentSize ' ')

end Settings

end SwiftExpansion
