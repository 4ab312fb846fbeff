import SwiftExpansion.Config.Session
import SwiftExpansion.Proofs.Json.Short

/-!
# What a configuration owes to its history

What is done before a fault stays done, so nothing but the order of the effects keeps a failed
action from leaving half of its work behind. All that can be wrong with a document is found before
the first assignment; behind that, the one thing that can fail is a warning about a number with too
many digits to be written. No document of a file holds one. Without such numbers an action is done
as a whole or not at all, the last action that replaced the configuration settles it alone, and the
threshold is the last one that was asked for.
-/
namespace SwiftExpansion

namespace ConfigWarning

variable {α : Type} {x : α × List ConfigWarning}

theorem logAll_of_isShort {ws : List ConfigWarning} (h : ∀ w ∈ ws, w.isShort = true) :
    logAll ws = ⟨ws.map event, .ok ()⟩ := by
  induction ws with
  | nil => rfl
  | cons w ws ih =>
    obtain ⟨hw, hws⟩ := List.forall_mem_cons.mp h
    rw [logAll, if_pos hw, ih hws]
    rfl

theorem outcome_logAll {ws : List ConfigWarning} :
    (logAll ws).outcome = .ok () ↔ ∀ w ∈ ws, w.isShort = true := by
  induction ws with
  | nil => simp [logAll]
  | cons w ws ih =>
    unfold logAll
    cases hw : w.isShort with
    | true => simp [ih, Logged.note, hw]
    | false => simp [Logged.fail, hw]

theorem reported_of_isShort (h : ∀ w ∈ x.2, w.isShort = true) :
    reported x = ⟨x.2.map event, .ok x.1⟩ := by
  rw [reported, logAll_of_isShort h, Logged.bind_of_ok rfl, Logged.notes_pure, List.append_nil]
  rfl

theorem reported_eq_ok {a : α} :
    (reported x).outcome = .ok a ↔ (∀ w ∈ x.2, w.isShort = true) ∧ x.1 = a := by
  unfold reported
  rw [Logged.outcome_bind_eq_ok, ← outcome_logAll]
  constructor
  · rintro ⟨u, hlogged, ha⟩
    exact ⟨hlogged, Except.ok.inj ha⟩
  · rintro ⟨hlogged, rfl⟩
    exact ⟨(), hlogged, rfl⟩

end ConfigWarning

namespace Json

def isObject : Json → Bool
  | .object _ => true
  | _ => false

/-- Whether a document is an object whose macro settings, if it has any, are an object too. -/
def configures : Json → Bool
  | .object entries => (entries.lookup "macros").all isObject
  | _ => false

def level? : Json → Option Level
  | .object entries =>
    (entries.lookup "log_level").map fun value => ((LogLevel.ofJson? value).getD .info).threshold
  | _ => none

theorem configures_eq_false_iff {data : Json} :
    data.configures = false ↔ (∀ entries, data ≠ .object entries) ∨
      ∃ entries value, data = .object entries ∧ entries.lookup "macros" = some value ∧
        ∀ fields, value ≠ .object fields := by
  cases data with
  | object entries =>
    cases hlookup : entries.lookup "macros" with
    | none => simp [configures, hlookup]
    | some value => cases value <;> simp [configures, isObject, hlookup]
  | _ => simp [configures]

/-- A document has macro settings to read, or it is refused before anything is done. -/
theorem configures_cases (data : Json) :
    (data.configures = true ∧ ∃ entries fields, data = .object entries ∧
      Config.settingsEntries entries = .ok fields) ∨
    (data.configures = false ∧ ∃ f, Effect.update data = ⟨[], .error f⟩) := by
  cases data with
  | object entries =>
    cases hlookup : entries.lookup "macros" with
    | none =>
      exact .inl ⟨by simp [configures, hlookup], entries, [], rfl,
        by simp [Config.settingsEntries, hlookup]⟩
    | some value =>
      cases value with
      | object fields =>
        exact .inl ⟨by simp [configures, isObject, hlookup], entries, fields, rfl,
          by simp [Config.settingsEntries, hlookup]⟩
      | _ =>
        have hfields : Config.settingsEntries entries = .error .macrosKind := by
          simp [Config.settingsEntries, hlookup]
        refine .inr ⟨by simp [configures, isObject, hlookup], .macrosKind, ?_⟩
        unfold Effect.update
        dsimp only
        rw [hfields]
        rfl
  | _ => exact .inr ⟨rfl, _, rfl⟩

end Json

namespace Settings

theorem readEntries_isShort (s : Settings) {entries : List (String × Json)}
    (h : ∀ e ∈ entries, e.2.isShort = true) :
    ∀ w ∈ (s.readEntries entries).2, w.isShort = true := by
  induction entries generalizing s with
  | nil => simp [readEntries]
  | cons e entries ih =>
    obtain ⟨he, hrest⟩ := List.forall_mem_cons.mp h
    have hentry : ∀ w ∈ (s.readEntry e).2, w.isShort = true := by
      unfold readEntry
      cases Setting.ofKey? e.1 with
      | none => simp [ConfigWarning.isShort]
      | some k => cases hset : s.set? k e.2 <;> simp [hset, ConfigWarning.isShort, he]
    exact List.forall_mem_append.mpr ⟨hentry, ih (s.readEntry e).1 hrest⟩

theorem assess_isShort {entries : List (String × Json)} (h : ∀ e ∈ entries, e.2.isShort = true) :
    ∀ w ∈ (assess entries).2, w.isShort = true := by
  have hlast : ∀ w ∈ (readEntries {} entries).1.requirePlaceholder.2, w.isShort = true := by
    unfold requirePlaceholder
    split <;> simp [ConfigWarning.isShort]
  exact List.forall_mem_append.mpr ⟨readEntries_isShort {} h, hlast⟩

end Settings

namespace Options

theorem assess_isShort {entries : List (String × Json)} (h : ∀ e ∈ entries, e.2.isShort = true) :
    ∀ w ∈ (assess entries).2, w.isShort = true := by
  have hlevel : ∀ w ∈ (readLogLevel entries).2, w.isShort = true := by
    unfold readLogLevel
    cases hvalue : entries.lookup "log_level" with
    | none => simp
    | some value =>
      have hshort := Json.isShort_of_lookup h hvalue
      cases hfound : LogLevel.ofJson? value <;> simp [hfound, ConfigWarning.isShort, hshort]
  have hworkers : ∀ w ∈ (readWorkers entries).2, w.isShort = true := by
    unfold readWorkers
    cases hvalue : entries.lookup "max_workers" with
    | none => simp
    | some value =>
      have hshort := Json.isShort_of_lookup h hvalue
      cases hfound : workers? value <;> simp [hfound, ConfigWarning.isShort, hshort]
  exact List.forall_mem_append.mpr ⟨hlevel, hworkers⟩

end Options

namespace Config

theorem settingsEntries_isShort {entries fields : List (String × Json)}
    (h : ∀ e ∈ entries, e.2.isShort = true) (hfields : settingsEntries entries = .ok fields) :
    ∀ e ∈ fields, e.2.isShort = true := by
  unfold settingsEntries at hfields
  split at hfields
  · cases hfields
    simp
  · rename_i settings hlookup
    cases hfields
    exact Json.isShort_object.mp (Json.isShort_of_lookup h hlookup)
  · cases hfields

def levelEvents (entries : List (String × Json)) : List Event :=
  if (entries.lookup "log_level").isSome then
    [.threshold (Options.assess entries).1.logLevel.threshold]
  else []

/-- Warnings are records, so the threshold is the one the document asks for. -/
theorem threshold_levelEvents {entries : List (String × Json)} (ws : List ConfigWarning)
    (level : Level) :
    Journal.threshold level (ws.map ConfigWarning.event ++ levelEvents entries) =
      (Json.object entries).level?.getD level := by
  have hrecords : ws.map ConfigWarning.event =
      (ws.map fun w => ⟨.warning, w.message⟩).map .record := by
    rw [List.map_map]
    rfl
  rw [hrecords, Journal.threshold_append, Journal.threshold_records]
  cases hlookup : entries.lookup "log_level" with
  | none => simp [levelEvents, Json.level?, hlookup, Journal.threshold]
  | some value =>
    cases hlevel : LogLevel.ofJson? value <;>
      simp [levelEvents, Json.level?, hlookup, hlevel, Options.assess, Options.readLogLevel,
        Journal.threshold, Event.thresholdAfter]

@[simp] theorem foldl_event (c : Config) (events : List Event) :
    (events.map Effect.event).foldl apply c = c := by
  induction events with
  | nil => rfl
  | cons e events ih => exact ih

end Config

namespace Effect

@[simp] theorem filterMap_event (events : List Event) :
    (events.map event).filterMap event? = events := by
  rw [List.filterMap_map]
  exact List.filterMap_some

variable {entries fields : List (String × Json)}

/-- What is done for a document, if all that is to be warned about can be written. -/
theorem update_of_settingsEntries (hfields : Config.settingsEntries entries = .ok fields)
    (hsettings : ∀ w ∈ (Settings.assess fields).2, w.isShort = true)
    (hoptions : ∀ w ∈ (Options.assess entries).2, w.isShort = true) :
    update (.object entries) =
      ⟨((Settings.assess fields).2.map ConfigWarning.event).map .event ++
        .settings (Settings.assess fields).1 ::
        (((Options.assess entries).2.map ConfigWarning.event).map .event ++
        .options (Options.assess entries).1 :: (Config.levelEvents entries).map .event),
        .ok ()⟩ := by
  have hlift : (liftM (Config.settingsEntries entries) : Logged Fault Effect _).outcome =
      .ok fields := hfields
  unfold update
  dsimp only
  rw [Logged.bind_of_ok hlift]
  rw [Settings.read, ConfigWarning.reported_of_isShort hsettings, Options.read,
    ConfigWarning.reported_of_isShort hoptions]
  cases hlevel : (entries.lookup "log_level").isSome with
  | true =>
    simp only [hlevel, Config.levelEvents]
    rfl
  | false =>
    simp only [hlevel, Config.levelEvents]
    rfl

theorem outcome_update {data : Json} :
    (update data).outcome = .ok () ↔ ∃ entries fields, data = .object entries ∧
      Config.settingsEntries entries = .ok fields ∧
      (∀ w ∈ (Settings.assess fields).2, w.isShort = true) ∧
      ∀ w ∈ (Options.assess entries).2, w.isShort = true := by
  constructor
  · intro h
    cases data with
    | object entries =>
      simp only [update, Logged.outcome_bind_eq_ok, Logged.outcome_liftM,
        Logged.outcome_mapNotes] at h
      obtain ⟨fields, hfields, settings, hsettings, -, -, options, hoptions, -⟩ := h
      exact ⟨entries, fields, rfl, hfields, (ConfigWarning.reported_eq_ok.mp hsettings).1,
        (ConfigWarning.reported_eq_ok.mp hoptions).1⟩
    | _ => cases h
  · rintro ⟨entries, fields, rfl, hfields, hsettings, hoptions⟩
    rw [update_of_settingsEntries hfields hsettings hoptions]

end Effect

namespace Config

variable {entries fields : List (String × Json)}

theorem perform_update (c : Config) (data : Json) :
    c.perform (.update data) = ((Effect.update data).notes.foldl apply c,
      (Effect.update data).notes.filterMap Effect.event?, (Effect.update data).fault?) :=
  rfl

theorem perform_of_settingsEntries (hfields : settingsEntries entries = .ok fields)
    (hsettings : ∀ w ∈ (Settings.assess fields).2, w.isShort = true)
    (hoptions : ∀ w ∈ (Options.assess entries).2, w.isShort = true) (c : Config) :
    c.perform (.update (.object entries)) =
      (⟨(Settings.assess fields).1, (Options.assess entries).1⟩,
        ((Settings.assess fields).2 ++ (Options.assess entries).2).map ConfigWarning.event ++
          levelEvents entries, none) := by
  rw [perform_update, Effect.update_of_settingsEntries hfields hsettings hoptions]
  simp only [List.foldl_append, List.foldl_cons, foldl_event, apply, List.filterMap_append,
    Effect.filterMap_event, List.filterMap_cons, Effect.event?, List.map_append, List.append_assoc]
  rfl

theorem read_eq_of_perform {c : Config} {data : Json} {events : List Event}
    (h : ({} : Config).perform (.update data) = (c, events, none)) :
    read data = ⟨events, .ok c⟩ := by
  rw [perform_update, Logged.fault?] at h
  cases hupdate : (Effect.update data).outcome with
  | ok u =>
    simp only [hupdate, Prod.mk.injEq, and_true] at h
    simp [read, ofAction, Effect.ofAction, hupdate, Except.map, h]
  | error f => simp [hupdate] at h

theorem perform_update_eq_ok {c next : Config} {data : Json} {events : List Event}
    (h : c.perform (.update data) = (next, events, none)) :
    ∃ entries fields, data = .object entries ∧ next.settings = (Settings.assess fields).1 ∧
      next.options = (Options.assess entries).1 := by
  have hdone : (Effect.update data).outcome = .ok () := by
    have hfault : (Effect.update data).fault? = none := congrArg (fun x => x.2.2) h
    unfold Logged.fault? at hfault
    split at hfault
    · assumption
    · cases hfault
  obtain ⟨entries, fields, rfl, hfields, hsettings, hoptions⟩ := Effect.outcome_update.mp hdone
  rw [perform_of_settingsEntries hfields hsettings hoptions] at h
  cases h
  exact ⟨entries, fields, rfl, rfl, rfl⟩

/-- Without a number that is too long, a document is applied as a whole or refused as a whole. -/
theorem perform_update_cases {data : Json} (hshort : data.isShort = true) :
    (data.configures = true ∧ ∃ next events,
      (∀ c : Config, c.perform (.update data) = (next, events, none)) ∧
      ∀ level, Journal.threshold level events = data.level?.getD level) ∨
    (data.configures = false ∧ ∃ f, ∀ c : Config, c.perform (.update data) = (c, [], some f)) := by
  rcases data.configures_cases with ⟨hdata, entries, fields, rfl, hfields⟩ | ⟨hdata, f, hupdate⟩
  · have hentries := Json.isShort_object.mp hshort
    exact .inl ⟨hdata, _, _, perform_of_settingsEntries hfields
      (Settings.assess_isShort (settingsEntries_isShort hentries hfields))
      (Options.assess_isShort hentries), threshold_levelEvents _⟩
  · refine .inr ⟨hdata, f, fun c => ?_⟩
    rw [perform_update, hupdate]
    rfl

end Config

namespace ConfigAction

def document? : ConfigAction → Option Json
  | .update data => some data
  | .load _ document => document.toOption
  | _ => none

def isShort (a : ConfigAction) : Bool :=
  a.document?.all Json.isShort

/-- Whether an action can be carried out: one that applies a document needs one that configures. -/
def succeeds : ConfigAction → Bool
  | .clear | .setLogLevel _ => true
  | a => a.document?.any Json.configures

def replaces : ConfigAction → Bool
  | .setLogLevel _ => false
  | a => a.succeeds

/-- What an action that replaces the configuration makes of a fresh one. -/
def replacement? (a : ConfigAction) : Option Config :=
  if a.replaces then some (({} : Config).perform a).1 else none

def level? : ConfigAction → Option Level
  | .setLogLevel level => some level.threshold
  | a => if a.succeeds then a.document?.bind Json.level? else none

theorem of_document {a : ConfigAction} {data : Json} (h : a.document? = some data) :
    a.succeeds = data.configures ∧ a.replaces = data.configures ∧
      a.level? = if data.configures then data.level? else none := by
  cases a with
  | update data => simp_all [document?, succeeds, replaces, level?]
  | load path document => simp_all [document?, succeeds, replaces, level?]
  | clear => cases h
  | setLogLevel level => cases h

theorem of_not_succeeds {a : ConfigAction} (h : a.succeeds = false) :
    a.replacement? = none ∧ a.level? = none := by
  cases a with
  | update data => exact ⟨if_neg (by simpa [replaces] using h), if_neg (by simp [h])⟩
  | load path document => exact ⟨if_neg (by simpa [replaces] using h), if_neg (by simp [h])⟩
  | clear => cases h
  | setLogLevel level => cases h

theorem load_isShort (path : String) (octets : List UInt8) :
    (load path (Json.ofOctets octets)).isShort = true := by
  unfold isShort document?
  cases hdocument : Json.ofOctets octets with
  | error f => rfl
  | ok data => exact Json.ofOctets_isShort hdocument

end ConfigAction

namespace Config

/-- An action that applies a document does what an update with it does. A file is loaded with a
record behind it, which changes no threshold. -/
theorem perform_of_document {a : ConfigAction} {data : Json} (h : a.document? = some data) :
    ∃ records : List Record, ∀ c : Config, c.perform a = ((c.perform (.update data)).1,
      (c.perform (.update data)).2.1 ++ records.map .record, (c.perform (.update data)).2.2) := by
  cases a with
  | update data =>
    cases h
    exact ⟨[], fun c => by simp⟩
  | load path document =>
    cases document with
    | error f => cases h
    | ok data =>
      cases h
      cases hupdate : (Effect.update data).outcome with
      | ok u =>
        refine ⟨[⟨.info, "Loaded configuration from " ++ path⟩], fun c => ?_⟩
        simp [perform, Effect.ofAction, Effect.load, Logged.lift, Logged.bind, Logged.fault?,
          hupdate, apply, Effect.event?, Event.log]
      | error f =>
        refine ⟨[⟨.error, "Failed to load configuration from " ++ path ++ ": " ++ f.message⟩],
          fun c => ?_⟩
        simp [perform, Effect.ofAction, Effect.load, Logged.lift, Logged.bind, Logged.fault?,
          hupdate, apply, Effect.event?, Event.log]
  | clear => cases h
  | setLogLevel level => cases h

/-- What an action can do to a configuration: replace it as a whole or leave it, and set the
threshold it asks for; or fail, and do neither. -/
theorem perform_cases (c : Config) {a : ConfigAction} (hshort : a.isShort = true) :
    (a.succeeds = true ∧ ∃ events, c.perform a = (a.replacement?.getD c, events, none) ∧
      ∀ level, Journal.threshold level events = a.level?.getD level) ∨
    (a.succeeds = false ∧ ∃ events f, c.perform a = (c, events, some f) ∧
      ∀ level, Journal.threshold level events = level) := by
  cases hdocument : a.document? with
  | none =>
    cases a with
    | update data => cases hdocument
    | load path document =>
      cases document with
      | ok data => cases hdocument
      | error f => exact .inr ⟨rfl, _, f, rfl, fun level => rfl⟩
    | clear => exact .inl ⟨rfl, _, rfl, fun level => rfl⟩
    | setLogLevel level => exact .inl ⟨rfl, _, rfl, fun level => rfl⟩
  | some data =>
    obtain ⟨records, hperform⟩ := perform_of_document hdocument
    obtain ⟨hsucceeds, hreplaces, hlevel⟩ := ConfigAction.of_document hdocument
    have hdata : data.isShort = true := by simpa [ConfigAction.isShort, hdocument] using hshort
    rcases perform_update_cases hdata with
      ⟨hdata, next, events, hdone, hthreshold⟩ | ⟨hdata, f, hdone⟩
    · refine .inl ⟨hsucceeds.trans hdata, events ++ records.map .record, ?_, fun level => ?_⟩
      · simp [ConfigAction.replacement?, hreplaces, hdata, hperform, hdone]
      · rw [Journal.threshold_append, Journal.threshold_records, hthreshold, hlevel, if_pos hdata]
    · refine .inr ⟨hsucceeds.trans hdata, records.map .record, f, ?_, fun level => ?_⟩
      · simp [hperform, hdone]
      · exact Journal.threshold_records level records

end Config

namespace Session

theorem foldl_apply (s : Session) (effects : List Effect) :
    effects.foldl apply s = ⟨effects.foldl Config.apply s.config,
      Journal.threshold s.level (effects.filterMap Effect.event?)⟩ := by
  induction effects generalizing s with
  | nil => rfl
  | cons e effects ih => cases e <;> exact ih _

/-- Carried out one by one, the effects of an action come to what the action does as a whole. -/
theorem act_eq_perform (s : Session) (a : ConfigAction) :
    s.act a = (⟨(s.config.perform a).1, Journal.threshold s.level (s.config.perform a).2.1⟩,
      (s.config.perform a).2.2) := by
  unfold act
  dsimp only
  rw [foldl_apply]
  rfl

/-- A failed action leaves all as it was; any other one does at once what it does at all. -/
theorem act_cases (s : Session) {a : ConfigAction} (hshort : a.isShort = true) :
    (a.succeeds = true ∧
      s.act a = (⟨a.replacement?.getD s.config, a.level?.getD s.level⟩, none)) ∨
    (a.succeeds = false ∧ ∃ f, s.act a = (s, some f)) := by
  rw [act_eq_perform]
  rcases s.config.perform_cases hshort with
    ⟨ha, events, hdone, hlevel⟩ | ⟨ha, events, f, hdone, hlevel⟩
  · exact .inl ⟨ha, by rw [hdone, hlevel]⟩
  · exact .inr ⟨ha, f, by rw [hdone, hlevel]⟩

theorem act_fst (s : Session) {a : ConfigAction} (hshort : a.isShort = true) :
    (s.act a).1 = ⟨a.replacement?.getD s.config, a.level?.getD s.level⟩ := by
  rcases s.act_cases hshort with ⟨-, hact⟩ | ⟨ha, f, hact⟩
  · rw [hact]
  · obtain ⟨hreplacement, hlevel⟩ := ConfigAction.of_not_succeeds ha
    rw [hact, hreplacement, hlevel]
    rfl

/-- Of all actions, the last that replaced the configuration counts, and the last that set the
threshold. -/
theorem run_eq (s : Session) {actions : List ConfigAction}
    (hshort : ∀ a ∈ actions, a.isShort = true) :
    s.run actions = ⟨(actions.filterMap ConfigAction.replacement?).getLast?.getD s.config,
      (actions.filterMap ConfigAction.level?).getLast?.getD s.level⟩ := by
  induction actions generalizing s with
  | nil => rfl
  | cons a actions ih =>
    obtain ⟨ha, hactions⟩ := List.forall_mem_cons.mp hshort
    have hrun : s.run (a :: actions) = (s.act a).1.run actions := rfl
    rw [hrun, ih _ hactions, act_fst s ha]
    cases hreplacement : a.replacement? <;> cases hlevel : a.level? <;>
      simp [hreplacement, hlevel, List.getLast?_cons]

/-- Configuring is atomic and forgets. Carried out effect by effect, an action comes to what it
does as a whole. A document that is no object, or has macro settings that are none, is refused and
changes nothing, and so does a file that cannot be read. As long as no number is too long to be
written, which is so for all that is read from a file, nothing else fails: after any actions the
configuration is what the last one that replaced it makes of a fresh one, and the threshold is the
one that was set last. -/
theorem act_atomic_run_last (s : Session) :
    (∀ a, s.act a = (⟨(s.config.perform a).1,
      Journal.threshold s.level (s.config.perform a).2.1⟩, (s.config.perform a).2.2)) ∧
    (∀ data, data.isShort = true → ((∃ f, (s.act (.update data)).2 = some f) ↔
      (∀ entries, data ≠ .object entries) ∨
        ∃ entries value, data = .object entries ∧ entries.lookup "macros" = some value ∧
          ∀ fields, value ≠ .object fields)) ∧
    (∀ path f, s.act (.load path (.error f)) = (s, some f)) ∧
    (∀ path octets, (ConfigAction.load path (Json.ofOctets octets)).isShort = true) ∧
    (∀ a f, a.isShort = true → (s.act a).2 = some f → (s.act a).1 = s) ∧
    (∀ a, a.isShort = true → ((s.act a).2 = none ↔ a.succeeds = true)) ∧
    ∀ actions : List ConfigAction, (∀ a ∈ actions, a.isShort = true) →
      (s.run actions).config =
        (actions.filterMap ConfigAction.replacement?).getLast?.getD s.config ∧
      (s.run actions).level = (actions.filterMap ConfigAction.level?).getLast?.getD s.level := by
  refine ⟨s.act_eq_perform, ?_, fun path f => rfl, ConfigAction.load_isShort, ?_, ?_, ?_⟩
  · intro data hshort
    rw [← Json.configures_eq_false_iff]
    have hsucceeds : (ConfigAction.update data).succeeds = data.configures := rfl
    rcases s.act_cases (a := .update data) hshort with ⟨ha, hact⟩ | ⟨ha, f, hact⟩
    · simp [hact, ← hsucceeds, ha]
    · simp [hact, ← hsucceeds, ha]
  · intro a f hshort hf
    rcases s.act_cases hshort with ⟨-, hact⟩ | ⟨-, g, hact⟩
    · rw [hact] at hf
      cases hf
    · rw [hact]
  · intro a hshort
    rcases s.act_cases hshort with ⟨ha, hact⟩ | ⟨ha, f, hact⟩
    · simp [hact, ha]
    · simp [hact, ha]
  · intro actions hshort
    rw [run_eq s hshort]
    exact ⟨rfl, rfl⟩

def mixedActions : List ConfigAction :=
  [.update (.object [("macros", .object [("indent_size", .int 2)]), ("log_level", .text "debug")]),
    .update (.object [("macros", .int 7), ("max_workers", .int 9)]),
    .update (.object [("max_workers", .int 1), ("log_level", .text "loud")]),
    .setLogLevel .error, .load "absent" (.error (.file .missing "absent"))]

theorem act_atomic_run_last_mixedActions :
    (∀ a ∈ mixedActions, a.isShort = true) ∧
      (run ⟨{}, .warning⟩ mixedActions).config = { options := { maxWorkers := 1 } } ∧
      (run ⟨{}, .warning⟩ mixedActions).level = .error := by
  have hshort : ∀ a ∈ mixedActions, a.isShort = true := by
    decide +kernel
  obtain ⟨-, -, -, -, -, -, hrun⟩ := act_atomic_run_last ⟨{}, .warning⟩
  obtain ⟨hconfig, hlevel⟩ := hrun mixedActions hshort
  exact ⟨hshort, hconfig.trans rfl, hlevel.trans rfl⟩

end Session

end SwiftExpansion
