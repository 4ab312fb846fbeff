import SwiftExpansion.Proofs.Config.History
import SwiftExpansion.Proofs.Config.Settings

/-!
# A configuration is restored from its own document

Whatever a session went through, and wherever an action of it failed, what is stored in its
configuration has passed the checks it will meet again when its document is read. The one thing that
is never checked are the two lists of macros: a document has to give lists there, of names or of
anything else, or none.
-/
namespace SwiftExpansion

namespace Json

def isList : Json → Bool
  | .list _ => true
  | _ => false

/-- Whether what a document gives for the lists of macros are lists. -/
def listsMacros : Json → Bool
  | .object entries =>
    (entries.lookup "enabled_macros").all isList && (entries.lookup "disabled_macros").all isList
  | _ => true

theorem exists_list_of_getD {value : Option Json} (h : value.all isList = true) :
    ∃ items, value.getD (.list []) = .list items := by
  cases value with
  | none => exact ⟨[], rfl⟩
  | some j =>
    cases j with
    | list items => exact ⟨items, rfl⟩
    | _ => cases h

end Json

namespace Options

structure IsFit (o : Options) : Prop where
  enabled : ∃ items, o.enabledMacros = .list items
  disabled : ∃ items, o.disabledMacros = .list items
  workers : 1 ≤ o.maxWorkers

theorem isFit_default : ({} : Options).IsFit :=
  ⟨⟨[], rfl⟩, ⟨[], rfl⟩, by decide⟩

theorem one_le_readWorkers (entries : List (String × Json)) : 1 ≤ (readWorkers entries).1 := by
  unfold readWorkers
  cases entries.lookup "max_workers" with
  | none => simp
  | some value =>
    cases value with
    | int n =>
      by_cases hn : 1 ≤ n
      · simp only [workers?, if_pos hn]
        omega
      · simp [workers?, hn]
    | _ => simp [workers?]

theorem assess_isFit {entries : List (String × Json)}
    (h : (Json.object entries).listsMacros = true) : (assess entries).1.IsFit := by
  obtain ⟨henabled, hdisabled⟩ := Bool.and_eq_true_iff.mp h
  exact ⟨Json.exists_list_of_getD henabled, Json.exists_list_of_getD hdisabled,
    one_le_readWorkers entries⟩

theorem ofJson?_name (l : LogLevel) : LogLevel.ofJson? (.text l.name) = some l := by
  cases l <;> rfl

def written (o : Options) (settings : Json) : List (String × Json) :=
  [("macros", settings), ("enabled_macros", o.enabledMacros), ("disabled_macros", o.disabledMacros),
    ("max_workers", .int o.maxWorkers), ("log_level", .text o.logLevel.name)]

theorem assess_written {o : Options} (ho : o.IsFit) (settings : Json) :
    assess (o.written settings) = (o, []) := by
  have hworkers : workers? (.int o.maxWorkers) = some o.maxWorkers := by
    have hone := ho.workers
    rw [workers?, if_pos (by omega), Int.toNat_natCast]
  simp [assess, readLogLevel, readWorkers, written, List.lookup_cons, ofJson?_name, hworkers]

end Options

namespace Config

structure IsFit (c : Config) : Prop where
  settings : c.settings.IsFit
  options : c.options.IsFit

theorem isFit_default : ({} : Config).IsFit :=
  ⟨Settings.isFit_default, Options.isFit_default⟩

/-- A fresh configuration that is given the document of a fit one becomes that one, and nothing is
said about it. -/
theorem perform_toJson {c : Config} (hc : c.IsFit) :
    ∃ j, c.toJson = .ok j ∧ ({} : Config).perform (.update j) =
      (c, [.threshold c.options.logLevel.threshold], none) := by
  obtain ⟨enabled, henabled⟩ := hc.options.enabled
  obtain ⟨disabled, hdisabled⟩ := hc.options.disabled
  refine ⟨.object (c.options.written c.settings.toJson), ?_, ?_⟩
  · simp [toJson, Options.written, Json.elements, henabled, hdisabled]
  · have hfields : settingsEntries (c.options.written c.settings.toJson) =
        .ok (c.settings.written Setting.all) := by
      rw [Settings.toJson_eq_written]
      rfl
    have hsettings := Settings.assess_written hc.settings
    have hoptions := Options.assess_written hc.options c.settings.toJson
    rw [perform_of_settingsEntries hfields (by simp [hsettings]) (by simp [hoptions]), hsettings,
      levelEvents, hoptions]
    rfl

/-- Lists answer for every name, by the equality of their items. -/
theorem isEnabled_of_lists {c : Config} {enabled disabled : List Json}
    (henabled : c.options.enabledMacros = .list enabled)
    (hdisabled : c.options.disabledMacros = .list disabled) (name : Json) :
    c.isEnabled name =
      .ok (enabled.any (·.sameItem name) || !disabled.any (·.sameItem name)) := by
  unfold isEnabled
  rw [henabled, hdisabled]
  cases hany : enabled.any (·.sameItem name) with
  | true => simp [Json.holds, hany]
  | false => simp [Json.holds, hany]

end Config

namespace Effect

/-- What an effect stores, if anything, is fit. -/
def IsFit : Effect → Prop
  | .settings s => s.IsFit
  | .options o => o.IsFit
  | .event _ => True

theorem reported_leaves {α : Type} (x : α × List ConfigWarning) :
    ((ConfigWarning.reported x).mapNotes event).Leaves IsFit :=
  Logged.leaves_mapNotes.mpr fun _ _ => trivial

/-- Settings and options are stored as they are read, so what a document can store is fit, also if
the update fails later on. -/
theorem update_leaves {data : Json} (hdata : data.listsMacros = true) :
    (update data).Leaves IsFit := by
  cases data with
  | object entries =>
    refine (Logged.leaves_liftM _).bind fun fields => ?_
    refine (reported_leaves _).bind_of_ok fun settings hsettings => ?_
    have hs : IsFit (.settings settings) :=
      (ConfigWarning.reported_eq_ok.mp hsettings).2 ▸ Settings.assess_isFit fields
    refine (Logged.leaves_note hs).bind fun _ => ?_
    refine (reported_leaves _).bind_of_ok fun options hoptions => ?_
    have ho : IsFit (.options options) :=
      (ConfigWarning.reported_eq_ok.mp hoptions).2 ▸ Options.assess_isFit hdata
    refine (Logged.leaves_note ho).bind fun _ => ?_
    split
    · exact Logged.leaves_note trivial
    · exact Logged.leaves_pure _
  | _ => exact Logged.leaves_fail _

theorem load_leaves {path : String} {document : Except Fault Json}
    (h : ∀ data, document = .ok data → data.listsMacros = true) :
    (load path document).Leaves IsFit := by
  have hattempt :
      Logged.Leaves IsFit ((Logged.lift document : Logged Fault Effect Json) >>= update) :=
    (Logged.leaves_liftM document).bind_of_ok fun data hdata => update_leaves (h data hdata)
  unfold load
  dsimp only
  split
  · exact List.forall_mem_append.mpr ⟨hattempt, List.forall_mem_singleton.mpr trivial⟩
  · exact List.forall_mem_append.mpr ⟨hattempt, List.forall_mem_singleton.mpr trivial⟩

theorem ofAction_leaves {a : ConfigAction} (h : a.document?.all Json.listsMacros = true) :
    (ofAction a).Leaves IsFit := by
  cases a with
  | update data => exact update_leaves h
  | load path document =>
    refine load_leaves fun data hdata => ?_
    cases hdata
    exact h
  | clear =>
    intro e he
    simp only [ofAction, List.mem_cons, List.not_mem_nil, or_false] at he
    rcases he with rfl | rfl | rfl
    · exact Settings.isFit_default
    · exact Options.isFit_default
    · trivial
  | setLogLevel level => exact Logged.leaves_note trivial

end Effect

namespace Config

theorem apply_isFit {c : Config} {e : Effect} (hc : c.IsFit) (he : e.IsFit) :
    (c.apply e).IsFit := by
  cases e with
  | settings s => exact ⟨he, hc.options⟩
  | options o => exact ⟨hc.settings, he⟩
  | event e => exact hc

theorem foldl_apply_isFit {c : Config} {effects : List Effect} (hc : c.IsFit)
    (h : ∀ e ∈ effects, e.IsFit) : (effects.foldl apply c).IsFit := by
  induction effects generalizing c with
  | nil => exact hc
  | cons e effects ih =>
    obtain ⟨he, hrest⟩ := List.forall_mem_cons.mp h
    exact ih (apply_isFit hc he) hrest

end Config

namespace Session

theorem act_isFit {s : Session} {a : ConfigAction} (hs : s.config.IsFit)
    (ha : a.document?.all Json.listsMacros = true) : (s.act a).1.config.IsFit := by
  rw [act_eq_perform]
  exact Config.foldl_apply_isFit hs (Effect.ofAction_leaves ha)

/-- A configuration that is fit remains so, as long as it is given lists. -/
theorem run_isFit {s : Session} {actions : List ConfigAction} (hs : s.config.IsFit)
    (h : ∀ a ∈ actions, a.document?.all Json.listsMacros = true) :
    (s.run actions).config.IsFit := by
  induction actions generalizing s with
  | nil => exact hs
  | cons a actions ih =>
    obtain ⟨ha, hrest⟩ := List.forall_mem_cons.mp h
    exact ih (act_isFit hs ha) hrest

/-- The configuration of a session that started afresh can be written, and an update of a fresh
configuration by what was written succeeds, logs nothing at all, and restores the settings, the
options, what is said of each macro, and the document. -/
theorem run_restored {level : Level} {actions : List ConfigAction} {c : Config}
    (hlists : ∀ a ∈ actions, a.document?.all Json.listsMacros = true)
    (hc : (run ⟨{}, level⟩ actions).config = c) :
    ∃ j events restored, c.toJson = .ok j ∧
      ({} : Config).perform (.update j) = (restored, events, none) ∧
      (∀ r, Event.record r ∉ events) ∧
      restored.settings = c.settings ∧ restored.options = c.options ∧
      (∀ name, ∃ b, c.isEnabled name = .ok b ∧ restored.isEnabled name = .ok b) ∧
      restored.toJson = .ok j := by
  have hfit : c.IsFit := hc ▸ run_isFit Config.isFit_default hlists
  obtain ⟨j, hwritten, hperform⟩ := Config.perform_toJson hfit
  obtain ⟨enabled, henabled⟩ := hfit.options.enabled
  obtain ⟨disabled, hdisabled⟩ := hfit.options.disabled
  have hanswer (name : Json) := Config.isEnabled_of_lists henabled hdisabled name
  exact ⟨j, _, c, hwritten, hperform, by simp, rfl, rfl,
    fun name => ⟨_, hanswer name, hanswer name⟩, hwritten⟩

/-- Actions of which one has flags in place of numbers, and the next fails. -/
def unevenActions : List ConfigAction :=
  [.update (.object [
      ("macros", .object [("indent_size", .bool true), ("bind_operator", .text "=>"),
        ("resource_lookup", .text "lookup()"), ("colour", .null)]),
      ("disabled_macros", .list [.text "Constant", .text "Mappable"]),
      ("enabled_macros", .list [.text "Mappable"]),
      ("max_workers", .bool false), ("log_level", .text "trace"), ("jobs", .real .nan)]),
    .update (.list [])]

def unevenConfig : Config where
  settings := { bindOperator := "=>" }
  options :=
    { enabledMacros := .list [.text "Mappable"]
      disabledMacros := .list [.text "Constant", .text "Mappable"]
      logLevel := .trace }

theorem run_restored_unevenActions :
    (run ⟨{}, .info⟩ unevenActions).config = unevenConfig ∧
      ∃ j events, unevenConfig.toJson = .ok j ∧
        ({} : Config).perform (.update j) = (unevenConfig, events, none) := by
  have hrun : (run ⟨{}, .info⟩ unevenActions).config = unevenConfig := by
    rfl
  have hlists : ∀ a ∈ unevenActions, a.document?.all Json.listsMacros = true := by
    decide
  obtain ⟨j, events, restored, hwritten, hperform, -, hsettings, hoptions, -⟩ :=
    run_restored hlists hrun
  have hrestored : restored = unevenConfig := by
    cases restored
    cases hsettings
    cases hoptions
    rfl
  exact ⟨hrun, j, events, hwritten, hrestored ▸ hperform⟩

end Session

end SwiftExpansion
