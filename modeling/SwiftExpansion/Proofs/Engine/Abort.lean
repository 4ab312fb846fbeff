import SwiftExpansion.Proofs.Engine.ErrorContract
import SwiftExpansion.Proofs.Expansion.Breach
import SwiftExpansion.Proofs.Wire.Reading

/-!
# When an expansion is aborted

A host may configure an engine, switch its macros and register macros of its own, which have names
but no rules. Whatever it did, an expansion is aborted by a breach of the contract, and the breaches
are known beforehand: nobody registered the name, or the macro is switched on and the usage lacks
what it needs. A macro that is switched off asks for nothing. Nothing else aborts an expansion, as
long as the place of the usage can be written into the record of a fault.
-/
namespace SwiftExpansion

def Request.Breaks (r : Request Json) (name : String) : Prop :=
  (name = "stringify" ∧ r.arguments = []) ∨ (name = "Constant" ∧ r.LacksContent) ∨
    ((name = "InterfaceGen" ∨ name = "Mappable") ∧ r.declaration = none)

namespace Macro

/-- A macro that comes with the engine, however it is switched and described, or one without a rule
that has a name of its own. -/
def IsStandard (m : Macro) : Prop :=
  (∃ d ∈ defaults, m.name = d.name ∧ m.rule = d.rule) ∨
    (m.rule = .unimplemented ∧ ∀ d ∈ defaults, m.name ≠ d.name)

theorem IsStandard.isBroken_iff {m : Macro} (hm : m.IsStandard) {name : String}
    (hname : m.name = .text name) (r : Request Json) : m.rule.IsBroken r ↔ r.Breaks name := by
  rcases hm with ⟨d, hd, hdname, hdrule⟩ | ⟨hrule, hnew⟩
  · rw [hname] at hdname
    rw [hdrule]
    simp only [defaults, List.mem_cons, List.not_mem_nil, or_false] at hd
    rcases hd with rfl | rfl | rfl | rfl | rfl <;> cases hdname <;>
      simp [Rule.IsBroken, Request.Breaks]
  · rw [hname] at hnew
    rw [hrule]
    simp [defaults] at hnew
    simp [Rule.IsBroken, Request.Breaks, hnew]

theorem mem_register {macros : List Macro} {m n : Macro} (h : n ∈ register macros m) :
    n = m ∨ n ∈ macros := by
  unfold register at h
  split at h
  · obtain ⟨other, hother, heq⟩ := List.mem_map.mp h
    split at heq
    · exact .inl heq.symm
    · exact .inr (heq ▸ hother)
  · simpa [or_comm] using h

end Macro

namespace Engine

/-- The engines that a host can get to: it starts from the macros that come with an engine, under
any configuration; then it may configure the engine anew, set the flags from the configuration,
switch a macro by any value, and register macros without a rule under names that are not taken by
the macros it started from. -/
inductive Reachable : Engine → Prop
  | fresh (c : Config) : Reachable ⟨c, Macro.defaults⟩
  | configured {e : Engine} (c : Config) : Reachable e → Reachable { e with config := c }
  | refreshed {e : Engine} : Reachable e → Reachable e.applyConfig.1
  | switched {e e' : Engine} {name enabled : Json} :
      Reachable e → e.setEnabled name enabled = .ok e' → Reachable e'
  | extended {e e' : Engine} {name description : Json} {kind : MacroKind} :
      Reachable e → (∀ d ∈ Macro.defaults, name ≠ d.name) →
      e.register (.withoutRule name description kind) = .ok e' → Reachable e'

theorem mem_refresh {c : Config} {macros : List Macro} {m : Macro} (h : m ∈ (refresh c macros).1) :
    ∃ n ∈ macros, m.name = n.name ∧ m.rule = n.rule := by
  induction macros with
  | nil => cases h
  | cons n macros ih =>
    unfold refresh at h
    cases henabled : c.isEnabled n.name with
    | error f =>
      rw [henabled] at h
      exact ⟨m, h, rfl, rfl⟩
    | ok b =>
      rw [henabled] at h
      rcases List.mem_cons.mp h with rfl | h
      · exact ⟨n, by simp, rfl, rfl⟩
      · obtain ⟨k, hk, hsame⟩ := ih h
        exact ⟨k, by simp [hk], hsame⟩

theorem register_eq_ok {e e' : Engine} {m : Macro} (h : e.register m = .ok e') :
    e' = { e with macros := Macro.register e.macros m } := by
  simp only [register, Except.bind_eq_ok, Except.pure_eq_ok] at h
  obtain ⟨-, -, rfl⟩ := h
  rfl

theorem setEnabled_eq_ok {e e' : Engine} {name enabled : Json}
    (h : e.setEnabled name enabled = .ok e') :
    ∃ m ∈ e.macros, e' = { e with macros := Macro.register e.macros { m with enabled } } := by
  simp only [setEnabled, Except.bind_eq_ok] at h
  obtain ⟨-, -, h⟩ := h
  cases hfind : Macro.find? e.macros name with
  | none =>
    rw [hfind] at h
    cases h
  | some m =>
    rw [hfind] at h
    cases h
    exact ⟨m, List.mem_of_find?_eq_some hfind, rfl⟩

theorem Reachable.isStandard {e : Engine} (he : e.Reachable) : ∀ m ∈ e.macros, m.IsStandard := by
  induction he with
  | fresh c => exact fun m hm => .inl ⟨m, hm, rfl, rfl⟩
  | configured c _ ih => exact ih
  | refreshed _ ih =>
    intro m hm
    obtain ⟨n, hn, hname, hrule⟩ := mem_refresh hm
    simpa only [Macro.IsStandard, hname, hrule] using ih n hn
  | switched _ hswitch ih =>
    obtain ⟨n, hn, rfl⟩ := setEnabled_eq_ok hswitch
    intro m hm
    rcases Macro.mem_register hm with rfl | hm
    · exact ih n hn
    · exact ih m hm
  | extended _ hnew hregister ih =>
    rw [register_eq_ok hregister]
    intro m hm
    rcases Macro.mem_register hm with rfl | hm
    · exact .inr ⟨rfl, hnew⟩
    · exact ih m hm

theorem findMacro_of_text (e : Engine) (name : String) :
    (e.findMacro (.text name) = .error (.contract (.unregistered (.text name))) ∧
      ∀ m ∈ e.macros, m.name ≠ .text name) ∨
    ∃ m, e.findMacro (.text name) = .ok m ∧ Macro.find? e.macros (.text name) = some m ∧
      m ∈ e.macros ∧ m.name = .text name := by
  cases hfind : Macro.find? e.macros (.text name) with
  | none =>
    left
    refine ⟨by simp [findMacro, checkName, Json.isContainer, hfind, bind, Except.bind], ?_⟩
    intro m hm heq
    have hsame := List.find?_eq_none.mp hfind m hm
    exact hsame (Json.sameItem_text.mpr heq)
  | some m =>
    right
    have hok : e.findMacro (.text name) = .ok m := by
      simp [findMacro, checkName, Json.isContainer, hfind, bind, Except.bind, pure, Except.pure]
    exact ⟨m, hok, rfl, List.mem_of_find?_eq_some hfind, findMacro_text hok⟩

section

variable [Memory]

/-- Settling a draft lets its breaches through and contains every other fault, unless the place of
the usage cannot be written. -/
theorem settle_eq_error {m : Macro} {name : String} (hname : m.name = .text name) {span : Span}
    {draft : Draft Output} {f : Fault} (h : (settle m span draft).outcome = .error f) :
    (∃ breach, f = .contract breach ∧ draft.outcome = .error (.contract breach)) ∨
      (f = .digitLimit ∧ span.isShort = false) := by
  cases hdraft : draft.outcome with
  | ok output =>
    rw [settle_of_output hdraft] at h
    cases h
  | error g =>
    by_cases hbreach : ∃ breach, g = .contract breach
    · obtain ⟨breach, rfl⟩ := hbreach
      rw [settle_of_breach hdraft] at h
      cases h
      exact .inl ⟨breach, rfl, rfl⟩
    · rw [settle_of_error hname hdraft (by simpa using hbreach)] at h
      split at h
      · cases h
      · rename_i hspan
        cases h
        exact .inr ⟨rfl, by simpa using hspan⟩

variable {e : Engine} {r : Request Json} {m : Macro} {name : String}

theorem expand_eq_error (hfind : e.findMacro r.name = .ok m) (hname : m.name = .text name)
    {f : Fault} (h : (e.expand r).outcome = .error f) :
    (∃ breach, f = .contract breach ∧ m.isEnabled = true ∧
      (m.rule.expand m.name.display e.config.settings r).outcome = .error (.contract breach)) ∨
      (f = .digitLimit ∧ r.span.isShort = false) := by
  cases henabled : m.isEnabled with
  | true =>
    rw [expand_of_enabled hfind henabled] at h
    rcases settle_eq_error hname h with ⟨breach, hf, hbreach⟩ | hlimit
    · exact .inl ⟨breach, hf, rfl, hbreach⟩
    · exact .inr hlimit
  | false =>
    rw [expand, hfind] at h
    simp [henabled] at h

/-- An expansion asked for by a text name is aborted by a breach of the contract exactly when no
macro has the name, or the macro that has it is switched on and the usage lacks what it needs. If it
has no result for another reason, then the place of the usage is too long to be written. No document
whose numbers can be written reports such a place, so that a request from one has a result or is
aborted by a breach. -/
theorem expand_aborts_iff (he : e.Reachable) (hname : r.name = .text name) :
    ((∃ breach, (e.expand r).outcome = .error (.contract breach)) ↔
      (∀ m ∈ e.macros, m.name ≠ .text name) ∨
      ∃ m, Macro.find? e.macros (.text name) = some m ∧ m.isEnabled = true ∧ r.Breaks name) ∧
    (∀ f, (e.expand r).outcome = .error f →
      (∃ breach, f = .contract breach) ∨ (f = .digitLimit ∧ r.span.isShort = false)) ∧
    ∀ data : Json, Request.read data = .ok r → data.isShort = true →
      (∃ x, (e.expand r).outcome = .ok x) ∨
        ∃ breach, (e.expand r).outcome = .error (.contract breach) := by
  have hfault : ∀ f, (e.expand r).outcome = .error f →
      (∃ breach, f = .contract breach) ∨ (f = .digitLimit ∧ r.span.isShort = false) := by
    intro f hf
    rcases e.findMacro_of_text name with ⟨hnone, -⟩ | ⟨m, hfound, -, -, hmname⟩
    · rw [expand, hname, hnone] at hf
      cases hf
      exact .inl ⟨_, rfl⟩
    · rw [← hname] at hfound
      rcases expand_eq_error hfound hmname hf with ⟨breach, hbreach, -⟩ | hlimit
      · exact .inl ⟨breach, hbreach⟩
      · exact .inr hlimit
  refine ⟨?_, hfault, ?_⟩
  · rcases e.findMacro_of_text name with ⟨hnone, hnew⟩ | ⟨m, hfound, hfind, hmem, hmname⟩
    · have houtcome : (e.expand r).outcome = .error (.contract (.unregistered (.text name))) := by
        rw [expand, hname, hnone]
        rfl
      exact ⟨fun _ => .inl hnew, fun _ => ⟨_, houtcome⟩⟩
    · rw [← hname] at hfound
      have hbroken := (he.isStandard m hmem).isBroken_iff hmname r
      constructor
      · rintro ⟨breach, hbreach⟩
        rcases expand_eq_error hfound hmname hbreach with ⟨other, -, henabled, hother⟩ | ⟨hlimit, -⟩
        · exact .inr ⟨m, hfind, henabled, hbroken.mp (Rule.expand_breach_iff.mp ⟨other, hother⟩)⟩
        · cases hlimit
      · rintro (hnew | ⟨n, hn, henabled, hbreaks⟩)
        · exact absurd hmname (hnew m hmem)
        · obtain rfl : m = n := Option.some.inj (hfind.symm.trans hn)
          obtain ⟨breach, hbreach⟩ := Rule.expand_of_isBroken (hbroken.mpr hbreaks) m.name.display
            e.config.settings
          exact ⟨breach, by rw [expand_of_enabled hfound henabled, settle_of_breach hbreach]⟩
  · intro data hread hdata
    have hplace := Request.read_isShort hdata hread
    cases houtcome : (e.expand r).outcome with
    | ok x => exact .inl ⟨x, rfl⟩
    | error f =>
      rcases hfault f houtcome with ⟨breach, rfl⟩ | ⟨-, hlong⟩
      · exact .inr ⟨breach, rfl⟩
      · rw [hplace] at hlong
        cases hlong

end

def laterMacro : Macro :=
  .withoutRule (.text "Later") (.text "to come") .peer

def hostedEngine : Engine :=
  ⟨{}, Macro.defaults.modifyHead (fun m => { m with enabled := .int 0 }) ++ [laterMacro]⟩

/-- A usage of `name`, on the first line of no file, with a literal of two blanks for an argument. -/
def blankDocument (name : String) : Json :=
  .object [("macro", .text name),
    ("arguments", .list [.object [("value",
      .object [("kind", .text "string_literal"), ("text", .text "\"  \"")])]]),
    ("location", .object [("line", .int 0)])]

def blankRequest (name : String) : Request Json :=
  ⟨.text name, [⟨⟨.stringLiteral, .text "\"  \"", some (.text "  "), none⟩, none⟩], none,
    .unreported⟩

open scoped Memory in
theorem expand_aborts_iff_blank :
    (∃ breach, (hostedEngine.expand (blankRequest "Constant")).outcome = .error (.contract breach)) ∧
      Request.read (blankDocument "Later") = .ok (blankRequest "Later") ∧
      (blankDocument "Later").isShort = true ∧
      ∃ x, (hostedEngine.expand (blankRequest "Later")).outcome = .ok x := by
  have hextend : Engine.register ⟨{}, Macro.defaults⟩ laterMacro =
      .ok ⟨{}, Macro.register Macro.defaults laterMacro⟩ := rfl
  have hswitch : Engine.setEnabled ⟨{}, Macro.register Macro.defaults laterMacro⟩
      (.text "stringify") (.int 0) = .ok hostedEngine := rfl
  have hhosted : hostedEngine.Reachable :=
    .switched (.extended (.fresh {}) (by simp [Macro.defaults]) hextend) hswitch
  have hconstant := expand_aborts_iff hhosted (r := blankRequest "Constant") rfl
  have hlater := expand_aborts_iff hhosted (r := blankRequest "Later") rfl
  have hread : Request.read (blankDocument "Later") = .ok (blankRequest "Later") := rfl
  have hdata : (blankDocument "Later").isShort = true := by decide +kernel
  refine ⟨?_, hread, hdata, ?_⟩
  · have hblank : (blankRequest "Constant").LacksContent :=
      .inr ⟨"  ", rfl, List.all_eq_true.mp rfl⟩
    exact hconstant.1.mpr (.inr ⟨_, rfl, rfl, .inr (.inl ⟨rfl, hblank⟩)⟩)
  · refine (hlater.2.2 _ hread hdata).resolve_right fun hbreach => ?_
    rcases hlater.1.mp hbreach with hnew | ⟨m, -, -, hbreaks⟩
    · exact hnew laterMacro (by simp [hostedEngine]) rfl
    · simp [Request.Breaks] at hbreaks

end Engine

end SwiftExpansion
