import SwiftExpansion.Engine.Basic
import SwiftExpansion.Proofs.Expansion.Discipline
import SwiftExpansion.Proofs.Template

/-!
# What an expansion with errors looks like

Whatever a request holds and whichever macro it names, an expansion answers to the name and to the
place of its request, and an error is the end of it: it is the last diagnostic, it is the only one,
and no code stands beside it. A fault that a rule runs into midway is contained as such an error,
behind the warnings that were reported before.
-/
namespace SwiftExpansion

theorem Json.sameItem_text {j : Json} {s : String} : j.sameItem (.text s) = true ↔ j = .text s := by
  cases j <;> simp [sameItem, bothNaN, same, sameScalar, number?]

namespace Engine

theorem findMacro_text {e : Engine} {name : String} {m : Macro}
    (h : e.findMacro (.text name) = .ok m) : m.name = .text name := by
  have hcheck : checkName (.text name) = .ok () := rfl
  simp only [findMacro, hcheck] at h
  cases hfind : Macro.find? e.macros (.text name) with
  | none =>
    rw [hfind] at h
    cases h
  | some found =>
    rw [hfind] at h
    cases h
    have hsame := List.find?_some hfind
    exact Json.sameItem_text.mp hsame

def diagnostic? (span : Span) : Note → Option (Diagnostic String)
  | .report severity message => some ⟨severity, message, span⟩
  | .debug _ => none

theorem collect_eq (sink : Sink) (notes : List Note) :
    collect sink notes =
      { sink with pending := sink.pending ++ notes.filterMap (diagnostic? sink.span) } := by
  induction notes generalizing sink with
  | nil => simp [collect]
  | cons n notes ih =>
    cases n with
    | report severity message => simp [collect, ih, Sink.report, diagnostic?]
    | debug message => rw [collect, ih, List.filterMap_cons_none rfl]

theorem isError_of_diagnostic? {span : Span} {n : Note} {d : Diagnostic String}
    (h : diagnostic? span n = some d) : d.isError = n.isError := by
  cases n with
  | debug message => cases h
  | report severity message =>
    cases h
    cases severity <;> rfl

theorem span_of_mem_reports {span : Span} {notes : List Note} {d : Diagnostic String}
    (h : d ∈ notes.filterMap (diagnostic? span)) : d.span = span := by
  obtain ⟨n, -, hn⟩ := List.mem_filterMap.mp h
  cases n with
  | debug message => cases hn
  | report severity message =>
    cases hn
    rfl

theorem isError_of_mem_reports {span : Span} {notes : List Note}
    (hquiet : ∀ n ∈ notes, n.isError = false) {d : Diagnostic String}
    (h : d ∈ notes.filterMap (diagnostic? span)) : d.isError = false := by
  obtain ⟨n, hmem, hn⟩ := List.mem_filterMap.mp h
  rw [isError_of_diagnostic? hn]
  exact hquiet n hmem

end Engine

namespace Draft

variable {α β : Type}

def diagnostics (span : Span) (x : Draft α) : List (Diagnostic String) :=
  x.notes.filterMap (Engine.diagnostic? span)

variable {span : Span} {x : Draft α}

theorem diagnostics_eq_nil (h : x.Leaves fun n => Engine.diagnostic? span n = none) :
    x.diagnostics span = [] :=
  List.filterMap_eq_nil_iff.mpr h

/-- Steps that report nothing add nothing to what was reported before them. -/
theorem diagnostics_bind {f : α → Draft β} (h : ∀ a, (f a).diagnostics span = []) :
    diagnostics span (x >>= f) = x.diagnostics span := by
  cases houtcome : x.outcome with
  | ok a =>
    rw [Logged.bind_of_ok houtcome, diagnostics, List.filterMap_append]
    exact (congrArg _ (h a)).trans (List.append_nil _)
  | error e => rw [Logged.bind_of_error houtcome, diagnostics, diagnostics]

end Draft

/-- An expansion in order: its diagnostics are at the place of the usage, no error comes before the
last of them, and code only stands where there is none. -/
structure Expansion.IsOrderly (x : Expansion) (span : Span) : Prop where
  spans : ∀ d ∈ x.diagnostics, d.span = span
  errorLast : ∀ d ∈ x.diagnostics.dropLast, d.isError = false
  blank : x.hasErrors → x.declarations = [] ∧ ∀ g ∈ x.expression, g.text = ""

namespace Expansion.IsOrderly

variable {x : Expansion} {span : Span}

theorem of_quiet (hspans : ∀ d ∈ x.diagnostics, d.span = span)
    (hquiet : ∀ d ∈ x.diagnostics, d.isError = false) : x.IsOrderly span := by
  refine ⟨hspans, fun d hd => hquiet d (List.dropLast_subset _ hd), fun herrors => ?_⟩
  obtain ⟨d, hd, herror⟩ := List.any_eq_true.mp herrors
  rw [hquiet d hd] at herror
  cases herror

theorem of_errorLast {front : List (Diagnostic String)} {last : Diagnostic String}
    (hx : x.diagnostics = front ++ [last]) (hspans : ∀ d ∈ x.diagnostics, d.span = span)
    (hquiet : ∀ d ∈ front, d.isError = false) (hdeclarations : x.declarations = [])
    (hexpression : ∀ g ∈ x.expression, g.text = "") : x.IsOrderly span := by
  refine ⟨hspans, fun d hd => hquiet d ?_, fun _ => ⟨hdeclarations, hexpression⟩⟩
  simpa [hx] using hd

theorem countP_isError_le (h : x.IsOrderly span) : x.diagnostics.countP Diagnostic.isError ≤ 1 := by
  rcases List.eq_nil_or_concat x.diagnostics with hnil | ⟨front, last, hlast⟩
  · simp [hnil]
  · have hfront : front.countP Diagnostic.isError = 0 := by
      rw [List.countP_eq_zero]
      intro d hd
      simp [h.errorLast d (by simpa [hlast] using hd)]
    have hone := List.countP_le_length (p := Diagnostic.isError) (l := [last])
    rw [hlast, List.concat_eq_append, List.countP_append, hfront]
    simpa using hone

end Expansion.IsOrderly

namespace Engine

section

variable [Memory]

/-- The record of a fault says where and why a macro failed, if the place can be written. -/
theorem malfunction_eq {m : Macro} {name : String} (hname : m.name = .text name) (span : Span)
    (f : Fault) : malfunction m span f = span.printed.map fun place =>
      internalError ("expanding " ++ name ++ " at " ++ place ++ " failed: " ++ f.message) := by
  unfold malfunction
  rw [hname]
  cases span.printed with
  | error limit => rfl
  | ok place =>
    have htemplate : "expanding \x7b\x7d at \x7b\x7d failed: \x7b\x7d" = String.ofList
        ("expanding ".toList ++ Template.slots [" at ".toList, " failed: ".toList, []]) := by
      decide
    have hfilled : String.ofList ("expanding ".toList ++ Template.filled
        [.text name, .text place, .text f.message] [" at ".toList, " failed: ".toList, []]) =
        "expanding " ++ name ++ " at " ++ place ++ " failed: " ++ f.message := by
      apply String.toList_inj.mp
      simp [Template.filled, Json.display]
    have hformat : Template.format "expanding \x7b\x7d at \x7b\x7d failed: \x7b\x7d"
        [.text name, .text place, .text f.message] =
        .ok ("expanding " ++ name ++ " at " ++ place ++ " failed: " ++ f.message) := by
      rw [htemplate, ← hfilled]
      exact Template.format_slots (by decide) (by decide) (by simp [Json.isShort]) rfl
    simp only [internalErrorOf, bind, Except.bind, hformat]
    rfl

theorem settle_of_output {m : Macro} {span : Span} {draft : Draft Output} {output : Output}
    (h : draft.outcome = .ok output) : (settle m span draft).outcome =
      .ok ⟨m.name, output.expression, output.declarations, draft.diagnostics span⟩ := by
  rw [settle, h, collect_eq]
  rfl

theorem settle_of_breach {m : Macro} {span : Span} {draft : Draft Output} {breach : Breach}
    (h : draft.outcome = .error (.contract breach)) :
    (settle m span draft).outcome = .error (.contract breach) := by
  rw [settle, h]
  rfl

theorem settle_of_fault {m : Macro} {span : Span} {draft : Draft Output} {f : Fault}
    (hf : draft.outcome = .error f) (hkept : ∀ breach, f ≠ .contract breach) :
    (settle m span draft).outcome = (malfunction m span f).map fun _ =>
      ⟨m.name, none, [], draft.diagnostics span ++
        [⟨.error, "internal error while expanding " ++ m.name.display ++ ": " ++ f.message,
          span⟩]⟩ := by
  have hconclude (sink : Sink) : (conclude m sink (.error f)).outcome =
      (malfunction m sink.span f).map fun _ => ⟨m.name, none, [], sink.pending ++
        [⟨.error, "internal error while expanding " ++ m.name.display ++ ": " ++ f.message,
          sink.span⟩]⟩ := by
    rw [conclude]
    · cases hrecord : malfunction m sink.span f with
      | ok record => rfl
      | error limit => rfl
    · exact fun breach => hkept breach
  rw [settle, hf, collect_eq]
  exact hconclude _

/-- With a text for a name, nothing but a place that cannot be written keeps a fault from being
contained. -/
theorem settle_of_error {m : Macro} {name : String} (hname : m.name = .text name) {span : Span}
    {draft : Draft Output} {f : Fault} (hf : draft.outcome = .error f)
    (hkept : ∀ breach, f ≠ .contract breach) :
    (settle m span draft).outcome =
      if span.isShort then .ok ⟨m.name, none, [], draft.diagnostics span ++
        [⟨.error, "internal error while expanding " ++ name ++ ": " ++ f.message, span⟩]⟩
      else .error .digitLimit := by
  rw [settle_of_fault hf hkept, malfunction_eq hname, hname, Span.printed]
  cases span.isShort <;> rfl

/-- What a settled draft comes to: its output with what it reported, or, after a fault, nothing but
what it reported and the error for the fault. -/
theorem settle_eq_ok {m : Macro} {span : Span} {draft : Draft Output} {x : Expansion}
    (h : (settle m span draft).outcome = .ok x) :
    (∃ output, draft.outcome = .ok output ∧
      x = ⟨m.name, output.expression, output.declarations, draft.diagnostics span⟩) ∨
    (∃ f message, draft.outcome = .error f ∧
      x = ⟨m.name, none, [], draft.diagnostics span ++ [⟨.error, message, span⟩]⟩) := by
  cases hdraft : draft.outcome with
  | ok output =>
    rw [settle_of_output hdraft] at h
    cases h
    exact .inl ⟨output, rfl, rfl⟩
  | error f =>
    by_cases hbreach : ∃ breach, f = .contract breach
    · obtain ⟨breach, rfl⟩ := hbreach
      rw [settle_of_breach hdraft] at h
      cases h
    · rw [settle_of_fault hdraft (by simpa using hbreach)] at h
      cases hrecord : malfunction m span f with
      | error limit =>
        rw [hrecord] at h
        cases h
      | ok record =>
        rw [hrecord] at h
        cases h
        exact .inr ⟨f, _, rfl, rfl⟩

theorem settle_isOrderly {m : Macro} {span : Span} {draft : Draft Output} {x : Expansion}
    (hdraft : draft.IsDisciplined) (h : (settle m span draft).outcome = .ok x) :
    x.name = m.name ∧ x.IsOrderly span := by
  rcases settle_eq_ok h with ⟨output, houtput, rfl⟩ | ⟨f, message, hfault, rfl⟩
  · refine ⟨rfl, ?_⟩
    rcases hdraft with hquiet | ⟨before, message, blank, hnotes, hbefore, hblank, hisBlank⟩
    · exact .of_quiet (fun d hd => span_of_mem_reports hd)
        (fun d hd => isError_of_mem_reports hquiet hd)
    · rw [houtput] at hblank
      cases hblank
      have hreports : draft.notes.filterMap (diagnostic? span) =
          before.filterMap (diagnostic? span) ++ [⟨.error, message, span⟩] := by
        rw [hnotes, List.filterMap_append]
        rfl
      exact .of_errorLast hreports (fun d hd => span_of_mem_reports hd)
        (fun d hd => isError_of_mem_reports hbefore hd) hisBlank.1 hisBlank.2
  · refine ⟨rfl, ?_⟩
    rcases hdraft with hquiet | ⟨before, _, blank, hnotes, hbefore, hblank, hisBlank⟩
    · refine .of_errorLast rfl ?_ (fun d hd => isError_of_mem_reports hquiet hd) rfl (by simp)
      intro d hd
      rcases List.mem_append.mp hd with hd | hd
      · exact span_of_mem_reports hd
      · rw [List.mem_singleton.mp hd]
    · rw [hfault] at hblank
      cases hblank

theorem expand_of_enabled {e : Engine} {r : Request Json} {m : Macro}
    (hfind : e.findMacro r.name = .ok m) (henabled : m.isEnabled = true) :
    e.expand r = settle m r.span (m.rule.expand m.name.display e.config.settings r) := by
  rw [expand, hfind]
  exact if_pos henabled

/-- A disabled macro is answered by a warning alone. -/
theorem expand_eq_ok {e : Engine} {r : Request Json} {x : Expansion}
    (h : (e.expand r).outcome = .ok x) :
    ∃ m, e.findMacro r.name = .ok m ∧
      ((settle m r.span (m.rule.expand m.name.display e.config.settings r)).outcome = .ok x ∨
        ∃ message, x = ⟨m.name, none, [], [⟨.warning, message, r.span⟩]⟩) := by
  unfold expand at h
  split at h
  · cases h
  · rename_i m hfind
    refine ⟨m, hfind, ?_⟩
    split at h
    · exact .inl h
    · cases h
      exact .inr ⟨_, rfl⟩

/-- The contract of the engine for requests by a text name: an expansion bears the name and the
place of its request, it reports one error at most and nothing behind it, and beside an error it
holds no declarations and no more than an empty expression. -/
theorem expand_error_contract {e : Engine} {r : Request Json} {name : String} {x : Expansion}
    (hname : r.name = .text name) (hx : (e.expand r).outcome = .ok x) :
    x.name = r.name ∧ (∀ d ∈ x.diagnostics, d.span = r.span) ∧
      x.diagnostics.countP Diagnostic.isError ≤ 1 ∧
      (∀ d ∈ x.diagnostics.dropLast, d.isError = false) ∧
      (x.hasErrors → x.declarations = [] ∧ ∀ g ∈ x.expression, g.text = "") := by
  obtain ⟨m, hfind, hcase⟩ := expand_eq_ok hx
  rw [hname] at hfind
  have horderly : x.name = m.name ∧ x.IsOrderly r.span := by
    rcases hcase with hsettle | ⟨message, rfl⟩
    · exact settle_isOrderly (Rule.expand_isDisciplined _ _ _ _) hsettle
    · refine ⟨rfl, .of_quiet ?_ ?_⟩
      · simp
      · simp [Diagnostic.isError]
  refine ⟨?_, horderly.2.spans, horderly.2.countP_isError_le, horderly.2.errorLast,
    horderly.2.blank⟩
  rw [horderly.1, hname, findMacro_text hfind]

end

/-- A usage that is warned about and then fails: one property has no type, the next has a number in
its place. -/
def halfTypedRequest : Request Json :=
  ⟨.text "InterfaceGen", [],
    some ⟨.referenceType, .text "A", [],
      [.property ⟨.text "a", none, .internalLevel, false, false⟩,
        .property ⟨.text "b", some (.int 5), .internalLevel, false, false⟩]⟩, .unreported⟩

def halfTypedExpansion : Expansion :=
  ⟨.text "InterfaceGen", none, [],
    [⟨.warning, "property 'a' has no type annotation and was left out of AInterface", .unreported⟩,
      ⟨.error, "internal error while expanding InterfaceGen: 'int' object has no attribute 'strip'",
        .unreported⟩]⟩

open scoped Memory in
theorem expand_error_contract_halfTyped :
    (Engine.expand ⟨{}, Macro.defaults⟩ halfTypedRequest).outcome = .ok halfTypedExpansion ∧
      halfTypedExpansion.hasErrors = true ∧
      halfTypedExpansion.diagnostics.countP Diagnostic.isError ≤ 1 ∧
      (∀ d ∈ halfTypedExpansion.diagnostics.dropLast, d.isError = false) ∧
      halfTypedExpansion.declarations = [] := by
  have hx : (Engine.expand ⟨{}, Macro.defaults⟩ halfTypedRequest).outcome =
      .ok halfTypedExpansion := by
    have hplace : halfTypedRequest.span.isShort = true := by decide +kernel
    rw [expand_of_enabled rfl rfl,
      settle_of_error rfl (f := .misuse "int" (.operation "strip")) rfl (by simp), if_pos hplace]
    rfl
  have herrors : halfTypedExpansion.hasErrors = true := rfl
  have hname : halfTypedRequest.name = .text "InterfaceGen" := rfl
  obtain ⟨-, -, hcount, hlast, hblank⟩ := expand_error_contract hname hx
  exact ⟨hx, herrors, hcount, hlast, (hblank herrors).1⟩

end Engine

end SwiftExpansion
