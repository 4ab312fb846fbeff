import SwiftExpansion.Command.Run
import SwiftExpansion.Proofs.Wire.Entries

/-!
# What a JSON report says

The document of a report is put together in separate passes over the results: their records, the
diagnostics once more for editors, the totals of the summary, and the exit status. This module says
what these parts have to do with each other, by looking at the finished document. Of the protocol of
the editors it is assumed that no line or column beyond a limit is taken, so that one coordinate too
large leaves the whole batch without a report, and nothing else does. Coordinates are taken to be
whole numbers; a flag counts as one.
-/
namespace SwiftExpansion

namespace Json

/-- What is found by following keys into an object. -/
def at? (j : Json) : List String → Option Json
  | [] => some j
  | key :: path => (j.field? key).bind fun inner => inner.at? path

def itemsUnder (j : Json) (key : String) : List Json :=
  match j.field? key with
  | some (.list items) => items
  | _ => []

end Json

/-- The whole number that a coordinate is. -/
def Coordinate.integer? : Coordinate → Option Int
  | .flag b => some (if b then 1 else 0)
  | .whole n => some n
  | .real _ => none

namespace Range

def coordinates (r : Range) : List Coordinate :=
  [r.start.line, r.start.column, r.stop.line, r.stop.column]

/-- Whether all coordinates are whole numbers, counted from zero. -/
def IsIntegral (r : Range) : Prop :=
  ∀ c ∈ r.coordinates, ∃ n : Nat, c.integer? = some (n : Int)

/-- Whether some coordinate is larger than editors take. -/
def IsBeyondEditors (r : Range) : Prop :=
  ∃ c ∈ r.coordinates, ∃ n, c.integer? = some n ∧ 2147483647 < n

end Range

def Fault.IsEditorRange (f : Fault) : Prop :=
  ∃ axis value, f = .editorRange axis value

open SwiftExpansion.Except

namespace Editor

/-- What a report relies on: a position in whole numbers is taken as it is unless a number is too
large, the two severities have the numbers one and two, and a diagnostic with a text for a message
is written entry by entry. -/
structure Conforms [Editor] : Prop where
  position_failsIff : ∀ (p : Position) (line column : Nat), p.line.integer? = some (line : Int) →
    p.column.integer? = some (column : Int) →
    FailsIff Fault.IsEditorRange (2147483647 < (line : Int) ∨ 2147483647 < (column : Int))
      (position p)
  position_eq : ∀ (p : Position) (j : Json), position p = .ok j →
    j = .object [("line", p.line.toJson), ("character", p.column.toJson)]
  severity_error : severity .error = .int 1
  severity_warning : severity .warning = .int 2
  diagnostic_eq : ∀ (range : EditorRange) (message : String) (severity : Json)
    (code source : String), diagnostic range (.text message) severity code source = .ok (.object [
      ("range", .object [("start", range.start), ("end", range.stop)]),
      ("message", .text message),
      ("severity", severity),
      ("code", .text code),
      ("source", .text source)])

theorem coordinate_failsIff (axis : String) {c : Coordinate} {n : Nat}
    (h : c.integer? = some (n : Int)) :
    FailsIff Fault.IsEditorRange (2147483647 < (n : Int)) (coordinate axis c) := by
  cases c with
  | flag b =>
    have hsmall : (n : Int) ≤ 1 := by
      cases b <;> simp [Coordinate.integer?] at h <;> omega
    exact ⟨fun hlarge => by omega, fun _ => ⟨_, rfl⟩⟩
  | whole m =>
    obtain rfl : m = n := by simpa [Coordinate.integer?] using h
    by_cases hlarge : 2147483647 < (n : Int)
    · have hout : ¬ (0 ≤ (n : Int) ∧ (n : Int) ≤ limit) := by
        simp only [limit]
        omega
      exact ⟨fun _ => ⟨_, if_neg hout, axis, _, rfl⟩, fun hsmall => absurd hlarge hsmall⟩
    · have hin : 0 ≤ (n : Int) ∧ (n : Int) ≤ limit := by
        simp only [limit]
        omega
      exact ⟨fun hcontra => absurd hcontra hlarge, fun _ => ⟨_, if_pos hin⟩⟩
  | real x => cases h

theorem coordinate_eq_ok {axis : String} {c : Coordinate} {j : Json}
    (h : coordinate axis c = .ok j) : j = c.toJson := by
  cases c with
  | flag b =>
    cases h
    rfl
  | whole n =>
    simp only [coordinate] at h
    split at h
    · cases h
      rfl
    · cases h
  | real x => cases h

open scoped Editor in
theorem languageServer_conforms : Conforms where
  position_failsIff p line column hline hcolumn := by
    have hsteps := (coordinate_failsIff "line" hline).bind fun l _ =>
      (coordinate_failsIff "character" hcolumn).bind fun c _ =>
        failsIff_ok (Json.object [("line", l), ("character", c)])
    exact hsteps.congr (by simp)
  position_eq p j h := by
    simp only [position, bind_eq_ok, pure_eq_ok] at h
    obtain ⟨line, hline, column, hcolumn, rfl⟩ := h
    rw [coordinate_eq_ok hline, coordinate_eq_ok hcolumn]
  severity_error := rfl
  severity_warning := rfl
  diagnostic_eq _ _ _ _ _ := rfl

end Editor

namespace Diagnostic

theorem toEditor_failsIff [Editor] (heditor : Editor.Conforms) {d : Diagnostic String}
    (h : d.span.range.IsIntegral) :
    FailsIff Fault.IsEditorRange d.span.range.IsBeyondEditors d.toEditor := by
  obtain ⟨startLine, hstartLine⟩ := h d.span.range.start.line (by simp [Range.coordinates])
  obtain ⟨startColumn, hstartColumn⟩ := h d.span.range.start.column (by simp [Range.coordinates])
  obtain ⟨stopLine, hstopLine⟩ := h d.span.range.stop.line (by simp [Range.coordinates])
  obtain ⟨stopColumn, hstopColumn⟩ := h d.span.range.stop.column (by simp [Range.coordinates])
  have hstart := heditor.position_failsIff _ _ _ hstartLine hstartColumn
  have hstop := heditor.position_failsIff _ _ _ hstopLine hstopColumn
  have hsteps := hstart.bind fun start _ => hstop.bind fun stop _ =>
    failsIff_of_ok (heditor.diagnostic_eq ⟨start, stop⟩ d.message (Editor.severity d.severity)
      d.messageId.id source)
  apply FailsIff.congr hsteps
  simp [Range.IsBeyondEditors, Range.coordinates, hstartLine, hstartColumn, hstopLine, hstopColumn,
    or_assoc]

theorem toEditor_eq_ok [Editor] (heditor : Editor.Conforms) {d : Diagnostic String} {j : Json}
    (h : d.toEditor = .ok j) :
    j = .object [
      ("range", .object [
        ("start", .object [
          ("line", d.span.range.start.line.toJson), ("character", d.span.range.start.column.toJson)]),
        ("end", .object [
          ("line", d.span.range.stop.line.toJson), ("character", d.span.range.stop.column.toJson)])]),
      ("message", .text d.message),
      ("severity", Editor.severity d.severity),
      ("code", .text d.messageId.id),
      ("source", .text source)] := by
  simp only [toEditor, bind_eq_ok] at h
  obtain ⟨start, hstart, stop, hstop, h⟩ := h
  rw [heditor.position_eq _ _ hstart, heditor.position_eq _ _ hstop] at h
  exact Except.ok.inj (h.symm.trans (heditor.diagnostic_eq _ _ _ _ _))

/-- What the record of a diagnostic and its form for editors have in common. -/
structure IsShownBy (d : Diagnostic String) (listed editor : Json) : Prop where
  message : listed.at? ["message"] = some (.text d.message) ∧
    editor.at? ["message"] = some (.text d.message)
  severity : (listed.at? ["severity"] = some (.text "error") ∧ editor.at? ["severity"] = some (.int 1) ∧
      d.severity = .error) ∨
    (listed.at? ["severity"] = some (.text "warning") ∧ editor.at? ["severity"] = some (.int 2) ∧
      d.severity = .warning)
  line : listed.at? ["location", "line"] = some d.span.range.start.line.toJson ∧
    editor.at? ["range", "start", "line"] = some d.span.range.start.line.toJson
  column : listed.at? ["location", "column"] = some d.span.range.start.column.toJson ∧
    editor.at? ["range", "start", "character"] = some d.span.range.start.column.toJson

theorem isShownBy_of_toEditor [Editor] (heditor : Editor.Conforms) {d : Diagnostic String}
    {j : Json}
    (h : d.toEditor = .ok j) : d.IsShownBy d.toJson j := by
  rw [toEditor_eq_ok heditor h]
  refine ⟨⟨rfl, rfl⟩, ?_, ⟨rfl, rfl⟩, ⟨rfl, rfl⟩⟩
  cases hseverity : d.severity with
  | error =>
    rw [toJson, hseverity, heditor.severity_error]
    exact .inl ⟨rfl, rfl, rfl⟩
  | warning =>
    rw [toJson, hseverity, heditor.severity_warning]
    exact .inr ⟨rfl, rfl, rfl⟩

end Diagnostic

namespace Expansion

/-- The record of a result, with one entry more for the editors. -/
def IsRecordedBy (e : Expansion) (item : Json) : Prop :=
  ∃ entries editors, e.toJson = .object entries ∧
    item = .object (entries ++ [("lsp_diagnostics", .list editors)]) ∧
    List.Forall₂ (fun d editor => d.IsShownBy d.toJson editor) e.diagnostics editors

theorem document_failsIff [Editor] (heditor : Editor.Conforms) {e : Expansion}
    (h : ∀ d ∈ e.diagnostics, d.span.range.IsIntegral) :
    FailsIff Fault.IsEditorRange (∃ d ∈ e.diagnostics, d.span.range.IsBeyondEditors)
      e.document := by
  have heditors := FailsIff.mapM fun d hd => Diagnostic.toEditor_failsIff heditor (h d hd)
  have hsteps := heditors.bind fun editor _ =>
    failsIff_ok (Json.object (e.entries ++ [("lsp_diagnostics", .list editor)]))
  exact hsteps.congr (by simp)

theorem isRecordedBy_of_document [Editor] (heditor : Editor.Conforms) {e : Expansion} {item : Json}
    (h : e.document = .ok item) : e.IsRecordedBy item := by
  simp only [document, bind_eq_ok, pure_eq_ok, mapM_eq_ok] at h
  obtain ⟨editors, heditors, rfl⟩ := h
  exact ⟨e.entries, editors, rfl, rfl,
    heditors.imp fun _ _ => Diagnostic.isShownBy_of_toEditor heditor⟩

theorem IsRecordedBy.itemsUnder_diagnostics {e : Expansion} {item : Json} (h : e.IsRecordedBy item) :
    item.itemsUnder "diagnostics" = e.diagnostics.map Diagnostic.toJson := by
  obtain ⟨entries, editors, hentries, rfl, -⟩ := h
  cases hentries
  rfl

theorem IsRecordedBy.length_editors {e : Expansion} {item : Json} (h : e.IsRecordedBy item) :
    (item.itemsUnder "lsp_diagnostics").length = e.diagnostics.length := by
  obtain ⟨entries, editors, hentries, rfl, heditors⟩ := h
  cases hentries
  exact heditors.length_eq.symm

end Expansion

namespace Report

def listedDiagnostics (document : Json) : List Json :=
  (document.itemsUnder "results").flatMap (·.itemsUnder "diagnostics")

def editorDiagnostics (document : Json) : List Json :=
  (document.itemsUnder "results").flatMap (·.itemsUnder "lsp_diagnostics")

def countListed (severity : String) (document : Json) : Nat :=
  (listedDiagnostics document).countP fun d => (d.at? ["severity"]).any (·.isText severity)

/-- What a document says about the results of a batch, its parts compared with each other. -/
structure Describes (document : Json) (results : List Expansion) : Prop where
  records : List.Forall₂ Expansion.IsRecordedBy results (document.itemsUnder "results")
  requests : document.at? ["summary", "total_requests"] = some (.int results.length)
  errors : document.at? ["summary", "total_errors"] = some (.int (countListed "error" document))
  warnings :
    document.at? ["summary", "total_warnings"] = some (.int (countListed "warning" document))
  total : countListed "error" document + countListed "warning" document =
    (editorDiagnostics document).length
  status : 0 < countListed "error" document ↔ ∃ e ∈ results, e.hasErrors = true

theorem listedDiagnostics_eq {results : List Expansion} {items : List Json}
    (h : List.Forall₂ Expansion.IsRecordedBy results items) :
    items.flatMap (·.itemsUnder "diagnostics") =
      (results.flatMap (·.diagnostics)).map Diagnostic.toJson := by
  induction h with
  | nil => rfl
  | cons hitem _ ih => simp [hitem.itemsUnder_diagnostics, ih]

theorem length_editorDiagnostics {results : List Expansion} {items : List Json}
    (h : List.Forall₂ Expansion.IsRecordedBy results items) :
    (items.flatMap (·.itemsUnder "lsp_diagnostics")).length =
      (results.flatMap (·.diagnostics)).length := by
  induction h with
  | nil => rfl
  | cons hitem _ ih =>
    simp only [List.flatMap_cons, List.length_append, hitem.length_editors, ih]

theorem isText_severity (s : Severity) (d : Diagnostic String) :
    (d.toJson.at? ["severity"]).any (·.isText s.name) = (d.severity == s) := by
  have hfound : d.toJson.at? ["severity"] = some (.text d.severity.name) := rfl
  rw [hfound]
  cases d.severity <;> cases s <;> rfl

theorem countListed_eq {document : Json} {results : List Expansion}
    (h : List.Forall₂ Expansion.IsRecordedBy results (document.itemsUnder "results"))
    (s : Severity) :
    countListed s.name document = (results.flatMap (·.diagnostics)).countP (·.severity == s) := by
  rw [countListed, listedDiagnostics, listedDiagnostics_eq h, List.countP_map]
  congr 1
  funext d
  exact isText_severity s d

/-- A diagnostic is an error or a warning. -/
theorem countDiagnostics_add (results : List Expansion) :
    countDiagnostics Diagnostic.isError results + countDiagnostics (!·.isError) results =
      (results.flatMap (·.diagnostics)).length := by
  simp [countDiagnostics, List.length_eq_countP_add_countP Diagnostic.isError]

theorem countDiagnostics_isError_pos (results : List Expansion) :
    0 < countDiagnostics Diagnostic.isError results ↔ ∃ e ∈ results, e.hasErrors = true := by
  simp only [countDiagnostics, List.countP_pos_iff, List.mem_flatMap, Expansion.hasErrors,
    List.any_eq_true]
  constructor
  · rintro ⟨d, ⟨e, he, hd⟩, herror⟩
    exact ⟨e, he, d, hd, herror⟩
  · rintro ⟨e, he, d, hd, herror⟩
    exact ⟨d, ⟨e, he, hd⟩, herror⟩

theorem document_failsIff [Editor] (heditor : Editor.Conforms) {results : List Expansion}
    (h : ∀ e ∈ results, ∀ d ∈ e.diagnostics, d.span.range.IsIntegral) :
    FailsIff Fault.IsEditorRange (∃ e ∈ results, ∃ d ∈ e.diagnostics, d.span.range.IsBeyondEditors)
      (document results) := by
  have hitems := FailsIff.mapM fun e he => Expansion.document_failsIff heditor (h e he)
  have hsteps := hitems.bind fun items _ =>
    failsIff_ok (Json.object [("summary", summary results), ("results", .list items)])
  exact hsteps.congr (by simp)

theorem describes_of_document [Editor] (heditor : Editor.Conforms) {results : List Expansion}
    {document : Json} (h : Report.document results = .ok document) :
    Describes document results := by
  simp only [Report.document, bind_eq_ok, pure_eq_ok, mapM_eq_ok] at h
  obtain ⟨items, hitems, hdocument⟩ := h
  have hrecords : List.Forall₂ Expansion.IsRecordedBy results (document.itemsUnder "results") := by
    subst hdocument
    exact hitems.imp fun _ _ => Expansion.isRecordedBy_of_document heditor
  have herrors : countListed "error" document = countDiagnostics Diagnostic.isError results :=
    countListed_eq hrecords .error
  have hwarnings : countListed "warning" document = countDiagnostics (!·.isError) results := by
    apply (countListed_eq hrecords .warning).trans
    congr 1
    funext d
    cases hd : d.severity <;> simp [Diagnostic.isError, hd]
  constructor
  case records => exact hrecords
  case requests =>
    subst hdocument
    rfl
  case errors =>
    rw [herrors, ← hdocument]
    rfl
  case warnings =>
    rw [hwarnings, ← hdocument]
    rfl
  case total =>
    rw [herrors, hwarnings, countDiagnostics_add, editorDiagnostics,
      length_editorDiagnostics hrecords]
  case status => rw [herrors, countDiagnostics_isError_pos]

theorem render_json_failsIff [Editor] (heditor : Editor.Conforms) {results : List Expansion}
    (h : ∀ e ∈ results, ∀ d ∈ e.diagnostics, d.span.range.IsIntegral) :
    FailsIff Fault.IsEditorRange (∃ e ∈ results, ∃ d ∈ e.diagnostics, d.span.range.IsBeyondEditors)
      (render .json results) := by
  have hsteps := (document_failsIff heditor h).bind fun document _ => failsIff_ok document.pretty
  exact hsteps.congr (by simp)

/-- A batch has a JSON report unless a coordinate is too large for editors. The parts of the report
agree with each other and with the exit status. -/
theorem render_json_consistent [Editor] (heditor : Editor.Conforms) (results : List Expansion)
    (h : ∀ e ∈ results, ∀ d ∈ e.diagnostics, d.span.range.IsIntegral) :
    ((∃ report, render .json results = .ok report) ↔
      ¬ ∃ e ∈ results, ∃ d ∈ e.diagnostics, d.span.range.IsBeyondEditors) ∧
    (∀ f, render .json results = .error f → f.IsEditorRange) ∧
    ∀ report, render .json results = .ok report →
      ∃ document, Report.document results = .ok document ∧ report = document.pretty ∧
        Describes document results ∧
        Command.exitCodeOf results = if 0 < countListed "error" document then 1 else 0 := by
  have hfails := render_json_failsIff heditor h
  refine ⟨⟨fun ⟨report, hreport⟩ => hfails.of_ok hreport, hfails.2⟩,
    fun f hf => (hfails.of_error hf).2, ?_⟩
  intro report hreport
  simp only [render, bind_eq_ok, pure_eq_ok] at hreport
  obtain ⟨document, hdocument, rfl⟩ := hreport
  have hdescribes := describes_of_document heditor hdocument
  refine ⟨document, hdocument, rfl, hdescribes, ?_⟩
  simp only [Command.exitCodeOf, hdescribes.status, List.any_eq_true]

open scoped Editor in
/-- One error and one warning, the warning on the last line that editors take. -/
theorem render_json_consistent_twoResults :
    let span (line : Int) : Span := ⟨none, ⟨⟨.whole line, .whole 3⟩, ⟨.whole line, .whole 9⟩⟩⟩
    let results : List Expansion := [
      { name := .text "URL", diagnostics := [⟨.error, "not a URL", span 4⟩] },
      { name := .text "Constant", diagnostics := [⟨.warning, "disabled", span 2147483647⟩] }]
    ∃ report document, render .json results = .ok report ∧ report = document.pretty ∧
      Describes document results ∧ Command.exitCodeOf results = 1 := by
  intro span results
  have hintegral : ∀ e ∈ results, ∀ d ∈ e.diagnostics, d.span.range.IsIntegral := by
    simp only [results, span, List.forall_mem_cons, List.not_mem_nil, false_implies, implies_true,
      and_true, Range.IsIntegral, Range.coordinates, Coordinate.integer?]
    exact ⟨⟨⟨4, rfl⟩, ⟨3, rfl⟩, ⟨4, rfl⟩, ⟨9, rfl⟩⟩,
      ⟨2147483647, rfl⟩, ⟨3, rfl⟩, ⟨2147483647, rfl⟩, ⟨9, rfl⟩⟩
  have hnear : ¬ ∃ e ∈ results, ∃ d ∈ e.diagnostics, d.span.range.IsBeyondEditors := by
    simp [results, span, Range.IsBeyondEditors, Range.coordinates, Coordinate.integer?]
  obtain ⟨hiff, -, hdescribed⟩ :=
    render_json_consistent Editor.languageServer_conforms results hintegral
  obtain ⟨report, hreport⟩ := hiff.mpr hnear
  obtain ⟨document, -, hpretty, hdescribes, -⟩ := hdescribed report hreport
  exact ⟨report, document, hreport, hpretty, hdescribes, rfl⟩

end Report

end SwiftExpansion
