import SwiftExpansion.Command.Run
import SwiftExpansion.Proofs.Config.History
import SwiftExpansion.Proofs.Store
import SwiftExpansion.Proofs.Text

/-!
# A batch is reported as a whole or not at all

What a batch comes to is said without regard to how it is carried out: the configuration that is in
force, the requests that the files hold, the results of all of them in order, and their report. If
there is such a report and it can be delivered, it is; otherwise the run leaves no trace but its
exit status. What is printed of a report is left to the console, except that a faithful console
shows a text as it is when there is no escape character in it.

A text consists of characters, so half of a surrogate pair cannot stand in it. Files in which one is
written, by an escape of the document or by a numbered character of a literal, are left out.
-/
namespace SwiftExpansion

namespace Json

def escapedUnit? : List Char → Option Nat
  | '\\' :: 'u' :: a :: b :: c :: d :: _ => do
    let digits ← [a, b, c, d].mapM hexValue?
    return digits.foldl (fun n d => 16 * n + d) 0
  | _ => none

/-- Passes over `skip` characters, then looks for a surrogate whose other half does not follow. -/
def isPairedFrom : Nat → List Char → Bool
  | _, [] => true
  | skip + 1, _ :: cs => isPairedFrom skip cs
  | 0, c :: cs =>
    match escapedUnit? (c :: cs) with
    | some unit =>
      if isHighSurrogate unit then
        (escapedUnit? (cs.drop 5)).any isLowSurrogate && isPairedFrom 11 cs
      else !isLowSurrogate unit && isPairedFrom 5 cs
    | none => isPairedFrom (if c == '\\' then 1 else 0) cs

def isPaired (source : String) : Bool :=
  isPairedFrom 0 source.toList

/-- The requests that are written in a document: its items, or the document itself. -/
def requestItems : Json → List Json
  | .list items => items
  | j => [j]

def openLiteral? (data : Json) : Option String :=
  match data.getD "kind" .null, data.getD "text" .null, data.getNonNull? "value" with
  | .ok kind, .ok (.text source), .ok none =>
    if kind.isText ExpressionKind.stringLiteral.name then some source else none
  | _, _, _ => none

/-- The literals among the arguments of a request whose contents are left to be read. -/
def openLiterals (item : Json) : List String :=
  match item.getD "arguments" .null with
  | .ok (.list arguments) =>
    arguments.filterMap fun a => (a.getD "value" .null).toOption.bind openLiteral?
  | _ => []

end Json

namespace Literal

def Piece.isSurrogate : Piece → Bool
  | .scalar n => Json.isHighSurrogate n || Json.isLowSurrogate n
  | _ => false

/-- Whether no numbered character is half of a surrogate pair, in a literal that has a content. -/
def isWhole (source : String) : Bool :=
  match delimited? (Text.trim source.toList) with
  | none => true
  | some d => d.text.toOption.all fun body =>
    (pieces d.pounds body).any Piece.isInterpolation ||
      !(pieces d.pounds body).any Piece.isSurrogate

end Literal

theorem Request.readDocument_list_eq_ok {items : List Json} {requests : List (Request Json)} :
    readDocument (.list items) = .ok requests ↔ (∀ j ∈ items, ∃ entries, j = .object entries) ∧
      List.Forall₂ (fun j r => read j = .ok r) items requests := by
  rw [← Except.mapM_eq_ok]
  unfold readDocument
  dsimp only
  split
  · rename_i j hj
    have hstray : ¬ ∃ entries, j = .object entries := by
      rintro ⟨entries, rfl⟩
      simpa using List.find?_some hj
    constructor
    · intro h
      cases h
    · rintro ⟨hall, -⟩
      exact absurd (hall j (List.mem_of_find?_eq_some hj)) hstray
  · rename_i hnone
    refine (and_iff_right fun j hj => ?_).symm
    have hobject := List.find?_eq_none.mp hnone j hj
    cases j with
    | object entries => exact ⟨entries, rfl⟩
    | _ => simp at hobject

theorem Request.readDocument_eq_ok {document : Json} {requests : List (Request Json)} :
    readDocument document = .ok requests ↔
      (∀ j ∈ document.requestItems, ∃ entries, j = .object entries) ∧
        List.Forall₂ (fun j r => read j = .ok r) document.requestItems requests := by
  have hitems : readDocument document = readDocument (.list document.requestItems) := by
    cases document <;> rfl
  rw [hitems, readDocument_list_eq_ok]

theorem Config.load_eq_ok {path : String} {document : Except Fault Json} {c : Config} :
    (load path document).outcome = .ok c ↔
      ∃ j, document = .ok j ∧ (read j).outcome = .ok c := by
  cases document with
  | error f =>
    simp [load, ofAction, Effect.ofAction, Effect.load, Logged.lift, Logged.bind, Except.map]
  | ok j =>
    cases hupdate : (Effect.update j).outcome <;>
      simp [load, read, ofAction, Effect.ofAction, Effect.load, Logged.lift, Logged.bind, hupdate,
        Except.map, apply]

namespace Store

def source? (store : Store) (path : String) : Option String :=
  (store.read path).toOption.bind fun octets => (Text.ofOctets octets).toOption

def IsPaired (store : Store) (path : String) : Prop :=
  ∀ source ∈ store.source? path, Json.isPaired source = true

/-- There is no half of a surrogate pair in a file of requests, nor in a literal of theirs. -/
structure IsWhole (store : Store) (path : String) : Prop where
  paired : store.IsPaired path
  literals : ∀ document ∈ (store.readJson path).toOption, ∀ j ∈ document.requestItems,
    ∀ source ∈ j.openLiterals, Literal.isWhole source = true

def Holds (store : Store) (path : String) (requests : List (Request Json)) : Prop :=
  store.IsWhole path ∧ ∃ document, store.readJson path = .ok document ∧
    (∀ j ∈ document.requestItems, ∃ entries, j = .object entries) ∧
    List.Forall₂ (fun j r => Request.read j = .ok r) document.requestItems requests

/-- The configuration in force: that of the file, if there is one. -/
def Configures (store : Store) : Option String → Config → Prop
  | none, c => c = {}
  | some path, c => store.IsPaired path ∧ ∃ document, store.readJson path = .ok document ∧
      (Config.read document).outcome = .ok c

end Store

/-- A console shows a text as it is, except perhaps for control sequences. -/
def Console.IsFaithful [Console] : Prop :=
  ∀ s : String, '\x1b' ∉ s.toList → Console.shown s = s

theorem Console.piped_isFaithful : @IsFaithful piped := by
  intro s h
  exact Text.withoutControls_eq_self h

namespace Command

structure IsWhole (store : Store) (o : ExpandOptions) : Prop where
  config : ∀ path ∈ o.config, store.IsPaired path
  files : ∀ path ∈ o.files, store.IsWhole path

theorem loadConfig_eq_ok {store : Store} {config : Option String} {c : Config}
    (hconfig : ∀ path ∈ config, store.IsPaired path) :
    (loadConfig store config).outcome = .ok c ↔ store.Configures config c := by
  cases config with
  | none => simp [loadConfig, Store.Configures, eq_comm]
  | some path =>
    rw [loadConfig, Logged.mapFault, Except.mapError_eq_ok, Config.load_eq_ok]
    exact (and_iff_right (hconfig path (by simp))).symm

theorem holds_iff {store : Store} {path : String} {requests : List (Request Json)} :
    store.Holds path requests ↔ store.IsWhole path ∧ loadRequests store path = .ok requests := by
  have hbind : (store.readJson path).bind Request.readDocument =
      store.readJson path >>= Request.readDocument := rfl
  rw [loadRequests, Except.mapError_eq_ok, hbind, Except.bind_eq_ok]
  simp only [Request.readDocument_eq_ok]
  rfl

theorem loadAllRequests_eq_ok {store : Store} {paths : List String}
    {requests : List (Request Json)} (hfiles : ∀ path ∈ paths, store.IsWhole path) :
    loadAllRequests store paths = .ok requests ↔
      ∃ batches, List.Forall₂ store.Holds paths batches ∧ batches.flatten = requests := by
  have hholds (batches : List (List (Request Json))) : List.Forall₂ store.Holds paths batches ↔
      List.Forall₂ (fun path found => loadRequests store path = .ok found) paths batches := by
    have hsplit : store.Holds =
        fun path found => store.IsWhole path ∧ loadRequests store path = .ok found := by
      funext path found
      exact propext holds_iff
    rw [hsplit, List.forall₂_and_left, and_iff_right hfiles]
  simp only [loadAllRequests, Except.bind_eq_ok, Except.pure_eq_ok, Except.mapM_eq_ok, hholds]

theorem expandRequests_eq_ok [Memory] {c : Config} {requests : List (Request Json)}
    {results : List Expansion} :
    expandRequests c requests = .ok results ↔
      ∃ e, Engine.ofConfig c = .ok e ∧ e.expandAll requests = .ok results := by
  simp only [expandRequests, Except.bind_eq_ok, Except.mapError_eq_ok]

section

variable [Memory] [Editor]

/-- The results and the report that a batch comes to. -/
def Reports (store : Store) (o : ExpandOptions) (results : List Expansion) (report : String) :
    Prop :=
  ∃ c e batches, store.Configures o.config c ∧ Engine.ofConfig c = .ok e ∧
    List.Forall₂ store.Holds o.files batches ∧ e.expandAll batches.flatten = .ok results ∧
    Report.render o.format results = .ok report

theorem prepare_eq_ok {store : Store} {o : ExpandOptions} {results : List Expansion}
    {report : String} (hwhole : IsWhole store o) :
    (prepare store o).outcome = .ok (results, report) ↔ Reports store o results report := by
  simp only [prepare, Logged.outcome_bind_eq_ok, Logged.outcome_liftM,
    loadConfig_eq_ok hwhole.config, loadAllRequests_eq_ok hwhole.files, expandRequests_eq_ok,
    Except.mapError_eq_ok]
  constructor
  · rintro ⟨-, -, c, hc, requests, ⟨batches, hbatches, rfl⟩, -, -, found, ⟨e, he, hresults⟩, text,
      htext, hpair⟩
    cases hpair
    exact ⟨c, e, batches, hc, he, hbatches, hresults, htext⟩
  · rintro ⟨c, e, batches, hc, he, hbatches, hresults, htext⟩
    exact ⟨(), rfl, c, hc, _, ⟨batches, hbatches, rfl⟩, (), rfl, results, ⟨e, he, hresults⟩, report,
      htext, rfl⟩

theorem exists_reports_iff {store : Store} {o : ExpandOptions} {report : String}
    (hwhole : IsWhole store o) :
    (∃ results, Reports store o results report) ↔
      (prepare store o).outcome.toOption.map Prod.snd = some report := by
  simp only [← prepare_eq_ok hwhole]
  cases (prepare store o).outcome with
  | ok prepared => simp [Except.toOption, Prod.ext_iff]
  | error f => simp [Except.toOption]

end

/-- Whether a report can be delivered: it is printed, or there is room for it where the path
leads. -/
def CanDeliver (store : Store) (output : Option String) : Prop :=
  ∀ path ∈ output, (store.status (Path.shown path)).isWritable = true

namespace Outcome

/-- A report was printed, or written to a file and to nowhere else. -/
def Delivers [Console] (out : Outcome) (store : Store) (output : Option String) (report : String) :
    Prop :=
  match output with
  | none => out.stdout = Console.shown (report ++ "\n") ∧
      ('\x1b' ∉ report.toList → out.stdout = report ++ "\n") ∧ out.store = store
  | some path => out.stdout = "" ∧
      store.IsUpdate out.store (Path.shown path) (Text.toOctets report)

def Tells (out : Outcome) (results : List Expansion) : Prop :=
  (out.exitCode = 1 ∧ ∃ x ∈ results, ∃ d ∈ x.diagnostics, d.severity = .error) ∨
    (out.exitCode = 0 ∧ ∀ x ∈ results, ∀ d ∈ x.diagnostics, d.severity ≠ .error)

/-- Nothing was printed and no file was changed. -/
structure IsVain (out : Outcome) (store : Store) : Prop where
  exitCode : out.exitCode = 1
  stdout : out.stdout = ""
  store : out.store = store

theorem tells_of_exitCode {out : Outcome} {results : List Expansion}
    (h : out.exitCode = exitCodeOf results) : out.Tells results := by
  unfold exitCodeOf at h
  split at h
  · rename_i herrors
    obtain ⟨x, hx, hxerrors⟩ := List.any_eq_true.mp herrors
    obtain ⟨d, hd, herror⟩ := List.any_eq_true.mp hxerrors
    exact .inl ⟨h, x, hx, d, hd, eq_of_beq herror⟩
  · rename_i herrors
    refine .inr ⟨h, fun x hx d hd herror => herrors ?_⟩
    exact List.any_eq_true.mpr ⟨x, hx, List.any_eq_true.mpr ⟨d, hd, beq_iff_eq.mpr herror⟩⟩

end Outcome

section

variable [Console] {store : Store} {output : Option String} (events : List Event)
  (results : List Expansion) (report : String)

theorem failed_isVain (f : Failure) : (failed store events f).IsVain store :=
  ⟨rfl, rfl, rfl⟩

theorem deliver_of_write {path : String} {written : Store}
    (h : store.write (Path.shown path) (Text.toOctets report) = .ok written) :
    deliver store events (some path) results report =
      { exitCode := exitCodeOf results
        store := written
        events := events ++ [.log .info ("Report written to " ++ Path.shown path)] } := by
  unfold deliver
  dsimp only
  rw [h]

theorem deliver_of_write_error {path : String} {f : Fault}
    (h : store.write (Path.shown path) (Text.toOctets report) = .error f) :
    deliver store events (some path) results report = failed store events (.unexpected f) := by
  unfold deliver
  dsimp only
  rw [h]

theorem deliver_delivers (hconsole : Console.IsFaithful) (h : CanDeliver store output) :
    (deliver store events output results report).Delivers store output report ∧
      (deliver store events output results report).Tells results := by
  cases output with
  | none =>
    refine ⟨⟨rfl, fun hescape => ?_, rfl⟩, Outcome.tells_of_exitCode rfl⟩
    exact hconsole _ (by simpa using hescape)
  | some path =>
    have hstatus : (store.status (Path.shown path)).isWritable = true := h path (by simp)
    obtain ⟨written, hwrite, hupdate⟩ := Store.write_isUpdate hstatus (Text.toOctets report)
    rw [deliver_of_write events results report hwrite]
    exact ⟨⟨rfl, hupdate⟩, Outcome.tells_of_exitCode rfl⟩

theorem deliver_isVain (h : ¬ CanDeliver store output) :
    (deliver store events output results report).IsVain store := by
  cases output with
  | none => exact absurd (fun path hpath => by cases hpath) h
  | some path =>
    have hstatus : (store.status (Path.shown path)).isWritable = false := by
      simpa [CanDeliver] using h
    obtain ⟨f, hwrite⟩ := Store.write_of_not_isWritable hstatus (Text.toOctets report)
    rw [deliver_of_write_error events results report hwrite]
    exact failed_isVain _ _

end

section

variable [Memory] [Editor] [Console] {store : Store} {o : ExpandOptions}

theorem runExpand_cases (hwhole : IsWhole store o) :
    ((¬ ∃ results report, Reports store o results report) ∧
      ∃ events f, runExpand store o = failed store events f) ∨
    ∃ results report, (∀ found text, Reports store o found text → found = results ∧ text = report) ∧
      Reports store o results report ∧
      ∃ events, runExpand store o = deliver store events o.output results report := by
  simp only [← prepare_eq_ok hwhole, runExpand]
  cases hprepare : (prepare store o).outcome with
  | error f => exact .inl ⟨by simp, _, f, rfl⟩
  | ok prepared =>
    refine .inr ⟨prepared.1, prepared.2, fun found text h => ?_, rfl, _, rfl⟩
    cases h
    exact ⟨rfl, rfl⟩

/-- A batch is all or nothing. If the configuration and all files are read, the engine is set up,
all requests are expanded and the results rendered, then the whole report is delivered, if it can
be, nothing else changes, and the exit status tells whether a result has an error. Otherwise nothing
is printed, no file changes and the exit status is one. -/
theorem runExpand_all_or_nothing (hconsole : Console.IsFaithful) (hwhole : IsWhole store o) :
    (∀ results report, Reports store o results report → CanDeliver store o.output →
      (runExpand store o).Delivers store o.output report ∧ (runExpand store o).Tells results) ∧
    ((¬ ∃ results report, Reports store o results report) ∨ ¬ CanDeliver store o.output →
      (runExpand store o).IsVain store) := by
  rcases runExpand_cases hwhole with
    ⟨hnone, events, f, hrun⟩ | ⟨results, report, honly, hreports, events, hrun⟩
  · rw [hrun]
    exact ⟨fun results report hreports => absurd ⟨results, report, hreports⟩ hnone,
      fun _ => failed_isVain events f⟩
  · rw [hrun]
    constructor
    · intro found text hfound hdeliver
      obtain ⟨rfl, rfl⟩ := honly found text hfound
      exact deliver_delivers events found text hconsole hdeliver
    · intro hcase
      exact deliver_isVain events results report
        (hcase.resolve_left (not_not_intro ⟨results, report, hreports⟩))

end

open scoped Memory Editor Console

def faultyUsages : Store :=
  ⟨[(["a.json"], Text.toOctets "\x7b\"macro\":\"mainBundle\"\x7d"),
    (["b.json"], Text.toOctets "[\x7b\"macro\":\"Constant\"\x7d]")], []⟩

def faultyReport : String :=
  "// mainBundle\n<unknown>:1:1: error: missing required key argument"

theorem faultyUsages_isWhole {path : String} (h : path ∈ ["a.json", "b.json"]) :
    faultyUsages.IsWhole path := by
  have hpaired : ∀ path ∈ ["a.json", "b.json"],
      ∀ source ∈ faultyUsages.source? path, Json.isPaired source = true := by
    decide +kernel
  have hliterals : ∀ path ∈ ["a.json", "b.json"],
      ∀ document ∈ (faultyUsages.readJson path).toOption, ∀ j ∈ document.requestItems,
        ∀ source ∈ j.openLiterals, Literal.isWhole source = true := by
    decide +kernel
  exact ⟨hpaired path h, hliterals path h⟩

theorem runExpand_all_or_nothing_faultyUsages :
    (runExpand faultyUsages { files := ["a.json"], output := some "./r.txt" }).store.read "r.txt" =
      .ok (Text.toOctets faultyReport) ∧
    (runExpand faultyUsages { files := ["a.json", "b.json"], output := some "r.txt" }).IsVain
      faultyUsages := by
  have hfirst : IsWhole faultyUsages { files := ["a.json"], output := some "./r.txt" } :=
    ⟨by simp, fun path hpath => faultyUsages_isWhole (by simp_all)⟩
  have hboth : IsWhole faultyUsages { files := ["a.json", "b.json"], output := some "r.txt" } :=
    ⟨by simp, fun path hpath => faultyUsages_isWhole hpath⟩
  constructor
  · obtain ⟨results, hreports⟩ : ∃ results, Reports faultyUsages
        { files := ["a.json"], output := some "./r.txt" } results faultyReport :=
      (exists_reports_iff hfirst).mpr (by decide +kernel)
    have hroom : CanDeliver faultyUsages (some "./r.txt") := by
      intro path hpath
      cases hpath
      decide +kernel
    exact ((runExpand_all_or_nothing Console.piped_isFaithful hfirst).1 results faultyReport
      hreports hroom).1.2.read
  · refine (runExpand_all_or_nothing Console.piped_isFaithful hboth).2 (.inl ?_)
    rintro ⟨results, report, hreports⟩
    have hnone : (prepare faultyUsages
        { files := ["a.json", "b.json"], output := some "r.txt" }).outcome.toOption.map Prod.snd =
          none := by
      decide +kernel
    rw [(exists_reports_iff hboth).mp ⟨results, hreports⟩] at hnone
    cases hnone

def colouredEcho : Store :=
  ⟨[(["a.json"], Text.toOctets ("\x7b\"macro\":\"stringify\",\"arguments\":[\x7b\"value\":" ++
    "\x7b\"text\":\"\\u001b[31mx\"\x7d\x7d]\x7d"))], []⟩

/-- What is printed into a pipe is not the whole report when there are control sequences in it. -/
theorem runExpand_colouredEcho :
    IsWhole colouredEcho { files := ["a.json"] } ∧
    ∃ results report, Reports colouredEcho { files := ["a.json"] } results report ∧
      (runExpand colouredEcho { files := ["a.json"] }).stdout ≠ report ++ "\n" := by
  have hwhole : IsWhole colouredEcho { files := ["a.json"] } := by
    refine ⟨by simp, fun path hpath => ?_⟩
    cases List.mem_singleton.mp hpath
    exact ⟨by unfold Store.IsPaired; decide +kernel, by decide +kernel⟩
  obtain ⟨results, hreports⟩ : ∃ results, Reports colouredEcho { files := ["a.json"] } results
      "// stringify\n(\x1b[31mx, \"\x1b[31mx\")" :=
    (exists_reports_iff hwhole).mpr (by decide +kernel)
  have hstdout : (runExpand colouredEcho { files := ["a.json"] }).stdout =
      "// stringify\n(x, \"x\")\n" := by
    decide +kernel
  refine ⟨hwhole, results, _, hreports, ?_⟩
  rw [hstdout]
  decide

end Command

end SwiftExpansion
