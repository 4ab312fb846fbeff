import Mathlib.Data.Prod.Lex
import SwiftExpansion.Proofs.Interface.Lines
import SwiftExpansion.Proofs.Report.Consistency
import SwiftExpansion.Sink

/-!
# One diagnostic in three forms

A record and the form for editors count lines and columns from zero, the line for people counts them
from one, and each form does so on its own. Here they are compared with what was reported. Counting
from one keeps the order of positions, so that a range which is in order stays so. Coordinates are
whole numbers, a flag being one of them. There is one limit: a number of more than 4300 digits is
not written out, and the number after the last line or column may be one.
-/
namespace SwiftExpansion

/-! Whole numbers among the coordinates. -/

theorem Text.length_toString_le_iff {n k : ℕ} (hk : 0 < k) :
    (toString n).length ≤ k ↔ n < Nat.pow 10 k := by
  have hlength : (toString n).length = (Nat.toDigits 10 n).length := by
    simp [toString, Nat.repr]
  rw [hlength]
  exact Nat.length_toDigits_le_iff (by decide) hk

namespace Binary64

theorem unit_pos : 0 < unit := by
  decide +kernel

theorem signedCount_natAbs_mul (n : Int) (k : ℕ) :
    signedCount (n < 0) (n.natAbs * k) = n * k := by
  by_cases hneg : n < 0
  · have habs : (n.natAbs : Int) = -n := by omega
    rw [signedCount, if_pos (decide_eq_true hneg), Int.natCast_mul, habs, Int.neg_mul, Int.neg_neg]
  · have habs : (n.natAbs : Int) = n := by omega
    rw [signedCount, if_neg (by simpa using hneg), Int.natCast_mul, habs]

theorem ofIntExact_lt (m n : Int) : (ofIntExact m).lt (ofIntExact n) = decide (m < n) := by
  have hpos : (0 : Int) < unit := Int.natCast_pos.mpr unit_pos
  simp only [ofIntExact, lt, signedCount_natAbs_mul, Int.mul_lt_mul_right hpos]

theorem ofIntExact_eq (m n : Int) : (ofIntExact m).eq (ofIntExact n) = decide (m = n) := by
  have hne : (unit : Int) ≠ 0 := Int.natCast_ne_zero.mpr unit_pos.ne'
  rw [Bool.eq_iff_iff]
  simp only [ofIntExact, eq, signedCount_natAbs_mul, beq_iff_eq, decide_eq_true_eq,
    Int.mul_eq_mul_right_iff hne]

end Binary64

namespace Coordinate

variable {c d : Coordinate} {m n : Int}

theorem eq_of_integer? (h : c.integer? = some n) :
    c = .whole n ∨ ∃ b, c = .flag b ∧ n = if b then 1 else 0 := by
  cases c with
  | flag b => exact .inr ⟨b, rfl, (Option.some.inj h).symm⟩
  | whole k => exact .inl (congrArg whole (Option.some.inj h))
  | real x => cases h

theorem value_eq (h : c.integer? = some n) : c.value = .ofIntExact n := by
  obtain rfl | ⟨b, rfl, rfl⟩ := eq_of_integer? h <;> rfl

theorem lt_eq (hc : c.integer? = some m) (hd : d.integer? = some n) : c.lt d = decide (m < n) := by
  rw [lt, value_eq hc, value_eq hd, Binary64.ofIntExact_lt]

theorem eq_eq (hc : c.integer? = some m) (hd : d.integer? = some n) : c.eq d = decide (m = n) := by
  rw [eq, value_eq hc, value_eq hd, Binary64.ofIntExact_eq]

theorem integer?_succ (h : c.integer? = some n) : c.succ.integer? = some (n + 1) := by
  obtain rfl | ⟨b, rfl, rfl⟩ := eq_of_integer? h
  · rfl
  · cases b <;> rfl

theorem isNegative_eq (h : c.integer? = some n) : c.isNegative = decide (n < 0) := by
  obtain rfl | ⟨b, rfl, rfl⟩ := eq_of_integer? h
  · rfl
  · cases b <;> rfl

theorem ofJson_toJson (c : Coordinate) : ofJson c.toJson = .ok c := by
  cases c <;> rfl

/-- The number after a whole number is written out if it has no more digits than the limit. -/
theorem isShort_succ (n : ℕ) :
    (whole n).succ.isShort = true ↔ (toString (n + 1)).length ≤ 4300 := by
  have habs : (n + 1 : Int).natAbs = n + 1 := rfl
  have hlimit : (toString (n + 1)).length ≤ Json.maxDigits ↔ n + 1 < Nat.pow 10 Json.maxDigits :=
    Text.length_toString_le_iff (by decide)
  simp only [succ, isShort, decide_eq_true_eq, habs]
  rw [← hlimit, Json.maxDigits]

end Coordinate

/-! Positions that are counted in whole numbers. -/

namespace Position

/-- Whether the line and the column of a position are these whole numbers. -/
def IsAt (p : Position) (line column : ℕ) : Prop :=
  p.line.integer? = some (line : Int) ∧ p.column.integer? = some (column : Int)

variable {p q : Position} {l c l' c' : ℕ}

/-- Positions are in lexicographic order. -/
theorem isAfter_iff (hp : p.IsAt l c) (hq : q.IsAt l' c') :
    p.isAfter q = true ↔ toLex (l', c') < toLex (l, c) := by
  rw [isAfter, Coordinate.lt_eq hq.1 hp.1, Coordinate.eq_eq hp.1 hq.1, Coordinate.lt_eq hq.2 hp.2,
    Prod.Lex.toLex_lt_toLex]
  simp only [Bool.or_eq_true, Bool.and_eq_true, decide_eq_true_eq]
  omega

theorem IsAt.oneIndexed (hp : p.IsAt l c) : p.oneIndexed.IsAt (l + 1) (c + 1) :=
  ⟨Coordinate.integer?_succ hp.1, Coordinate.integer?_succ hp.2⟩

theorem oneIndexed_isAfter (hp : p.IsAt l c) (hq : q.IsAt l' c') :
    p.oneIndexed.isAfter q.oneIndexed = p.isAfter q := by
  rw [Bool.eq_iff_iff, isAfter_iff hp hq, isAfter_iff hp.oneIndexed hq.oneIndexed,
    Prod.Lex.toLex_lt_toLex, Prod.Lex.toLex_lt_toLex]
  omega

theorem IsAt.ofJson_toJson (hp : p.IsAt l c) : ofJson p.line.toJson p.column.toJson = .ok p := by
  have hline : p.line.isNegative = false := by simp [Coordinate.isNegative_eq hp.1]
  have hcolumn : p.column.isNegative = false := by simp [Coordinate.isNegative_eq hp.2]
  simp [ofJson, Coordinate.ofJson_toJson, hline, hcolumn, bind, Except.bind, pure, Except.pure]

end Position

theorem Range.between_eq_ok {p q : Position} (h : p.isAfter q = false) :
    between p q = .ok ⟨p, q⟩ := by
  simp [between, h]

/-! The forms of a diagnostic. -/

theorem Severity.name_append_inj {s t : Severity} {m n : String} :
    s.name ++ m = t.name ++ n ↔ s = t ∧ m = n := by
  cases s <;> cases t <;> simp [Severity.name, ← String.toList_inj]

@[simp] theorem Span.start_atPosition (file : Option Json) (p : Position) :
    (atPosition file p).range.start = p :=
  rfl

theorem Span.fileName?_atPosition (file : Option String) (p : Position) :
    (atPosition (file.map .text) p).fileName? = file.filter (· ≠ "") := by
  rw [fileName?, atPosition, Json.filter_isTruthy_map_text, Option.map_map]
  exact Option.map_id'

namespace Diagnostic

/-- The identity of a message is made of nothing but its severity and its text, and both can be told
from it. -/
theorem messageId_inj {d e : Diagnostic String} :
    d.messageId = e.messageId ↔ d.severity = e.severity ∧ d.message = e.message := by
  rw [messageId, messageId, MessageId.mk.injEq, Severity.name_append_inj]
  exact and_iff_right rfl

/-- What people are to be shown for a diagnostic at a line and a column counted from zero. There is
nothing to be shown if the number after one of them has more than 4300 digits. -/
def lineFor (file : Option String) (line column : ℕ) (severity : Severity) (message : String) :
    Except Fault String :=
  if (toString (line + 1)).length ≤ 4300 ∧ (toString (column + 1)).length ≤ 4300 then
    .ok ((file.filter (· ≠ "")).getD "<unknown>" ++ ":" ++ toString (line + 1) ++ ":" ++
      toString (column + 1) ++ ": " ++ severity.name ++ ": " ++ message)
  else .error .digitLimit

theorem format_atPosition (file : Option String) (line column : ℕ) (severity : Severity)
    (message : String) :
    (⟨severity, message, .atPosition (file.map .text) ⟨.whole line, .whole column⟩⟩ :
        Diagnostic String).format = lineFor file line column severity message := by
  have hshort : (Position.oneIndexed ⟨.whole line, .whole column⟩).isShort = true ↔
      (toString (line + 1)).length ≤ 4300 ∧ (toString (column + 1)).length ≤ 4300 := by
    rw [Position.isShort, Position.oneIndexed, Bool.and_eq_true, Coordinate.isShort_succ,
      Coordinate.isShort_succ]
  simp only [format, lineFor, Span.start_atPosition, Span.fileName?_atPosition, hshort]
  rfl

theorem toEditor_atPosition [Editor] (heditor : Editor.Conforms) {line column : ℕ}
    (hline : line ≤ 2147483647)
    (hcolumn : column ≤ 2147483647) (file : Option Json) (severity : Severity) (message : String) :
    let place := Json.object [("line", .int line), ("character", .int column)]
    (⟨severity, message, .atPosition file ⟨.whole line, .whole column⟩⟩ :
        Diagnostic String).toEditor =
      .ok (.object [
        ("range", .object [("start", place), ("end", place)]),
        ("message", .text message),
        ("severity", Editor.severity severity),
        ("code", .text (severity.name ++ message)),
        ("source", .text source)]) := by
  intro place
  obtain ⟨d, hd⟩ : ∃ d : Diagnostic String,
      d = ⟨severity, message, .atPosition file ⟨.whole line, .whole column⟩⟩ := ⟨_, rfl⟩
  have hintegral : d.span.range.IsIntegral := by
    simp [hd, Range.IsIntegral, Range.coordinates, Span.atPosition, Coordinate.integer?]
  have hnear : ¬ d.span.range.IsBeyondEditors := by
    rintro ⟨c, hc, n, hn, hlarge⟩
    simp only [hd, Range.coordinates, Span.atPosition, List.mem_cons, List.not_mem_nil,
      or_false] at hc
    obtain rfl | rfl | rfl | rfl := hc <;>
      simp only [Coordinate.integer?, Option.some.injEq] at hn <;> omega
  obtain ⟨given, hgiven⟩ := (toEditor_failsIff heditor hintegral).2 hnear
  rw [← hd, hgiven, toEditor_eq_ok heditor hgiven, hd]
  rfl

/-- What a diagnostic shows in each of its forms, if it is at a line and a column that are whole
numbers, counted from zero. -/
structure IsRendered [Editor] (d : Diagnostic String) (file : Option String) (line column : ℕ)
    (severity : Severity) (message : String) : Prop where
  record : d.toJson.at? ["location"] = some (.object [
    ("file", (file.map .text).getD .null), ("line", .int line), ("column", .int column)])
  format : d.format = lineFor file line column severity message
  editor : line ≤ 2147483647 → column ≤ 2147483647 →
    ∃ editor place id, d.toEditor = .ok editor ∧
      place = .object [("line", .int line), ("character", .int column)] ∧
      editor.at? ["range", "start"] = some place ∧ editor.at? ["range", "end"] = some place ∧
      editor.at? ["code"] = some id ∧ d.toJson.at? ["id", "id"] = some id

theorem isRendered_atPosition [Editor] (heditor : Editor.Conforms) (file : Option String)
    (line column : ℕ) (severity : Severity) (message : String) :
    (⟨severity, message, .atPosition (file.map .text) ⟨.whole line, .whole column⟩⟩ :
        Diagnostic String).IsRendered file line column severity message := by
  refine ⟨rfl, format_atPosition file line column severity message, fun hline hcolumn => ?_⟩
  exact ⟨_, _, _, toEditor_atPosition heditor hline hcolumn _ severity message, rfl, rfl, rfl, rfl,
    rfl⟩

/-- The forms of a diagnostic agree with what was reported to a sink, and with each other, for every
editor that conforms. Two
diagnostics have one identity exactly when they are of one severity and one message. Positions are
in lexicographic order, counting from one keeps it, and so a range that is in order can be counted
from one. -/
theorem renderings_agree [Editor] (heditor : Editor.Conforms) :
    (∀ (file : Option String) (line column : ℕ) (severity : Severity) (message : String),
      ∃ (position : Position) (d : Diagnostic String),
        Position.ofJson (.int line) (.int column) = .ok position ∧
        let sink : Sink := ⟨.atPosition (file.map .text) position, []⟩
        (match severity with
          | .error => sink.error message
          | .warning => sink.warning message).drain.1 = [d] ∧
        d.IsRendered file line column severity message) ∧
    (∀ d e : Diagnostic String,
      d.messageId = e.messageId ↔ d.severity = e.severity ∧ d.message = e.message) ∧
    (∀ (p q : Position) (l c l' c' : ℕ), p.IsAt l c → q.IsAt l' c' →
      (p.isAfter q = true ↔ toLex (l', c') < toLex (l, c)) ∧
      p.oneIndexed.IsAt (l + 1) (c + 1) ∧
      Position.ofJson p.oneIndexed.line.toJson p.oneIndexed.column.toJson = .ok p.oneIndexed ∧
      p.oneIndexed.isAfter q.oneIndexed = p.isAfter q ∧
      (toLex (l, c) ≤ toLex (l', c') → Range.between p q = .ok ⟨p, q⟩ ∧
        (Range.mk p q).oneIndexed = .ok ⟨p.oneIndexed, q.oneIndexed⟩)) := by
  refine ⟨fun file line column severity message => ?_, fun d e => messageId_inj,
    fun p q l c l' c' hp hq => ?_⟩
  · have hat : (⟨.whole line, .whole column⟩ : Position).IsAt line column := ⟨rfl, rfl⟩
    refine ⟨_, _, hat.ofJson_toJson, ?_,
      isRendered_atPosition heditor file line column severity message⟩
    cases severity <;> rfl
  · have hkept := Position.oneIndexed_isAfter hp hq
    refine ⟨Position.isAfter_iff hp hq, hp.oneIndexed, hp.oneIndexed.ofJson_toJson, hkept,
      fun hle => ?_⟩
    have hbefore : p.isAfter q = false := by
      rw [← Bool.not_eq_true, Position.isAfter_iff hp hq]
      exact not_lt.mpr hle
    exact ⟨Range.between_eq_ok hbefore, Range.between_eq_ok (hkept.trans hbefore)⟩

open scoped Editor in
/-- A warning in a file without a name, on the last line that editors take, and a range whose first
line is given by a flag. -/
theorem renderings_agree_lastEditorLine :
    let d : Diagnostic String :=
      ⟨.warning, "disabled", .atPosition (some (.text "")) ⟨.whole 2147483647, .whole 0⟩⟩
    let place := Json.object [("line", .int 2147483647), ("character", .int 0)]
    (d.format = .ok "<unknown>:2147483648:1: warning: disabled" ∧
      ∃ editor, d.toEditor = .ok editor ∧ editor.at? ["range", "start"] = some place ∧
        editor.at? ["range", "end"] = some place) ∧
    (Range.mk ⟨.flag true, .whole 7⟩ ⟨.whole 1, .whole 9⟩).oneIndexed =
      .ok ⟨⟨.whole 2, .whole 8⟩, ⟨.whole 2, .whole 10⟩⟩ := by
  intro d place
  obtain ⟨hrendered, -, hshifted⟩ := renderings_agree Editor.languageServer_conforms
  constructor
  · obtain ⟨position, e, hposition, hsink, hforms⟩ :=
      hrendered (some "") 2147483647 0 .warning "disabled"
    cases hposition
    obtain rfl : d = e := (List.cons.inj hsink).1
    obtain ⟨editor, _, _, heditor, rfl, hstart, hstop, -, -⟩ :=
      hforms.editor (by decide) (by decide)
    refine ⟨?_, editor, heditor, hstart, hstop⟩
    rw [hforms.format, lineFor, if_pos (by decide +kernel)]
    exact congrArg Except.ok (by decide +kernel)
  · obtain ⟨-, -, -, -, hrange⟩ :=
      hshifted ⟨.flag true, .whole 7⟩ ⟨.whole 1, .whole 9⟩ 1 7 1 9 ⟨rfl, rfl⟩ ⟨rfl, rfl⟩
    exact (hrange (by decide)).2

/-- The line with the greatest number that a document can hold is not shown to people: the number
after it has one digit too many. -/
theorem format_fails_lastLine :
    let line : ℕ := Nat.pow 10 4300 - 1
    ∃ (position : Position) (d : Diagnostic String),
      Position.ofJson (.int line) (.int 0) = .ok position ∧
        ((Sink.mk (.atPosition (some (.text "f")) position) []).error "m").drain.1 = [d] ∧
        d.format = .error .digitLimit ∧ ∀ text, d.format ≠ .ok text := by
  -- The power is kept from being computed.
  generalize hk : 4300 = k
  intro line
  have hnext : line + 1 = Nat.pow 10 k := Nat.sub_add_cancel (Nat.one_le_pow k 10 (by decide))
  have hlong : ¬ (toString (line + 1)).length ≤ 4300 := by
    rw [hnext, hk, Text.length_toString_le_iff (by omega)]
    exact lt_irrefl _
  clear_value line
  have hat : (⟨.whole line, .whole 0⟩ : Position).IsAt line 0 := ⟨rfl, rfl⟩
  have hformat := format_atPosition (some "f") line 0 .error "m"
  rw [lineFor, if_neg fun h => hlong h.1] at hformat
  refine ⟨_, _, hat.ofJson_toJson, rfl, hformat, fun text h => ?_⟩
  cases hformat.symm.trans h

end Diagnostic

end SwiftExpansion
