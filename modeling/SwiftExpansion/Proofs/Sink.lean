import SwiftExpansion.Sink

/-!
# What becomes of the reports to a sink

A sink is used by reporting to it and by draining it, in any order and any number of times. Whatever
was reported is handed out by the next drain or is still there: each report once, in order, and at
the site that the sink is bound to.
-/
namespace SwiftExpansion.Sink

inductive Action
  | error (message : String)
  | warning (message : String)
  | drain
  deriving Repr, DecidableEq

def Action.diagnostic? (span : Span) : Action → Option (Diagnostic String)
  | .error message => some ⟨.error, message, span⟩
  | .warning message => some ⟨.warning, message, span⟩
  | .drain => none

def reports (span : Span) (actions : List Action) : List (Diagnostic String) :=
  actions.filterMap (·.diagnostic? span)

/-- What an action hands out, and the sink that it leaves. Only a drain hands out anything. -/
def act (s : Sink) : Action → Option (List (Diagnostic String)) × Sink
  | .error message => (none, s.error message)
  | .warning message => (none, s.warning message)
  | .drain => (some s.drain.1, s.drain.2)

/-- What the drains in a row of actions hand out, one list for each, and the sink that is left. -/
def run (s : Sink) : List Action → List (List (Diagnostic String)) × Sink
  | [] => ([], s)
  | a :: actions =>
    ((s.act a).1.toList ++ ((s.act a).2.run actions).1, ((s.act a).2.run actions).2)

@[simp] theorem span_act (s : Sink) (a : Action) : (s.act a).2.span = s.span := by
  cases a <;> rfl

theorem span_run (s : Sink) (actions : List Action) : (s.run actions).2.span = s.span := by
  induction actions generalizing s with
  | nil => rfl
  | cons a actions ih => exact (ih (s.act a).2).trans (s.span_act a)

theorem flatten_act_append_pending (s : Sink) (a : Action) :
    (s.act a).1.toList.flatten ++ (s.act a).2.pending =
      s.pending ++ (a.diagnostic? s.span).toList := by
  cases a <;> simp [act, error, warning, report, drain, Action.diagnostic?]

theorem flatten_run_append_pending (s : Sink) (actions : List Action) :
    (s.run actions).1.flatten ++ (s.run actions).2.pending =
      s.pending ++ reports s.span actions := by
  induction actions generalizing s with
  | nil => simp [run, reports]
  | cons a actions ih =>
    have hreports : reports s.span (a :: actions) =
        (a.diagnostic? s.span).toList ++ reports s.span actions := by
      cases h : a.diagnostic? s.span <;> simp [reports, h]
    have hrest := ih (s.act a).2
    rw [span_act] at hrest
    rw [run, List.flatten_append, List.append_assoc, hrest, ← List.append_assoc,
      flatten_act_append_pending, hreports, List.append_assoc]

/-- The drains cut the actions into stretches. Each drain hands out what was reported in the stretch
before it; the first one also hands out what was in the sink at the start. -/
theorem run_append_pending (s : Sink) (actions : List Action) :
    (s.run actions).1 ++ [(s.run actions).2.pending] =
      ((actions.splitOnP (· == .drain)).map (reports s.span)).modifyHead (s.pending ++ ·) := by
  induction actions generalizing s with
  | nil => simp [run, reports]
  | cons a actions ih =>
    have hrest := ih (s.act a).2
    rw [span_act] at hrest
    obtain ⟨stretch, stretches, hsplit⟩ :=
      List.exists_cons_of_ne_nil (List.splitOnP_ne_nil (· == .drain) actions)
    rw [hsplit, List.map_cons, List.modifyHead_cons] at hrest
    -- A report lengthens the first stretch; a drain puts an empty one in front of it.
    rw [run, List.append_assoc, hrest, List.splitOnP_cons_eq_if_modifyHead, hsplit]
    cases a <;> simp [act, error, warning, report, drain, reports, Action.diagnostic?]

/-- Nothing that is reported to a new sink is lost or handed out twice: what the drains hand out,
followed by what is left, is all that was reported, in order. Each drain hands out what was reported
since the drain before it. -/
theorem run_accounts_reports (span : Span) (actions : List Action) :
    let ⟨drained, left⟩ := run ⟨span, []⟩ actions
    drained.flatten ++ left.pending = reports span actions ∧
      drained ++ [left.pending] = (actions.splitOnP (· == .drain)).map (reports span) ∧
      left.span = span := by
  refine ⟨flatten_run_append_pending ⟨span, []⟩ actions, ?_, span_run ⟨span, []⟩ actions⟩
  exact (run_append_pending ⟨span, []⟩ actions).trans (congrFun List.modifyHead_id _)

end SwiftExpansion.Sink
