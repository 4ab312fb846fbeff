import Mathlib.Algebra.GroupWithZero.Nat
import SwiftExpansion.Engine.Pool
import SwiftExpansion.Proofs.Engine.ErrorContract
import SwiftExpansion.Proofs.Fault

/-!
# A batch does not depend on its schedule

No turn of a call touches the sink of another, so that what is left to do of each call always leads
to what the request comes to alone. Whatever the schedule, what is collected in the end is therefore
what the requests come to one by one.
-/
namespace SwiftExpansion

namespace Engine

theorem collect_cons (sink : Sink) (note : Note) (notes : List Note) :
    collect sink (note :: notes) = collect (collect sink [note]) notes := by
  cases note <;> rfl

variable [Memory]

/-- Expanding a request alone is reporting all of a draft to a new sink. -/
theorem expand_outcome {e : Engine} {r : Request Json} {m : Macro}
    (h : e.findMacro r.name = .ok m) :
    (e.expand r).outcome =
      (conclude m (collect ⟨r.span, []⟩ (e.draft m r).notes) (e.draft m r).outcome).outcome := by
  unfold expand draft
  rw [h]
  cases henabled : m.isEnabled with
  | true => simp [henabled, settle]
  | false => simp [henabled]; rfl

end Engine

section

variable [Memory]

/-- Whether what is left to do of a call leads to what its request comes to alone. -/
def Call.Leads (e : Engine) (sinks : List Sink) (r : Request Json) : Call → Prop
  | .waiting => True
  | .running m place rest => ∃ sink, sinks[place]? = some sink ∧
      (Engine.conclude m (Engine.collect sink rest.notes) rest.outcome).outcome =
        (e.expand r).outcome
  | .done outcome => outcome = (e.expand r).outcome

theorem Call.Leads.of_sinks {e : Engine} {sinks others : List Sink} {r : Request Json} {c : Call}
    (h : c.Leads e sinks r) (hsinks : ∀ place, c.place? = some place →
      others[place]? = sinks[place]?) : c.Leads e others r := by
  cases c with
  | waiting => trivial
  | done outcome => exact h
  | running m place rest =>
    obtain ⟨sink, hsink, hleads⟩ := h
    exact ⟨sink, (hsinks place rfl).trans hsink, hleads⟩

theorem Call.Leads.place_lt {e : Engine} {sinks : List Sink} {r : Request Json} {c : Call}
    (h : c.Leads e sinks r) {place : Nat} (hplace : c.place? = some place) :
    place < sinks.length := by
  cases c with
  | waiting => cases hplace
  | done outcome => cases hplace
  | running m k rest =>
    cases hplace
    obtain ⟨sink, hsink, -⟩ := h
    exact (List.getElem?_eq_some_iff.mp hsink).1

namespace Pool

/-- What every schedule keeps up: each call leads to what its request comes to alone, and no two
calls have the same sink. -/
structure Sound (e : Engine) (requests : List (Request Json)) (p : Pool) : Prop where
  length : p.calls.length = requests.length
  leads : ∀ (i : Nat) (r : Request Json) (c : Call), requests[i]? = some r →
    p.calls[i]? = some c → c.Leads e p.sinks r
  apart : ∀ (i j : Nat) (c d : Call) (place : Nat), p.calls[i]? = some c → p.calls[j]? = some d →
    c.place? = some place → d.place? = some place → i = j

variable {e : Engine} {requests : List (Request Json)} {p q : Pool} {i : Nat}

theorem start_sound (e : Engine) (requests : List (Request Json)) :
    (start requests).Sound e requests where
  length := by simp [start]
  leads i r c hr hc := by
    simp only [start, List.getElem?_map, hr, Option.map_some] at hc
    cases hc
    trivial
  apart i j c d place hc hd hplace := by
    simp only [start, List.getElem?_map, Option.map_eq_some_iff] at hc
    obtain ⟨-, -, rfl⟩ := hc
    cases hplace

omit [Memory] in
theorem getElem?_set_cases {calls : List Call} {c d : Call} {j : Nat}
    (h : (calls.set i c)[j]? = some d) : (j = i ∧ d = c) ∨ (j ≠ i ∧ calls[j]? = some d) := by
  by_cases hj : j = i
  · subst hj
    obtain ⟨hlt, hd⟩ := List.getElem?_eq_some_iff.mp h
    exact .inl ⟨rfl, by simpa using hd.symm⟩
  · rw [List.getElem?_set_ne (Ne.symm hj)] at h
    exact .inr ⟨hj, h⟩

/-- A call may move on as long as it leaves the sinks of the others alone. -/
theorem Sound.set {r : Request Json} {c : Call} {sinks : List Sink} (hp : p.Sound e requests)
    (hr : requests[i]? = some r) (hc : c.Leads e sinks r)
    (hothers : ∀ j d place, j ≠ i → p.calls[j]? = some d → d.place? = some place →
      sinks[place]? = p.sinks[place]? ∧ c.place? ≠ some place) :
    (⟨p.calls.set i c, sinks⟩ : Pool).Sound e requests where
  length := by simp [hp.length]
  leads j s d hs hd := by
    rcases getElem?_set_cases hd with ⟨rfl, rfl⟩ | ⟨hj, hd⟩
    · rw [hr] at hs
      cases hs
      exact hc
    · exact (hp.leads j s d hs hd).of_sinks fun place hplace => (hothers j d place hj hd hplace).1
  apart j k d f place hd hf hplace hplace' := by
    rcases getElem?_set_cases hd with ⟨rfl, rfl⟩ | ⟨hj, hdold⟩ <;>
      rcases getElem?_set_cases hf with ⟨rfl, rfl⟩ | ⟨hk, hfold⟩
    · rfl
    · exact absurd hplace (hothers k f place hk hfold hplace').2
    · exact absurd hplace' (hothers j d place hj hdold hplace).2
    · exact hp.apart j k d f place hdold hfold hplace hplace'

theorem Sound.place_lt {c : Call} {place : Nat} (hp : p.Sound e requests)
    (hc : p.calls[i]? = some c) (hplace : c.place? = some place) : place < p.sinks.length := by
  obtain ⟨hlt, -⟩ := List.getElem?_eq_some_iff.mp hc
  rw [hp.length] at hlt
  exact (hp.leads i _ c (List.getElem?_eq_getElem hlt) hc).place_lt hplace

theorem Sound.launch {r : Request Json} (hp : p.Sound e requests) (hr : requests[i]? = some r) :
    (p.launch e i r).Sound e requests := by
  unfold Pool.launch
  cases hfind : e.findMacro r.name with
  | error f =>
    apply hp.set hr
    · change .error f = (e.expand r).outcome
      rw [Engine.expand, hfind]
      rfl
    · exact fun j d place hj hd hplace => ⟨rfl, by simp [Call.place?]⟩
  | ok m =>
    apply hp.set hr
    · exact ⟨⟨r.span, []⟩, by simp, (Engine.expand_outcome hfind).symm⟩
    · intro j d place hj hd hplace
      have hlt := hp.place_lt hd hplace
      have hne : p.sinks.length ≠ place := by omega
      exact ⟨List.getElem?_append_left hlt, by simp [Call.place?, hne]⟩

theorem Sound.proceed {r : Request Json} {m : Macro} {place : Nat} {sink : Sink}
    {rest : Draft Output} (hp : p.Sound e requests) (hr : requests[i]? = some r)
    (hc : p.calls[i]? = some (.running m place rest)) (hsink : p.sinks[place]? = some sink) :
    (p.proceed i m place sink rest).Sound e requests := by
  have hown : ∀ j d k, j ≠ i → p.calls[j]? = some d → d.place? = some k → k ≠ place := by
    intro j d k hj hd hk hplace
    exact hj (hp.apart j i d _ place hd hc (hplace ▸ hk) rfl)
  obtain ⟨found, hfound, hleads⟩ := hp.leads i r _ hr hc
  rw [hsink] at hfound
  cases hfound
  unfold Pool.proceed
  cases hnotes : rest.notes with
  | nil =>
    apply hp.set hr
    · rw [hnotes] at hleads
      exact hleads
    · intro j d k hj hd hk
      exact ⟨List.getElem?_set_ne (hown j d k hj hd hk).symm, by simp [Call.place?]⟩
  | cons note notes =>
    have hlt : place < p.sinks.length := hp.place_lt hc rfl
    apply hp.set hr
    · refine ⟨Engine.collect sink [note], by simp [hlt], ?_⟩
      rw [hnotes, Engine.collect_cons] at hleads
      exact hleads
    · intro j d k hj hd hk
      have hne := hown j d k hj hd hk
      exact ⟨List.getElem?_set_ne hne.symm, by simp [Call.place?, hne.symm]⟩

variable {workers : Nat}

theorem step_cases (h : p.step e workers requests i = some q) :
    (∃ r, requests[i]? = some r ∧ p.calls[i]? = some .waiting ∧ q = p.launch e i r) ∨
    (∃ r m place rest sink, requests[i]? = some r ∧ p.calls[i]? = some (.running m place rest) ∧
      p.sinks[place]? = some sink ∧ q = p.proceed i m place sink rest) := by
  unfold step at h
  split at h
  · rename_i r hr hc
    split at h
    · cases h
      exact .inl ⟨r, hr, hc, rfl⟩
    · cases h
  · rename_i r m place rest hr hc
    obtain ⟨sink, hsink, rfl⟩ := Option.map_eq_some_iff.mp h
    exact .inr ⟨r, m, place, rest, sink, hr, hc, hsink, rfl⟩
  · cases h

theorem Sound.step (hp : p.Sound e requests) (h : p.step e workers requests i = some q) :
    q.Sound e requests := by
  rcases step_cases h with ⟨r, hr, -, rfl⟩ | ⟨r, m, place, rest, sink, hr, hc, hsink, rfl⟩
  · exact hp.launch hr
  · exact hp.proceed hr hc hsink

theorem Sound.follow {schedule : List Nat} (hp : p.Sound e requests)
    (h : p.follow e workers requests schedule = some q) : q.Sound e requests := by
  induction schedule generalizing p with
  | nil =>
    cases h
    exact hp
  | cons i schedule ih =>
    obtain ⟨next, hnext, hrest⟩ := Option.bind_eq_some_iff.mp h
    exact ih (hp.step hnext) hrest

theorem gather_eq {calls : List Call} {result : Except Fault (List Expansion)}
    (h : List.Forall₂ (fun r c => ∀ outcome, c = .done outcome → outcome = (e.expand r).outcome)
      requests calls) (hgather : gather calls = some result) : result = e.expandAll requests := by
  induction h generalizing result with
  | nil =>
    cases hgather
    rfl
  | @cons r c requests calls hrc _ ih =>
    cases c with
    | waiting => cases hgather
    | running m place rest => cases hgather
    | done outcome =>
      have houtcome := hrc outcome rfl
      cases outcome with
      | error f =>
        cases hgather
        rw [Engine.expandAll, List.mapM_cons, ← houtcome]
        rfl
      | ok x =>
        obtain ⟨more, hmore, rfl⟩ := Option.map_eq_some_iff.mp hgather
        rw [ih hmore, Engine.expandAll, Engine.expandAll, List.mapM_cons, ← houtcome]
        cases requests.mapM fun r => (e.expand r).outcome <;> rfl

theorem Sound.result?_eq {result : Except Fault (List Expansion)} (hp : p.Sound e requests)
    (h : p.result? = some result) : result = e.expandAll requests := by
  refine gather_eq (List.forall₂_iff_get.mpr ⟨hp.length.symm, fun i hi hj => ?_⟩) h
  intro outcome houtcome
  have hleads := hp.leads i _ _ (List.getElem?_eq_getElem hi) (List.getElem?_eq_getElem hj)
  simp only [List.get_eq_getElem] at houtcome ⊢
  rw [houtcome] at hleads
  exact hleads

end Pool

/-- The turns that a call still takes. -/
def Call.work (e : Engine) (r : Request Json) : Call → Nat
  | .waiting =>
    match e.findMacro r.name with
    | .error _ => 1
    | .ok m => (e.draft m r).notes.length + 2
  | .running _ _ rest => rest.notes.length + 1
  | .done _ => 0

namespace Pool

variable {e : Engine} {requests : List (Request Json)} {p q : Pool} {i workers : Nat}

def work (e : Engine) (requests : List (Request Json)) (p : Pool) : Nat :=
  (List.zipWith (Call.work e) requests p.calls).sum

theorem work_set {r : Request Json} {c : Call} (d : Call) (sinks : List Sink)
    (hr : requests[i]? = some r) (hc : p.calls[i]? = some c) :
    work e requests ⟨p.calls.set i d, sinks⟩ + c.work e r = p.work e requests + d.work e r := by
  unfold work
  dsimp only
  generalize p.calls = calls at hc ⊢
  induction calls generalizing requests i with
  | nil => simp at hc
  | cons first calls ih =>
    cases requests with
    | nil => simp at hr
    | cons s requests =>
      cases i with
      | zero =>
        simp only [List.getElem?_cons_zero, Option.some.injEq] at hr hc
        subst hr
        subst hc
        simp only [List.set_cons_zero, List.zipWith_cons_cons, List.sum_cons]
        omega
      | succ i =>
        simp only [List.getElem?_cons_succ] at hr hc
        have hrest := ih hr hc
        simp only [List.set_cons_succ, List.zipWith_cons_cons, List.sum_cons]
        omega

theorem work_step (h : p.step e workers requests i = some q) :
    q.work e requests + 1 = p.work e requests := by
  rcases step_cases h with ⟨r, hr, hc, rfl⟩ | ⟨r, m, place, rest, sink, hr, hc, -, rfl⟩
  · unfold launch
    cases hfind : e.findMacro r.name with
    | error f =>
      have hwork := work_set (e := e) (.done (.error f)) p.sinks hr hc
      simp only [Call.work, hfind] at hwork
      omega
    | ok m =>
      have hwork := work_set (e := e) (.running m p.sinks.length (e.draft m r))
        (p.sinks ++ [⟨r.span, []⟩]) hr hc
      simp only [Call.work, hfind] at hwork
      dsimp only
      omega
  · unfold proceed
    cases hnotes : rest.notes with
    | nil =>
      have hwork := work_set (e := e) (.done (Engine.conclude m sink rest.outcome).outcome)
        (p.sinks.set place sink.drain.2) hr hc
      simp only [Call.work, hnotes] at hwork
      simpa using hwork
    | cons note notes =>
      have hwork := work_set (e := e) (.running m place ⟨notes, rest.outcome⟩)
        (p.sinks.set place (Engine.collect sink [note])) hr hc
      simp only [Call.work, hnotes, List.length_cons] at hwork
      dsimp only
      omega

theorem length_add_work {schedule : List Nat} (h : p.follow e workers requests schedule = some q) :
    schedule.length + q.work e requests = p.work e requests := by
  induction schedule generalizing p with
  | nil =>
    cases h
    simp
  | cons i schedule ih =>
    obtain ⟨next, hnext, hrest⟩ := Option.bind_eq_some_iff.mp h
    have hstep := work_step hnext
    have hlength := ih hrest
    simp only [List.length_cons]
    omega

omit [Memory] in
theorem exists_of_gather_eq_none {calls : List Call} (h : gather calls = none) :
    ∃ (i : Nat) (c : Call), calls[i]? = some c ∧ ∀ outcome, c ≠ .done outcome := by
  induction calls with
  | nil => cases h
  | cons c calls ih =>
    cases c with
    | waiting => exact ⟨0, .waiting, rfl, by simp⟩
    | running m place rest => exact ⟨0, .running m place rest, rfl, by simp⟩
    | done outcome =>
      cases outcome with
      | error f => cases h
      | ok x =>
        obtain ⟨i, c, hc, hopen⟩ := ih (Option.map_eq_none_iff.mp h)
        exact ⟨i + 1, c, hc, hopen⟩

/-- As long as an outcome is missing, some request can have its turn: one that runs, or, if none
does, any that waits. -/
theorem Sound.exists_step (hp : p.Sound e requests) (hworkers : 1 ≤ workers)
    (h : p.result? = none) : ∃ i q, p.step e workers requests i = some q := by
  by_cases hrunning : ∃ (i : Nat) (m : Macro) (place : Nat) (rest : Draft Output),
      p.calls[i]? = some (.running m place rest)
  · obtain ⟨i, m, place, rest, hc⟩ := hrunning
    have hplace := hp.place_lt hc rfl
    obtain ⟨hlt, -⟩ := List.getElem?_eq_some_iff.mp hc
    rw [hp.length] at hlt
    refine ⟨i, p.proceed i m place p.sinks[place] rest, ?_⟩
    simp only [Pool.step, hc, List.getElem?_eq_getElem hlt, List.getElem?_eq_getElem hplace,
      Option.map_some]
  · obtain ⟨i, c, hc, hopen⟩ := exists_of_gather_eq_none h
    obtain ⟨hlt, -⟩ := List.getElem?_eq_some_iff.mp hc
    rw [hp.length] at hlt
    cases c with
    | done outcome => exact absurd rfl (hopen outcome)
    | running m place rest => exact absurd ⟨i, m, place, rest, hc⟩ hrunning
    | waiting =>
      have hidle : p.calls.countP Call.isRunning = 0 := by
        rw [List.countP_eq_zero]
        intro d hd
        obtain ⟨j, hj⟩ := List.mem_iff_getElem?.mp hd
        cases d with
        | running m place rest => exact absurd ⟨j, m, place, rest, hj⟩ hrunning
        | _ => simp [Call.isRunning]
      refine ⟨i, p.launch e i requests[i], ?_⟩
      simp only [Pool.step, hc, List.getElem?_eq_getElem hlt, hidle]
      exact if_pos hworkers

/-- Every schedule can be carried on until all is collected. -/
theorem Sound.exists_finish (hp : p.Sound e requests) (hworkers : 1 ≤ workers) :
    ∃ schedule q, p.follow e workers requests schedule = some q ∧
      q.result? = some (e.expandAll requests) := by
  induction hwork : p.work e requests using Nat.strongRecOn generalizing p with
  | ind n ih =>
    cases hresult : p.result? with
    | some result => exact ⟨[], p, rfl, hp.result?_eq hresult ▸ hresult⟩
    | none =>
      obtain ⟨i, next, hnext⟩ := hp.exists_step hworkers hresult
      have hless := work_step hnext
      obtain ⟨schedule, q, hfollow, hq⟩ := ih (next.work e requests) (by omega) (hp.step hnext) rfl
      refine ⟨i :: schedule, q, ?_, hq⟩
      exact Option.bind_eq_some_iff.mpr ⟨next, hnext, hfollow⟩

end Pool

namespace Engine

/-- Whether some schedule of so many workers makes a batch come to a result. -/
def Returns (e : Engine) (workers : Nat) (requests : List (Request Json))
    (result : Except Fault (List Expansion)) : Prop :=
  ∃ schedule p, (Pool.start requests).follow e workers requests schedule = some p ∧
    p.result? = some result

theorem returns_iff {e : Engine} {workers : Nat} (hworkers : 1 ≤ workers)
    {requests : List (Request Json)} {result : Except Fault (List Expansion)} :
    e.Returns workers requests result ↔ result = e.expandAll requests := by
  constructor
  · rintro ⟨schedule, p, hfollow, hresult⟩
    exact ((Pool.start_sound e requests).follow hfollow).result?_eq hresult
  · rintro rfl
    exact (Pool.start_sound e requests).exists_finish hworkers

theorem span_of_mem_diagnostics {e : Engine} {r : Request Json} {x : Expansion}
    (h : (e.expand r).outcome = .ok x) {d : Diagnostic String} (hd : d ∈ x.diagnostics) :
    d.span = r.span := by
  obtain ⟨m, -, hsettle | ⟨message, rfl⟩⟩ := expand_eq_ok h
  · rcases settle_eq_ok hsettle with ⟨output, -, rfl⟩ | ⟨f, message, -, rfl⟩
    · exact span_of_mem_reports hd
    · rcases List.mem_append.mp hd with hd | hd
      · exact span_of_mem_reports hd
      · rw [List.mem_singleton.mp hd]
  · rw [List.mem_singleton.mp hd]

theorem expandAll_append {e : Engine} {before after : List (Request Json)} {xs : List Expansion} :
    e.expandAll (before ++ after) = .ok xs ↔ ∃ ys zs, e.expandAll before = .ok ys ∧
      e.expandAll after = .ok zs ∧ xs = ys ++ zs := by
  simp [expandAll, List.mapM_append, eq_comm (a := xs)]

/-- A batch comes to the same under every schedule, for any number of workers. Whatever turns were
made, there were no more of them than the batch has, they can be carried on to the end, and what is
collected is the batch of the single expansions: all of them in order, each with the diagnostics of
its own request, or the fault of the first request that has one. A batch made of two succeeds with
the results of both exactly when both do. -/
theorem expandAll_schedule_independent (e : Engine) {workers : Nat} (hworkers : 1 ≤ workers)
    (requests : List (Request Json)) :
    (∀ schedule p, (Pool.start requests).follow e workers requests schedule = some p →
      schedule.length ≤ (Pool.start requests).work e requests ∧
      (∀ result, p.result? = some result → result = e.expandAll requests) ∧
      ∃ rest q, p.follow e workers requests rest = some q ∧
        q.result? = some (e.expandAll requests)) ∧
    (∀ xs, e.Returns workers requests (.ok xs) ↔
      List.Forall₂ (fun r x => (e.expand r).outcome = .ok x) requests xs) ∧
    (∀ f, e.Returns workers requests (.error f) ↔ ∃ before r after,
      requests = before ++ r :: after ∧ (∀ s ∈ before, ∃ x, (e.expand s).outcome = .ok x) ∧
        (e.expand r).outcome = .error f) ∧
    (∀ xs, e.Returns workers requests (.ok xs) →
      List.Forall₂ (fun r x => ∀ d ∈ x.diagnostics, d.span = r.span) requests xs) ∧
    ∀ more xs, e.Returns workers (requests ++ more) (.ok xs) ↔ ∃ ys zs,
      e.Returns workers requests (.ok ys) ∧ e.Returns workers more (.ok zs) ∧ xs = ys ++ zs := by
  have hall (xs : List Expansion) : e.Returns workers requests (.ok xs) ↔
      List.Forall₂ (fun r x => (e.expand r).outcome = .ok x) requests xs := by
    rw [returns_iff hworkers, eq_comm, expandAll, Except.mapM_eq_ok]
  refine ⟨?_, hall, ?_, ?_, ?_⟩
  · intro schedule p hfollow
    have hsound := (Pool.start_sound e requests).follow hfollow
    have hlength := Pool.length_add_work hfollow
    exact ⟨by omega, fun result => hsound.result?_eq, hsound.exists_finish hworkers⟩
  · intro f
    rw [returns_iff hworkers, eq_comm, expandAll, Except.mapM_eq_error]
  · intro xs hxs
    exact ((hall xs).mp hxs).imp fun r x hx d hd => span_of_mem_diagnostics hx hd
  · intro more xs
    simp only [returns_iff hworkers, eq_comm (a := Except.ok _)]
    exact expandAll_append

end Engine

end

namespace Engine

def untypedRequest (name : String) : Request Json :=
  ⟨.text "InterfaceGen", [], some ⟨.referenceType, .text name, [],
    [.property ⟨.text "a", none, .internalLevel, false, false⟩]⟩,
    .atPosition (some (.text name)) .origin⟩

def untypedExpansion (name : String) : Expansion :=
  ⟨.text "InterfaceGen", none,
    [⟨.peer, "public protocol " ++ name ++ "Interface: AnyObject \x7b\x7d"⟩],
    [⟨.warning, "property 'a' has no type annotation and was left out of " ++ name ++ "Interface",
      .atPosition (some (.text name)) .origin⟩]⟩

def untypedPair : List (Request Json) :=
  [untypedRequest "A", untypedRequest "B"]

open scoped Memory in
/-- Two workers report in turn, and each report reaches the result of its own request. -/
theorem expandAll_schedule_independent_untypedPair :
    (∃ p, (Pool.start untypedPair).follow ⟨{}, Macro.defaults⟩ 2 untypedPair
        [0, 1, 0, 1, 1, 0, 0, 1] = some p ∧
      p.result? = some (.ok [untypedExpansion "A", untypedExpansion "B"])) ∧
    (Engine.expand ⟨{}, Macro.defaults⟩ (untypedRequest "A")).outcome =
      .ok (untypedExpansion "A") ∧
    (Engine.expand ⟨{}, Macro.defaults⟩ (untypedRequest "B")).outcome =
      .ok (untypedExpansion "B") := by
  have hrun : ∃ p, (Pool.start untypedPair).follow ⟨{}, Macro.defaults⟩ 2 untypedPair
      [0, 1, 0, 1, 1, 0, 0, 1] = some p ∧
      p.result? = some (.ok [untypedExpansion "A", untypedExpansion "B"]) :=
    ⟨_, rfl, rfl⟩
  obtain ⟨-, hall, -⟩ := expandAll_schedule_independent ⟨{}, Macro.defaults⟩
    (show 1 ≤ 2 by decide) untypedPair
  obtain ⟨p, hp⟩ := hrun
  have halone := (hall _).mp ⟨_, p, hp⟩
  simp only [untypedPair, List.forall₂_cons] at halone
  exact ⟨⟨p, hp⟩, halone.1, halone.2.1⟩

end Engine

end SwiftExpansion
