import Mathlib.Data.List.Forall2
import SwiftExpansion.Proofs.Journal

/-!
# Laws of computations that can fail

When a computation made of several steps succeeds, and which faults it can end in. A bound on the
faults of the steps is one on the faults of the whole, so that what can go wrong with a rule is
settled step by step.
-/
namespace SwiftExpansion

namespace Except

variable {ε α β : Type}

/-- Two steps succeed exactly when the first does and the second does with its result. -/
@[simp] theorem bind_eq_ok {x : Except ε α} {f : α → Except ε β} {b : β} :
    x >>= f = .ok b ↔ ∃ a, x = .ok a ∧ f a = .ok b := by
  cases x with
  | ok a => simp [bind, Except.bind]
  | error e => simp [bind, Except.bind]

/-- Two steps end in a fault if the first does, or if the second does with its result. -/
theorem bind_eq_error {x : Except ε α} {f : α → Except ε β} {e : ε} :
    x >>= f = .error e ↔ x = .error e ∨ ∃ a, x = .ok a ∧ f a = .error e := by
  cases x with
  | ok a => simp [bind, Except.bind]
  | error g => simp [bind, Except.bind]

@[simp] theorem pure_eq_ok {a b : α} : (pure a : Except ε α) = .ok b ↔ a = b := by
  simp [pure, Except.pure]

@[simp] theorem map_eq_ok {g : α → β} {x : Except ε α} {b : β} :
    g <$> x = .ok b ↔ ∃ a, x = .ok a ∧ g a = b := by
  cases x with
  | ok a => simp [Functor.map, Except.map]
  | error e => simp [Functor.map, Except.map]

@[simp] theorem map_eq_error {g : α → β} {x : Except ε α} {e : ε} :
    g <$> x = .error e ↔ x = .error e := by
  cases x with
  | ok a => simp [Functor.map, Except.map]
  | error f => simp [Functor.map, Except.map]

@[simp] theorem mapError_eq_ok {δ : Type} {g : ε → δ} {x : Except ε α} {a : α} :
    x.mapError g = .ok a ↔ x = .ok a := by
  cases x with
  | ok b => simp [Except.mapError]
  | error e => simp [Except.mapError]

/-- A list is worked off exactly when each of its elements is. -/
theorem mapM_eq_ok {f : α → Except ε β} {xs : List α} {ys : List β} :
    xs.mapM f = .ok ys ↔ List.Forall₂ (fun x y => f x = .ok y) xs ys := by
  induction xs generalizing ys with
  | nil => cases ys <;> simp
  | cons x xs ih =>
    cases ys with
    | nil => simp [List.mapM_cons]
    | cons y ys => simp [List.mapM_cons, ih]

/-- Work on a list ends in the fault of the first element that has one. -/
theorem mapM_eq_error {f : α → Except ε β} {xs : List α} {e : ε} :
    xs.mapM f = .error e ↔ ∃ before x after, xs = before ++ x :: after ∧
      (∀ y ∈ before, ∃ b, f y = .ok b) ∧ f x = .error e := by
  induction xs with
  | nil => simp [pure, Except.pure]
  | cons x xs ih =>
    rw [List.mapM_cons]
    cases hx : f x with
    | error g =>
      constructor
      · intro h
        cases h
        exact ⟨[], x, xs, rfl, by simp, hx⟩
      · rintro ⟨before, y, after, heq, hbefore, hy⟩
        cases before with
        | nil =>
          cases heq
          rw [← hx, hy]
          rfl
        | cons z before =>
          cases heq
          obtain ⟨b, hb⟩ := hbefore x (by simp)
          rw [hx] at hb
          cases hb
    | ok b =>
      have hrest : (Except.ok b >>= fun b => xs.mapM f >>= fun bs => pure (b :: bs)) = .error e ↔
          xs.mapM f = .error e := by
        cases xs.mapM f <;> simp [bind, Except.bind, pure, Except.pure]
      rw [hrest, ih]
      constructor
      · rintro ⟨before, y, after, rfl, hbefore, hy⟩
        exact ⟨x :: before, y, after, rfl, List.forall_mem_cons.mpr ⟨⟨b, hx⟩, hbefore⟩, hy⟩
      · rintro ⟨before, y, after, heq, hbefore, hy⟩
        cases before with
        | nil =>
          cases heq
          rw [hx] at hy
          cases hy
        | cons z before =>
          cases heq
          exact ⟨before, y, after, rfl, fun w hw => hbefore w (by simp [hw]), hy⟩

/-- What the work on each element ensures holds throughout the result. -/
theorem forall_of_mapM {f : α → Except ε β} {xs : List α} {ys : List β} {Q : β → Prop}
    (h : xs.mapM f = .ok ys) (hf : ∀ x ∈ xs, ∀ y, f x = .ok y → Q y) : ∀ y ∈ ys, Q y := by
  have hall := mapM_eq_ok.mp h
  clear h
  induction hall with
  | nil => simp
  | cons hxy _ ih =>
    refine List.forall_mem_cons.mpr ⟨hf _ (by simp) _ hxy, ih fun x hx => ?_⟩
    exact hf x (by simp [hx])

/-- Work that never fails is done element by element. -/
theorem mapM_map_eq_ok {γ : Type} {f : γ → α} {g : α → Except ε β} {q : γ → β}
    (h : ∀ x, g (f x) = .ok (q x)) (xs : List γ) : (xs.map f).mapM g = .ok (xs.map q) := by
  rw [mapM_eq_ok, List.forall₂_map_left_iff, List.forall₂_map_right_iff, List.forall₂_same]
  exact fun x _ => h x

theorem anyM_map {γ : Type} (f : γ → α) (p : α → Except ε Bool) (xs : List γ) :
    (xs.map f).anyM p = xs.anyM fun x => p (f x) := by
  induction xs with
  | nil => rfl
  | cons x xs ih => simp only [List.map_cons, List.anyM, ih]

theorem anyM_map_eq_ok {γ : Type} {f : γ → α} {p : α → Except ε Bool} {q : γ → Bool} {xs : List γ}
    (h : ∀ x ∈ xs, p (f x) = .ok (q x)) : (xs.map f).anyM p = .ok (xs.any q) := by
  induction xs with
  | nil => rfl
  | cons x xs ih =>
    have hrest := ih fun y hy => h y (by simp [hy])
    rw [List.map_cons, List.anyM, h x (by simp), List.any_cons]
    cases q x with
    | true => rfl
    | false => exact hrest

/-- Whether each of the faults that a computation can end in is of a sort. -/
def FaultsIn (P : ε → Prop) (x : Except ε α) : Prop :=
  ∀ f, x = .error f → P f

variable {P : ε → Prop}

theorem faultsIn_of_ok {x : Except ε α} {a : α} (h : x = .ok a) : FaultsIn P x := by
  intro f hf
  rw [h] at hf
  cases hf

@[simp] theorem faultsIn_ok (a : α) : FaultsIn P (.ok a : Except ε α) :=
  faultsIn_of_ok rfl

@[simp] theorem faultsIn_pure (a : α) : FaultsIn P (pure a : Except ε α) :=
  faultsIn_of_ok rfl

@[simp] theorem faultsIn_error {f : ε} : FaultsIn P (.error f : Except ε α) ↔ P f := by
  simp [FaultsIn]

theorem FaultsIn.bind {x : Except ε α} {g : α → Except ε β} (hx : FaultsIn P x)
    (hg : ∀ a, FaultsIn P (g a)) : FaultsIn P (x >>= g) := by
  cases x with
  | ok a => exact hg a
  | error f => exact faultsIn_error.mpr (faultsIn_error.mp hx)

theorem FaultsIn.mapM {g : α → Except ε β} {xs : List α} (hg : ∀ x ∈ xs, FaultsIn P (g x)) :
    FaultsIn P (xs.mapM g) := by
  induction xs with
  | nil => simp
  | cons x xs ih =>
    rw [List.mapM_cons]
    refine (hg x (by simp)).bind fun y => ?_
    refine (ih fun z hz => hg z (by simp [hz])).bind fun ys => ?_
    exact faultsIn_pure _

theorem FaultsIn.anyM {p : α → Except ε Bool} {xs : List α} (hp : ∀ x ∈ xs, FaultsIn P (p x)) :
    FaultsIn P (xs.anyM p) := by
  induction xs with
  | nil => exact faultsIn_pure _
  | cons x xs ih =>
    refine (hp x (by simp)).bind fun b => ?_
    cases b with
    | true => exact faultsIn_pure _
    | false => exact ih fun z hz => hp z (by simp [hz])

/-- Whether a computation fails exactly under a condition, and then with a fault of a sort. -/
def FailsIff (P : ε → Prop) (c : Prop) (x : Except ε α) : Prop :=
  (c → ∃ f, x = .error f ∧ P f) ∧ (¬ c → ∃ a, x = .ok a)

variable {c e : Prop}

theorem failsIff_of_ok {x : Except ε α} {a : α} (h : x = .ok a) : FailsIff P False x :=
  ⟨False.elim, fun _ => ⟨a, h⟩⟩

theorem failsIff_ok (a : α) : FailsIff P False (.ok a : Except ε α) :=
  failsIff_of_ok rfl

theorem FailsIff.congr {x : Except ε α} (hx : FailsIff P c x) (h : c ↔ e) : FailsIff P e x :=
  propext h ▸ hx

theorem FailsIff.of_ok {x : Except ε α} {a : α} (hx : FailsIff P c x) (ha : x = .ok a) : ¬ c := by
  intro hc
  obtain ⟨f, hf, -⟩ := hx.1 hc
  rw [ha] at hf
  cases hf

theorem FailsIff.of_error {x : Except ε α} {f : ε} (hx : FailsIff P c x) (hf : x = .error f) :
    c ∧ P f := by
  by_cases hc : c
  · obtain ⟨g, hg, hP⟩ := hx.1 hc
    rw [hf] at hg
    cases hg
    exact ⟨hc, hP⟩
  · obtain ⟨a, ha⟩ := hx.2 hc
    rw [hf] at ha
    cases ha

theorem FailsIff.bind {x : Except ε α} {g : α → Except ε β} (hx : FailsIff P c x)
    (hg : ∀ a, x = .ok a → FailsIff P e (g a)) : FailsIff P (c ∨ e) (x >>= g) := by
  cases h : x with
  | error f =>
    obtain ⟨hc, hP⟩ := hx.of_error h
    exact ⟨fun _ => ⟨f, rfl, hP⟩, fun hnot => absurd (.inl hc) hnot⟩
  | ok a =>
    have hc := hx.of_ok h
    have hga := hg a h
    exact ⟨fun hor => hga.1 (hor.resolve_left hc), fun hnot => hga.2 fun he => hnot (.inr he)⟩

/-- Work on a list fails if it does on some element. -/
theorem FailsIff.mapM {d : α → Prop} {g : α → Except ε β} {xs : List α}
    (hg : ∀ x ∈ xs, FailsIff P (d x) (g x)) : FailsIff P (∃ x ∈ xs, d x) (xs.mapM g) := by
  induction xs with
  | nil => exact (failsIff_ok []).congr (by simp)
  | cons x xs ih =>
    rw [List.mapM_cons]
    have hrest := ih fun y hy => hg y (by simp [hy])
    have hboth := (hg x (by simp)).bind fun y _ =>
      hrest.bind fun ys _ => failsIff_ok (y :: ys)
    exact hboth.congr (by simp)

end Except

theorem Logged.outcome_bind {ε ν α β : Type} (x : Logged ε ν α) (f : α → Logged ε ν β) :
    (x >>= f).outcome = x.outcome >>= fun a => (f a).outcome := by
  cases h : x.outcome with
  | ok a =>
    rw [Logged.bind_of_ok h]
    rfl
  | error e =>
    rw [Logged.bind_of_error h]
    rfl

end SwiftExpansion
