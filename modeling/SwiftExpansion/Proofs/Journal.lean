import SwiftExpansion.Expansion.Output

/-!
# Laws of computations that leave notes

What a computation made of several steps comes to: it succeeds when all of its steps do, and its
notes are those of the steps up to the first that fails.
-/
namespace SwiftExpansion

namespace Logged

variable {ε ν α β : Type}

@[simp] theorem outcome_pure (a : α) : (pure a : Logged ε ν α).outcome = .ok a := rfl

@[simp] theorem outcome_liftM (x : Except ε α) : (liftM x : Logged ε ν α).outcome = x := rfl

/-- A step that leaves no notes and succeeds hands on its result and nothing else. -/
@[simp] theorem liftM_ok_bind (a : α) (f : α → Logged ε ν β) :
    (liftM (.ok a : Except ε α) : Logged ε ν α) >>= f = f a :=
  rfl

theorem bind_of_ok {x : Logged ε ν α} {a : α} (h : x.outcome = .ok a) (f : α → Logged ε ν β) :
    x >>= f = ⟨x.notes ++ (f a).notes, (f a).outcome⟩ := by
  change x.bind f = _
  rw [Logged.bind, h]

theorem bind_of_error {x : Logged ε ν α} {e : ε} (h : x.outcome = .error e)
    (f : α → Logged ε ν β) : x >>= f = ⟨x.notes, .error e⟩ := by
  change x.bind f = _
  rw [Logged.bind, h]

/-- Two steps succeed exactly when the first does and the second does with its result. -/
@[simp] theorem outcome_bind_eq_ok {x : Logged ε ν α} {f : α → Logged ε ν β} {b : β} :
    (x >>= f).outcome = .ok b ↔ ∃ a, x.outcome = .ok a ∧ (f a).outcome = .ok b := by
  cases h : x.outcome with
  | ok a => simp [bind_of_ok h]
  | error e => simp [bind_of_error h]

@[simp] theorem notes_pure (a : α) : (pure a : Logged ε ν α).notes = [] := rfl

@[simp] theorem notes_liftM (x : Except ε α) : (liftM x : Logged ε ν α).notes = [] := rfl

@[simp] theorem notes_fail (e : ε) : (fail e : Logged ε ν α).notes = [] := rfl

@[simp] theorem outcome_mapNotes {μ : Type} (f : ν → μ) (x : Logged ε ν α) :
    (x.mapNotes f).outcome = x.outcome :=
  rfl

/-- Every note that is left is of a sort. -/
def Leaves (P : ν → Prop) (x : Logged ε ν α) : Prop :=
  ∀ n ∈ x.notes, P n

variable {P : ν → Prop}

@[simp] theorem leaves_pure (a : α) : Leaves P (pure a : Logged ε ν α) := by
  simp [Leaves]

@[simp] theorem leaves_liftM (x : Except ε α) : Leaves P (liftM x : Logged ε ν α) := by
  simp [Leaves]

@[simp] theorem leaves_fail (e : ε) : Leaves P (fail e : Logged ε ν α) := by
  simp [Leaves]

theorem leaves_note {n : ν} (h : P n) : Leaves P (note n : Logged ε ν Unit) := by
  simpa [Leaves, note] using h

theorem Leaves.bind_of_ok {x : Logged ε ν α} {f : α → Logged ε ν β} (hx : x.Leaves P)
    (hf : ∀ a, x.outcome = .ok a → (f a).Leaves P) : Leaves P (x >>= f) := by
  cases h : x.outcome with
  | ok a =>
    rw [Logged.bind_of_ok h]
    exact List.forall_mem_append.mpr ⟨hx, hf a h⟩
  | error e =>
    rw [Logged.bind_of_error h]
    exact hx

theorem Leaves.bind {x : Logged ε ν α} {f : α → Logged ε ν β} (hx : x.Leaves P)
    (hf : ∀ a, (f a).Leaves P) : Leaves P (x >>= f) :=
  hx.bind_of_ok fun a _ => hf a

theorem leaves_mapNotes {μ : Type} {f : μ → ν} {x : Logged ε μ α} :
    (x.mapNotes f).Leaves P ↔ x.Leaves fun n => P (f n) :=
  List.forall_mem_map

end Logged

namespace Draft

@[simp] theorem outcome_error (message : String) : (error message).outcome = .ok () := rfl

@[simp] theorem outcome_warning (message : String) : (warning message).outcome = .ok () := rfl

@[simp] theorem outcome_debug (message : String) : (debug message).outcome = .ok () := rfl

end Draft

namespace Journal

theorem threshold_append (level : Level) (events more : List Event) :
    threshold level (events ++ more) = threshold (threshold level events) more :=
  List.foldl_append

/-- Records leave the threshold as it is. -/
@[simp] theorem threshold_records (level : Level) (records : List Record) :
    threshold level (records.map .record) = level := by
  induction records with
  | nil => rfl
  | cons r records ih => exact ih

end Journal

end SwiftExpansion
