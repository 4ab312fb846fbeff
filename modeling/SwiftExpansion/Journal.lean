import SwiftExpansion.Template

/-!
# The journal of a run

What a run leaves in the log, in order: records with their levels, and changes of the threshold
below which records are dropped. Computations that write to a journal, or leave other notes behind,
are values of `Logged`: the notes stay even when the computation fails.
-/
namespace SwiftExpansion

inductive Level
  | debug
  | info
  | warning
  | error
  deriving Repr, DecidableEq, Inhabited

namespace Level

def name : Level → String
  | .debug => "DEBUG"
  | .info => "INFO"
  | .warning => "WARNING"
  | .error => "ERROR"

def rank : Level → Nat
  | .debug => 0
  | .info => 1
  | .warning => 2
  | .error => 3

end Level

structure Record where
  level : Level
  message : String
  deriving Repr, DecidableEq

inductive Event
  | record (r : Record)
  | threshold (level : Level)
  deriving Repr, DecidableEq

namespace Event

def log (level : Level) (message : String) : Event :=
  .record ⟨level, message⟩

def thresholdAfter (level : Level) : Event → Level
  | .record _ => level
  | .threshold l => l

end Event

namespace Journal

def threshold (level : Level) (events : List Event) : Level :=
  events.foldl Event.thresholdAfter level

/-- The records that reach the log, each measured by the threshold at its time. -/
def visible (level : Level) : List Event → List Record
  | [] => []
  | .record r :: events =>
    if level.rank ≤ r.level.rank then r :: visible level events else visible level events
  | .threshold l :: events => visible l events

end Journal

/-- A computation that leaves notes of type `ν` behind, whether it succeeds or fails with a fault
of type `ε`. -/
structure Logged (ε ν α : Type) where
  notes : List ν
  outcome : Except ε α

namespace Logged

variable {ε ν α β : Type}

def bind (x : Logged ε ν α) (f : α → Logged ε ν β) : Logged ε ν β :=
  match x.outcome with
  | .ok a => ⟨x.notes ++ (f a).notes, (f a).outcome⟩
  | .error e => ⟨x.notes, .error e⟩

instance : Monad (Logged ε ν) where
  pure a := ⟨[], .ok a⟩
  bind := bind

def note (n : ν) : Logged ε ν Unit :=
  ⟨[n], .ok ()⟩

def fail (e : ε) : Logged ε ν α :=
  ⟨[], .error e⟩

def lift (x : Except ε α) : Logged ε ν α :=
  ⟨[], x⟩

instance : MonadLift (Except ε) (Logged ε ν) where
  monadLift := lift

def mapFault {δ : Type} (f : ε → δ) (x : Logged ε ν α) : Logged δ ν α :=
  ⟨x.notes, x.outcome.mapError f⟩

def mapNotes {μ : Type} (f : ν → μ) (x : Logged ε ν α) : Logged ε μ α :=
  ⟨x.notes.map f, x.outcome⟩

def fault? (x : Logged ε ν α) : Option ε :=
  match x.outcome with
  | .ok _ => none
  | .error e => some e

end Logged

/-- The record of something that should not have happened. -/
def internalError (message : String) : Record :=
  ⟨.error, "Internal Error: " ++ message⟩

/-- The same with a template; without arguments the template stands for itself. -/
def internalErrorOf [Memory] (template : String) (args : List Json) : Except Fault Record := do
  if args.isEmpty then return internalError template
  else return internalError (← Template.format template args)

end SwiftExpansion
