import SwiftExpansion.Engine.Basic

/-!
# Batches on their way

Workers expand the requests of a batch side by side. They share the engine, and all sinks lie in one
place; a schedule says whose turn it is, and a turn is as small as the report of one diagnostic. The
outcomes are collected in the order of the requests, up to the first fault.
-/
namespace SwiftExpansion

/-- How far the expansion of one request has come. A running call has its macro, the place of its
sink, and what is left of the draft of its rule. -/
inductive Call
  | waiting
  | running (m : Macro) (place : Nat) (rest : Draft Output)
  | done (outcome : Except Fault Expansion)

namespace Call

def isRunning : Call → Bool
  | .running _ _ _ => true
  | _ => false

def place? : Call → Option Nat
  | .running _ place _ => some place
  | _ => none

end Call

namespace Engine

variable [Memory]

def draft (e : Engine) (m : Macro) (r : Request Json) : Draft Output :=
  if m.isEnabled then m.rule.expand m.name.display e.config.settings r
  else ⟨[.report .warning ("macro '" ++ m.name.display ++ "' is disabled")], .ok {}⟩

end Engine

/-- A batch on its way: a call for each request, and the sinks that were made so far. -/
structure Pool where
  calls : List Call
  sinks : List Sink := []

namespace Pool

variable [Memory]

def start (requests : List (Request Json)) : Pool :=
  ⟨requests.map fun _ => .waiting, []⟩

def launch (e : Engine) (p : Pool) (i : Nat) (r : Request Json) : Pool :=
  match e.findMacro r.name with
  | .error f => { p with calls := p.calls.set i (.done (.error f)) }
  | .ok m => ⟨p.calls.set i (.running m p.sinks.length (e.draft m r)), p.sinks ++ [⟨r.span, []⟩]⟩

def proceed (p : Pool) (i : Nat) (m : Macro) (place : Nat) (sink : Sink) (rest : Draft Output) :
    Pool :=
  match rest.notes with
  | note :: notes =>
    ⟨p.calls.set i (.running m place ⟨notes, rest.outcome⟩),
      p.sinks.set place (Engine.collect sink [note])⟩
  | [] => ⟨p.calls.set i (.done (Engine.conclude m sink rest.outcome).outcome),
      p.sinks.set place sink.drain.2⟩

/-- The turn of request `i`, if it can have one: no more calls run at a time than there are
workers. -/
def step (e : Engine) (workers : Nat) (requests : List (Request Json)) (p : Pool) (i : Nat) :
    Option Pool :=
  match requests[i]?, p.calls[i]? with
  | some r, some .waiting =>
    if p.calls.countP Call.isRunning < workers then some (p.launch e i r) else none
  | some _, some (.running m place rest) =>
    p.sinks[place]?.map fun sink => p.proceed i m place sink rest
  | _, _ => none

def follow (e : Engine) (workers : Nat) (requests : List (Request Json)) (p : Pool)
    (schedule : List Nat) : Option Pool :=
  schedule.foldlM (step e workers requests) p

/-- The outcomes in the order of the requests, up to the first fault; nothing as long as one of them
is still to come. -/
def gather : List Call → Option (Except Fault (List Expansion))
  | [] => some (.ok [])
  | .done (.ok x) :: calls => (gather calls).map (Except.map (x :: ·))
  | .done (.error f) :: _ => some (.error f)
  | _ :: _ => none

def result? (p : Pool) : Option (Except Fault (List Expansion)) :=
  gather p.calls

end Pool

end SwiftExpansion
