/-!
# Control sequences of terminals

A control sequence is an escape character and a bracket, then parameters, intermediate characters
and a final one. What is not shown on a terminal is written without them.
-/
namespace SwiftExpansion.Text

def isParameter (c : Char) : Bool :=
  '0' ≤ c && c ≤ '?'

def isIntermediate (c : Char) : Bool :=
  ' ' ≤ c && c ≤ '/'

def isFinal (c : Char) : Bool :=
  '@' ≤ c && c ≤ '~'

/-- The length of the control sequence in front. -/
def controlLength? : List Char → Option Nat
  | '\x1b' :: '[' :: cs =>
    let parameters := cs.takeWhile isParameter
    let rest := cs.dropWhile isParameter
    let intermediates := rest.takeWhile isIntermediate
    if (rest.dropWhile isIntermediate).head?.any isFinal then
      some (parameters.length + intermediates.length + 3)
    else none
  | _ => none

/-- Passes over `skip` characters, then takes every control sequence out. -/
def withoutControlsFrom : Nat → List Char → List Char
  | _, [] => []
  | skip + 1, _ :: cs => withoutControlsFrom skip cs
  | 0, c :: cs =>
    match controlLength? (c :: cs) with
    | some length => withoutControlsFrom (length - 1) cs
    | none => c :: withoutControlsFrom 0 cs

def withoutControls (s : String) : String :=
  String.ofList (withoutControlsFrom 0 s.toList)

end SwiftExpansion.Text
