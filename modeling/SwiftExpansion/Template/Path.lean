import SwiftExpansion.Template.Layout
import SwiftExpansion.Template.Value

/-!
# Paths into arguments

The name in a placeholder starts with the number or the key of an argument and may lead on into its
parts, by a point and an attribute or by brackets around an item. The steps are taken one by one, so
a defect further on shows only if the steps before it succeed.
-/
namespace SwiftExpansion.Template

inductive Selector
  | next
  | index (n : Nat)
  | key (name : String)
  deriving Repr, DecidableEq

/-- The number that a name of nothing but digits spells. Digits in front are a number too large even
if something else follows them. -/
def index? (name : List Char) : Except Fault (Option Nat) := do
  let (n, rest) ← (Layout.number name).mapError (Fault.template <| .layout ·)
  return if rest.isEmpty then n else none

def Selector.read (name : List Char) : Except Fault Selector := do
  if name.isEmpty then return .next
  else return (← index? name).elim (.key (String.ofList name)) .index

inductive Step
  | attribute (name : List Char)
  | item (name : List Char)
  | defect (d : TemplateDefect)
  deriving Repr, DecidableEq

/-- Where the cut of a path stands: between two steps, or in one of them, whose name is kept last
character first. -/
inductive StepState
  | between
  | attribute (reversed : List Char)
  | item (reversed : List Char)

def Step.named (make : List Char → Step) (reversed : List Char) : Step :=
  if reversed.isEmpty then .defect .emptyStep else make reversed.reverse

/-- The steps of a path; a defect is the last one that matters. -/
def steps : StepState → List Char → List Step
  | .between, [] => []
  | .attribute reversed, [] => [Step.named .attribute reversed]
  | .item _, [] => [.defect .openBracket]
  | .between, c :: cs =>
    if c == '.' then steps (.attribute []) cs
    else if c == '[' then steps (.item []) cs
    else [.defect .afterBracket]
  | .attribute reversed, c :: cs =>
    if c == '.' then Step.named .attribute reversed :: steps (.attribute []) cs
    else if c == '[' then Step.named .attribute reversed :: steps (.item []) cs
    else steps (.attribute (c :: reversed)) cs
  | .item reversed, c :: cs =>
    if c == ']' then Step.named .item reversed :: steps .between cs
    else steps (.item (c :: reversed)) cs

def Step.apply (v : Value) : Step → Except Fault Value
  | .attribute name => v.get (String.ofList name)
  | .item name => do
    match ← index? name with
    | some n => v.itemAt n
    | none => v.itemFor (String.ofList name)
  | .defect d => .error (.template d)

def splitName (name : List Char) : List Char × List Char :=
  let stays (c : Char) : Bool := c != '.' && c != '['
  (name.takeWhile stays, name.dropWhile stays)

def follow (v : Value) (path : List Char) : Except Fault Value :=
  (steps .between path).foldlM Step.apply v

end SwiftExpansion.Template
