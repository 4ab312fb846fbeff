import SwiftExpansion.Json.Basic
import SwiftExpansion.Fault

/-!
# Source locations

Positions, ranges and spans of usage sites. The host counts lines and columns from zero; people
count from one, so a location is shifted by one for display. Coordinates come from loosely typed
data and may be flags or fractional. The numbers of a document are short enough to be shown, but the
one after the last of them is not.
-/
namespace SwiftExpansion

inductive Coordinate
  | flag (b : Bool)
  | whole (n : Int)
  | real (x : Binary64)
  deriving Repr, DecidableEq, Inhabited

namespace Coordinate

def toJson : Coordinate → Json
  | .flag b => .bool b
  | .whole n => .int n
  | .real x => .real x

/-- Only numbers and flags have an order; anything else cannot be compared with one. -/
def ofJson : Json → Except Fault Coordinate
  | .bool b => .ok (.flag b)
  | .int n => .ok (.whole n)
  | .real x => .ok (.real x)
  | j => .error (.misuse j.kind .comparison)

def value : Coordinate → Binary64
  | .flag b => .ofIntExact (if b then 1 else 0)
  | .whole n => .ofIntExact n
  | .real x => x

def lt (a b : Coordinate) : Bool :=
  a.value.lt b.value

def eq (a b : Coordinate) : Bool :=
  a.value.eq b.value

def isNegative : Coordinate → Bool
  | .flag _ => false
  | .whole n => n < 0
  | .real x => x.lt (.ofIntExact 0)

/-- One further on; a flag counts as a number from then on. -/
def succ : Coordinate → Coordinate
  | .flag b => .whole (if b then 2 else 1)
  | .whole n => .whole (n + 1)
  | .real x => .real x.addOne

def text (c : Coordinate) : String :=
  c.toJson.display

def isShort : Coordinate → Bool
  | .whole n => n.natAbs < Nat.pow 10 Json.maxDigits
  | _ => true

end Coordinate

structure Position where
  line : Coordinate
  column : Coordinate
  deriving Repr, DecidableEq, Inhabited

namespace Position

def origin : Position :=
  ⟨.whole 0, .whole 0⟩

/-- Reads a position. The column is looked at only when the line is not negative. -/
def ofJson (line column : Json) : Except Fault Position := do
  let l ← Coordinate.ofJson line
  if l.isNegative then .error (.position line column)
  else
    let c ← Coordinate.ofJson column
    if c.isNegative then .error (.position line column) else return ⟨l, c⟩

def oneIndexed (p : Position) : Position :=
  ⟨p.line.succ, p.column.succ⟩

/-- Whether the position lies behind the other one, by line and then by column. -/
def isAfter (p q : Position) : Bool :=
  q.line.lt p.line || (p.line.eq q.line && q.column.lt p.column)

def text (p : Position) : String :=
  p.line.text ++ ":" ++ p.column.text

def isShort (p : Position) : Bool :=
  p.line.isShort && p.column.isShort

end Position

structure Range where
  start : Position
  stop : Position
  deriving Repr, DecidableEq, Inhabited

namespace Range

def between (start stop : Position) : Except Fault Range :=
  if start.isAfter stop then .error (.range start.text stop.text) else .ok ⟨start, stop⟩

def oneIndexed (r : Range) : Except Fault Range :=
  between r.start.oneIndexed r.stop.oneIndexed

def text (r : Range) : String :=
  r.start.text ++ "-" ++ r.stop.text

end Range

/-- A range in a file. The file is whatever the host gave. -/
structure Span where
  file : Option Json
  range : Range
  deriving Repr, Inhabited

namespace Span

def atPosition (file : Option Json) (p : Position) : Span :=
  ⟨file, ⟨p, p⟩⟩

/-- The span of a usage site that the host did not report. -/
def unreported : Span :=
  .atPosition none .origin

def oneIndexed (s : Span) : Except Fault Span := do
  return ⟨s.file, ← s.range.oneIndexed⟩

/-- The file to name in front of a location, if there is one to name. -/
def fileName? (s : Span) : Option String :=
  (s.file.filter Json.isTruthy).map Json.display

def text (s : Span) : String :=
  (match s.fileName? with
    | some name => name ++ ":"
    | none => "") ++ s.range.text

def isShort (s : Span) : Bool :=
  s.file.all Json.isShort && s.range.start.isShort && s.range.stop.isShort

/-- The text of a span whose numbers can be shown. -/
def printed (s : Span) : Except Fault String :=
  if s.isShort then .ok s.text else .error .digitLimit

end Span

end SwiftExpansion
