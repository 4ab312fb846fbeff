import SwiftExpansion.Number.Shortest

/-!
# Doubles with a chosen number of digits

Beside its shortest decimal, a double can be written with a fixed number of places, in scientific
notation, or with a number of significant digits in whichever of the two is the handier. Digits are
those of the exact value, rounded to the nearest, a tie going to the even digit.
-/
namespace SwiftExpansion.Binary64

/-- The most significant digits a double has; rounding to more of them changes nothing. -/
def mostDigits : Nat := 767

def mostPlaces : Nat := 1074

def toSignificant (count n : Nat) : Decimal :=
  let exponent := decimalPlace count unit - min n mostDigits
  let rounded :=
    if exponent < 0 then roundQuotient (count * Nat.pow 10 exponent.natAbs) unit
    else roundQuotient count (unit * Nat.pow 10 exponent.natAbs)
  let ds := Nat.toDigits 10 rounded
  ⟨trimZeros ds, exponent + ds.length⟩

/-- The decimal of a count rounded to `n` places; it has no digits if all are zero. -/
def toPlaces (count n : Nat) : Decimal :=
  let n := min n mostPlaces
  let rounded := roundQuotient (count * Nat.pow 10 n) unit
  if rounded = 0 then ⟨[], -n⟩
  else
    let ds := Nat.toDigits 10 rounded
    ⟨trimZeros ds, (ds.length : Int) - n⟩

/-- How a double is written. A general style has so many significant digits, and may insist on a
digit behind the point. -/
inductive Style
  | shortest
  | fixed (places : Nat)
  | scientific (places : Nat)
  | general (digits : Nat) (pointed : Bool)
  deriving Repr, DecidableEq

namespace Style

def decimal (style : Style) (count : Nat) : Decimal :=
  if count = 0 then ⟨['0'], 1⟩
  else
    match style with
    | .shortest => Binary64.shortest count
    | .fixed places => toPlaces count places
    | .scientific places => toSignificant count (places + 1)
    | .general digits _ => toSignificant count digits

def isScientific (style : Style) (point : Int) : Bool :=
  match style with
  | .shortest => !isPositional point
  | .fixed _ => false
  | .scientific _ => true
  | .general digits pointed =>
    point ≤ -4 || (if pointed then (digits : Int) - 1 else digits) < point

def leastFraction (style : Style) (full : Bool) (point : Int) : Nat :=
  match style with
  | .shortest => if isPositional point then 1 else 0
  | .fixed places | .scientific places => places
  | .general digits pointed =>
    let significant := if full then (digits : Int) else 0
    if style.isScientific point then (significant - 1).toNat
    else max (significant - point).toNat (if pointed then 1 else 0)

/-- The text of a finite double before and behind the whole digits. The point is left out where no
digit follows it, unless `full` keeps it. -/
def parts (style : Style) (full : Bool) (d : Decimal) : List Char × List Char :=
  let isScientific := style.isScientific d.point
  let shown := if isScientific then d.mantissa else d
  let padded := shown.fraction.rightpad (style.leastFraction full d.point) '0'
  let exponent := if isScientific then exponentText (d.point - 1) else []
  (shown.whole, (if padded.isEmpty && !full then [] else '.' :: padded) ++ exponent)

end Style

def percent : Binary64 → Binary64
  | .finite s count => round s (count * 100) 1
  | x => x

def ofInt? (n : Int) : Option Binary64 :=
  match round (n < 0) (n.natAbs * unit) 1 with
  | .finite s count => some (.finite s count)
  | _ => none

end SwiftExpansion.Binary64
