import SwiftExpansion.Number.Binary64

/-!
# The shortest decimal of a double

A double is written with the fewest significant digits that read back as the same double, and of
those with the digits nearest to it. For one digit, two digits and so on, the two decimals around
the value are tested against the interval of numbers that round to it, in exact arithmetic.
-/
namespace SwiftExpansion.Binary64

/-- `digits` significant digits standing before or after a decimal point at place `point`:
the value is `0.digits * 10 ^ point`. -/
structure Decimal where
  digits : List Char
  point : Int
  deriving Repr, DecidableEq

/-- The least `p` with `num / den < 10 ^ p`, for a positive quotient, searched near the estimate
that the binary length gives. -/
def decimalPlace (num den : Nat) : Int :=
  let estimate : Int := ((num.log2 : Int) - den.log2) * 30103 / 100000
  let below (p : Int) : Bool :=
    if p < 0 then num * Nat.pow 10 p.natAbs < den else num < den * Nat.pow 10 p.natAbs
  (([-1, 0, 1, 2].map (estimate + ·)).find? below).getD (estimate + 3)

/-- The interval of quadrupled counts that round to `count`, ends included when the significand
is even. -/
structure Interval where
  low : Nat
  high : Nat
  closed : Bool

def roundingInterval (count : Nat) : Interval :=
  let step := Nat.pow 2 (spareBits count)
  let significand := count / step
  let below := if significand = Nat.pow 2 52 ∧ 1 < step then step else 2 * step
  ⟨4 * count - below, 4 * count + 2 * step, significand % 2 == 0⟩

def Interval.holds (i : Interval) (num den : Nat) : Bool :=
  if i.closed then i.low * den ≤ num && num ≤ i.high * den
  else i.low * den < num && num < i.high * den

/-- The decimal of `n` significant digits that reads back as the double of this count, if there
is one; of two, the nearer, or the even one if both are as near. `place` is the place of the
leading digit. -/
def decimalOfLength (count : Nat) (place : Int) (n : Nat) : Option Decimal :=
  let exponent := place - n
  -- a decimal `d` at this exponent is the quadrupled count `d * up / down`
  let up := 4 * unit * (if exponent < 0 then 1 else Nat.pow 10 exponent.natAbs)
  let down := if exponent < 0 then Nat.pow 10 exponent.natAbs else 1
  let interval := roundingInterval count
  let low := 4 * count * down / up
  let reads (d : Nat) : Bool := interval.holds (d * up) down
  let twice := 2 * (4 * count * down)
  let middle := (2 * low + 1) * up
  let lowNearer := twice < middle || (twice == middle && low % 2 == 0)
  let chosen :=
    if reads low && (lowNearer || !reads (low + 1)) then some low
    else if reads (low + 1) then some (low + 1)
    else none
  chosen.map fun d =>
    let ds := Nat.toDigits 10 d
    ⟨ds, exponent + ds.length⟩

def trimZeros (digits : List Char) : List Char :=
  (digits.reverse.dropWhile (· == '0')).reverse

/-- The shortest decimal of a positive count. Seventeen digits always suffice. -/
def shortest (count : Nat) : Decimal :=
  let place := decimalPlace count unit
  let found := (List.range 17).findSome? fun i => decimalOfLength count place (i + 1)
  let d := found.getD ⟨['0'], 1⟩
  ⟨trimZeros d.digits, d.point⟩

namespace Decimal

def whole (d : Decimal) : List Char :=
  if d.point ≤ 0 then ['0']
  else (d.digits.take d.point.natAbs).rightpad d.point.natAbs '0'

def fraction (d : Decimal) : List Char :=
  if d.point ≤ 0 then List.replicate d.point.natAbs '0' ++ d.digits
  else d.digits.drop d.point.natAbs

def mantissa (d : Decimal) : Decimal :=
  { d with point := 1 }

end Decimal

def exponentText (exponent : Int) : List Char :=
  let ds := Nat.toDigits 10 exponent.natAbs
  ['e', if exponent < 0 then '-' else '+'] ++ ds.leftpad 2 '0'

def isPositional (point : Int) : Bool :=
  -4 < point && point ≤ 16

def positional (d : Decimal) : List Char :=
  d.whole ++ '.' :: (if d.fraction.isEmpty then ['0'] else d.fraction)

def scientific (d : Decimal) : List Char :=
  let part := d.mantissa.fraction
  d.mantissa.whole ++ (if part.isEmpty then [] else '.' :: part) ++ exponentText (d.point - 1)

def finiteText (count : Nat) : List Char :=
  if count = 0 then ['0', '.', '0']
  else
    let d := shortest count
    if isPositional d.point then positional d else scientific d

/-- The text of a double: the shortest decimal, positional from `0.0001` up to below `10 ^ 16`. -/
def text : Binary64 → String
  | .nan => "nan"
  | .infinite s => if s then "-inf" else "inf"
  | .finite s count => String.ofList ((if s then ['-'] else []) ++ finiteText count)

end SwiftExpansion.Binary64
