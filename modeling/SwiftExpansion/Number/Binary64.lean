/-!
# Double precision numbers, exactly

Every finite double is a whole number of the smallest positive one, `2 ^ (-1074)`, so a double is
stored as a sign and that count. Order and equality are then the order and equality of integers,
and an operation is its exact result rounded to the nearest count with at most 53 significant
bits, a tie going to the even one.
-/
namespace SwiftExpansion

inductive Binary64
  | nan
  | infinite (negative : Bool)
  | finite (negative : Bool) (count : Nat)
  deriving Repr, DecidableEq, Inhabited

namespace Binary64

/-- The number of smallest positive doubles in the number one. -/
def unit : Nat := Nat.pow 2 1074

def overflow : Nat := Nat.pow 2 (1024 + 1074)

/-- `num / den` as the nearest whole number; a tie goes to the even neighbour. -/
def roundQuotient (num den : Nat) : Nat :=
  let q := num / den
  let r := 2 * (num % den)
  if r < den then q
  else if den < r then q + 1
  else q + q % 2

def spareBits (count : Nat) : Nat :=
  count.log2 - 52

def round (negative : Bool) (num den : Nat) : Binary64 :=
  let step := Nat.pow 2 (spareBits (num / den))
  let count := roundQuotient num (den * step) * step
  if count < overflow then .finite negative count else .infinite negative

/-- The double nearest to `digits * 10 ^ exponent`. Exponents far outside the range of doubles
settle the answer without the power being computed. -/
def ofDecimal (negative : Bool) (digits : Nat) (exponent : Int) : Binary64 :=
  let size : Int := (Nat.toDigits 10 digits).length + exponent
  if digits = 0 ∨ size < -330 then .finite negative 0
  else if 310 < size then .infinite negative
  else if exponent < 0 then round negative (digits * unit) (Nat.pow 10 exponent.natAbs)
  else round negative (digits * Nat.pow 10 exponent.natAbs * unit) 1

/-- An integer on the scale of counts, for exact comparison with a double. No rounding takes
place, so the result need not be a double itself. -/
def ofIntExact (n : Int) : Binary64 :=
  .finite (n < 0) (n.natAbs * unit)

def signedCount (negative : Bool) (count : Nat) : Int :=
  if negative then -count else count

def lt : Binary64 → Binary64 → Bool
  | .nan, _ | _, .nan => false
  | .infinite s, .infinite t => s && !t
  | .infinite s, .finite _ _ => s
  | .finite _ _, .infinite t => !t
  | .finite s a, .finite t b => signedCount s a < signedCount t b

/-- Equality of numbers: a NaN equals nothing, and the two zeros are equal. -/
def eq : Binary64 → Binary64 → Bool
  | .nan, _ | _, .nan => false
  | .infinite s, .infinite t => s == t
  | .finite s a, .finite t b => signedCount s a == signedCount t b
  | _, _ => false

def addOne : Binary64 → Binary64
  | .finite s a =>
    let n := signedCount s a + unit
    round (n < 0) n.natAbs 1
  | x => x

def isZero : Binary64 → Bool
  | .finite _ 0 => true
  | _ => false

end Binary64

end SwiftExpansion
