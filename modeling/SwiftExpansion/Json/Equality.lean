import SwiftExpansion.Json.Basic

/-!
# Equality across kinds

Two values are equal when they show the same data: flags are the numbers zero and one, a whole
number equals the fractional one of its value, and objects are compared key by key, whatever the
order of their keys. The value that is not a number equals nothing, but inside of containers it
counts as the same item.
-/
namespace SwiftExpansion.Json

/-- The number a value stands for. -/
def number? : Json → Option Binary64
  | .bool b => some (.ofIntExact (if b then 1 else 0))
  | .int n => some (.ofIntExact n)
  | .real x => some x
  | _ => none

def sameScalar (a b : Json) : Bool :=
  match a, b with
  | .null, .null => true
  | .text s, .text t => s == t
  | _, _ =>
    match a.number?, b.number? with
    | some x, some y => x.eq y
    | _, _ => false

def bothNaN : Json → Json → Bool
  | .real .nan, .real .nan => true
  | _, _ => false

mutual

def same : Json → Json → Bool
  | .list xs, .list ys => xs.length == ys.length && sameItems xs ys
  | .object es, .object fs => es.length == fs.length && sameEntries es fs
  | a, b => sameScalar a b

def sameItems : List Json → List Json → Bool
  | x :: xs, y :: ys => (bothNaN x y || same x y) && sameItems xs ys
  | _, _ => true

def sameEntries : List (String × Json) → List (String × Json) → Bool
  | [], _ => true
  | (key, x) :: es, fs =>
    (match fs.lookup key with
      | some y => bothNaN x y || same x y
      | none => false) && sameEntries es fs

end

/-- Equality of the items of containers. -/
def sameItem (a b : Json) : Bool :=
  bothNaN a b || same a b

end SwiftExpansion.Json
