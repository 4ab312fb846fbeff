import SwiftExpansion.Fault
import SwiftExpansion.Text.Digit

/-!
# Layouts

A placeholder may say how its argument is laid out: a fill character and an alignment, what to do
about signs, a width, a separator of digit groups, a precision, and a code for the notation. The
parts come in this order, and each may be missing.
-/
namespace SwiftExpansion.Template

inductive Alignment
  | left
  | right
  | center
  | afterSign
  deriving Repr, DecidableEq

def Alignment.ofChar? : Char → Option Alignment
  | '<' => some .left
  | '>' => some .right
  | '^' => some .center
  | '=' => some .afterSign
  | _ => none

structure Grouping where
  mark : Char
  size : Nat
  deriving Repr, DecidableEq

/-- What a specification asks for. With `plainZero` a zero has no sign, with `alternate` numbers
keep their base or their point. -/
structure Layout where
  fill : Char
  alignment : Alignment
  sign : Option Char
  plainZero : Bool
  alternate : Bool
  width : Nat
  grouping : Option Grouping
  precision : Option Nat
  code : Option Char
  deriving Repr, DecidableEq

namespace Layout

abbrev Rest := List Char

def optional (accepts : Char → Bool) : Rest → Option Char × Rest
  | c :: cs => if accepts c then (some c, cs) else (none, c :: cs)
  | [] => (none, [])

/-- The fill character and the alignment. The character before an alignment is the fill, even if it
is one of the marks of alignments itself. -/
def leading : Rest → Option Char × Option Alignment × Rest
  | [] => (none, none, [])
  | c :: cs =>
    match cs.head?.bind Alignment.ofChar? with
    | some a => (some c, some a, cs.drop 1)
    | none =>
      match Alignment.ofChar? c with
      | some a => (none, some a, cs)
      | none => (none, none, c :: cs)

def numberBound : Nat := 0x8000000000000000

def numeral (digits : List Char) : Except LayoutDefect Nat :=
  let n := digits.foldl (fun n c => 10 * n + (Text.digitValue? c).getD 0) 0
  if n < numberBound then .ok n else .error .tooManyDigits

def isDigit (c : Char) : Bool :=
  (Text.digitValue? c).isSome

def number (cs : Rest) : Except LayoutDefect (Option Nat × Rest) := do
  let digits := cs.takeWhile isDigit
  if digits.isEmpty then return (none, cs)
  else return (some (← numeral digits), cs.dropWhile isDigit)

def separator (cs : Rest) : Except LayoutDefect (Option Char × Rest) :=
  match cs with
  | ',' :: '_' :: _ | '_' :: ',' :: _ => .error .twoSeparators
  | ',' :: rest => .ok (some ',', rest)
  | '_' :: rest => .ok (some '_', rest)
  | _ => .ok (none, cs)

def precisionPart (cs : Rest) : Except LayoutDefect (Option Nat × Rest) := do
  match cs with
  | '.' :: rest =>
    match ← number rest with
    | (none, _) => .error .missingPrecision
    | found => return found
  | _ => return (none, cs)

/-- The groups a separator makes under a code: threes in decimal notations, fours in the notations
of a power of two. -/
def groupingFor (mark : Char) (code : Option Char) : Except LayoutDefect Grouping :=
  match code with
  | none => .ok ⟨mark, 3⟩
  | some c =>
    if ['d', 'e', 'f', 'g', 'E', 'G', '%', 'F', '\x00'].contains c then .ok ⟨mark, 3⟩
    else if ['b', 'o', 'x', 'X'].contains c && mark == '_' then .ok ⟨mark, 4⟩
    else .error (.separator mark c)

/-- Reads a layout for a value of a kind, with the code and the alignment that stand for missing
ones. A zero before the width fills up with zeros, behind the sign if values of the kind are
aligned to the right. -/
def read (kind : String) (code : Option Char) (alignment : Alignment) (specification : List Char) :
    Except LayoutDefect Layout := do
  let (fill, aligned, cs) := leading specification
  let (sign, cs) := optional [' ', '+', '-'].contains cs
  let (plain, cs) := optional (· == 'z') cs
  let (alternate, cs) := optional (· == '#') cs
  let (zero, cs) := if fill.isNone then optional (· == '0') cs else (none, cs)
  let (width, cs) ← number cs
  let (mark, cs) ← separator cs
  let (precision, cs) ← precisionPart cs
  let code ← match cs with
    | [] => pure code
    | [c] => pure (some c)
    | _ => .error (.surplus specification kind)
  let grouping ← mark.mapM (groupingFor · code)
  let default := if zero.isSome && alignment == .right then Alignment.afterSign else alignment
  return { fill := (fill <|> zero).getD ' ', alignment := aligned.getD default, sign,
           plainZero := plain.isSome, alternate := alternate.isSome, width := width.getD 0,
           grouping, precision, code }

end Layout

end SwiftExpansion.Template
