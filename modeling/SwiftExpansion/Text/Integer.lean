import SwiftExpansion.Text.Blank
import SwiftExpansion.Text.Digit

/-!
# Integers as people write them

An integer may have blanks around it, a sign, digits of any script, and single underscores between
its digits. The four separators of the ASCII control characters are no blanks here.
-/
namespace SwiftExpansion.Text

def maxIntegerDigits : Nat := 4300

/-- Reads digits, with single underscores between them, after a value and a count of digits;
`afterDigit` tells whether an underscore or the end may follow. -/
def digitsFrom (value count : Nat) (afterDigit : Bool) : List Char → Option (Nat × Nat)
  | [] => if afterDigit then some (value, count) else none
  | c :: cs =>
    if c == '_' then
      if afterDigit then digitsFrom value count false cs else none
    else match digitValue? c with
      | some d => digitsFrom (10 * value + d) (count + 1) true cs
      | none => none

def natural? (cs : List Char) : Option Nat :=
  match digitsFrom 0 0 false cs with
  | some (value, count) => if count ≤ maxIntegerDigits then some value else none
  | none => none

def isSeparator (c : Char) : Bool :=
  0x1C ≤ c.toNat && c.toNat ≤ 0x1F

def integer? (s : String) : Option Int :=
  let isPadding (c : Char) : Bool := isBlank c && !isSeparator c
  match ((s.toList.dropWhile isPadding).reverse.dropWhile isPadding).reverse with
  | '-' :: cs => (natural? cs).map fun n => -(n : Int)
  | '+' :: cs => (natural? cs).map Int.ofNat
  | cs => (natural? cs).map Int.ofNat

end SwiftExpansion.Text
