import SwiftExpansion.Text.CaseTable

/-!
# Lower case and capitals

Lower-casing and capitalising whole words with the full mappings of the character standard: one
character may become several, and a capital sigma at the end of a word takes its final form.
-/
namespace SwiftExpansion.Text

/-- A capital sigma is final when a cased letter stands before it and none after it, looking
through case-ignorable marks on both sides. `before` is nearest first. -/
def isFinalSigma (before after : List Char) : Bool :=
  ((before.dropWhile isCaseIgnorable).head?.any isCased) &&
    !((after.dropWhile isCaseIgnorable).head?.any isCased)

/-- The lower-case form of `c` between the characters `before` (nearest first) and `after`. -/
def lowerChar (before : List Char) (c : Char) (after : List Char) : List Char :=
  if c == 'Σ' then [if isFinalSigma before after then 'ς' else 'σ']
  else if c == 'İ' then ['i', Char.ofNat 0x307]
  else [mapCase lowerRuns c]

def lowerFrom (before : List Char) : List Char → List Char
  | [] => []
  | c :: cs => lowerChar before c cs ++ lowerFrom (c :: before) cs

def lower (cs : List Char) : List Char :=
  lowerFrom [] cs

def titleChar (c : Char) : List Char :=
  match longTitles.find? (·.1 == c.toNat) with
  | some (_, codes) => codes.map Char.ofNat
  | none => [mapCase titleRuns c]

def capitalize : List Char → List Char
  | [] => []
  | c :: cs => titleChar c ++ lowerFrom [c] cs

end SwiftExpansion.Text
