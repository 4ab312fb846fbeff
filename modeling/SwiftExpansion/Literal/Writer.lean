import SwiftExpansion.Text.Search

/-!
# Writing string literals

A text without quotes and backslashes is written between plain quotes. Any other text is written
raw, with one `#` more than the longest run of them that follows a quote or a backslash, so that
nothing in the text can close the literal or start an escape. Line ends are always escaped, and so
is a quote at the very start, which could otherwise read as part of a multi-line delimiter.
-/
namespace SwiftExpansion.Literal

/-- A quote or a backslash: what could end a literal or start an escape in it. -/
def isDelicate (c : Char) : Bool :=
  c == '"' || c == '\\'

/-- The number of `#` around the literal of a text. -/
def poundCount : List Char → Nat
  | [] => 0
  | c :: cs =>
    if isDelicate c then max (Text.leadingRun '#' cs + 1) (poundCount cs) else poundCount cs

def pounds (k : Nat) : List Char :=
  List.replicate k '#'

/-- What introduces an escape between `k` pounds. -/
def escapeMark (k : Nat) : List Char :=
  '\\' :: pounds k

def writtenChar (k : Nat) (c : Char) : List Char :=
  if c == '\r' then escapeMark k ++ ['r']
  else if c == '\n' then escapeMark k ++ ['n']
  else [c]

def writtenBody (k : Nat) (cs : List Char) : List Char :=
  (if cs.head? == some '"' then escapeMark k else []) ++ cs.flatMap (writtenChar k)

def encode (cs : List Char) : List Char :=
  let k := poundCount cs
  pounds k ++ '"' :: writtenBody k cs ++ '"' :: pounds k

def write (s : String) : String :=
  String.ofList (encode s.toList)

end SwiftExpansion.Literal
