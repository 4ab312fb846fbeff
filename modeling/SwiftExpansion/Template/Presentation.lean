import SwiftExpansion.Number.Style
import SwiftExpansion.Template.Layout
import SwiftExpansion.Template.Value
import SwiftExpansion.Text.Length

/-!
# Values under a layout

Texts are cut to the precision and padded; whole numbers are written in one of five bases or as the
character of their number; reals in one of the styles for doubles. Padding stands before, behind or
around the value, or between the sign and the digits of a number.
-/
namespace SwiftExpansion.Template

def pads (layout : Layout) (length : Nat) : List Char × List Char × List Char :=
  let n := layout.width - length
  match layout.alignment with
  | .left => ([], [], List.replicate n layout.fill)
  | .right => (List.replicate n layout.fill, [], [])
  | .center => (List.replicate (n / 2) layout.fill, [], List.replicate (n - n / 2) layout.fill)
  | .afterSign => ([], List.replicate n layout.fill, [])

def presentText (layout : Layout) (s : List Char) : Except LayoutDefect (List Char) := do
  match layout.code with
  | some 's' =>
    match layout.sign with
    | some ' ' => .error .spaceOnText
    | some _ => .error .signOnText
    | none => pure ()
    if layout.plainZero then .error .zeroOnText
    if layout.alternate then .error .alternateOnText
    if layout.alignment == .afterSign then .error .alignmentOnText
    let shown := s.take (layout.precision.getD s.length)
    let (before, _, behind) := pads layout shown.length
    return before ++ shown ++ behind
  | code => .error (.unknownCode (code.getD ' ') "str")

/-- A number in parts: its sign, a mark of the base, the digits that can be grouped, and the
rest. -/
structure Numeral where
  negative : Bool
  base : List Char
  digits : List Char
  rest : List Char
  deriving Repr, DecidableEq

/-- Puts the mark between groups of so many digits, counted from the end; `left` digits follow the
first one. -/
def separateFrom (grouping : Grouping) : Nat → List Char → List Char
  | _, [] => []
  | left, c :: cs =>
    if left % grouping.size == 0 && left != 0 then
      c :: grouping.mark :: separateFrom grouping (left - 1) cs
    else c :: separateFrom grouping (left - 1) cs

def separate (grouping : Grouping) (digits : List Char) : List Char :=
  separateFrom grouping (digits.length - 1) digits

/-- How many digits, once grouped, first fill the width. -/
def digitsFilling (grouping : Option Grouping) (width : Nat) : Nat :=
  match grouping with
  | none => width
  | some g => width - (width - 1) / (g.size + 1)

def groupedDigits (grouping : Option Grouping) (width : Nat) (digits : List Char) : List Char :=
  let filled := digits.leftpad (digitsFilling grouping width) '0'
  grouping.elim filled (separate · filled)

def signText (layout : Layout) (negative : Bool) : List Char :=
  if negative then ['-']
  else
    match layout.sign with
    | some '+' => ['+']
    | some ' ' => [' ']
    | _ => []

/-- Lays a number out. Zeros between the sign and the digits belong to the digits and are grouped
with them. -/
def presentNumeral (layout : Layout) (n : Numeral) : List Char :=
  let front := signText layout n.negative ++ n.base
  let room := layout.width - (front.length + n.rest.length)
  let zeros := if layout.fill == '0' && layout.alignment == .afterSign then room else 0
  let digits := if n.digits.isEmpty then [] else groupedDigits layout.grouping zeros n.digits
  let (before, between, behind) := pads layout (front.length + digits.length + n.rest.length)
  before ++ front ++ between ++ digits ++ n.rest ++ behind

def baseFor : Char → Nat × List Char
  | 'b' => (2, ['0', 'b'])
  | 'o' => (8, ['0', 'o'])
  | 'x' => (16, ['0', 'x'])
  | 'X' => (16, ['0', 'X'])
  | _ => (10, [])

def wholeNumeral (layout : Layout) (code : Char) (n : Int) : Numeral :=
  let (base, mark) := baseFor code
  let digits := Nat.toDigits base n.natAbs
  ⟨n < 0, if layout.alternate then mark else [],
    if code == 'X' then digits.map Char.toUpper else digits, []⟩

/-- The styles of reals by code; six digits are the default. -/
def styleFor (precision : Option Nat) : Option Char → Binary64.Style
  | none => precision.elim .shortest fun n => .general (max n 1) true
  | some 'e' | some 'E' => .scientific (precision.getD 6)
  | some 'f' | some 'F' | some '%' => .fixed (precision.getD 6)
  | some _ => .general (max (precision.getD 6) 1) false

def realNumeral (layout : Layout) : Binary64 → Numeral
  | .nan => ⟨false, [], [], ['n', 'a', 'n']⟩
  | .infinite s => ⟨s, [], [], ['i', 'n', 'f']⟩
  | .finite s count =>
    let style := styleFor layout.precision layout.code
    let d := style.decimal count
    let (digits, rest) := style.parts layout.alternate d
    ⟨s && !(layout.plainZero && d.digits.all (· == '0')), [], digits, rest⟩

def precisionBound : Nat := 0x80000000

def presentReal (layout : Layout) (x : Binary64) : Except LayoutDefect (List Char) := do
  if layout.precision.any (precisionBound ≤ ·) then .error .precisionTooBig
  let isPercent := layout.code == some '%'
  let n := realNumeral layout (if isPercent then x.percent else x)
  let rest := if layout.code.any Char.isUpper then n.rest.map Char.toUpper else n.rest
  return presentNumeral layout { n with rest := if isPercent then rest ++ ['%'] else rest }

def isRealCode (code : Char) : Bool :=
  ['e', 'E', 'f', 'F', 'g', 'G', '%'].contains code

def presentCharacter (layout : Layout) (n : Int) : Except Fault (List Char) := do
  if layout.sign.isSome then .error (.template (.layout .signOnCharacter))
  if layout.alternate then .error (.template (.layout .alternateOnCharacter))
  if n < 0 ∨ 0x110000 ≤ n then .error .characterTooLarge
  return presentNumeral layout ⟨false, [], [], [Char.ofNat n.toNat]⟩

def presentWhole (layout : Layout) (kind : String) (n : Int) : Except Fault (List Char) := do
  let code := layout.code.getD 'd'
  if isRealCode code then
    match Binary64.ofInt? n with
    | some x => (presentReal layout x).mapError (.template <| .layout ·)
    | none => .error .numberTooLarge
  else if ['b', 'c', 'd', 'o', 'x', 'X', 'n'].contains code then
    if layout.precision.isSome then .error (.template (.layout .precisionOnWhole))
    if layout.plainZero then .error (.template (.layout .zeroOnWhole))
    if code == 'c' then presentCharacter layout n
    else if (baseFor code).1 == 10 && !(Json.int n).isShort then .error .digitLimit
    else return presentNumeral layout (wholeNumeral layout code n)
  else .error (.template (.layout (.unknownCode code kind)))

/-- The code of a real; the null character stands for none. -/
def realCode (code : Option Char) : Option Char :=
  code.filter (· != '\x00')

def presentData (layout : Layout) (j : Json) : Except Fault (List Char) :=
  match j with
  | .text s => (presentText layout s.toList).mapError (.template <| .layout ·)
  | .int n => presentWhole layout j.kind n
  | .bool b => presentWhole layout j.kind b.toInt
  | .real x =>
    let layout := { layout with code := realCode layout.code }
    if layout.code.all fun c => c == 'n' || isRealCode c then
      (presentReal layout x).mapError (.template <| .layout ·)
    else .error (.template (.layout (.unknownCode (layout.code.getD ' ') j.kind)))
  | _ => .error (j.misused .layout)

def defaults? : Json → Option (Option Char × Alignment)
  | .text _ => some (some 's', .left)
  | .int _ | .bool _ => some (some 'd', .right)
  | .real _ => some (none, .right)
  | _ => none

/-- A value under a specification. An empty one leaves every value as it is displayed; otherwise
only texts and numbers can be laid out, and only to a width that fits into memory. -/
def present [Memory] (specification : List Char) (v : Value) : Except Fault (List Char) := do
  if specification.isEmpty then return (← v.shown Value.display).toList
  match v with
  | .data j =>
    match defaults? j with
    | some (code, alignment) =>
      let layout ← (Layout.read j.kind code alignment specification).mapError
        (Fault.template <| .layout ·)
      if layout.width < Memory.capacity then presentData layout j
      else do
        let _ ← presentData { layout with width := 0 } j
        .error .outOfMemory
    | none => .error (j.misused .layout)
  | v => .error (.misuse v.kindName .layout)

end SwiftExpansion.Template
