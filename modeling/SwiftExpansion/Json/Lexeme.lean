import SwiftExpansion.Json.Basic
import SwiftExpansion.Json.Fault

/-!
# Lexemes of JSON documents

A document is cut into lexemes with their offsets. Strings and numbers are read to values here; a
string that breaks off becomes a lexeme that carries its fault, so that the reader reports it only
where a string was due. The cut never fails: it ends at the first character that starts no lexeme.
-/
namespace SwiftExpansion.Json

inductive Token
  | openBrace
  | closeBrace
  | openBracket
  | closeBracket
  | colon
  | comma
  | string (s : String)
  | scalar (j : Json)
  | brokenString (cause : FaultCause) (offset : Nat)
  | longInteger (digits : Nat)
  | junk
  | finish
  deriving Repr, BEq

structure Lexeme where
  token : Token
  offset : Nat
  deriving Repr, BEq

def isSpace (c : Char) : Bool :=
  c == ' ' || c == '\t' || c == '\n' || c == '\r'

def hexValue? (c : Char) : Option Nat :=
  if c.isDigit then some (c.toNat - '0'.toNat)
  else if 'a' ≤ c && c ≤ 'f' then some (c.toNat - 'a'.toNat + 10)
  else if 'A' ≤ c && c ≤ 'F' then some (c.toNat - 'A'.toNat + 10)
  else none

def simpleEscape? : Char → Option Char
  | '"' => some '"'
  | '\\' => some '\\'
  | '/' => some '/'
  | 'b' => some '\x08'
  | 'f' => some '\x0c'
  | 'n' => some '\n'
  | 'r' => some '\r'
  | 't' => some '\t'
  | _ => none

def isHighSurrogate (n : Nat) : Bool := 0xD800 ≤ n && n < 0xDC00
def isLowSurrogate (n : Nat) : Bool := 0xDC00 ≤ n && n < 0xE000

/-- Stands for half of a surrogate pair whose other half is missing. -/
def replacement : Char := Char.ofNat 0xFFFD

/-- Where a string scan stands: in plain text, after a backslash, or inside the four digits of a
numeric escape whose `u` stands at `mark`. `high` is a high surrogate waiting for its low half. -/
inductive StringState
  | plain (high : Option Nat)
  | escape (high : Option Nat)
  | hex (high : Option Nat) (mark : Nat) (left : Nat) (value : Nat)

def flush (high : Option Nat) (done : List Char) : List Char :=
  if high.isSome then replacement :: done else done

/-- Takes in a code unit: it completes a waiting high surrogate, waits itself, or is a character. -/
def takeUnit (high : Option Nat) (unit : Nat) (done : List Char) : Option Nat × List Char :=
  match high with
  | some h =>
    if isLowSurrogate unit then
      (none, Char.ofNat (0x10000 + (h - 0xD800) * 0x400 + (unit - 0xDC00)) :: done)
    else if isHighSurrogate unit then (some unit, replacement :: done)
    else (none, Char.ofNat unit :: replacement :: done)
  | none =>
    if isHighSurrogate unit then (some unit, done)
    else if isLowSurrogate unit then (none, replacement :: done)
    else (none, Char.ofNat unit :: done)

/-- Reads the characters after an opening quote at `start`; `pos` is the next offset and `done`
holds what was read, last first. The second component is the offset after the string. -/
def scanString (start : Nat) : StringState → List Char → Nat → List Char → Token × Nat
  | .hex _ mark _ _, _, pos, [] => (.brokenString .unicodeEscape mark, pos)
  | _, _, pos, [] => (.brokenString .unterminated start, pos)
  | .plain high, done, pos, c :: cs =>
    if c == '"' then (.string (String.ofList (flush high done).reverse), pos + 1)
    else if c == '\\' then scanString start (.escape high) done (pos + 1) cs
    else if c.toNat ≤ 0x1F then (.brokenString .controlCharacter pos, pos)
    else scanString start (.plain none) (c :: flush high done) (pos + 1) cs
  | .escape high, done, pos, c :: cs =>
    if c == 'u' then scanString start (.hex high pos 4 0) done (pos + 1) cs
    else match simpleEscape? c with
      | some e => scanString start (.plain none) (e :: flush high done) (pos + 1) cs
      | none => (.brokenString .escape (pos - 1), pos)
  | .hex high mark left value, done, pos, c :: cs =>
    match hexValue? c with
    | none => (.brokenString .unicodeEscape mark, pos)
    | some d =>
      if left ≤ 1 then
        if cs.isEmpty then (.brokenString .unicodeEscape mark, pos)
        else
          let (high, done) := takeUnit high (16 * value + d) done
          scanString start (.plain high) done (pos + 1) cs
      else scanString start (.hex high mark (left - 1) (16 * value + d)) done (pos + 1) cs

def natOfDigits (ds : List Char) : Nat :=
  ds.foldl (fun n c => 10 * n + (c.toNat - '0'.toNat)) 0

/-- The exponent part of a number: its value and the characters it takes. A mark without digits is
no exponent. -/
def scanExponent (cs : List Char) : Option (Int × Nat) :=
  match cs with
  | [] => none
  | e :: cs =>
    if e == 'e' || e == 'E' then
      let (negative, signLength, cs) :=
        match cs with
        | '-' :: cs => (true, 1, cs)
        | '+' :: cs => (false, 1, cs)
        | _ => (false, 0, cs)
      let ds := cs.takeWhile Char.isDigit
      if ds.isEmpty then none
      else
        let n : Int := natOfDigits ds
        some (if negative then -n else n, 1 + signLength + ds.length)
    else none

def splitSign : List Char → Bool × List Char
  | '-' :: cs => (true, cs)
  | cs => (false, cs)

/-- A zero in front is the whole part. -/
def wholeDigits (cs : List Char) : List Char :=
  if cs.head? == some '0' then ['0'] else cs.takeWhile Char.isDigit

def fractionDigits : List Char → List Char
  | '.' :: cs => cs.takeWhile Char.isDigit
  | _ => []

def numberToken (negative : Bool) (whole fraction : List Char) : Option Int → Token
  | some e =>
    .scalar (.real (Binary64.ofDecimal negative (natOfDigits (whole ++ fraction))
      (e - fraction.length)))
  | none =>
    if fraction.isEmpty then
      if maxDigits < whole.length then .longInteger whole.length
      else .scalar (.int (if negative then -(natOfDigits whole : Int) else natOfDigits whole))
    else
      .scalar (.real (Binary64.ofDecimal negative (natOfDigits (whole ++ fraction))
        (-fraction.length)))

def scanNumber? (cs : List Char) : Option (Token × Nat) :=
  let (negative, body) := splitSign cs
  let whole := wholeDigits body
  if whole.isEmpty then none
  else
    let rest := body.drop whole.length
    let fraction := fractionDigits rest
    let fractionLength := if fraction.isEmpty then 0 else 1 + fraction.length
    let exponent := scanExponent (rest.drop fractionLength)
    some (numberToken negative whole fraction (exponent.map Prod.fst),
      (if negative then 1 else 0) + whole.length + fractionLength + (exponent.map Prod.snd).getD 0)

def words : List (List Char × Json) :=
  [("null".toList, .null), ("true".toList, .bool true), ("false".toList, .bool false),
    ("NaN".toList, .real .nan), ("Infinity".toList, .real (.infinite false)),
    ("-Infinity".toList, .real (.infinite true))]

def scanWord? (cs : List Char) : Option (Token × Nat) :=
  (words.find? (·.1.isPrefixOf cs)).map fun w => (.scalar w.2, w.1.length)

def scanToken (offset : Nat) (c : Char) (cs : List Char) : Token × Nat :=
  match c with
  | '\x7b' => (.openBrace, 1)
  | '\x7d' => (.closeBrace, 1)
  | '[' => (.openBracket, 1)
  | ']' => (.closeBracket, 1)
  | ':' => (.colon, 1)
  | ',' => (.comma, 1)
  | '"' =>
    let (token, stop) := scanString offset (.plain none) [] (offset + 1) cs
    (token, stop - offset)
  | _ => ((scanWord? (c :: cs)).or (scanNumber? (c :: cs))).getD (.junk, 1)

/-- Whether the cut ends with this lexeme. -/
def Token.isLast : Token → Bool
  | .junk | .brokenString _ _ => true
  | _ => false

/-- Passes over `skip` characters, then cuts the rest; `offset` is the offset of the next one. -/
def lexemesFrom : Nat → Nat → List Char → List Lexeme
  | _, offset, [] => [⟨.finish, offset⟩]
  | skip + 1, offset, _ :: cs => lexemesFrom skip (offset + 1) cs
  | 0, offset, c :: cs =>
    if isSpace c then lexemesFrom 0 (offset + 1) cs
    else
      let (token, length) := scanToken offset c cs
      if token.isLast then [⟨token, offset⟩]
      else ⟨token, offset⟩ :: lexemesFrom (length - 1) (offset + 1) cs

def lexemes (cs : List Char) : List Lexeme :=
  lexemesFrom 0 0 cs

end SwiftExpansion.Json
