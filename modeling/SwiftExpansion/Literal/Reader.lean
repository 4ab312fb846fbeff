import SwiftExpansion.Fault
import SwiftExpansion.Literal.Writer
import SwiftExpansion.Text.Blank

/-!
# Reading string literals

The content of a literal as source code gives it: plain or raw, on one line or between triple
quotes. A multi-line literal opens and closes on lines of its own, and the indentation of its last
line is taken off every line. A literal with an interpolation has no content of its own.
-/
namespace SwiftExpansion.Literal

inductive ReadFault
  | defect (d : LiteralDefect)
  | scalarRange
  | scalarTooLarge
  deriving Repr, DecidableEq

def tripleQuote : List Char := ['"', '"', '"']

/-- A literal without its delimiters: the number of pounds around it, whether the quotes were
triple, and what stands between them. -/
structure Delimited where
  pounds : Nat
  multiline : Bool
  body : List Char
  deriving Repr, DecidableEq

def between? (quotes : List Char) (k : Nat) (cs : List Char) : Option (List Char) :=
  (Text.dropFront? quotes cs).bind (Text.dropBack? (quotes ++ pounds k))

/-- Takes the delimiters off; triple quotes are tried first. -/
def delimited? (cs : List Char) : Option Delimited :=
  let k := Text.leadingRun '#' cs
  let rest := cs.drop k
  match between? tripleQuote k rest with
  | some body => some ⟨k, true, body⟩
  | none => (between? ['"'] k rest).map fun body => ⟨k, false, body⟩

/-- Takes the indentation off a line. A blank line may have less of it. -/
def dedentLine (indent line : List Char) : Except ReadFault (List Char) :=
  match Text.dropFront? indent line with
  | some rest => .ok rest
  | none => if Text.isBlankText line then .ok [] else .error (.defect .indentation)

/-- The lines between the first, which has to be empty, and the last, which is the indentation. -/
def dedent (body : List Char) : Except ReadFault (List Char) :=
  match (Text.replaceAll ['\r', '\n'] ['\n'] body).splitOn '\n' with
  | [] :: line :: lines =>
    let indent := (line :: lines).getLast (by simp)
    if Text.isBlankText indent then
      match ((line :: lines).dropLast).mapM (dedentLine indent) with
      | .ok content => .ok (['\n'].intercalate content)
      | .error f => .error f
    else .error (.defect .ownLines)
  | _ => .error (.defect .ownLines)

def isHexDigit (c : Char) : Bool :=
  c.isDigit || ('a' ≤ c && c ≤ 'f') || ('A' ≤ c && c ≤ 'F')

def hexDigitValue (c : Char) : Nat :=
  if c.isDigit then c.toNat - '0'.toNat
  else if 'a' ≤ c then c.toNat - 'a'.toNat + 10
  else c.toNat - 'A'.toNat + 10

def hexValue (ds : List Char) : Nat :=
  ds.foldl (fun n c => 16 * n + hexDigitValue c) 0

def bracedNumber? : List Char → Option (Nat × Nat)
  | '\x7b' :: cs =>
    let ds := cs.takeWhile isHexDigit
    if 1 ≤ ds.length && ds.length ≤ 8 && (cs.drop ds.length).head? == some '\x7d' then
      some (hexValue ds, ds.length + 2)
    else none
  | _ => none

inductive Piece
  | plain (c : Char)
  | escaped (c : Char)
  | scalar (n : Nat)
  deriving Repr, DecidableEq

/-- Passes over `skip` characters, then cuts the rest into pieces. An escape mark with nothing
after it stands for itself. -/
def piecesFrom (k : Nat) : Nat → List Char → List Piece
  | _, [] => []
  | skip + 1, _ :: cs => piecesFrom k skip cs
  | 0, c :: cs =>
    if c == '\\' && (pounds k).isPrefixOf cs then
      match cs.drop k with
      | [] => .plain c :: piecesFrom k 0 cs
      | e :: rest =>
        match if e == 'u' then bracedNumber? rest else none with
        | some (n, length) => .scalar n :: piecesFrom k (k + 1 + length) cs
        | none => .escaped e :: piecesFrom k (k + 1) cs
    else .plain c :: piecesFrom k 0 cs

def pieces (k : Nat) (body : List Char) : List Piece :=
  piecesFrom k 0 body

def escapedChar? : Char → Option Char
  | '0' => some (Char.ofNat 0)
  | '\\' => some '\\'
  | 't' => some '\t'
  | 'n' => some '\n'
  | 'r' => some '\r'
  | '"' => some '"'
  | '\'' => some '\''
  | _ => none

/-- Numbers past the last code point are refused, those beyond 31 bits cannot even be tested. Half
of a surrogate pair is no character, and a null stands for it. -/
def scalarContent (n : Nat) : Except ReadFault (List Char) :=
  if n < 0x110000 then .ok [Char.ofNat n]
  else if n < 0x80000000 then .error .scalarRange
  else .error .scalarTooLarge

/-- What a piece stands for. In a multi-line literal an escaped line end joins two lines. -/
def Piece.content (multiline : Bool) : Piece → Except ReadFault (List Char)
  | .plain c => .ok [c]
  | .scalar n => scalarContent n
  | .escaped c =>
    match escapedChar? c with
    | some e => .ok [e]
    | none => if multiline && c == '\n' then .ok [] else .error (.defect .escape)

def Piece.isInterpolation (p : Piece) : Bool :=
  p == .escaped '('

/-- Decodes the escapes of a body; a body with an interpolation has no content. -/
def unescape (k : Nat) (multiline : Bool) (body : List Char) :
    Except ReadFault (Option (List Char)) :=
  let ps := pieces k body
  if ps.any Piece.isInterpolation then .ok none
  else match ps.mapM (Piece.content multiline) with
    | .ok parts => .ok (some parts.flatten)
    | .error f => .error f

def Delimited.text (d : Delimited) : Except ReadFault (List Char) :=
  if d.multiline then dedent d.body
  else if d.body.contains '\n' || d.body.contains '\r' then .error (.defect .unterminated)
  else .ok d.body

def decode (cs : List Char) : Except ReadFault (Option (List Char)) :=
  match delimited? (Text.trim cs) with
  | none => .error (.defect .delimiters)
  | some d =>
    match d.text with
    | .ok body => unescape d.pounds d.multiline body
    | .error f => .error f

def ReadFault.toFault (source : String) : ReadFault → Fault
  | .defect d => .literal d source
  | .scalarRange => .scalarRange
  | .scalarTooLarge => .scalarTooLarge

def read (source : String) : Except Fault (Option String) :=
  match decode source.toList with
  | .ok content => .ok (content.map String.ofList)
  | .error f => .error (f.toFault source)

end SwiftExpansion.Literal
