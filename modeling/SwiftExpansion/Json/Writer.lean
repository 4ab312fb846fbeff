import SwiftExpansion.Json.Basic

/-!
# Writing JSON documents

Documents are written in ASCII: other characters, controls and the delete character become
`\u` escapes in UTF-16 units. A document is either one line, or has one item a line, each level
indented by two spaces.
-/
namespace SwiftExpansion.Json

def unitEscape (n : Nat) : List Char :=
  '\\' :: 'u' :: Text.hexDigits 4 n

def writtenChar (c : Char) : List Char :=
  match c with
  | '"' => ['\\', '"']
  | '\\' => ['\\', '\\']
  | '\n' => ['\\', 'n']
  | '\r' => ['\\', 'r']
  | '\t' => ['\\', 't']
  | '\x08' => ['\\', 'b']
  | '\x0c' => ['\\', 'f']
  | _ =>
    let n := c.toNat
    if 0x20 ≤ n && n < 0x7F then [c]
    else if n < 0x10000 then unitEscape n
    else unitEscape (0xD800 + (n - 0x10000) / 0x400) ++ unitEscape (0xDC00 + (n - 0x10000) % 0x400)

def writtenText (s : String) : String :=
  String.ofList ('"' :: s.toList.flatMap writtenChar ++ ['"'])

/-- Numbers without a value of their own are written by name. -/
def writtenReal : Binary64 → String
  | .nan => "NaN"
  | .infinite s => if s then "-Infinity" else "Infinity"
  | x => x.text

def writtenScalar : Json → String
  | .bool b => if b then "true" else "false"
  | .int n => toString n
  | .real x => writtenReal x
  | .text s => writtenText s
  | _ => "null"

mutual

def compact : Json → String
  | .list items => "[" ++ ", ".intercalate (compactItems items) ++ "]"
  | .object entries => "\x7b" ++ ", ".intercalate (compactEntries entries) ++ "\x7d"
  | j => writtenScalar j

def compactItems : List Json → List String
  | [] => []
  | j :: items => compact j :: compactItems items

def compactEntries : List (String × Json) → List String
  | [] => []
  | (key, j) :: entries => (writtenText key ++ ": " ++ compact j) :: compactEntries entries

end

def lineBreak (level : Nat) : String :=
  String.ofList ('\n' :: List.replicate (2 * level) ' ')

/-- The parts of a container on lines of their own, one level deeper than its brackets. -/
def bracketed (opening closing : String) (level : Nat) (parts : List String) : String :=
  if parts.isEmpty then opening ++ closing
  else opening ++ lineBreak (level + 1) ++ ("," ++ lineBreak (level + 1)).intercalate parts ++
    lineBreak level ++ closing

mutual

/-- The document over several lines, at a level of nesting. -/
def prettyAt (level : Nat) : Json → String
  | .list items => bracketed "[" "]" level (prettyItems (level + 1) items)
  | .object entries => bracketed "\x7b" "\x7d" level (prettyEntries (level + 1) entries)
  | j => writtenScalar j

def prettyItems (level : Nat) : List Json → List String
  | [] => []
  | j :: items => prettyAt level j :: prettyItems level items

def prettyEntries (level : Nat) : List (String × Json) → List String
  | [] => []
  | (key, j) :: entries =>
    (writtenText key ++ ": " ++ prettyAt level j) :: prettyEntries level entries

end

def pretty (j : Json) : String :=
  j.prettyAt 0

end SwiftExpansion.Json
