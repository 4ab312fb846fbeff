/-!
# Faults of JSON documents

What can be wrong with a document, and where. Lines and columns count from one, offsets from zero;
a column counts the characters since the last line feed.
-/
namespace SwiftExpansion.Json

inductive FaultCause
  | value
  | key
  | colon
  | comma
  | trailing
  | controlCharacter
  | escape
  | unicodeEscape
  | unterminated
  | byteOrderMark
  deriving Repr, DecidableEq

def FaultCause.message : FaultCause → String
  | .value => "Expecting value"
  | .key => "Expecting property name enclosed in double quotes"
  | .colon => "Expecting ':' delimiter"
  | .comma => "Expecting ',' delimiter"
  | .trailing => "Extra data"
  | .controlCharacter => "Invalid control character at"
  | .escape => "Invalid \\escape"
  | .unicodeEscape => "Invalid \\uXXXX escape"
  | .unterminated => "Unterminated string starting at"
  | .byteOrderMark => "Unexpected UTF-8 BOM (decode using utf-8-sig)"

inductive Container
  | array
  | object
  deriving Repr, DecidableEq

def Container.name : Container → String
  | .array => "array"
  | .object => "object"

/-- A fault at a place of the document, an integer with more digits than are read, or a container
that lies deeper than is read. -/
inductive DocumentFault
  | malformed (cause : FaultCause) (line column offset : Nat)
  | tooManyDigits (count : Nat)
  | tooDeep (container : Container)
  deriving Repr, DecidableEq

def maxDigits : Nat := 4300

def maxDepth : Nat := 985

def DocumentFault.message : DocumentFault → String
  | .malformed cause line column offset =>
    cause.message ++ ": line " ++ toString line ++ " column " ++ toString column ++
      " (char " ++ toString offset ++ ")"
  | .tooManyDigits count =>
    "Exceeds the limit (" ++ toString maxDigits ++
      " digits) for integer string conversion: value has " ++ toString count ++
      " digits; use sys.set_int_max_str_digits() to increase the limit"
  | .tooDeep container =>
    "maximum recursion depth exceeded while decoding a JSON " ++ container.name ++
      " from a unicode string"

/-- Places a fault by counting the line feeds before its offset. -/
def DocumentFault.located (cs : List Char) (cause : FaultCause) (offset : Nat) : DocumentFault :=
  let before := cs.take offset
  .malformed cause (1 + before.count '\n')
    (1 + (before.reverse.takeWhile (· != '\n')).length) offset

end SwiftExpansion.Json
