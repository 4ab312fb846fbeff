import SwiftExpansion.Json.Lexeme

/-!
# Reading JSON documents

The reader takes one lexeme after the other with a stack of the containers that are still open. It
stops at the first lexeme that does not fit and says what was expected there, and at the first
container that opens too deep. When a key comes
twice in an object, its last value stands at its first place.
-/
namespace SwiftExpansion.Json

/-- A container still open: the items of a list, last first, or the entries of an object with the
key whose value is due. -/
inductive Frame
  | items (done : List Json)
  | entries (done : List (String × Json)) (key : String)

inductive Expecting
  | value
  | firstItem
  | firstKey
  | key
  | colon
  | delimiter
  | finish (result : Json)

structure ReaderState where
  stack : List Frame
  expecting : Expecting

inductive ReadFault
  | malformed (cause : FaultCause) (offset : Nat)
  | tooManyDigits (count : Nat)
  | tooDeep (container : Container)

/-- Hands a finished value to the innermost open container. -/
def close (j : Json) : List Frame → ReaderState
  | [] => ⟨[], .finish j⟩
  | .items done :: stack => ⟨.items (j :: done) :: stack, .delimiter⟩
  | .entries done key :: stack => ⟨.entries (insertEntry done key j) key :: stack, .delimiter⟩

def push (container : Container) (frame : Frame) (expecting : Expecting) (stack : List Frame) :
    Except ReadFault ReaderState :=
  if stack.length < maxDepth then .ok ⟨frame :: stack, expecting⟩ else .error (.tooDeep container)

def takeValue (stack : List Frame) (l : Lexeme) : Except ReadFault ReaderState :=
  match l.token with
  | .scalar j => .ok (close j stack)
  | .string s => .ok (close (.text s) stack)
  | .openBracket => push .array (.items []) .firstItem stack
  | .openBrace => push .object (.entries [] "") .firstKey stack
  | .brokenString cause offset => .error (.malformed cause offset)
  | .longInteger digits => .error (.tooManyDigits digits)
  | _ => .error (.malformed .value l.offset)

def takeKey (stack : List Frame) (l : Lexeme) : Except ReadFault ReaderState :=
  match l.token, stack with
  | .string s, .entries done _ :: stack => .ok ⟨.entries done s :: stack, .colon⟩
  | .brokenString cause offset, _ => .error (.malformed cause offset)
  | _, _ => .error (.malformed .key l.offset)

def takeDelimiter (stack : List Frame) (l : Lexeme) : Except ReadFault ReaderState :=
  match stack, l.token with
  | .items _ :: _, .comma => .ok ⟨stack, .value⟩
  | .items done :: stack, .closeBracket => .ok (close (.list done.reverse) stack)
  | .entries _ _ :: _, .comma => .ok ⟨stack, .key⟩
  | .entries done _ :: stack, .closeBrace => .ok (close (.object done) stack)
  | _, _ => .error (.malformed .comma l.offset)

def step (s : ReaderState) (l : Lexeme) : Except ReadFault ReaderState :=
  match s.expecting with
  | .value => takeValue s.stack l
  | .firstItem =>
    if l.token == .closeBracket then .ok (close (.list []) s.stack.tail) else takeValue s.stack l
  | .firstKey =>
    if l.token == .closeBrace then .ok (close (.object []) s.stack.tail) else takeKey s.stack l
  | .key => takeKey s.stack l
  | .colon =>
    if l.token == .colon then .ok ⟨s.stack, .value⟩ else .error (.malformed .colon l.offset)
  | .delimiter => takeDelimiter s.stack l
  | .finish _ =>
    if l.token == .finish then .ok s else .error (.malformed .trailing l.offset)

/-- The last lexeme of a cut never fits an unfinished document, so only a finished one is left. -/
def readLexemes (ls : List Lexeme) : Except ReadFault Json := do
  let s ← ls.foldlM step ⟨[], .value⟩
  match s.expecting with
  | .finish j => .ok j
  | _ => .error (.malformed .value 0)

def read (source : String) : Except DocumentFault Json :=
  let cs := source.toList
  if cs.head? == some (Char.ofNat 0xFEFF) then .error (.located cs .byteOrderMark 0)
  else match readLexemes (lexemes cs) with
    | .ok j => .ok j
    | .error (.malformed cause offset) => .error (.located cs cause offset)
    | .error (.tooManyDigits count) => .error (.tooManyDigits count)
    | .error (.tooDeep container) => .error (.tooDeep container)

end SwiftExpansion.Json
