import SwiftExpansion.Json.Basic
import SwiftExpansion.Json.Fault
import SwiftExpansion.Template.Defect
import SwiftExpansion.Text.Utf8

/-!
# Faults

Everything that can go wrong, by cause. A fault belongs to one of three tiers: an input that is
refused, a breach of the host's invocation contract, or a malfunction that a wrongly typed value
set off. The tier decides how far a fault travels; its wording stands in one place,
`Fault.message`.
-/
namespace SwiftExpansion

inductive LiteralDefect
  | delimiters
  | ownLines
  | indentation
  | unterminated
  | escape
  deriving Repr, DecidableEq

def LiteralDefect.message : LiteralDefect → String
  | .delimiters => "Malformed string literal"
  | .ownLines => "Multi-line string literal must open and close on their own lines"
  | .indentation => "Insufficient indentation in multi-line string literal"
  | .unterminated => "Unterminated string literal"
  | .escape => "Invalid escape sequence in string literal"

inductive FileCause
  | missing
  | notDirectory
  | isDirectory
  | nameTooLong
  deriving Repr, DecidableEq

def FileCause.message : FileCause → String
  | .missing => "[Errno 2] No such file or directory"
  | .notDirectory => "[Errno 20] Not a directory"
  | .isDirectory => "[Errno 21] Is a directory"
  | .nameTooLong => "[Errno 36] File name too long"

/-- How a host breaks the contract of an invocation. -/
inductive Breach
  | unregistered (name : Json)
  | noArguments
  | invalidArguments
  | noDeclaration (name : String)
  deriving Repr

def Breach.message : Breach → String
  | .unregistered name => "no macro named '" ++ name.display ++ "' is registered"
  | .noArguments => "compiler bug: the macro does not have any arguments"
  | .invalidArguments => "compiler bug: invalid arguments"
  | .noDeclaration name =>
    "compiler bug: attached macro '" ++ name ++ "' expanded without a declaration"

/-- What a value of the wrong kind was asked for. -/
inductive Misuse
  | operation (name : String)
  | iteration
  | membership
  | substring
  | keyAccess
  | comparison
  | literalText
  | joining (index : Nat)
  | hashing
  | subscript
  | layout
  | editorMessage
  deriving Repr, DecidableEq

def Misuse.message (kind : String) : Misuse → String
  | .operation name => "'" ++ kind ++ "' object has no attribute '" ++ name ++ "'"
  | .iteration => "'" ++ kind ++ "' object is not iterable"
  | .membership => "argument of type '" ++ kind ++ "' is not iterable"
  | .substring => "'in <string>' requires string as left operand, not " ++ kind
  | .keyAccess =>
    if kind == "str" then "string indices must be integers, not 'str'"
    else kind ++ " indices must be integers or slices, not str"
  | .comparison => "'<' not supported between instances of '" ++ kind ++ "' and 'int'"
  | .literalText => "expected string or bytes-like object, got '" ++ kind ++ "'"
  | .joining index =>
    "sequence item " ++ toString index ++ ": expected str instance, " ++ kind ++ " found"
  | .hashing => "unhashable type: '" ++ kind ++ "'"
  | .subscript => "'" ++ kind ++ "' object is not subscriptable"
  | .editorMessage => "'message' must be <class 'str'>, not <class '" ++ kind ++ "'>"
  | .layout => "unsupported format string passed to " ++ kind ++ ".__format__"

inductive Fault
  | literal (defect : LiteralDefect) (source : String)
  | scalarRange
  | missing (part key : String) (data : Json)
  | unknown (what : String) (value : Json)
  | notMember (enumeration : String) (value : Json)
  | position (line column : Json)
  | range (start stop : String)
  | editorRange (axis : String) (value : Json)
  | requestKind (kind : String)
  | settingsKind (kind : String)
  | macrosKind
  | template (defect : TemplateDefect)
  | document (fault : Json.DocumentFault)
  | encoding (fault : Text.EncodingFault)
  | file (cause : FileCause) (path : String)
  | contract (breach : Breach)
  | misuse (kind : String) (how : Misuse)
  | scalarTooLarge
  | indentTooLarge
  | outOfMemory
  | digitLimit
  | nullInPath
  | noRule
  | absentKey (key : String)
  | absentIndex (index : Nat)
  | absentItem (kind : String)
  | numberTooLarge
  | characterTooLarge
  deriving Repr

namespace Fault

def message : Fault → String
  | .literal defect source => defect.message ++ ": " ++ Text.quoted source
  | .scalarRange => "chr() arg not in range(0x110000)"
  | .missing part key data => part ++ " is missing '" ++ key ++ "': " ++ data.display
  | .unknown what value => "Unknown " ++ what ++ ": " ++ value.display
  | .notMember enumeration value => value.quoted ++ " is not a valid " ++ enumeration
  | .position line column =>
    "Invalid position: line=" ++ line.display ++ ", column=" ++ column.display
  | .range start stop => "Invalid range: start=" ++ start ++ " > end=" ++ stop
  | .editorRange axis value =>
    "Position." ++ axis ++ " should be in range [0:2147483647], but was " ++ value.display ++ "."
  | .requestKind kind => "Request must be a JSON object, got " ++ kind
  | .settingsKind kind => "Configuration must be a JSON object, got " ++ kind
  | .macrosKind => "'macros' must be a JSON object"
  | .template defect => defect.message
  | .document fault => fault.message
  | .encoding fault => fault.message
  | .file cause path => cause.message ++ ": " ++ Text.quoted path
  | .contract breach => breach.message
  | .misuse kind how => how.message kind
  | .scalarTooLarge => "Python int too large to convert to C int"
  | .indentTooLarge => "cannot fit 'int' into an index-sized integer"
  | .outOfMemory => ""
  | .digitLimit =>
    "Exceeds the limit (" ++ toString Json.maxDigits ++
      " digits) for integer string conversion; use sys.set_int_max_str_digits() to increase the limit"
  | .nullInPath => "embedded null byte"
  | .noRule => "Subclasses must implement expand()"
  | .absentKey key => Text.quoted key
  | .absentIndex index =>
    "Replacement index " ++ toString index ++ " out of range for positional args tuple"
  | .absentItem kind => (if kind == "str" then "string" else kind) ++ " index out of range"
  | .numberTooLarge => "int too large to convert to float"
  | .characterTooLarge => "%c arg not in range(0x110000)"

inductive Tier
  | refusal
  | contract
  | malfunction
  deriving Repr, DecidableEq

/-- Refused inputs are reported to the user, breaches abort the request, and malfunctions are
contained where they happen. -/
def tier : Fault → Tier
  | .contract _ => .contract
  | .document (.tooDeep _) | .misuse _ _ | .scalarTooLarge | .indentTooLarge | .outOfMemory
  | .noRule | .absentKey _ | .absentIndex _ | .absentItem _ | .numberTooLarge
  | .characterTooLarge => .malfunction
  | _ => .refusal

end Fault

end SwiftExpansion
