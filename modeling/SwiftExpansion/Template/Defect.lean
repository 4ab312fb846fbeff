/-!
# What can be wrong with a message template

Defects of the template itself, and of the layout that a placeholder asks for. A character that has
no shape on paper is named by its code point.
-/
namespace SwiftExpansion

/-- A character in a message: itself if it is a visible one below `bound`, its number otherwise. -/
def shownBelow (bound : Nat) (c : Char) : String :=
  if 32 < c.toNat && c.toNat < bound then String.singleton c
  else "\\x" ++ String.ofList (Nat.toDigits 16 c.toNat)

inductive LayoutDefect
  | tooManyDigits
  | missingPrecision
  | twoSeparators
  | surplus (specification : List Char) (kind : String)
  | separator (mark code : Char)
  | unknownCode (code : Char) (kind : String)
  | spaceOnText
  | signOnText
  | zeroOnText
  | alternateOnText
  | alignmentOnText
  | precisionOnWhole
  | zeroOnWhole
  | signOnCharacter
  | alternateOnCharacter
  | precisionTooBig
  deriving Repr, DecidableEq

def LayoutDefect.message : LayoutDefect → String
  | .tooManyDigits => "Too many decimal digits in format string"
  | .missingPrecision => "Format specifier missing precision"
  | .twoSeparators => "Cannot specify both ',' and '_'."
  | .surplus specification kind =>
    "Invalid format specifier '" ++ String.ofList specification ++ "' for object of type '" ++
      kind ++ "'"
  | .separator mark code =>
    "Cannot specify '" ++ String.singleton mark ++ "' with '" ++ shownBelow 128 code ++ "'."
  | .unknownCode code kind =>
    "Unknown format code '" ++ shownBelow 128 code ++ "' for object of type '" ++ kind ++ "'"
  | .spaceOnText => "Space not allowed in string format specifier"
  | .signOnText => "Sign not allowed in string format specifier"
  | .zeroOnText => "Negative zero coercion (z) not allowed in string format specifier"
  | .alternateOnText => "Alternate form (#) not allowed in string format specifier"
  | .alignmentOnText => "'=' alignment not allowed in string format specifier"
  | .precisionOnWhole => "Precision not allowed in integer format specifier"
  | .zeroOnWhole => "Negative zero coercion (z) not allowed in integer format specifier"
  | .signOnCharacter => "Sign not allowed with integer format specifier 'c'"
  | .alternateOnCharacter => "Alternate form (#) not allowed with integer format specifier 'c'"
  | .precisionTooBig => "precision too big"

inductive TemplateDefect
  | loneOpening
  | loneClosing
  | nestedOpening
  | unfinished
  | conversionMissing
  | conversionTail
  | unknownConversion (c : Char)
  | unmatchedSpecification
  | manualAfterAutomatic
  | automaticAfterManual
  | emptyStep
  | openBracket
  | afterBracket
  | tooDeep
  | layout (defect : LayoutDefect)
  deriving Repr, DecidableEq

def TemplateDefect.message : TemplateDefect → String
  | .loneOpening => "Single '\x7b' encountered in format string"
  | .loneClosing => "Single '\x7d' encountered in format string"
  | .nestedOpening => "unexpected '\x7b' in field name"
  | .unfinished => "expected '\x7d' before end of string"
  | .conversionMissing => "end of string while looking for conversion specifier"
  | .conversionTail => "expected ':' after conversion specifier"
  | .unknownConversion c => "Unknown conversion specifier " ++ shownBelow 127 c
  | .unmatchedSpecification => "unmatched '\x7b' in format spec"
  | .manualAfterAutomatic =>
    "cannot switch from automatic field numbering to manual field specification"
  | .automaticAfterManual =>
    "cannot switch from manual field specification to automatic field numbering"
  | .emptyStep => "Empty attribute in format string"
  | .openBracket => "Missing ']' in format string"
  | .afterBracket => "Only '.' or '[' may follow ']' in format field specifier"
  | .tooDeep => "Max string recursion exceeded"
  | .layout defect => defect.message

end SwiftExpansion
