/-!
# Blank characters

The blanks of the character standard: the ASCII white space and separators, and every space and
line separator beyond ASCII. Texts are trimmed at both ends, or freed of all their blanks.
-/
namespace SwiftExpansion.Text

def isBlank (c : Char) : Bool :=
  let n := c.toNat
  (9 ≤ n && n ≤ 13) || (28 ≤ n && n ≤ 32) || n == 0x85 || n == 0xA0 || n == 0x1680 ||
    (0x2000 ≤ n && n ≤ 0x200A) || n == 0x2028 || n == 0x2029 || n == 0x202F || n == 0x205F ||
    n == 0x3000

def trimLeft (cs : List Char) : List Char :=
  cs.dropWhile isBlank

def trimRight (cs : List Char) : List Char :=
  (cs.reverse.dropWhile isBlank).reverse

def trim (cs : List Char) : List Char :=
  trimRight (trimLeft cs)

/-- Whether nothing but blanks is there. -/
def isBlankText (cs : List Char) : Bool :=
  cs.all isBlank

/-- Takes every blank out, also those inside. -/
def squeeze (cs : List Char) : List Char :=
  cs.filter (!isBlank ·)

def trimmed (s : String) : String :=
  String.ofList (trim s.toList)

def squeezed (s : String) : String :=
  String.ofList (squeeze s.toList)

end SwiftExpansion.Text
