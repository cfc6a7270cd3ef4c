/-!
# Blank characters

Lines of text are trimmed and judged empty by the Unicode property
`White_Space`.  The table lists that property, and trimming removes a maximal
run of such characters from one end or from both.
-/

namespace StatelessPgp
namespace Text

/-- The code points with the property `White_Space`, as closed ranges in
ascending order. -/
def blankRanges : List (Nat × Nat) :=
  [(0x09, 0x0D), (0x20, 0x20), (0x85, 0x85), (0xA0, 0xA0), (0x1680, 0x1680),
    (0x2000, 0x200A), (0x2028, 0x2029), (0x202F, 0x202F), (0x205F, 0x205F),
    (0x3000, 0x3000)]

/-- Whether a code point lies in one of the closed ranges. -/
def inRanges (ranges : List (Nat × Nat)) (code : Nat) : Bool :=
  ranges.any fun range => decide (range.1 ≤ code) && decide (code ≤ range.2)

/-- Whether a character is white space in the sense of Unicode. -/
def isBlank (character : Char) : Bool :=
  inRanges blankRanges character.toNat

def trimStart (text : List Char) : List Char :=
  text.dropWhile isBlank

def trimEnd (text : List Char) : List Char :=
  (text.reverse.dropWhile isBlank).reverse

/-- The text without blank characters at either end. -/
def trim (text : List Char) : List Char :=
  trimEnd (trimStart text)

/-- `trim` on strings. -/
def strip (text : String) : String :=
  String.ofList (trim text.toList)

/-- A string without its outer blank characters, or nothing if none are left. -/
def stripped? (text : String) : Option String :=
  let inner := strip text
  if inner.isEmpty then none else some inner

end Text
end StatelessPgp
