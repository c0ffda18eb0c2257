/-!
# Blank characters

Blanks may surround every token of a source line and every name of a table.

- `isBlank`: the blank characters
- `trimLeft`, `trimRight`, `trim`: removal of blanks at the ends
- `isAllBlank`: nothing but blanks
-/

namespace HidDescriptor
namespace Text

/-- White space: the ASCII layout controls and information separators, the blank, next line, the
no-break space and the Unicode space, line and paragraph separators. -/
def isBlank (c : Char) : Bool :=
  let n := c.toNat
  (0x09 ≤ n && n ≤ 0x0D) || (0x1C ≤ n && n ≤ 0x20) || n == 0x85 || n == 0xA0 || n == 0x1680 ||
    (0x2000 ≤ n && n ≤ 0x200A) || n == 0x2028 || n == 0x2029 || n == 0x202F || n == 0x205F ||
    n == 0x3000

def trimLeft (cs : List Char) : List Char :=
  cs.dropWhile isBlank

/-- Removes the longest suffix whose characters all satisfy `p`. -/
def dropEndWhile (p : Char → Bool) (cs : List Char) : List Char :=
  (cs.reverse.dropWhile p).reverse

def trimRight (cs : List Char) : List Char :=
  dropEndWhile isBlank cs

def trim (cs : List Char) : List Char :=
  trimRight (trimLeft cs)

def isAllBlank (cs : List Char) : Bool :=
  cs.all isBlank

end Text
end HidDescriptor
