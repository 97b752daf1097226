/-!
# Blank characters

The characters of Unicode's `White_Space` property, and trimming by them.
-/

namespace SolAudit.Text

/-- A character of Unicode's `White_Space` property. -/
def isBlank (c : Char) : Bool :=
  let n := c.toNat
  (9 ≤ n && n ≤ 13) || n == 0x20 || n == 0x85 || n == 0xA0 || n == 0x1680 ||
    (0x2000 ≤ n && n ≤ 0x200A) || n == 0x2028 || n == 0x2029 || n == 0x202F ||
    n == 0x205F || n == 0x3000

/-- The characters between the first and the last that are not blank. -/
def trimChars (cs : List Char) : List Char :=
  ((cs.dropWhile isBlank).reverse.dropWhile isBlank).reverse

/-- A text with nothing but blanks in it. -/
def isBlankText (s : String) : Bool :=
  s.toList.all isBlank

end SolAudit.Text
