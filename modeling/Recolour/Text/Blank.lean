/-!
# Blanks and fields

The blanks are the 25 characters with the Unicode property `White_Space`.  `trim` removes
them from both ends of a text.  `fields p` lists the maximal runs of characters outside the
class `p`, and `words` are the fields between blanks.
-/

namespace Recolour.Text

/-- The character has the Unicode property `White_Space`. -/
def isBlank (c : Char) : Bool :=
  let n := c.toNat
  (0x9 ≤ n && n ≤ 0xD) || n == 0x20 || n == 0x85 || n == 0xA0 || n == 0x1680
    || (0x2000 ≤ n && n ≤ 0x200A) || n == 0x2028 || n == 0x2029 || n == 0x202F || n == 0x205F
    || n == 0x3000

/-- A text without the blanks at its end. -/
def trimEnd (cs : List Char) : List Char :=
  (cs.reverse.dropWhile isBlank).reverse

/-- A text without the blanks at its two ends. -/
def trim (cs : List Char) : List Char :=
  trimEnd (cs.dropWhile isBlank)

/-- The maximal runs of characters outside the class `p`, in order. -/
def fields (p : Char → Bool) (cs : List Char) : List (List Char) :=
  (cs.splitOnP p).filter fun piece => !piece.isEmpty

/-- The maximal runs of characters other than blanks, in order. -/
def words (cs : List Char) : List (List Char) :=
  fields isBlank cs

end Recolour.Text
