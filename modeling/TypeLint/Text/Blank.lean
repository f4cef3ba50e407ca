import TypeLint.Text.Basic
import TypeLint.Text.Ranges

/-!
# White space
-/

namespace TypeLint

/-- The white space of Unicode, with the four information separators. -/
def blankRanges : List (Nat × Nat) := [
  (0x9, 0xd), (0x1c, 0x20), (0x85, 0x85), (0xa0, 0xa0), (0x1680, 0x1680), (0x2000, 0x200a),
  (0x2028, 0x2029), (0x202f, 0x202f), (0x205f, 0x205f), (0x3000, 0x3000)]

namespace CodePoint

/-- White space of any script. -/
def isBlank (c : CodePoint) : Bool := Text.inRanges c.val blankRanges

/-- White space of the ASCII block: space, tab, and the four line and page breaks. -/
def isAsciiBlank (c : CodePoint) : Bool := c = ' ' || (9 ≤ c.val && c.val ≤ 13)

end CodePoint

end TypeLint
