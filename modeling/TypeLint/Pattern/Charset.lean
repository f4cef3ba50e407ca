import TypeLint.Pattern.Regex
import TypeLint.Text.Alphanumeric
import TypeLint.Text.Blank
import TypeLint.Text.Case
import TypeLint.Text.Digit

/-!
# Characters of a set

Which characters a character of a pattern, a class or a set stands for, under the options in force.  If case
is ignored, a character stands for all that have the same lower-case letter, or lower-case letters that count
as equal.
-/

namespace TypeLint.Pattern

/-- The characters of a class. -/
def CharClass.admits (flags : Flags) (k : CharClass) (c : CodePoint) : Bool :=
  match k with
  | .digit => if flags.ascii then c.isAsciiDigit else c.isDigit
  | .space => if flags.ascii then c.isAsciiBlank else c.isBlank
  | .word => if flags.ascii then c.isAsciiWord else c.isWord

namespace Flags

/-- The lower-case letter of a character, of the ASCII block only if so chosen. -/
def lower (flags : Flags) (c : CodePoint) : CodePoint := if flags.ascii then c.asciiLower else c.lower

/-- The numbers of the lower-case letters that count as that of `c`. -/
def lowers (flags : Flags) (c : CodePoint) : List Nat :=
  if flags.ascii then [c.asciiLower.val] else c.lower.val :: c.lower.caseVariants

/-- Two characters that count as equal. -/
def same (flags : Flags) (a b : CodePoint) : Bool :=
  if flags.ignoreCase then (flags.lowers b).contains (flags.lower a).val else a = b

/-- Two characters that are equal, or have one lower-case letter if case is ignored. -/
def sameLower (flags : Flags) (a b : CodePoint) : Bool :=
  if flags.ignoreCase then flags.lower a = flags.lower b else a = b

/-- The numbers of the characters with the lower-case letter of number `l`. -/
def withLower (flags : Flags) (l : Nat) : List Nat :=
  let ascii := if 97 ≤ l && l ≤ 122 then [l - 32] else []
  if flags.ascii then l :: ascii
  else l :: ascii ++ lowerRuns.filterMap fun (first, last, step, shift) =>
    let n := ((l : Int) - shift).toNat
    if first ≤ n && n ≤ last && (n - first) % step = 0 then some n else none

/-- A character of a range. -/
def inRange (flags : Flags) (lo hi c : CodePoint) : Bool :=
  if flags.ignoreCase then
    (flags.lowers c).any fun l => (flags.withLower l).any fun n => lo.val ≤ n && n ≤ hi.val
  else lo.val ≤ c.val && c.val ≤ hi.val

end Flags

/-- The characters that a part of a set stands for. -/
def SetItem.admits (flags : Flags) (item : SetItem) (c : CodePoint) : Bool :=
  match item with
  | .char d => flags.same d c
  | .range lo hi => flags.inRange lo hi c
  | .ofClass k negated => k.admits flags c != negated

/-- The characters that a set stands for. -/
def setAdmits (flags : Flags) (negated : Bool) (items : List SetItem) (c : CodePoint) : Bool :=
  items.any (·.admits flags c) != negated

end TypeLint.Pattern
