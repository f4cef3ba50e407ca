import TypeLint.Text.Blank
import TypeLint.Text.Digit

/-!
# Whole numbers in a text

A whole number may have white space around it, a sign, digits of any script, and single underscores between
digits.  It has at most `Text.maxDigits` digits.
-/

namespace TypeLint.Text

/-- Without the white space at both ends. -/
def trim (t : Text) : Text :=
  ((t.dropWhile CodePoint.isBlank).reverse.dropWhile CodePoint.isBlank).reverse

/-- The values of digits with single underscores between them. -/
def groupedDigits? : Text → Option (List Nat)
  | [] => none
  | [c] => c.digitValue?.map ([·])
  | c :: d :: rest =>
    match c.digitValue? with
    | none => none
    | some v => ((if d = '_' then groupedDigits? rest else groupedDigits? (d :: rest)).map (v :: ·))

/-- The number that a text spells. -/
def integer? (t : Text) : Option Int :=
  let (negative, digits) : Bool × Text := match t.trim with
    | c :: rest => if c = '-' then (true, rest) else if c = '+' then (false, rest) else (false, c :: rest)
    | [] => (false, [])
  match groupedDigits? digits with
  | some ds =>
    if ds.length > maxDigits then none
    else some (if negative then -(ofDigits 10 ds : Int) else (ofDigits 10 ds : Int))
  | none => none

end TypeLint.Text
