import TypeLint.Number.Binary64
import TypeLint.Text.Basic

/-!
# The shortest decimal of a double

`Binary64.shortest` finds the fewest digits that read back as the same double, and of these the nearest to
it.  `Binary64.render` writes them: positionally from `0.0001` up to sixteen digits before the point, and
with an exponent of at least two digits beyond.
-/

namespace TypeLint.Binary64

/-- A positive number `num / den` compared with `digits · 10 ^ power`: both over one denominator. -/
def overCommon (num den digits : Nat) (power : Int) : Nat × Nat :=
  match power with
  | .ofNat k => (num, digits * Nat.pow 10 k * den)
  | .negSucc k => (num * Nat.pow 10 (k + 1), digits * den)

/-- The reals that round to a double lie between `lo / den` and `hi / den`; the ends belong to them if
`closed`.  The double itself is `mid / den`. -/
structure Interval where
  lo : Nat
  mid : Nat
  hi : Nat
  den : Nat
  closed : Bool

/-- The interval of a positive double `m · 2 ^ e`. -/
def interval (m : Nat) (e : Int) : Interval :=
  -- the lower neighbour of a power of two is nearer than the upper one
  let below := if m = Nat.pow 2 52 && e > minExponent then 1 else 2
  match e - 2 with
  | .ofNat k =>
    let unit := Nat.pow 2 k
    ⟨(4 * m - below) * unit, 4 * m * unit, (4 * m + 2) * unit, 1, m % 2 = 0⟩
  | .negSucc k => ⟨4 * m - below, 4 * m, 4 * m + 2, Nat.pow 2 (k + 1), m % 2 = 0⟩

/-- Whether `digits · 10 ^ power` rounds to the double of the interval. -/
def Interval.holds (i : Interval) (digits : Nat) (power : Int) : Bool :=
  let (lo, x) := overCommon i.lo i.den digits power
  let (hi, _) := overCommon i.hi i.den digits power
  if i.closed then lo ≤ x && x ≤ hi else lo < x && x < hi

/-- The least `p` with `n / d < 10 ^ p`, found from a bound above it. -/
def decimalLength (n d : Nat) : Nat → Int → Int
  | 0, p => p
  | fuel + 1, p =>
    let (x, y) := overCommon n d 1 (p - 1)
    if x < y then decimalLength n d fuel (p - 1) else p

/-- Of the two neighbours of the double on the grid of `10 ^ power`, the nearer one that rounds to it. -/
def onGrid? (i : Interval) (power : Int) : Option Nat :=
  let (x, unit) := overCommon i.mid i.den 1 power
  let low := x / unit
  let nearLow := 2 * (x % unit) < unit || (2 * (x % unit) = unit && low % 2 = 0)
  match i.holds low power, i.holds (low + 1) power with
  | true, true => some (if nearLow then low else low + 1)
  | true, false => some low
  | false, true => some (low + 1)
  | false, false => none

/-- The coarsest of the grids of one to seventeen digits that has a point in the interval. -/
def shortestFrom (i : Interval) (length : Int) : (left : Nat) → (digits : Nat) → Nat × Int
  | 0, digits => ((onGrid? i (length - digits)).getD 0, length - digits)
  | left + 1, digits =>
    match onGrid? i (length - digits) with
    | some n => (n, length - digits)
    | none => shortestFrom i length left (digits + 1)

/-- A positive double as `digits · 10 ^ power` with the fewest digits. -/
def shortest (m : Nat) (e : Int) : Nat × Int :=
  let i := interval m e
  shortestFrom i (decimalLength i.mid i.den 700 310) 16 1

/-- Digits without the zeros at their end, and the number of these. -/
def trimZeros (ds : Text) : Text × Nat :=
  let kept := (ds.reverse.dropWhile fun d : CodePoint => d = '0').reverse
  (kept, ds.length - kept.length)

/-- Positive decimals are written positionally if the point is at most this far behind the first digit. -/
def maxPoint : Int := 16

/-- Positive decimals below one are written positionally if this many zeros or fewer follow the point. -/
def minPoint : Int := -4

/-- `digits` with the decimal point behind the first `point` of them. -/
def layOut (digits : Text) (point : Int) : Text :=
  if minPoint < point && point ≤ maxPoint then
    match point with
    | .ofNat 0 => text "0." ++ digits
    | .ofNat p =>
      if digits.length ≤ p then digits ++ Text.zeros (p - digits.length) ++ text ".0"
      else digits.take p ++ text "." ++ digits.drop p
    | .negSucc k => text "0." ++ Text.zeros (k + 1) ++ digits
  else
    let exponent := point - 1
    let size := Text.ofNat exponent.natAbs
    let size := if size.length < 2 then text "0" ++ size else size
    digits.take 1 ++ (if digits.length > 1 then text "." ++ digits.drop 1 else [])
      ++ text (if exponent < 0 then "e-" else "e+") ++ size

/-- The text of a double. -/
def render : Binary64 → Text
  | .finite negative m e =>
    let magnitude :=
      if m = 0 then text "0.0"
      else
        let (digits, power) := shortest m e
        let ds := Text.ofNat digits
        layOut (trimZeros ds).1 (power + ds.length)
    if negative then text "-" ++ magnitude else magnitude
  | .infinite negative => text (if negative then "-inf" else "inf")
  | .nan => text "nan"

end TypeLint.Binary64
