/-!
# Double precision numbers

A finite double is `mantissa · 2 ^ exponent` with a mantissa below `2 ^ 53`.  `Binary64.ofDecimal` is the
double nearest to a decimal number, a half going to the even mantissa, and infinity where the nearest one
would be too large; `Binary64.bits` is its interchange encoding.
-/

namespace TypeLint

/-- A double: a finite number with its sign, an infinity, or the result of no calculation. -/
inductive Binary64 where
  | finite (negative : Bool) (mantissa : Nat) (exponent : Int)
  | infinite (negative : Bool)
  | nan
deriving DecidableEq

namespace Binary64

/-- The exponent of the least subnormal number. -/
def minExponent : Int := -1074

/-- The exponent of the greatest finite number. -/
def maxExponent : Int := 971

/-- The integer nearest to `n / d`, a half going to the even neighbour. -/
def roundDiv (n d : Nat) : Nat :=
  let q := n / d
  let r := n % d
  if 2 * r < d then q
  else if 2 * r > d then q + 1
  else if q % 2 = 0 then q else q + 1

/-- The number of binary digits of `n`. -/
def bitLength (n : Nat) : Nat := if n = 0 then 0 else Nat.log2 n + 1

/-- `n / (d · 2 ^ e)`, rounded. -/
def scaled (n d : Nat) (e : Int) : Nat :=
  match e with
  | .ofNat k => roundDiv n (d * Nat.pow 2 k)
  | .negSucc k => roundDiv (n * Nat.pow 2 (k + 1)) d

/-- The double nearest to `n / d` in size, for a positive `d`. -/
def ofRatio (negative : Bool) (n d : Nat) : Binary64 :=
  if n = 0 then .finite negative 0 minExponent
  else
    -- `2 ^ (guess + 51) < n / d < 2 ^ (guess + 53)`: at most one step too small
    let guess : Int := (bitLength n : Int) - (bitLength d : Int) - 53
    let e := max guess minExponent
    let e := if scaled n d e < Nat.pow 2 53 then e else e + 1
    let m := scaled n d e
    let (m, e) := if m = Nat.pow 2 53 then (Nat.pow 2 52, e + 1) else (m, e)
    if e > maxExponent then .infinite negative else .finite negative m e

/-- The double nearest to `digits · 10 ^ power`.  Far outside the range of the finite doubles the power of
ten is not computed. -/
def ofDecimal (negative : Bool) (digits : Nat) (power : Int) : Binary64 :=
  if digits = 0 || ((bitLength digits / 3 : Nat) : Int) + power < -400 then
    .finite negative 0 minExponent
  else if power > 400 then .infinite negative
  else match power with
    | .ofNat k => ofRatio negative (digits * Nat.pow 10 k) 1
    | .negSucc k => ofRatio negative digits (Nat.pow 10 (k + 1))

/-- The 64 bits of the interchange format: sign, eleven bits of exponent, 52 of mantissa. -/
def bits : Binary64 → Nat
  | .finite negative m e =>
    let hidden := Nat.pow 2 52
    let magnitude := if m < hidden then m else (e - minExponent + 1).toNat * hidden + (m - hidden)
    (if negative then Nat.pow 2 63 else 0) + magnitude
  | .infinite negative => (if negative then Nat.pow 2 63 else 0) + 0x7ff * Nat.pow 2 52
  | .nan => 0x7ff8 * Nat.pow 2 48

/-- Zero of either sign. -/
def isZero : Binary64 → Bool
  | .finite _ m _ => m = 0
  | _ => false

end Binary64

end TypeLint
