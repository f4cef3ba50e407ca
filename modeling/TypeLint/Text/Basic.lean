/-!
# Text

A source file, a configuration value and a message are all *text*: a sequence of code points.  A code
point may be a lone surrogate, which an escape can spell and a Unicode scalar value cannot be, so text is
kept as a list of `CodePoint`s and not as a `String`.

* `CodePoint` — a number below `0x110000`;
* `text` — the text of a string literal;
* `Text.ofNat`, `Text.hex` — decimal and hexadecimal numerals;
* `Text.split`, `Text.join` — cutting at a separator and putting together again.
-/

namespace TypeLint

/-- A Unicode code point, surrogates included. -/
structure CodePoint where
  val : Nat
  isLt : val < 0x110000
deriving DecidableEq

namespace CodePoint

/-- Every scalar value is a code point. -/
def ofChar (c : Char) : CodePoint where
  val := c.toNat
  isLt := by
    have h := c.valid
    have hc : c.toNat = c.val.toNat := rfl
    simp only [UInt32.isValidChar, Nat.isValidChar] at h
    omega

instance : Coe Char CodePoint := ⟨ofChar⟩

/-- The end of a line. -/
def lineFeed : CodePoint := '\n'

/-- The code point of that number, if there is one. -/
def ofNat? (n : Nat) : Option CodePoint :=
  if h : n < 0x110000 then some ⟨n, h⟩ else none

/-- Surrogates are the code points that are no scalar values. -/
def isSurrogate (c : CodePoint) : Bool := 0xD800 ≤ c.val && c.val < 0xE000

/-- The scalar value of a code point that is not a surrogate. -/
def toChar? (c : CodePoint) : Option Char :=
  if h : c.val.isValidChar then some (Char.ofNatAux c.val h) else none

/-- `c` stands between `lo` and `hi`, both included. -/
def within (c : CodePoint) (lo hi : Char) : Bool := lo.toNat ≤ c.val && c.val ≤ hi.toNat

/-- A digit of the ASCII block. -/
def isAsciiDigit (c : CodePoint) : Bool := c.within '0' '9'

/-- A letter of the ASCII block. -/
def isAsciiLetter (c : CodePoint) : Bool := c.within 'a' 'z' || c.within 'A' 'Z'

/-- The value of a hexadecimal digit. -/
def hexValue? (c : CodePoint) : Option Nat :=
  if c.within '0' '9' then some (c.val - 48)
  else if c.within 'a' 'f' then some (c.val - 87)
  else if c.within 'A' 'F' then some (c.val - 55)
  else none

/-- The value of an octal digit. -/
def octalValue? (c : CodePoint) : Option Nat :=
  if c.within '0' '7' then some (c.val - 48) else none

end CodePoint

/-- A sequence of code points. -/
abbrev Text := List CodePoint

/-- The text of a string. -/
def text (s : String) : Text := s.toList.map CodePoint.ofChar

namespace Text

/-- The digit of value `d` in lower-case hexadecimal. -/
def digit (d : Nat) : CodePoint := CodePoint.ofChar (Nat.digitChar d)

/-- The decimal numeral of `n`. -/
def ofNat (n : Nat) : Text := (Nat.toDigits 10 n).map CodePoint.ofChar

/-- The decimal numeral of `i`, with a minus sign if it is negative. -/
def ofInt : Int → Text
  | .ofNat n => ofNat n
  | .negSucc n => CodePoint.ofChar '-' :: ofNat (n + 1)

/-- That many zeros. -/
def zeros (n : Nat) : Text := List.replicate n (CodePoint.ofChar '0')

/-- The last `width` hexadecimal digits of `n`, most significant first. -/
def hex (width n : Nat) : Text :=
  match width with
  | 0 => []
  | w + 1 => hex w (n / 16) ++ [digit (n % 16)]

/-- The number that a list of digit values spells in base `b`. -/
def ofDigits (b : Nat) (ds : List Nat) : Nat := ds.foldl (fun n d => n * b + d) 0

/-- The parts between the separators, with `sep` between each two of them in `join`. -/
def split (sep : CodePoint) : Text → List Text
  | [] => [[]]
  | c :: cs =>
    if c = sep then [] :: split sep cs
    else match split sep cs with
      | [] => [[c]]
      | part :: parts => (c :: part) :: parts

/-- The parts one after the other, with `sep` between each two of them. -/
def join (sep : Text) : List Text → Text
  | [] => []
  | [part] => part
  | part :: parts => part ++ sep ++ join sep parts

/-- `t` without the leading `p`, if it starts with `p`. -/
def after? : (t p : Text) → Option Text
  | t, [] => some t
  | [], _ :: _ => none
  | c :: t, a :: p => if a = c then after? t p else none

/-- What remains behind `p` makes up the text together with it. -/
theorem after?_eq_some {p t rest : Text} (h : t.after? p = some rest) : t = p ++ rest := by
  induction p generalizing t with
  | nil => simpa [after?] using h
  | cons a p ih =>
    cases t with
    | nil => simp [after?] at h
    | cons c t =>
      simp only [after?] at h
      split at h
      · next hac => simp [hac, ih h]
      · simp at h

theorem after?_append (p rest : Text) : after? (p ++ rest) p = some rest := by
  induction p with
  | nil => simp [after?]
  | cons a p ih => simp [after?, ih]

/-- `t` starts with `p`. -/
def startsWith (t p : Text) : Bool := (t.after? p).isSome

/-- The order of texts by their code points. -/
def le : Text → Text → Bool
  | [], _ => true
  | _ :: _, [] => false
  | a :: s, b :: t => a.val < b.val || (a = b && le s t)

/-- The string of a text, with the replacement character for each surrogate. -/
def toString (t : Text) : String :=
  String.ofList (t.map fun c => c.toChar?.getD '\ufffd')

/-- Before the first `sep`, and what follows it if there is one. -/
def cut (sep : CodePoint) : Text → Text × Option Text
  | [] => ([], none)
  | c :: cs =>
    if c = sep then ([], some cs)
    else let (head, tail) := cut sep cs; (c :: head, tail)

end Text

end TypeLint
