import TypeLint.Text.NameTable
import TypeLint.Text.Ranges

/-!
# Names of code points

Most names stand in a table.  A Korean syllable is named by its letters, and the ideographs and the
characters of two further scripts by their number.  The case of ASCII letters does not matter, other than in
the names of Korean syllables and of the unified ideographs.

* `syllable?`, `ideograph?` — the names that are formed by a rule;
* `numbered?` — the names in the table's manner that end in the number;
* `CodePoint.ofName?` — the code point of a name.
-/

namespace TypeLint

/-- The upper-case letter of an ASCII letter. -/
def CodePoint.asciiUpper (c : CodePoint) : CodePoint :=
  if c.within 'a' 'z' then ⟨c.val - 32, Nat.lt_of_le_of_lt (Nat.sub_le ..) c.isLt⟩ else c

namespace Name

/-- The letters that begin a Korean syllable. -/
def leads : List String :=
  ["G", "GG", "N", "D", "DD", "R", "M", "B", "BB", "S", "SS", "", "J", "JJ", "C", "K", "T", "P", "H"]

/-- The vowels of Korean syllables. -/
def vowels : List String :=
  ["A", "AE", "YA", "YAE", "EO", "E", "YEO", "YE", "O", "WA", "WAE", "OE", "YO", "U", "WEO", "WE", "WI", "YU",
    "EU", "YI", "I"]

/-- The letters that end a Korean syllable. -/
def tails : List String :=
  ["", "G", "GG", "GS", "N", "NJ", "NH", "D", "L", "LG", "LM", "LB", "LS", "LT", "LP", "LH", "M", "B", "BS", "S",
    "SS", "NG", "J", "C", "K", "T", "P", "H"]

/-- The longest letter that the text begins with, by its place, and the text behind it. -/
def letter? (t : Text) (place : Nat) : List String → Option (Nat × Text)
  | [] => none
  | s :: letters =>
    match t.after? (text s), letter? t (place + 1) letters with
    | none, found => found
    | some rest, none => some (place, rest)
    | some rest, some (i, shorter) => if shorter.length < rest.length then some (i, shorter) else some (place, rest)

/-- The number of a Korean syllable, by its letters. -/
def syllable? (t : Text) : Option Nat := do
  let (lead, t) ← letter? t 0 leads
  let (vowel, t) ← letter? t 0 vowels
  let (tail, t) ← letter? t 0 tails
  if t.isEmpty then some (0xac00 + (lead * vowels.length + vowel) * tails.length + tail) else none

/-- The unified ideographs. -/
def ideographRanges : List (Nat × Nat) := [
  (0x3400, 0x4dbf), (0x4e00, 0x9fff), (0x20000, 0x2a6df), (0x2a700, 0x2b738), (0x2b740, 0x2b81d),
  (0x2b820, 0x2cea1), (0x2ceb0, 0x2ebe0), (0x30000, 0x3134a)]

/-- The number of a unified ideograph: four or five hexadecimal digits in upper case. -/
def ideograph? (t : Text) : Option Nat := do
  let digits ← t.mapM CodePoint.hexValue?
  let n := Text.ofDigits 16 digits
  if (digits.length = 4 || digits.length = 5) && t.map CodePoint.asciiUpper = t &&
    Text.inRanges n ideographRanges then some n else none

/-- How the names start that end in the number of the code point, and the code points named so. -/
def numberedNames : List (String × List (Nat × Nat)) := [
  ("CJK COMPATIBILITY IDEOGRAPH-", [(0xf900, 0xfa6d), (0xfa70, 0xfad9), (0x2f800, 0x2fa1d)]),
  ("KHITAN SMALL SCRIPT CHARACTER-", [(0x18b00, 0x18cd5)]),
  ("NUSHU CHARACTER-", [(0x1b170, 0x1b2fb)])]

/-- The number at the end of a name, without needless zeros. -/
def numbered? (name : Text) : Option Nat :=
  numberedNames.findSome? fun (stem, ranges) => do
    let t ← name.after? (text stem)
    let digits ← t.mapM CodePoint.hexValue?
    let n := Text.ofDigits 16 digits
    if digits.length = (if n < 0x10000 then 4 else 5) && Text.inRanges n ranges then some n else none

/-- The number of the code point of that name. -/
def number? (name : Text) : Option Nat :=
  if let some t := name.after? (text "HANGUL SYLLABLE ") then syllable? t
  else if let some t := name.after? (text "CJK UNIFIED IDEOGRAPH-") then ideograph? t
  else
    let upper := name.map CodePoint.asciiUpper
    (numbered? upper).or (nameRuns.findSome? (·.find? upper))

end Name

/-- The code point of that name. -/
def CodePoint.ofName? (name : Text) : Option CodePoint := (Name.number? name).bind CodePoint.ofNat?

end TypeLint
