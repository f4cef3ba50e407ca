import TypeLint.Pattern.Cursor
import TypeLint.Pattern.Regex
import TypeLint.Text.Name

/-!
# Escapes in patterns

What a backslash and the code point behind it stand for: inside a set a character or a class, outside also
a place or a reference back to a group.  An escape by number goes on behind these two code points.

* `numbered?` — the escapes that give a code point by number or name;
* `inSet` — an escape inside a set;
* `outside` — an escape outside a set.
-/

namespace TypeLint.Pattern.Escape

/-- The control characters that have a letter, and the backslash. -/
def control? (c : CodePoint) : Option CodePoint :=
  if c = 'a' then some ⟨7, by omega⟩
  else if c = 'f' then some ⟨12, by omega⟩
  else if c = 'n' then some '\n'
  else if c = 'r' then some '\r'
  else if c = 't' then some '\t'
  else if c = 'v' then some ⟨11, by omega⟩
  else if c = '\\' then some '\\'
  else none

/-- The classes that have a letter, the upper-case letter for the characters not in the class. -/
def class? (c : CodePoint) : Option SetItem :=
  if c = 'd' then some (.ofClass .digit false)
  else if c = 'D' then some (.ofClass .digit true)
  else if c = 's' then some (.ofClass .space false)
  else if c = 'S' then some (.ofClass .space true)
  else if c = 'w' then some (.ofClass .word false)
  else if c = 'W' then some (.ofClass .word true)
  else none

/-- The places that have a letter. -/
def anchor? (c : CodePoint) : Option Anchor :=
  if c = 'A' then some .textStart
  else if c = 'Z' then some .textEnd
  else if c = 'b' then some .boundary
  else if c = 'B' then some .nonBoundary
  else none

/-- A hexadecimal digit. -/
def isHexDigit (c : CodePoint) : Bool := c.hexValue?.isSome

/-- An octal digit. -/
def isOctalDigit (c : CodePoint) : Bool := c.octalValue?.isSome

/-- The number that hexadecimal digits spell. -/
def hexNumber (t : Text) : Nat := Text.ofDigits 16 (t.filterMap CodePoint.hexValue?)

/-- The number that octal digits spell. -/
def octalNumber (t : Text) : Nat := Text.ofDigits 8 (t.filterMap CodePoint.octalValue?)

/-- The number that decimal digits spell. -/
def decimalNumber (t : Text) : Nat := Text.ofDigits 10 (t.map fun c => c.val - 48)

/-- The text of an escape. -/
def written (t : Text) : Text := CodePoint.ofChar '\\' :: t

/-- An escape with exactly `width` hexadecimal digits behind its letter. -/
def hex (letter : CodePoint) (width start : Nat) (cur : Cursor) : Except Error (CodePoint × Cursor) :=
  let (ds, after) := cur.run isHexDigit width
  if ds.length < width then .error (.at (.incompleteEscape (written (letter :: ds))) start)
  else match CodePoint.ofNat? (hexNumber ds) with
    | some c => .ok (c, after)
    | none => .error (.at (.badEscape (written (letter :: ds))) start)

/-- A code point by its name, between braces.  A surrogate cannot stand in a name that is looked up. -/
def named (start : Nat) (cur : Cursor) : Except Error (CodePoint × Cursor) :=
  match cur.skip? '\x7b' with
  | none => .error (.at .missingBrace cur.pos)
  | some inner => do
    let (name, after) ← inner.name '\x7d' "character name"
    if name.any CodePoint.isSurrogate then .error (.at (.badEscape (written ['N'])) (start + name.length + 2))
    else match CodePoint.ofName? name with
    | some c => .ok (c, after)
    | none => .error (.at (.unknownCharacter name) start)

/-- The escapes that give a code point by number or name.  The escape starts at `start`. -/
def numbered? (letter : CodePoint) (start : Nat) (cur : Cursor) :
    Option (Except Error (CodePoint × Cursor)) :=
  if letter = 'x' then some (hex letter 2 start cur)
  else if letter = 'u' then some (hex letter 4 start cur)
  else if letter = 'U' then some (hex letter 8 start cur)
  else if letter = 'N' then some (named start cur)
  else none

/-- An octal number of at most three digits, the first of which has been read.  It is at most 255. -/
def octal (first : CodePoint) (start : Nat) (cur : Cursor) : Except Error (CodePoint × Cursor) :=
  let (ds, after) := cur.run isOctalDigit 2
  match CodePoint.ofNat? (octalNumber (first :: ds)) with
  | some c =>
    if c.val ≤ 255 then .ok (c, after) else .error (.at (.octalTooLarge (written (first :: ds))) start)
  | none => .error (.at (.octalTooLarge (written (first :: ds))) start)

/-- Any other code point stands for itself, unless it is a letter or a digit. -/
def literal (c : CodePoint) (start : Nat) : Except Error CodePoint :=
  if c.isAsciiLetter || c.isAsciiDigit then .error (.at (.badEscape (written [c])) start) else .ok c

/-- An escape inside a set. -/
def inSet (c : CodePoint) (start : Nat) (cur : Cursor) : Except Error (SetItem × Cursor) :=
  if c = 'b' then .ok (.char ⟨8, by omega⟩, cur)
  else if let some d := control? c then .ok (.char d, cur)
  else if let some k := class? c then .ok (k, cur)
  else if let some r := numbered? c start cur then do
    let (d, after) ← r
    .ok (.char d, after)
  else if isOctalDigit c then do
    let (d, after) ← octal c start cur
    .ok (.char d, after)
  else do
    let d ← literal c start
    .ok (.char d, cur)

/-- What an escape outside a set stands for. -/
inductive Meaning where
  | char (c : CodePoint)
  | ofClass (k : SetItem)
  | anchor (a : Anchor)
  /-- a reference to a group -/
  | group (index : Nat)

/-- A number behind a backslash: three octal digits give a code point, anything else a group. -/
def decimal (first : CodePoint) (start : Nat) (cur : Cursor) : Except Error (Meaning × Cursor) :=
  let (second, after) := cur.run CodePoint.isAsciiDigit 1
  let (third, last) := after.run isOctalDigit 1
  if isOctalDigit first && !second.isEmpty && second.all isOctalDigit && !third.isEmpty then
    let ds := first :: (second ++ third)
    match CodePoint.ofNat? (octalNumber ds) with
    | some c =>
      if c.val ≤ 255 then .ok (.char c, last) else .error (.at (.octalTooLarge (written ds)) start)
    | none => .error (.at (.octalTooLarge (written ds)) start)
  else .ok (.group (decimalNumber (first :: second)), after)

/-- An escape outside a set. -/
def outside (c : CodePoint) (start : Nat) (cur : Cursor) : Except Error (Meaning × Cursor) :=
  if let some a := anchor? c then .ok (.anchor a, cur)
  else if let some k := class? c then .ok (.ofClass k, cur)
  else if let some d := control? c then .ok (.char d, cur)
  else if let some r := numbered? c start cur then do
    let (d, after) ← r
    .ok (.char d, after)
  else if c = '0' then do
    let (d, after) ← octal c start cur
    .ok (.char d, after)
  else if c.isAsciiDigit then decimal c start cur
  else do
    let d ← literal c start
    .ok (.char d, cur)

end TypeLint.Pattern.Escape
