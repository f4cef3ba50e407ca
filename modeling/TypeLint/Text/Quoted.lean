import TypeLint.Text.Basic
import TypeLint.Text.Name
import TypeLint.Text.Printable

/-!
# Quoted text

`Text.quoted` shows a text between quotes, with escapes for what cannot be shown as itself; messages and
string literals use this form.  `Text.unquoted` reads a string literal: any text between two equal quotes,
with the escapes

* `\n \t \r \b \f \v \a`, a backslash before a quote or a backslash;
* one to three octal digits; `\xHH`, `\uHHHH`, `\UHHHHHHHH`; `\N{NAME}`;
* a backslash before a carriage return, which stands for nothing.

A backslash before any other character stands for itself.
-/

namespace TypeLint

namespace Text

/-! ## writing -/

/-- The quote around `t`: the apostrophe, unless `t` has an apostrophe and no double quote. -/
def quoteFor (t : Text) : CodePoint :=
  if t.contains (CodePoint.ofChar '\'') && !t.contains (CodePoint.ofChar '"') then '"' else '\''

/-- A code point between the quotes `q`. -/
def escaped (q c : CodePoint) : Text :=
  if c = '\\' then text "\\\\"
  else if c = q then [CodePoint.ofChar '\\', c]
  else if c = '\n' then text "\\n"
  else if c = '\r' then text "\\r"
  else if c = '\t' then text "\\t"
  else if c.isPrintable then [c]
  else if c.val < 0x100 then text "\\x" ++ hex 2 c.val
  else if c.val < 0x10000 then text "\\u" ++ hex 4 c.val
  else text "\\U" ++ hex 8 c.val

/-- A text between quotes. -/
def quoted (t : Text) : Text :=
  let q := quoteFor t
  q :: t.flatMap (escaped q) ++ [q]

/-! ## reading -/

/-- How far the reading of an escape has come. -/
inductive Escape where
  /-- outside any escape -/
  | outside
  /-- behind the backslash -/
  | opened
  /-- so many hexadecimal digits to come, the last one not counted, and the value of those read -/
  | hex (left value : Nat)
  /-- at most so many octal digits to come, and the value of those read -/
  | octal (left value : Nat)
  /-- behind `\N` -/
  | nameOpened
  /-- inside the braces of `\N{…}`, with the letters read, the last one first -/
  | name (letters : Text)
deriving DecidableEq

/-- What a backslash and one letter stand for. -/
def letterEscape? (c : CodePoint) : Option CodePoint :=
  if c = '\\' || c = '\'' || c = '"' then some c
  else if c = 'n' then some '\n'
  else if c = 't' then some '\t'
  else if c = 'r' then some '\r'
  else if c = 'b' then some '\x08'
  else if c = 'f' then some '\x0c'
  else if c = 'v' then some '\x0b'
  else if c = 'a' then some '\x07'
  else none

namespace Escape

/-- A code point outside any escape.  A bare carriage return cannot stand in a literal. -/
def stepOutside (c : CodePoint) : Option (Text × Escape) :=
  if c = '\\' then some ([], .opened)
  else if c = '\r' then none
  else some ([c], .outside)

/-- The code point behind the backslash. -/
def stepOpened (c : CodePoint) : Option (Text × Escape) :=
  if c = '\r' then some ([], .outside)
  else match letterEscape? c, c.octalValue? with
    | some d, _ => some ([d], .outside)
    | none, some v => some ([], .octal 2 v)
    | none, none =>
      if c = 'x' then some ([], .hex 1 0)
      else if c = 'u' then some ([], .hex 3 0)
      else if c = 'U' then some ([], .hex 7 0)
      else if c = 'N' then some ([], .nameOpened)
      else some ([CodePoint.ofChar '\\', c], .outside)

/-- The code points that one more code point adds, and how far the escape has come with it. -/
def step : Escape → CodePoint → Option (Text × Escape)
  | .outside, c => stepOutside c
  | .opened, c => stepOpened c
  | .hex left v, c => do
    let d ← c.hexValue?
    match left with
    | 0 => return ([← CodePoint.ofNat? (v * 16 + d)], .outside)
    | left + 1 => return ([], .hex left (v * 16 + d))
  | .octal left v, c => do
    match left, c.octalValue? with
    | left + 1, some d => return ([], .octal left (v * 8 + d))
    | _, _ =>
      let (out, next) ← stepOutside c
      return ((← CodePoint.ofNat? v) :: out, next)
  | .nameOpened, c => if c = '{' then some ([], .name []) else none
  | .name letters, c => do
    if c = '}' then return ([← CodePoint.ofName? letters.reverse], .outside)
    else return ([], .name (c :: letters))

/-- What an escape stands for that ends with the literal. -/
def close : Escape → Option Text
  | .outside => some []
  | .octal _ v => (CodePoint.ofNat? v).map ([·])
  | _ => none

end Escape

/-- The text that a text with escapes stands for, read from within an escape. -/
def unescape (s : Escape) : Text → Option Text
  | [] => s.close
  | c :: cs => do
    let (out, next) ← s.step c
    return out ++ (← unescape next cs)

/-- Why a string literal has no value. -/
inductive QuoteError where
  /-- it holds a surrogate -/
  | surrogate
  /-- it holds the code point zero -/
  | zero
  /-- an escape is incomplete or names no code point, or a line ends in the literal -/
  | escape
deriving DecidableEq

/-- The value of a string literal, given with its quotes. -/
def unquoted (literal : Text) : Except QuoteError Text :=
  if literal.any CodePoint.isSurrogate then .error .surrogate
  else if literal.any (·.val = 0) then .error .zero
  else match unescape .outside literal.tail.dropLast with
    | some t => .ok t
    | none => .error .escape

end Text

end TypeLint
