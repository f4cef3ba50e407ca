import TypeLint.Text.Basic

/-!
# Tokens

A token is a terminal of the grammar with the text it was read from and the position of that text.

* `Pos` — line and column, both from one; a line ends with a line feed;
* `Terminal` — the terminals; the three words that open a declaration of variables are one terminal, and so
  are the two signs and the two factor operators;
* `Token` — a terminal as read from a source.
-/

namespace TypeLint.Source

/-- A position in a source. -/
structure Pos where
  line : Nat
  column : Nat
deriving DecidableEq

namespace Pos

/-- The position of the first code point of a source. -/
def start : Pos := ⟨1, 1⟩

/-- The position behind one more code point. -/
def next (p : Pos) (c : CodePoint) : Pos :=
  if c = CodePoint.lineFeed then ⟨p.line + 1, 1⟩ else ⟨p.line, p.column + 1⟩

/-- The position behind a text that starts at `p`. -/
def after (p : Pos) (t : Text) : Pos := t.foldl next p

end Pos

/-- The terminals of the grammar. -/
inductive Terminal where
  | name
  | number
  | string
  /-- `const`, `let` or `var` -/
  | binderWord
  | functionWord
  | classWord
  | newWord
  | returnWord
  | extendsWord
  /-- `+` or `-` -/
  | addOp
  /-- `*` or `/` -/
  | mulOp
  | question
  | bar
  | bracketOpen
  | bracketClose
  | arrow
  | equals
  | colon
  | comma
  | dot
  | parenOpen
  | parenClose
  | braceOpen
  | braceClose
  | angleOpen
  | angleClose
  /-- the end of a statement or member, written as a semicolon or a line end -/
  | terminator
  /-- the end of the source -/
  | finish
deriving DecidableEq

/-- A terminal with its text and position. -/
structure Token where
  kind : Terminal
  text : Text
  pos : Pos
deriving DecidableEq

end TypeLint.Source
