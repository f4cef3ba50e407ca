import TypeLint.Pattern.Error

/-!
# Reading a pattern

A pattern is read in *pieces*: a code point, or a backslash together with the code point behind it.  A
`Cursor` stands before a piece and knows how many code points came before it.

* `pieces` — the pieces of a pattern;
* `Cursor.next?`, `Cursor.skip?` — the next piece, and what follows it if it is a given character;
* `Cursor.run` — the characters of a class, up to a number of them;
* `Cursor.name` — everything up to a closing character.
-/

namespace TypeLint.Pattern

/-- One thing to read. -/
inductive Piece where
  | plain (c : CodePoint)
  | escaped (c : CodePoint)
  /-- a backslash at the end of the pattern -/
  | dangling
deriving DecidableEq

namespace Piece

/-- How a piece is written. -/
def text : Piece → Text
  | .plain c => [c]
  | .escaped c => ['\\', c]
  | .dangling => ['\\']

/-- The character that stands for itself. -/
def plain? : Piece → Option CodePoint
  | .plain c => some c
  | _ => none

end Piece

/-- The pieces of a pattern. -/
def pieces : Text → List Piece
  | [] => []
  | [c] => [if c = '\\' then .dangling else .plain c]
  | c :: d :: rest => if c = '\\' then .escaped d :: pieces rest else .plain c :: pieces (d :: rest)

/-- What is still to be read, and the position where it starts. -/
structure Cursor where
  rest : List Piece
  pos : Nat

namespace Cursor

/-- The start of a pattern. -/
def ofPattern (pattern : Text) : Cursor := ⟨pieces pattern, 0⟩

/-- The next piece, and the place behind it. -/
def next? : Cursor → Option (Piece × Cursor)
  | ⟨[], _⟩ => none
  | ⟨p :: rest, pos⟩ => some (p, ⟨rest, pos + p.text.length⟩)

/-- Whether the next piece is that character. -/
def sees (cur : Cursor) (c : Char) : Bool := cur.rest.head? = some (.plain c)

/-- The place behind a character, if it comes next. -/
def skip? (cur : Cursor) (c : Char) : Option Cursor :=
  if cur.sees c then some ⟨cur.rest.tail, cur.pos + 1⟩ else none

/-- The longest run of characters of a class, up to a number of them, and the place behind it. -/
def run (inClass : CodePoint → Bool) : (most : Nat) → Cursor → Text × Cursor
  | n + 1, ⟨.plain c :: rest, pos⟩ =>
    if inClass c then
      let (t, cur) := run inClass n ⟨rest, pos + 1⟩
      (c :: t, cur)
    else ([], ⟨.plain c :: rest, pos⟩)
  | _, cur => ([], cur)

/-- The digits that come next. -/
def digits (cur : Cursor) : Text × Cursor := cur.run CodePoint.isAsciiDigit cur.rest.length

/-- The pieces before a character, the place behind it, and whether it comes at all. -/
def upTo (close : Char) : List Piece → Nat → Text × Cursor × Bool
  | [], pos => ([], ⟨[], pos⟩, false)
  | p :: rest, pos =>
    if p = .plain close then ([], ⟨rest, pos + 1⟩, true)
    else
      let (t, cur, found) := upTo close rest (pos + p.text.length)
      (p.text ++ t, cur, found)

/-- A name that ends with `close`; `what` says what it is the name of. -/
def name (close : Char) (what : String) (cur : Cursor) : Except Error (Text × Cursor) :=
  match upTo close cur.rest cur.pos with
  | ([], _, _) => .error (.at (.missingName what) cur.pos)
  | (_ :: _, _, false) => .error (.at (.unterminatedName close) cur.pos)
  | (t, after, true) => .ok (t, after)

end Cursor

end TypeLint.Pattern
