import TypeLint.Json.Basic
import TypeLint.Number.Shortest

/-!
# Writing JSON

`Json.write` writes a value on one line in ASCII, with a blank behind each comma and each colon.
-/

namespace TypeLint.Json

/-- One sixteen-bit unit as an escape. -/
def unit (n : Nat) : Text := text "\\u" ++ .hex 4 n

/-- A code point in a string. -/
def escape (c : CodePoint) : Text :=
  if c = '"' then text "\\\""
  else if c = '\\' then text "\\\\"
  else if c = '\n' then text "\\n"
  else if c = '\r' then text "\\r"
  else if c = '\t' then text "\\t"
  else if c = '\x0c' then text "\\f"
  else if c = '\x08' then text "\\b"
  else if c.within ' ' '~' then [c]
  else if c.val < 0x10000 then unit c.val
  else
    let n := c.val - 0x10000
    unit (0xD800 + n / 0x400) ++ unit (0xDC00 + n % 0x400)

/-- A string between its quotes. -/
def writeText (t : Text) : Text := text "\"" ++ t.flatMap escape ++ text "\""

/-- The text of a number that is no integer. -/
def writeFloat : Binary64 → Text
  | .nan => text "NaN"
  | .infinite negative => text (if negative then "-Infinity" else "Infinity")
  | x => x.render

mutual

/-- The text of a value. -/
def write : Json → Text
  | .null => text "null"
  | .bool b => text (if b then "true" else "false")
  | .int n => .ofInt n
  | .float x => writeFloat x
  | .str t => writeText t
  | .arr items => text "[" ++ writeItems items ++ text "]"
  | .obj members => text "\x7b" ++ writeMembers members ++ text "\x7d"

/-- The texts of the items of an array. -/
def writeItems : List Json → Text
  | [] => []
  | [v] => write v
  | v :: vs => write v ++ text ", " ++ writeItems vs

/-- The texts of the members of an object. -/
def writeMembers : List (Text × Json) → Text
  | [] => []
  | [(k, v)] => writeText k ++ text ": " ++ write v
  | (k, v) :: ms => writeText k ++ text ": " ++ write v ++ text ", " ++ writeMembers ms

end

end TypeLint.Json
