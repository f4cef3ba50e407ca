import TypeLint.Json.Basic
import TypeLint.Number.Shortest
import TypeLint.Text.Digit
import TypeLint.Text.Quoted

/-!
# Values in messages

`Json.display?` is how a value reads inside a message: a text as it is, everything else spelled out, with
texts inside lists and objects between quotes.  Of lists and tuples only lists are put into messages.  A value with
too long a whole number in it cannot be spelled.
-/

namespace TypeLint.Json

mutual

/-- The spelling of a value, texts between quotes. -/
def spell? : Json → Option Text
  | .null => text "None"
  | .bool b => text (if b then "True" else "False")
  | .int n => Text.ofInt? n
  | .float x => x.render
  | .str t => t.quoted
  | .arr items => do return text "[" ++ (← spellItems? items) ++ text "]"
  | .obj members => do return text "\x7b" ++ (← spellMembers? members) ++ text "\x7d"

/-- The spellings of the items of a list. -/
def spellItems? : List Json → Option Text
  | [] => some []
  | [v] => spell? v
  | v :: vs => do return (← spell? v) ++ text ", " ++ (← spellItems? vs)

/-- The spellings of the members of an object. -/
def spellMembers? : List (Text × Json) → Option Text
  | [] => some []
  | [(k, v)] => do return k.quoted ++ text ": " ++ (← spell? v)
  | (k, v) :: ms => do return k.quoted ++ text ": " ++ (← spell? v) ++ text ", " ++ (← spellMembers? ms)

end

/-- A value in a message. -/
def display? : Json → Option Text
  | .str t => some t
  | v => spell? v

end TypeLint.Json
