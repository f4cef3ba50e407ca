import TypeLint.Number.Binary64
import TypeLint.Text.Basic

/-!
# JSON values

Members keep their order, and a member set again keeps its place.  Whole numbers and fractions are told
apart by how they are written.

Options, bans and schemas are such values too when no document is behind them.  Then `arr` stands for a list and
for a tuple alike: whatever looks at the shape of options or of a schema takes the one for the other.
-/

namespace TypeLint

/-- A JSON value. -/
inductive Json where
  | null
  | bool (b : Bool)
  | int (n : Int)
  | float (x : Binary64)
  | str (t : Text)
  /-- a list or a tuple -/
  | arr (items : List Json)
  | obj (members : List (Text × Json))

namespace Json

/-- The value of the member of that name. -/
def lookup (key : Text) (members : List (Text × Json)) : Option Json :=
  (members.find? (·.1 = key)).map (·.2)

/-- The members with `key` set to `v`: in its place if it is there, else at the end. -/
def set (key : Text) (v : Json) : List (Text × Json) → List (Text × Json)
  | [] => [(key, v)]
  | (k, w) :: rest => if k = key then (k, v) :: rest else (k, w) :: set key v rest

/-- The member of an object. -/
def get? (key : String) : Json → Option Json
  | .obj members => lookup (text key) members
  | _ => none

/-- Equal to the number zero; `false` counts as zero. -/
def isZero : Json → Bool
  | .int n => n = 0
  | .float x => x.isZero
  | .bool b => !b
  | _ => false

end Json

end TypeLint
