import TypeLint.Json.Display

/-!
# Message templates

A template is text with fields in it.  Rendering puts the values of the fields in their places, as they read
in a message; a value is never itself taken for a template.
-/

namespace TypeLint.Rule

/-- A part of a template. -/
inductive Part where
  | literal (t : Text)
  | field (name : Text)
deriving DecidableEq

/-- A message with fields. -/
abbrev Template := List Part

/-- Why a field of a template has no text. -/
inductive FillError where
  | missing (name : Text)
  /-- a whole number of more than `Text.maxDigits` digits -/
  | tooManyDigits
deriving DecidableEq

namespace Template

/-- The template as it is written, the fields between braces. -/
def written (t : Template) : Text :=
  t.flatMap fun
    | .literal s => s
    | .field name => text "\x7b" ++ name ++ text "\x7d"

/-- The text in the place of a field. -/
def value (data : List (Text × Json)) (name : Text) : Except FillError Text :=
  match Json.lookup name data with
  | none => .error (.missing name)
  | some v =>
    match v.display? with
    | none => .error .tooManyDigits
    | some t => .ok t

/-- The message with the values of the fields, unless one of these has no text; the first one counts. -/
def render (data : List (Text × Json)) : Template → Except FillError Text
  | [] => .ok []
  | .literal s :: rest => do return s ++ (← render data rest)
  | .field name :: rest => do return (← value data name) ++ (← render data rest)

end Template

end TypeLint.Rule
