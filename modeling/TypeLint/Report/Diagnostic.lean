import TypeLint.Json.Basic
import TypeLint.Report.Span

/-!
# Diagnostics

A diagnostic is a message with its place, and with the parts that the message was made from.
`Diagnostic.format` is its line for a reader, `Diagnostic.toJson` its value for a program.
-/

namespace TypeLint.Report

/-- A finding of a rule, or a reason why a source could not be looked at. -/
structure Diagnostic where
  message : Text
  rule : Option Text := none
  messageId : Option Text := none
  data : List (Text × Json) := []
  phase : Option Text := none
  severity : Text := text "error"
  span : Span := .unknown
  notes : List Text := []

namespace Diagnostic

/-- A number, or a question mark for an unknown one. -/
def known : Option Int → Text
  | some n => .ofInt n
  | none => text "?"

/-- The line `file:line:column: severity: message [rule]`. -/
def format (d : Diagnostic) : Text :=
  let file := match d.span.file with
    | some (c :: cs) => c :: cs
    | _ => text "<source>"
  let rule := match d.rule with
    | some (c :: cs) => text " [" ++ (c :: cs) ++ text "]"
    | _ => []
  file ++ text ":" ++ known d.span.line ++ text ":" ++ known d.span.column ++ text ": " ++ d.severity
    ++ text ": " ++ d.message ++ rule

/-- A text, or `null` for none. -/
def textValue : Option Text → Json
  | some t => .str t
  | none => .null

/-- A number, or `null` for none. -/
def intValue : Option Int → Json
  | some n => .int n
  | none => .null

/-- The members of a diagnostic. -/
def toJson (d : Diagnostic) : Json :=
  .obj [
    (text "phase", textValue d.phase),
    (text "rule", textValue d.rule),
    (text "message", .str d.message),
    (text "severity", .str d.severity),
    (text "file", textValue d.span.file),
    (text "line", intValue d.span.line),
    (text "column", intValue d.span.column),
    (text "data", .obj d.data),
    (text "notes", .arr (d.notes.map .str))]

/-- Whether it is an error and not only a warning. -/
def isError (d : Diagnostic) : Bool := d.severity = text "error"

end Diagnostic

end TypeLint.Report
