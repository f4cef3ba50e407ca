import TypeLint.Tree.Node

/-!
# Spans

A span says where a finding is: file, line and column, as far as they are known.
-/

namespace TypeLint.Report

open TypeLint.Tree

/-- Where a finding is. -/
structure Span where
  file : Option Text
  line : Option Int
  column : Option Int
  /-- the location it was made from -/
  origin : Option Loc
deriving DecidableEq

/-- What a span is made from. -/
inductive Place where
  | unknown
  | loc (l : Loc)
  | span (s : Span)

namespace Span

/-- Nothing is known. -/
def unknown : Span := ⟨none, none, none, none⟩

/-- A span without a file takes the given one. -/
def inFile (file : Option Text) (s : Span) : Span :=
  if s.file.isNone then { s with file := file } else s

/-- The span of a place in a file. -/
def ofPlace (file : Option Text) : Place → Span
  | .unknown => ⟨file, none, none, none⟩
  | .loc l => ⟨file, l.line, l.column, some l⟩
  | .span s => s.inFile file

/-- A place that is a span and lacks no file that is given stays as it is. -/
def isReused (file : Option Text) : Place → Bool
  | .span s => s.file.isSome || file.isNone
  | _ => false

/-- Findings are sorted by file, line and column, the unknown ones first. -/
structure Key where
  file : Text
  line : Int
  column : Int
deriving DecidableEq

/-- What a span is sorted by. -/
def key (s : Span) : Key := ⟨s.file.getD [], s.line.getD 0, s.column.getD 0⟩

/-- The order of findings. -/
def Key.le (a b : Key) : Bool :=
  if a.file ≠ b.file then a.file.le b.file
  else a.line < b.line || (a.line = b.line && a.column ≤ b.column)

end Span

end TypeLint.Report
