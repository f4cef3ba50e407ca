import TypeLint.Source.Lexeme

/-!
# Line ends that end statements

A semicolon always ends a statement.  A line end does so if the token before it can be the last one of a
statement and no parenthesis or angle bracket is open since the innermost open brace.  A source that ends
behind such a token ends a statement too.

* `Role` — what a lexeme means for the layout;
* `Layout` — the open brackets and whether a statement can end here;
* `Layout.step` — whether a lexeme is passed on, dropped, or replaced by a terminator;
* `terminated` — a whole list of lexemes, with terminators in place of semicolons and line ends.
-/

namespace TypeLint.Source

/-- What a lexeme means for the layout. -/
inductive Role where
  | lineEnd
  | semicolon
  | parenOpen
  | parenClose
  | angleOpen
  | angleClose
  | braceOpen
  | braceClose
  /-- no bracket, and can be the last token of a statement -/
  | last
  /-- no bracket, and cannot be the last token of a statement -/
  | inner
deriving DecidableEq

/-- The role of a terminal. -/
def Terminal.role : Terminal → Role
  | .parenOpen => .parenOpen
  | .parenClose => .parenClose
  | .angleOpen => .angleOpen
  | .angleClose => .angleClose
  | .braceOpen => .braceOpen
  | .braceClose => .braceClose
  | .name | .number | .string | .bracketClose | .returnWord => .last
  | _ => .inner

/-- A statement can end behind a token of that role. -/
def Role.canEnd : Role → Bool
  | .parenClose | .angleClose | .braceClose | .last => true
  | _ => false

/-- The brackets open since the innermost open brace. -/
structure Frame where
  parens : Nat
  angles : Nat
deriving DecidableEq

/-- No open bracket. -/
def Frame.empty : Frame := ⟨0, 0⟩

/-- The brackets open at a place, and whether a statement can end there. -/
structure Layout where
  /-- since the innermost open brace -/
  inner : Frame
  /-- outside of each open brace, the innermost one first -/
  outer : List Frame
  canEnd : Bool
deriving DecidableEq

/-- What becomes of a lexeme. -/
inductive Verdict where
  | pass
  | drop
  | terminate
deriving DecidableEq

namespace Layout

/-- The start of a source. -/
def start : Layout := ⟨.empty, [], false⟩

/-- The brackets that are open behind a token.  A closing bracket without a partner closes nothing. -/
def brackets (l : Layout) : Role → Frame × List Frame
  | .parenOpen => ({ l.inner with parens := l.inner.parens + 1 }, l.outer)
  | .parenClose => ({ l.inner with parens := l.inner.parens - 1 }, l.outer)
  | .angleOpen => ({ l.inner with angles := l.inner.angles + 1 }, l.outer)
  | .angleClose => ({ l.inner with angles := l.inner.angles - 1 }, l.outer)
  | .braceOpen => (.empty, l.inner :: l.outer)
  | .braceClose =>
    match l.outer with
    | [] => (l.inner, [])
    | f :: fs => (f, fs)
  | _ => (l.inner, l.outer)

/-- What becomes of a lexeme of that role, and the layout behind it. -/
def step (l : Layout) : Role → Verdict × Layout
  | .lineEnd =>
    if l.canEnd && l.inner = .empty then (.terminate, { l with canEnd := false }) else (.drop, l)
  | .semicolon => (.terminate, { l with canEnd := false })
  | r =>
    let (inner, outer) := l.brackets r
    (.pass, ⟨inner, outer, r.canEnd⟩)

end Layout

/-- How the lexemes of a list are read by the layout and how terminators are made of them. -/
structure Marking (α : Type) where
  role : α → Role
  /-- the terminator in place of a semicolon or line end -/
  atLexeme : α → α
  /-- the terminator at the end of the source, behind its last token -/
  atEnd : α → α

/-- The lexemes from a place on, with terminators in place of semicolons and line ends.  The place is given
by the layout there and the last token before it. -/
def terminatedFrom {α : Type} (m : Marking α) (l : Layout) (last : Option α) : List α → List α
  | [] =>
    match l.canEnd, last with
    | true, some a => [m.atEnd a]
    | _, _ => []
  | a :: as =>
    match l.step (m.role a) with
    | (.pass, l) => a :: terminatedFrom m l (some a) as
    | (.drop, l) => terminatedFrom m l last as
    | (.terminate, l) => m.atLexeme a :: terminatedFrom m l last as

/-- A list of lexemes with terminators in place of semicolons and line ends. -/
def terminated {α : Type} (m : Marking α) (as : List α) : List α := terminatedFrom m .start none as

end TypeLint.Source
