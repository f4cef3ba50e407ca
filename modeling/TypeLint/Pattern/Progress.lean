import TypeLint.Pattern.Escape
import TypeLint.Pattern.Width
import TypeLint.Text.Identifier
import TypeLint.Text.Integer

/-!
# Groups being read

While a pattern is read, every parenthesis that is still open has a `Frame`, which holds the branches and
items read inside it so far.  `Progress` is the frames with what is left to read and with the groups that
have been numbered.

* `Frame.body` — the expression of a frame;
* `Progress.push`, `Progress.branch`, `Progress.enter`, `Progress.leave` — an item, a new branch, a new frame,
  the end of a frame;
* `Progress.reference` — the index of a group that may be referred to here.
-/

namespace TypeLint.Pattern

/-- What a parenthesis has begun. -/
inductive GroupKind where
  /-- the whole pattern, without a parenthesis -/
  | whole
  | capture (index : Nat)
  | flagged (on off : Flags)
  | atomic
  | look (ahead negated : Bool)
  | conditional (index : Nat)

/-- A set of characters that is being read; its items stand last first. -/
structure SetFrame where
  start : Nat
  negated : Bool
  items : List SetItem

/-- A group that is being read; branches and items stand last first. -/
structure Frame where
  kind : GroupKind
  /-- the position of its parenthesis -/
  start : Nat
  /-- whether white space and comments are left out -/
  verbose : Bool
  /-- inside an assertion about what stands behind, the number of groups before it -/
  behind : Option Nat
  branches : List Regex
  items : List Regex

namespace Frame

/-- The branch that is being read. -/
def lastBranch (f : Frame) : Regex := .seq f.items.reverse

/-- The expression of the branches. -/
def body (f : Frame) : Regex :=
  if f.branches.isEmpty then f.lastBranch else .alt (f.lastBranch :: f.branches).reverse

/-- The expression of a group with its branches, given the widths of the groups it refers to. -/
def regex (f : Frame) (groups : Nat → Width) : Regex :=
  match f.kind with
  | .whole => f.body
  | .capture index => .group index f.body
  | .flagged on off => .flagged on off f.body
  | .atomic => .atomic f.body
  | .look true negated => .look none negated f.body
  | .look false negated => .look (some (f.body.width groups)) negated f.body
  | .conditional index =>
    match f.branches with
    | [] => .conditional index f.lastBranch (.seq [])
    | yes :: _ => .conditional index yes f.lastBranch

end Frame

/-- How far the reading of a pattern has come. -/
structure Progress where
  cursor : Cursor
  /-- the set that is being read, if any -/
  set : Option SetFrame
  frame : Frame
  /-- the frames around it, the innermost first -/
  outer : List Frame
  /-- the options of the whole pattern -/
  flags : Flags
  names : List (Text × Nat)
  /-- the widths of the groups by number, none for an open one -/
  widths : List (Option Width)
  /-- the groups that conditions ask for by number, each with its first place, the last first -/
  asked : List (Nat × Nat)

namespace Progress

/-- Before anything is read. -/
def start (pattern : Text) : Progress where
  cursor := .ofPattern pattern
  set := none
  frame := ⟨.whole, 0, false, none, [], []⟩
  outer := []
  flags := .empty
  names := []
  widths := []
  asked := []

/-- Go on reading at a place. -/
def goto (p : Progress) (cur : Cursor) : Progress := { p with cursor := cur }

/-- One more item. -/
def push (p : Progress) (r : Regex) : Progress :=
  { p with frame := { p.frame with items := r :: p.frame.items } }

/-- The width of a group that has been closed. -/
def width (p : Progress) (index : Nat) : Option Width :=
  if index = 0 then none else (p.widths[index - 1]?).join

/-- The width of each group, zero for one that has no width. -/
def groupWidths (p : Progress) (index : Nat) : Width := (p.width index).getD .zero

/-- A new branch of the group. -/
def branch (p : Progress) : Except Error Progress :=
  match p.frame.kind, p.frame.branches with
  | .conditional _, _ :: _ => .error (.at .tooManyBranches p.cursor.pos)
  | _, _ => .ok { p with frame := { p.frame with branches := p.frame.lastBranch :: p.frame.branches, items := [] } }

/-- A new group. -/
def enter (p : Progress) (kind : GroupKind) (start : Nat) : Progress :=
  let verbose := match kind with
    | .flagged on off => (p.frame.verbose || on.verbose) && !off.verbose
    | _ => p.frame.verbose
  let behind := match kind with
    | .look false _ => some (p.frame.behind.getD p.widths.length)
    | _ => p.frame.behind
  { p with frame := ⟨kind, start, verbose, behind, [], []⟩, outer := p.frame :: p.outer }

/-- A new group with a number. -/
def openCapture (p : Progress) (start : Nat) : Progress :=
  { p.enter (.capture (p.widths.length + 1)) start with widths := p.widths ++ [none] }

/-- The end of a group; the pattern as a whole has none. -/
def leave (p : Progress) : Option Progress :=
  match p.outer with
  | [] => none
  | f :: outer =>
    let widths := match p.frame.kind with
      | .capture index => p.widths.set (index - 1) (some (p.frame.body.width p.groupWidths))
      | _ => p.widths
    some { p with frame := { f with items := p.frame.regex p.groupWidths :: f.items }, outer := outer, widths := widths }

/-- Inside an assertion about what stands behind, only groups that ended before it can be referred to. -/
def checkBehind (p : Progress) (index pos : Nat) : Except Error Unit :=
  match p.frame.behind with
  | none => .ok ()
  | some n =>
    if (p.width index).isNone then .error (.at .openGroup pos)
    else if index > n then .error (.at .groupBehind pos)
    else .ok ()

/-- A reference to a group that has ended. -/
def reference (p : Progress) (index start : Nat) (after : Cursor) : Except Error Progress := do
  if (p.width index).isNone then .error (.at .openGroup start)
  p.checkBehind index after.pos
  return (p.push (.backref index)).goto after

end Progress

end TypeLint.Pattern
