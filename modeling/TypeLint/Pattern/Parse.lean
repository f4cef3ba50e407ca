import TypeLint.Pattern.Option
import TypeLint.Pattern.Progress

/-!
# Patterns from text

Reading goes piece by piece.  A piece adds an item, repeats the last item, begins a branch, or begins or ends
a group or a set.  `Progress.step` reads on from one place, and `parse` repeats it to the end of the pattern;
every step reads at least one piece, so as many steps as there are pieces are enough.
-/

namespace TypeLint.Pattern

open Escape (decimalNumber)

/-- Repetition cannot be counted from this number on. -/
def repeatLimit : Nat := 4294967295

/-- Groups cannot be numbered from this number on. -/
def groupLimit : Nat := 1073741823

namespace Progress

/-! ## sets -/

/-- The end of a set. -/
def closeSet (p : Progress) (s : SetFrame) (after : Cursor) : Progress :=
  { (p.push (.set s.negated s.items.reverse)).goto after with set := none }

/-- Go on with a set. -/
def inSet (p : Progress) (s : SetFrame) (after : Cursor) : Progress :=
  { p.goto after with set := some s }

/-- A character or class of a set. -/
def setItem (piece : Piece) (start : Nat) (after : Cursor) : Except Error (SetItem × Cursor) :=
  match piece with
  | .plain c => .ok (.char c, after)
  | .escaped c => Escape.inSet c start after
  | .dangling => .error (.at .escapeAtEnd start)

/-- One item of a set, a range with both its ends. -/
def stepSet (p : Progress) (s : SetFrame) : Except Error Progress :=
  match p.cursor.next? with
  | none => .error (.at .unterminatedSet s.start)
  | some (lo, after) => do
    if lo = .plain ']' && !s.items.isEmpty then return p.closeSet s after
    let (item, after) ← setItem lo p.cursor.pos after
    match after.skip? '-' with
    | none => return p.inSet { s with items := item :: s.items } after
    | some dash =>
      match dash.next? with
      | none => .error (.at .unterminatedSet s.start)
      | some (hi, last) =>
        if hi = .plain ']' then
          return p.closeSet { s with items := .char '-' :: item :: s.items } last
        let (item', last) ← setItem hi dash.pos last
        match item, item' with
        | .char a, .char b =>
          if a.val ≤ b.val then return p.inSet { s with items := .range a b :: s.items } last
          else .error (.at (.badRange lo.text hi.text) (last.pos - (lo.text.length + 1 + hi.text.length)))
        | _, _ => .error (.at (.badRange lo.text hi.text) (last.pos - (lo.text.length + 1 + hi.text.length)))

/-- A set begins at the bracket at `start`. -/
def openSet (p : Progress) (start : Nat) (after : Cursor) : Progress :=
  match after.skip? '^' with
  | some inner => p.inSet ⟨start, true, []⟩ inner
  | none => p.inSet ⟨start, false, []⟩ after

/-! ## repetition -/

/-- A number of repetitions; none if no digits are given. -/
def count (digits : Text) : Except Error (Option Nat) :=
  if digits.isEmpty then .ok none
  else if digits.length > Text.maxDigits then .error .tooManyDigits
  else if decimalNumber digits ≥ repeatLimit then .error .repeatTooLarge
  else .ok (some (decimalNumber digits))

/-- The bounds between braces, behind the opening one; none if this is no repetition. -/
def bounds (inner : Cursor) : Except Error (Option (Nat × Option Nat × Cursor)) :=
  if inner.sees '\x7d' then .ok none
  else
    let (lo, c) := inner.digits
    let (hi, c) := match c.skip? ',' with
      | some c => c.digits
      | none => (lo, c)
    match c.skip? '\x7d' with
    | none => .ok none
    | some after => do
      let least ← count lo
      let most ← count hi
      if let some m := most then
        if m < least.getD 0 then .error (.at .leastAboveMost inner.pos)
      return some (least.getD 0, most, after)

/-- What repetition prefers, by the character behind it. -/
def mode (cur : Cursor) : Mode × Cursor :=
  match cur.skip? '?' with
  | some after => (.reluctant, after)
  | none => match cur.skip? '+' with
    | some after => (.possessive, after)
    | none => (.greedy, cur)

/-- Repeat the last item.  A place and a repetition cannot be repeated. -/
def repeatLast (p : Progress) (start least : Nat) (most : Option Nat) (after : Cursor) :
    Except Error Progress :=
  match p.frame.items with
  | [] | .anchor _ :: _ => .error (.at .nothingToRepeat start)
  | .repeated .. :: _ => .error (.at .multipleRepeat start)
  | item :: items =>
    let (mode, after) := mode after
    .ok { p with
      frame := { p.frame with items := .repeated least most mode item :: items }
      cursor := after }

/-! ## groups -/

/-- A name that is an identifier; `cur` stands before it. -/
def identifier (close : Char) (cur : Cursor) : Except Error (Text × Cursor) := do
  let (name, after) ← cur.name close "group name"
  if name.isIdentifier then return (name, after) else .error (.at (.badGroupName name) cur.pos)

/-- The number of a group by its name. -/
def index? (p : Progress) (name : Text) : Option Nat := (p.names.find? (·.1 = name)).map (·.2)

/-- A group with a name; `cur` stands before the name. -/
def openNamed (p : Progress) (start : Nat) (cur : Cursor) : Except Error Progress := do
  let (name, after) ← identifier '>' cur
  let index := p.widths.length + 1
  match p.index? name with
  | some old => .error (.at (.redefinedGroup name index old) cur.pos)
  | none => return { (p.openCapture start).goto after with names := (name, index) :: p.names }

/-- A reference to a group by its name; `cur` stands before the name. -/
def namedReference (p : Progress) (cur : Cursor) : Except Error Progress := do
  let (name, after) ← identifier ')' cur
  match p.index? name with
  | none => .error (.at (.unknownGroupName name) cur.pos)
  | some index => p.reference index cur.pos after

/-- What `(?P` begins; `question` is the position of the question mark. -/
def stepNamed (p : Progress) (start question : Nat) (cur : Cursor) : Except Error Progress :=
  match cur.next? with
  | none => .error (.at .unexpectedEnd cur.pos)
  | some (piece, after) =>
    if piece = .plain '<' then p.openNamed start after
    else if piece = .plain '=' then p.namedReference after
    else .error (.at (.unknownExtension (text "P" ++ piece.text)) question)

/-- A condition on a group, by name or number; `cur` stands before it. -/
def openConditional (p : Progress) (start : Nat) (cur : Cursor) : Except Error Progress := do
  let (name, after) ← cur.name ')' "group name"
  if name.isIdentifier then
    match p.index? name with
    | none => .error (.at (.unknownGroupName name) cur.pos)
    | some index =>
      p.checkBehind index after.pos
      return (p.enter (.conditional index) start).goto after
  else
    match name.integer? with
    | some (.ofNat index) =>
      if index = 0 then .error (.at .badGroupNumber cur.pos)
      if index ≥ groupLimit then .error (.at (.invalidReference index) cur.pos)
      p.checkBehind index after.pos
      let asked := if p.asked.any (·.1 = index) then p.asked else (index, cur.pos) :: p.asked
      return { (p.enter (.conditional index) start).goto after with asked := asked }
    | _ => .error (.at (.badGroupName name) cur.pos)

/-- An assertion about what stands behind; `cur` stands behind the angle bracket. -/
def openBehind (p : Progress) (start question : Nat) (cur : Cursor) : Except Error Progress :=
  match cur.next? with
  | none => .error (.at .unexpectedEnd cur.pos)
  | some (piece, after) =>
    if piece = .plain '=' then .ok ((p.enter (.look false false) start).goto after)
    else if piece = .plain '!' then .ok ((p.enter (.look false true) start).goto after)
    else .error (.at (.unknownExtension (text "<" ++ piece.text)) question)

/-- Options of a group or of the whole pattern. -/
def openFlags (p : Progress) (start : Nat) (group : FlagGroup) (after : Cursor) : Except Error Progress :=
  match group with
  | .inner on off => .ok ((p.enter (.flagged on off) start).goto after)
  | .global on =>
    if p.outer.isEmpty && p.frame.branches.isEmpty && p.frame.items.isEmpty then
      let flags := p.flags.union on
      .ok { p.goto after with flags := flags, frame := { p.frame with verbose := flags.verbose } }
    else .error (.at .lateFlags start)

/-- What `(?` begins; `cur` stands behind the question mark, which is at `question`. -/
def openExtension (p : Progress) (start question : Nat) (cur : Cursor) : Except Error Progress :=
  match cur.next? with
  | none => .error (.at .unexpectedEnd cur.pos)
  | some (piece, after) =>
    if piece = .plain 'P' then p.stepNamed start question after
    else if piece = .plain ':' then .ok ((p.enter (.flagged .empty .empty) start).goto after)
    else if piece = .plain '#' then
      match Cursor.upTo ')' after.rest after.pos with
      | (_, _, false) => .error (.at .unterminatedComment start)
      | (_, last, true) => .ok (p.goto last)
    else if piece = .plain '=' then .ok ((p.enter (.look true false) start).goto after)
    else if piece = .plain '!' then .ok ((p.enter (.look true true) start).goto after)
    else if piece = .plain '<' then p.openBehind start question after
    else if piece = .plain '(' then p.openConditional start after
    else if piece = .plain '>' then .ok ((p.enter .atomic start).goto after)
    else if piece = .plain '-' then do
      let (group, last) ← readMinus .empty after
      p.openFlags start group last
    else match FlagLetter.ofPiece? piece with
      | some letter => do
        let (group, last) ← readOn after.rest.length.succ letter .empty after
        p.openFlags start group last
      | none => .error (.at (.unknownExtension piece.text) question)

/-- What a parenthesis at `start` begins. -/
def openGroup (p : Progress) (start : Nat) (cur : Cursor) : Except Error Progress :=
  match cur.skip? '?' with
  | some inner => p.openExtension start cur.pos inner
  | none => .ok ((p.openCapture start).goto cur)

/-! ## steps -/

/-- An escape outside a set, at `start`. -/
def stepEscape (p : Progress) (c : CodePoint) (start : Nat) (cur : Cursor) : Except Error Progress := do
  let (meaning, after) ← Escape.outside c start cur
  match meaning with
  | .char d => return (p.push (.char d)).goto after
  | .ofClass k => return (p.push (.set false [k])).goto after
  | .anchor a => return (p.push (.anchor a)).goto after
  | .group index =>
    if index ≤ p.widths.length then p.reference index start after
    else .error (.at (.invalidReference index) (start + 1))

/-- The place behind a comment that goes to the end of the line.  A backslash cannot end the pattern, not even here. -/
def skipComment (cur : Cursor) : Except Error Cursor :=
  match Cursor.upTo '\n' cur.rest cur.pos with
  | (_, after, true) => .ok after
  | (_, after, false) =>
    if cur.rest.getLast? = some .dangling then .error (.at .escapeAtEnd (after.pos - 1)) else .ok after

/-- A character outside a set, at `start`. -/
def stepPlain (p : Progress) (c : CodePoint) (start : Nat) (after : Cursor) : Except Error Progress := do
  if p.frame.verbose && c.isAsciiBlank then .ok (p.goto after)
  else if p.frame.verbose && c = '#' then return p.goto (← skipComment after)
  else if c = '[' then .ok (p.openSet start after)
  else if c = '?' then p.repeatLast start 0 (some 1) after
  else if c = '*' then p.repeatLast start 0 none after
  else if c = '+' then p.repeatLast start 1 none after
  else if c = '\x7b' then do
    match ← bounds after with
    | none => return (p.push (.char c)).goto after
    | some (least, most, last) => p.repeatLast start least most last
  else if c = '.' then .ok ((p.push .any).goto after)
  else if c = '(' then p.openGroup start after
  else if c = '^' then .ok ((p.push (.anchor .lineStart)).goto after)
  else if c = '$' then .ok ((p.push (.anchor .lineEnd)).goto after)
  else .ok ((p.push (.char c)).goto after)

/-- Classes are not at once those of the ASCII block and those of all scripts. -/
def checkFlags (p : Progress) : Except Error Unit :=
  if p.flags.ascii && p.flags.unicode then .error .flagConflict else .ok ()

/-- Read on from one place; none at the end of the pattern. -/
def step (p : Progress) : Except Error (Option Progress) := do
  if let some s := p.set then return some (← p.stepSet s)
  match p.cursor.next? with
  | none =>
    if p.outer.isEmpty then return none else .error (.at .unterminatedGroup p.frame.start)
  | some (.dangling, _) => .error (.at .escapeAtEnd p.cursor.pos)
  | some (.escaped c, after) => return some (← p.stepEscape c p.cursor.pos after)
  | some (.plain c, after) =>
    if c = '|' then return some ((← p.branch).goto after)
    else if c = ')' then
      match p.leave with
      | some p => return some (p.goto after)
      | none =>
        p.checkFlags
        .error (.at .unbalanced p.cursor.pos)
    else return some (← p.stepPlain c p.cursor.pos after)

/-- Read to the end of the pattern. -/
def run : (fuel : Nat) → Progress → Except Error Progress
  | 0, p => .ok p
  | fuel + 1, p => do
    match ← p.step with
    | some p => run fuel p
    | none => return p

/-- Every group that a condition asks for by number exists. -/
def checkAsked (p : Progress) : Except Error Unit :=
  match p.asked.reverse.find? (·.1 > p.widths.length) with
  | some (index, pos) => .error (.at (.invalidReference index) pos)
  | none => .ok ()

end Progress

/-! ## what stands behind -/

mutual

/-- What stands behind has a fixed width, wherever it is asserted. -/
def Regex.checkBehind : Regex → Except Error Unit
  | .look behind _ body => do
    if let some w := behind then
      if w.least > Width.unbounded then .error (.whole .tooFarBehind)
      if w.least ≠ w.most then .error (.whole .variableBehind)
    body.checkBehind
  | .seq parts | .alt parts => checkAllBehind parts
  | .group _ body | .flagged _ _ body | .atomic body | .repeated _ _ _ body => body.checkBehind
  | .conditional _ yes no => do
    yes.checkBehind
    no.checkBehind
  | _ => .ok ()

/-- The same for several expressions. -/
def checkAllBehind : List Regex → Except Error Unit
  | [] => .ok ()
  | r :: rs => do
    r.checkBehind
    checkAllBehind rs

end

/-- A pattern: an expression with the options for all of it. -/
structure Expression where
  flags : Flags
  regex : Regex

/-- The expression of a pattern. -/
def parse (pattern : Text) : Except Error Expression := do
  let p ← (Progress.start pattern).run ((pieces pattern).length + 1)
  p.checkFlags
  p.checkAsked
  let regex := p.frame.body
  regex.checkBehind
  return ⟨p.flags, regex⟩

end TypeLint.Pattern
