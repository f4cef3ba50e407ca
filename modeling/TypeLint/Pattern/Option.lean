import TypeLint.Pattern.Cursor
import TypeLint.Pattern.Regex
import TypeLint.Text.Identifier

/-!
# Options of a group

A group may switch options on and, behind a minus sign, off.  Options that end with a parenthesis instead of
a colon are those of the whole pattern.
-/

namespace TypeLint.Pattern

/-- The letters of options. -/
inductive FlagLetter where
  | ignoreCase | locale | multiline | dotAll | verbose | ascii | template | unicode
deriving DecidableEq

namespace FlagLetter

/-- The option of a letter. -/
def ofCode? (c : CodePoint) : Option FlagLetter :=
  if c = 'i' then some .ignoreCase
  else if c = 'L' then some .locale
  else if c = 'm' then some .multiline
  else if c = 's' then some .dotAll
  else if c = 'x' then some .verbose
  else if c = 'a' then some .ascii
  else if c = 't' then some .template
  else if c = 'u' then some .unicode
  else none

/-- The option of a piece. -/
def ofPiece? (p : Piece) : Option FlagLetter := p.plain?.bind ofCode?

/-- With one more option. -/
def add (f : Flags) : FlagLetter → Flags
  | .ignoreCase => { f with ignoreCase := true }
  | .locale => f
  | .multiline => { f with multiline := true }
  | .dotAll => { f with dotAll := true }
  | .verbose => { f with verbose := true }
  | .ascii => { f with ascii := true }
  | .template => { f with template := true }
  | .unicode => { f with unicode := true }

/-- The options that choose what classes and case mean; they cannot be switched off. -/
def isType : FlagLetter → Bool
  | .locale | .ascii | .unicode => true
  | _ => false

end FlagLetter

/-- A piece that is a letter. -/
def Piece.isLetter (p : Piece) : Bool :=
  match p with
  | .plain c => c.isLetter
  | _ => false

/-- What the options of a group amount to. -/
inductive FlagGroup where
  | global (on : Flags)
  | inner (on off : Flags)

/-- The options to switch off, from the one that `letter` gives to the colon. -/
def readOff (on : Flags) : (fuel : Nat) → FlagLetter → Flags → Cursor → Except Error (FlagGroup × Cursor)
  | 0, _, _, cur => .error (.at .missingColon cur.pos)
  | fuel + 1, letter, off, cur => do
    if letter.isType then .error (.at .fixedFlag cur.pos)
    let off := letter.add off
    match cur.next? with
    | none => .error (.at .missingColon cur.pos)
    | some (p, after) =>
      if p = .plain ':' then
        if off.template then .error (.at .globalFlagOff cur.pos)
        else if on.inter off ≠ .empty then .error (.at .contradictoryFlags cur.pos)
        else .ok (.inner on off, after)
      else match FlagLetter.ofPiece? p with
        | some letter => readOff on fuel letter off after
        | none => .error (.at (if p.isLetter then .unknownFlag else .missingColon) cur.pos)

/-- The options to switch off, behind the minus sign. -/
def readMinus (on : Flags) (cur : Cursor) : Except Error (FlagGroup × Cursor) :=
  match cur.next? with
  | none => .error (.at .missingFlag cur.pos)
  | some (p, after) =>
    match FlagLetter.ofPiece? p with
    | some letter => readOff on cur.rest.length letter .empty after
    | none => .error (.at (if p.isLetter then .unknownFlag else .missingFlag) cur.pos)

/-- The options to switch on, from the one that `letter` gives on. -/
def readOn : (fuel : Nat) → FlagLetter → Flags → Cursor → Except Error (FlagGroup × Cursor)
  | 0, _, _, cur => .error (.at .missingFlagEnd cur.pos)
  | fuel + 1, letter, on, cur => do
    if letter = .locale then .error (.at .localeFlag cur.pos)
    let on := letter.add on
    if on.ascii && on.unicode && letter.isType then .error (.at .incompatibleFlags cur.pos)
    match cur.next? with
    | none => .error (.at .missingFlagEnd cur.pos)
    | some (p, after) =>
      if p = .plain ')' then .ok (.global on, after)
      else if p = .plain ':' || p = .plain '-' then
        if on.template then .error (.at .globalFlagOn cur.pos)
        else if p = .plain '-' then readMinus on after
        else .ok (.inner on .empty, after)
      else match FlagLetter.ofPiece? p with
        | some letter => readOn fuel letter on after
        | none => .error (.at (if p.isLetter then .unknownFlag else .missingFlagEnd) cur.pos)

end TypeLint.Pattern
