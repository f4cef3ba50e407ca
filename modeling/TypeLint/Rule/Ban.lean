import TypeLint.Json.Basic
import TypeLint.Pattern.Match
import TypeLint.Pattern.Parse

/-!
# Bans

A ban is a pattern for names and a message.  A name is banned by the first ban in a list whose pattern it
matches.

* `Ban.ofEntry` — the ban of a list of one or two texts;
* `compile` — the bans of a list of entries;
* `Ban.applies`, `firstMatch` — whether a name is banned, and by which ban.
-/

namespace TypeLint.Rule

open Pattern

/-- A name that is not to be used, as a pattern, and what to say about it. -/
structure Ban where
  /-- the pattern, with an anchor at both ends -/
  pattern : Text
  expression : Expression
  message : Text

/-- The pattern of a raw name: anchored at both ends. -/
def Ban.anchored (raw : Text) : Text := text "^" ++ raw ++ text "$"

/-- Why an entry is no ban. -/
inductive EntryFault where
  | shape
  | notText
  | pattern (raw : Text) (error : Pattern.Error)

/-- The first entry that is no ban, and why. -/
structure BanError where
  index : Nat
  fault : EntryFault

namespace BanError

/-- The wording of an error of a pattern; none if it is no fault of the pattern's text. -/
def reason? (raw : Text) : Pattern.Error → Option Text
  | .at fault pos => some (fault.describeAt raw pos)
  | .whole fault => some fault.message
  | .repeatTooLarge | .tooManyDigits | .flagConflict => none

/-- The wording of an error; none if a pattern fails for another reason than its text. -/
def message? (e : BanError) : Option Text :=
  let entry := text "ban entry " ++ .ofNat e.index
  match e.fault with
  | .shape => some (entry ++ text " must be [name] or [name, message]")
  | .notText => some (entry ++ text " must contain strings")
  | .pattern raw error =>
    (reason? (Ban.anchored raw) error).map fun reason =>
      entry ++ text ": invalid pattern " ++ raw.quoted ++ text ": " ++ reason

end BanError

namespace Ban

/-- The ban of a pattern and a message. -/
def ofPattern (raw message : Text) : Except EntryFault Ban :=
  match parse (anchored raw) with
  | .ok e => .ok ⟨anchored raw, e, message⟩
  | .error e => .error (.pattern raw e)

/-- The ban of an entry: a list of a pattern and, unless it is empty, a message. -/
def ofEntry : Json → Except EntryFault Ban
  | .arr [.str raw] => ofPattern raw []
  | .arr [.str raw, .null] => ofPattern raw []
  | .arr [.str raw, .str message] => ofPattern raw message
  | .arr [_] | .arr [_, _] => .error .notText
  | _ => .error .shape

/-- Whether a ban applies to a name. -/
def applies (b : Ban) (name : Text) : Bool := (b.expression.regex.matcher b.expression.flags).search name

end Ban

/-- The bans of the entries from position `i` on. -/
def compileFrom : (i : Nat) → List Json → Except BanError (List Ban)
  | _, [] => .ok []
  | i, entry :: rest =>
    match Ban.ofEntry entry with
    | .error fault => .error ⟨i, fault⟩
    | .ok ban => (compileFrom (i + 1) rest).map (ban :: ·)

/-- The bans of a list of entries. -/
def compile (entries : List Json) : Except BanError (List Ban) := compileFrom 0 entries

/-- The first ban that applies to a name. -/
def firstMatch (bans : List Ban) (name : Text) : Option Ban := bans.find? (·.applies name)

end TypeLint.Rule
