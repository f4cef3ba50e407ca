import TypeLint.Text.Quoted

/-!
# Faults of patterns

Why a text is no pattern, and where.  Positions count code points from the start of the pattern.
-/

namespace TypeLint.Pattern

/-- What is wrong with a pattern. -/
inductive Fault where
  | escapeAtEnd
  | badEscape (escape : Text)
  | incompleteEscape (escape : Text)
  | octalTooLarge (escape : Text)
  | missingBrace
  | missingName (what : String)
  | unterminatedName (close : Char)
  | unknownCharacter (name : Text)
  | openGroup
  | groupBehind
  | invalidReference (index : Nat)
  | unterminatedSet
  | badRange (lo hi : Text)
  | leastAboveMost
  | nothingToRepeat
  | multipleRepeat
  | unexpectedEnd
  | unknownExtension (extension : Text)
  | unterminatedComment
  | unterminatedGroup
  | badGroupName (name : Text)
  | unknownGroupName (name : Text)
  | badGroupNumber
  | redefinedGroup (name : Text) (new old : Nat)
  | tooManyBranches
  | lateFlags
  | localeFlag
  | incompatibleFlags
  | missingFlagEnd
  | unknownFlag
  | missingFlag
  | missingColon
  | fixedFlag
  | globalFlagOn
  | globalFlagOff
  | contradictoryFlags
  | unbalanced
  | tooFarBehind
  | variableBehind
  deriving DecidableEq

/-- The wording of a fault. -/
def Fault.message : Fault → Text
  | .escapeAtEnd => text "bad escape (end of pattern)"
  | .badEscape t => text "bad escape " ++ t
  | .incompleteEscape t => text "incomplete escape " ++ t
  | .octalTooLarge t => text "octal escape value " ++ t ++ text " outside of range 0-0o377"
  | .missingBrace => text "missing \x7b"
  | .missingName what => text "missing " ++ text what
  | .unterminatedName close => text "missing " ++ [CodePoint.ofChar close] ++ text ", unterminated name"
  | .unknownCharacter name => text "undefined character name " ++ name.quoted
  | .openGroup => text "cannot refer to an open group"
  | .groupBehind => text "cannot refer to group defined in the same lookbehind subpattern"
  | .invalidReference g => text "invalid group reference " ++ .ofNat g
  | .unterminatedSet => text "unterminated character set"
  | .badRange lo hi => text "bad character range " ++ lo ++ text "-" ++ hi
  | .leastAboveMost => text "min repeat greater than max repeat"
  | .nothingToRepeat => text "nothing to repeat"
  | .multipleRepeat => text "multiple repeat"
  | .unexpectedEnd => text "unexpected end of pattern"
  | .unknownExtension t => text "unknown extension ?" ++ t
  | .unterminatedComment => text "missing ), unterminated comment"
  | .unterminatedGroup => text "missing ), unterminated subpattern"
  | .badGroupName name => text "bad character in group name " ++ name.quoted
  | .unknownGroupName name => text "unknown group name " ++ name.quoted
  | .badGroupNumber => text "bad group number"
  | .redefinedGroup name new old =>
    text "redefinition of group name " ++ name.quoted ++ text " as group " ++ .ofNat new
      ++ text "; was group " ++ .ofNat old
  | .tooManyBranches => text "conditional backref with more than two branches"
  | .lateFlags => text "global flags not at the start of the expression"
  | .localeFlag => text "bad inline flags: cannot use 'L' flag with a str pattern"
  | .incompatibleFlags => text "bad inline flags: flags 'a', 'u' and 'L' are incompatible"
  | .missingFlagEnd => text "missing -, : or )"
  | .unknownFlag => text "unknown flag"
  | .missingFlag => text "missing flag"
  | .missingColon => text "missing :"
  | .fixedFlag => text "bad inline flags: cannot turn off flags 'a', 'u' and 'L'"
  | .globalFlagOn => text "bad inline flags: cannot turn on global flag"
  | .globalFlagOff => text "bad inline flags: cannot turn off global flag"
  | .contradictoryFlags => text "bad inline flags: flag turned on and off"
  | .unbalanced => text "unbalanced parenthesis"
  | .tooFarBehind => text "looks too much behind"
  | .variableBehind => text "look-behind requires fixed-width pattern"

/-- Why a text is refused as a pattern. -/
inductive Error where
  /-- a fault at a position -/
  | at (fault : Fault) (pos : Nat)
  /-- a fault of the pattern as a whole -/
  | whole (fault : Fault)
  /-- a number of repetitions that cannot be counted -/
  | repeatTooLarge
  /-- a number of repetitions of more digits than numbers have -/
  | tooManyDigits
  /-- classes both of the ASCII block only and of all scripts -/
  | flagConflict
  deriving DecidableEq

/-- A fault with its position; with line and column if the pattern has several lines. -/
def Fault.describeAt (f : Fault) (pattern : Text) (pos : Nat) : Text :=
  let place := f.message ++ text " at position " ++ .ofNat pos
  if pattern.contains CodePoint.lineFeed then
    let before := pattern.take pos
    let line := before.count CodePoint.lineFeed + 1
    let column := (before.reverse.takeWhile (· ≠ CodePoint.lineFeed)).length + 1
    place ++ text " (line " ++ .ofNat line ++ text ", column " ++ .ofNat column ++ text ")"
  else place

end TypeLint.Pattern
