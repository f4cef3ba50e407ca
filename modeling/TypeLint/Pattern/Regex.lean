import TypeLint.Pattern.Width
import TypeLint.Text.Basic

/-!
# Regular expressions

The patterns of banned names: characters, sets, anchors, groups with and without capture, references back to
a group, conditions on a group, assertions about what stands ahead or behind, atomic groups, and greedy, lazy
and possessive repetition.
-/

namespace TypeLint.Pattern

/-- Options that can be switched on and off for a group. -/
structure Flags where
  ignoreCase : Bool := false
  multiline : Bool := false
  dotAll : Bool := false
  verbose : Bool := false
  /-- classes and case of the ASCII block only -/
  ascii : Bool := false
  /-- classes and case of all scripts; the default -/
  unicode : Bool := false
  /-- only for an expression as a whole; without effect on what it matches -/
  template : Bool := false
deriving DecidableEq

namespace Flags

/-- Either of two sets of options. -/
def union (a b : Flags) : Flags :=
  ⟨a.ignoreCase || b.ignoreCase, a.multiline || b.multiline, a.dotAll || b.dotAll, a.verbose || b.verbose,
    a.ascii || b.ascii, a.unicode || b.unicode, a.template || b.template⟩

/-- Both of two sets of options. -/
def inter (a b : Flags) : Flags :=
  ⟨a.ignoreCase && b.ignoreCase, a.multiline && b.multiline, a.dotAll && b.dotAll, a.verbose && b.verbose,
    a.ascii && b.ascii, a.unicode && b.unicode, a.template && b.template⟩

/-- No option. -/
def empty : Flags := {}

/-- The options inside a group that switches some `on` and some `off`. -/
def inside (f on off : Flags) : Flags where
  ignoreCase := (f.ignoreCase || on.ignoreCase) && !off.ignoreCase
  multiline := (f.multiline || on.multiline) && !off.multiline
  dotAll := (f.dotAll || on.dotAll) && !off.dotAll
  verbose := (f.verbose || on.verbose) && !off.verbose
  ascii := on.ascii || (f.ascii && !on.unicode)
  unicode := on.unicode || (f.unicode && !on.ascii)
  template := f.template

end Flags

/-- The classes of characters that have a letter of their own. -/
inductive CharClass where
  | digit
  | space
  | word
deriving DecidableEq

/-- A part of a set of characters. -/
inductive SetItem where
  | char (c : CodePoint)
  | range (lo hi : CodePoint)
  | ofClass (k : CharClass) (negated : Bool)
deriving DecidableEq

/-- Conditions on a place between two characters. -/
inductive Anchor where
  /-- `^` -/
  | lineStart
  /-- `$` -/
  | lineEnd
  /-- `\A` -/
  | textStart
  /-- `\Z` -/
  | textEnd
  /-- `\b` -/
  | boundary
  /-- `\B` -/
  | nonBoundary
deriving DecidableEq

/-- What repetition prefers. -/
inductive Mode where
  /-- more before fewer -/
  | greedy
  /-- fewer before more -/
  | reluctant
  /-- as many as possible, once and for all -/
  | possessive
deriving DecidableEq

/-- A regular expression.  Groups with capture are numbered from one. -/
inductive Regex where
  | char (c : CodePoint)
  | any
  | set (negated : Bool) (items : List SetItem)
  | anchor (a : Anchor)
  | seq (parts : List Regex)
  | alt (branches : List Regex)
  | group (index : Nat) (body : Regex)
  | flagged (on off : Flags) (body : Regex)
  | backref (index : Nat)
  | conditional (index : Nat) (yes no : Regex)
  /-- what follows, or what stands behind, over the given width -/
  | look (behind : Option Width) (negated : Bool) (body : Regex)
  | atomic (body : Regex)
  | repeated (least : Nat) (most : Option Nat) (mode : Mode) (body : Regex)

mutual

/-- The width of an expression, given the widths of the groups it refers to. -/
def Regex.width (groups : Nat → Width) : Regex → Width
  | .char _ | .any | .set _ _ => ⟨1, 1⟩
  | .anchor _ | .look _ _ _ => .zero
  | .seq parts => seqWidth groups parts
  | .alt branches => altWidth groups branches
  | .group _ body | .flagged _ _ body | .atomic body => body.width groups
  | .backref g => groups g
  | .conditional _ yes no => (yes.width groups).either (no.width groups)
  | .repeated least most _ body => (body.width groups).times least most

/-- The width of a sequence. -/
def seqWidth (groups : Nat → Width) : List Regex → Width
  | [] => .zero
  | r :: rs => (r.width groups).add (seqWidth groups rs)

/-- The width of a choice. -/
def altWidth (groups : Nat → Width) : List Regex → Width
  | [] => .zero
  | [r] => r.width groups
  | r :: rs => (r.width groups).either (altWidth groups rs)

end

end TypeLint.Pattern
