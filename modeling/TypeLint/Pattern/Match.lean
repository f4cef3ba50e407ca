import TypeLint.Pattern.Charset

/-!
# Matching

A matcher tries the ways to match at a place in their order of preference, and hands each place reached to
what comes next until that succeeds.  `Regex.matcher` is the matcher of an expression, `Regex.search` tries
it at every place of a text.

Places are kept with the text on both sides.  A repetition that is not bound to go on does not go on from the
place where its last turn began, so the length of the text bounds the number of turns.
-/

namespace TypeLint.Pattern

/-- A place in a text, with the marks that groups have left. -/
structure Place where
  /-- the text before the place, the nearest code point first -/
  before : Text
  after : Text
  /-- where each group began last, and where it ended last -/
  starts : Nat → Option Nat
  ends : Nat → Option Nat

namespace Place

/-- The start of a text. -/
def start (t : Text) : Place := ⟨[], t, fun _ => none, fun _ => none⟩

/-- How much text is before the place. -/
def pos (p : Place) : Nat := p.before.length

/-- How long the text is. -/
def total (p : Place) : Nat := p.before.length + p.after.length

/-- The place behind the next code point. -/
def next? (p : Place) : Option (CodePoint × Place) :=
  match p.after with
  | [] => none
  | c :: rest => some (c, { p with before := c :: p.before, after := rest })

/-- The place `n` code points ahead. -/
def ahead? (p : Place) (n : Nat) : Option Place :=
  if n ≤ p.after.length then
    some { p with before := (p.after.take n).reverse ++ p.before, after := p.after.drop n }
  else none

/-- The place `n` code points back. -/
def back? (p : Place) (n : Nat) : Option Place :=
  if n ≤ p.before.length then
    some { p with before := p.before.drop n, after := (p.before.take n).reverse ++ p.after }
  else none

/-- A group begins here. -/
def markStart (p : Place) (g : Nat) : Place :=
  { p with starts := fun i => if i = g then some p.pos else p.starts i }

/-- A group ends here. -/
def markEnd (p : Place) (g : Nat) : Place :=
  { p with ends := fun i => if i = g then some p.pos else p.ends i }

/-- What a group has matched, if it has begun and ended. -/
def captured? (p : Place) (g : Nat) : Option Text :=
  match p.starts g, p.ends g with
  | some s, some e =>
    if s ≤ e then some (((p.before.reverse ++ p.after).drop s).take (e - s)) else none
  | _, _ => none

end Place

/-- Whether a place is of that kind. -/
def Anchor.holds (flags : Flags) (a : Anchor) (p : Place) : Bool :=
  let isWord : Option CodePoint → Bool := fun c => c.any (CharClass.word.admits flags)
  let boundary := isWord p.before.head? != isWord p.after.head?
  match a with
  | .textStart => p.before.isEmpty
  | .textEnd => p.after.isEmpty
  | .lineStart => p.before.isEmpty || (flags.multiline && p.before.head? = some .lineFeed)
  | .lineEnd =>
    p.after.isEmpty || p.after = [.lineFeed] || (flags.multiline && p.after.head? = some .lineFeed)
  | .boundary => p.total != 0 && boundary
  | .nonBoundary => p.total != 0 && !boundary

/-- The ways to go on from a place, in order of preference: the first that `k` accepts. -/
abbrev Matcher := (k : Place → Option Place) → Place → Option Place

namespace Matcher

/-- Nothing, always. -/
def empty : Matcher := fun k p => k p

/-- One code point of a class. -/
def one (inClass : CodePoint → Bool) : Matcher := fun k p =>
  match p.next? with
  | some (c, after) => if inClass c then k after else none
  | none => none

/-- Nothing, at places of a kind. -/
def guard (holds : Place → Bool) : Matcher := fun k p => if holds p then k p else none

/-- One after the other. -/
def seq (a b : Matcher) : Matcher := fun k p => a (b k) p

/-- The first, or else the second. -/
def alt (a b : Matcher) : Matcher := fun k p => (a k p).or (b k p)

/-- A group with a number. -/
def group (g : Nat) (a : Matcher) : Matcher := fun k p => a (fun q => k (q.markEnd g)) (p.markStart g)

/-- Only the first way. -/
def atomic (a : Matcher) : Matcher := fun k p => (a some p).bind k

/-- What a group has matched, once more. -/
def backref (same : CodePoint → CodePoint → Bool) (g : Nat) : Matcher := fun k p =>
  match p.captured? g with
  | none => none
  | some t =>
    if (t.zip p.after).all fun (a, b) => same a b then (p.ahead? t.length).bind k else none

/-- By whether a group has matched. -/
def conditional (g : Nat) (yes no : Matcher) : Matcher := fun k p =>
  if (p.captured? g).isSome then yes k p else no k p

/-- Without moving on: what follows, or what stands behind if `width` says how far back to look. -/
def look (width : Option Nat) (negated : Bool) (a : Matcher) : Matcher := fun k p =>
  let there := match width with
    | some n => p.back? n
    | none => some p
  match there.bind (a some) with
  | some q => if negated then none else k { p with starts := q.starts, ends := q.ends }
  | none => if negated then k p else none

/-- That many turns. -/
def times (a : Matcher) : Nat → Matcher
  | 0 => empty
  | n + 1 => seq a (times a n)

/-- Up to `most` further turns, rather more than fewer.  `last` is where the last turn began. -/
def more (a : Matcher) : (fuel : Nat) → (most : Option Nat) → (last : Option Nat) → Matcher
  | 0, _, _ => empty
  | fuel + 1, most, last => fun k p =>
    if most = some 0 || last = some p.pos then k p
    else (a (more a fuel (most.map (· - 1)) (some p.pos) k) p).or (k p)

/-- Up to `most` further turns, rather fewer than more. -/
def fewer (a : Matcher) : (fuel : Nat) → (most : Option Nat) → (last : Option Nat) → Matcher
  | 0, _, _ => empty
  | fuel + 1, most, last => fun k p =>
    (k p).or (if most = some 0 || last = some p.pos then none
      else a (fewer a fuel (most.map (· - 1)) (some p.pos) k) p)

/-- From `least` to `most` turns.  Beyond the length of the text further turns are empty and change
nothing. -/
def repeated (least : Nat) (most : Option Nat) (mode : Mode) (a : Matcher) : Matcher := fun k p =>
  let fuel := p.total + 2
  let rest := most.map (· - least)
  match mode with
  | .greedy => seq (times a (min least fuel)) (more a fuel rest none) k p
  | .reluctant => seq (times a (min least fuel)) (fewer a fuel rest none) k p
  | .possessive =>
    let once := atomic a
    atomic (seq (times once (min least fuel)) (more once fuel rest none)) k p

end Matcher

mutual

/-- The matcher of an expression under the options in force. -/
def Regex.matcher (flags : Flags) : Regex → Matcher
  | .char c => .one (flags.same c)
  | .any => .one fun c => flags.dotAll || c ≠ .lineFeed
  | .set negated items => .one (setAdmits flags negated items)
  | .anchor a => .guard (a.holds flags)
  | .seq parts => seqMatcher flags parts
  | .alt branches => altMatcher flags branches
  | .group index body => .group index (body.matcher flags)
  | .flagged on off body => body.matcher (flags.inside on off)
  | .backref index => .backref flags.sameLower index
  | .conditional index yes no => .conditional index (yes.matcher flags) (no.matcher flags)
  | .look behind negated body => .look (behind.map (·.least)) negated (body.matcher flags)
  | .atomic body => .atomic (body.matcher flags)
  | .repeated least most mode body => .repeated least most mode (body.matcher flags)

/-- The matcher of a sequence. -/
def seqMatcher (flags : Flags) : List Regex → Matcher
  | [] => .empty
  | r :: rs => .seq (r.matcher flags) (seqMatcher flags rs)

/-- The matcher of a choice. -/
def altMatcher (flags : Flags) : List Regex → Matcher
  | [] => fun _ _ => none
  | r :: rs => .alt (r.matcher flags) (altMatcher flags rs)

end

/-- Whether a matcher succeeds at one of the places of a text from `p` on. -/
def Matcher.succeeds (m : Matcher) : (rest : Text) → Place → Bool
  | [], p => (m some p).isSome
  | c :: rest, p =>
    (m some p).isSome || succeeds m rest { p with before := c :: p.before, after := rest }

/-- Whether a matcher succeeds anywhere in a text. -/
def Matcher.search (m : Matcher) (t : Text) : Bool := m.succeeds t (.start t)

end TypeLint.Pattern
