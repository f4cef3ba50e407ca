import TypeLint.Proofs.Pattern.Language
import TypeLint.Proofs.Pattern.Steps

/-!
# Simple patterns

The patterns that describe a language and nothing else: letters, the dot, classes, groups without a number, and greedy
repetition.

* `Simple.Atom`, `Simple.Branch`, `Simple.Choice` — simple patterns;
* `Simple.Branch.text`, `Simple.Branch.language` — how they are written, and the words they stand for;
* `Simple.Branch.regexes`, `Simple.Choice.branches` — their expressions;
* `Simple.recognizes_branch`, `Simple.recognizes_choice` — the expressions recognize the words;
* `Simple.search_single`, `Simple.search_ofList` — searching a text between the anchors.
-/

namespace TypeLint.Pattern.Simple

open scoped Computability

/-! ## patterns, as they are written -/

/-- A character that words are made of. -/
abbrev Letter := { c : CodePoint // c.isWord = true }

/-- A part of a class. -/
inductive Item where
  | char (c : Letter)
  | range (lo hi : Letter) (ordered : lo.1.val ≤ hi.1.val)

/-- How often something comes. -/
inductive Times where
  | once
  | optional
  | star
  | plus

mutual

/-- What can be repeated. -/
inductive Atom where
  | char (c : Letter)
  | any
  | set (negated : Bool) (first : Item) (others : List Item)
  | group (body : Choice)

/-- One thing after the other. -/
inductive Branch where
  | empty
  | part (atom : Atom) (times : Times) (rest : Branch)

/-- One of several branches. -/
inductive Choice where
  | single (branch : Branch)
  | either (branch : Branch) (rest : Choice)

end

/-- A part of a class as it is written. -/
def Item.text : Item → Text
  | .char c => [c.1]
  | .range lo hi _ => [lo.1, '-', hi.1]

/-- The mark behind what is repeated. -/
def Times.mark : Times → Text
  | .once => []
  | .optional => TypeLint.text "?"
  | .star => TypeLint.text "*"
  | .plus => TypeLint.text "+"

mutual

/-- An atom as it is written. -/
def Atom.text : Atom → Text
  | .char c => [c.1]
  | .any => TypeLint.text "."
  | .set negated first others =>
    TypeLint.text (if negated then "[^" else "[") ++ (first :: others).flatMap Item.text ++ TypeLint.text "]"
  | .group body => TypeLint.text "(?:" ++ body.text ++ TypeLint.text ")"

/-- A branch as it is written. -/
def Branch.text : Branch → Text
  | .empty => []
  | .part atom times rest => atom.text ++ times.mark ++ rest.text

/-- A choice as it is written. -/
def Choice.text : Choice → Text
  | .single branch => branch.text
  | .either branch rest => branch.text ++ TypeLint.text "|" ++ rest.text

end

/-! ## the words they stand for -/

/-- The characters of a part of a class. -/
def Item.Admits : Item → CodePoint → Prop
  | .char d, c => c = d.1
  | .range lo hi _, c => lo.1.val ≤ c.val ∧ c.val ≤ hi.1.val

/-- The words of something that comes so often. -/
def Times.language (l : Language CodePoint) : Times → Language CodePoint
  | .once => l
  | .optional => l + 1
  | .star => l∗
  | .plus => l * l∗

mutual

/-- The words of an atom. -/
def Atom.language : Atom → Language CodePoint
  | .char d => letter fun c => c = d.1
  | .any => letter fun c => c ≠ .lineFeed
  | .set false first others => letter fun c => ∃ item ∈ first :: others, item.Admits c
  | .set true first others => letter fun c => ¬∃ item ∈ first :: others, item.Admits c
  | .group body => body.language

/-- The words of a branch. -/
def Branch.language : Branch → Language CodePoint
  | .empty => 1
  | .part atom times rest => times.language atom.language * rest.language

/-- The words of a choice. -/
def Choice.language : Choice → Language CodePoint
  | .single branch => branch.language
  | .either branch rest => branch.language + rest.language

end

/-! ## what is read of them -/

def Item.setItem : Item → SetItem
  | .char c => .char c.1
  | .range lo hi _ => .range lo.1 hi.1

/-- The expression of something that comes so often. -/
def Times.regex (r : Regex) : Times → Regex
  | .once => r
  | .optional => .repeated 0 (some 1) .greedy r
  | .star => .repeated 0 none .greedy r
  | .plus => .repeated 1 none .greedy r

/-- The expression of several branches. -/
def joined : List Regex → Regex
  | [r] => r
  | rs => .alt rs

mutual

/-- The expression of an atom. -/
def Atom.regex : Atom → Regex
  | .char c => .char c.1
  | .any => .any
  | .set negated first others => .set negated ((first :: others).map Item.setItem)
  | .group body => .flagged .empty .empty (joined (body.branches [] []))

/-- The expressions of the parts of a branch. -/
def Branch.regexes : Branch → List Regex
  | .empty => []
  | .part atom times rest => times.regex atom.regex :: rest.regexes

/-- The expressions of the branches of a choice, if other parts stand before the first one and behind the last one. -/
def Choice.branches (before behind : List Regex) : Choice → List Regex
  | .single branch => [.seq (before ++ branch.regexes ++ behind)]
  | .either branch rest => .seq (before ++ branch.regexes) :: rest.branches [] behind

end

/-! ## matching -/

open Matcher (Recognizes)

theorem setAdmits_iff (items : List Item) (negated : Bool) (c : CodePoint) :
    setAdmits .empty negated (items.map Item.setItem) c = true ↔
      ((∃ item ∈ items, item.Admits c) ↔ negated = false) := by
  have hitem : ∀ item : Item, item.setItem.admits .empty c = true ↔ item.Admits c := by
    intro item
    cases item with
    | char d => simp [Item.setItem, SetItem.admits, Item.Admits, Flags.same, Flags.empty, eq_comm]
    | range lo hi ordered => simp [Item.setItem, SetItem.admits, Item.Admits, Flags.inRange, Flags.empty]
  have hany : (items.map Item.setItem).any (·.admits .empty c) = true ↔ ∃ item ∈ items, item.Admits c := by
    simp [hitem]
  unfold setAdmits
  rw [← hany]
  cases negated <;> simp

theorem recognizes_times {r : Regex} {l : Language CodePoint} (h : Recognizes (r.matcher .empty) l) (times : Times) :
    Recognizes ((times.regex r).matcher .empty) (times.language l) := by
  cases times with
  | once => exact h
  | optional => exact h.optional
  | star => exact h.star
  | plus => exact h.plus

theorem altMatcher_singleton (flags : Flags) (r : Regex) : altMatcher flags [r] = r.matcher flags := by
  funext k p
  simp [altMatcher, Matcher.alt]

theorem matcher_joined (flags : Flags) (rs : List Regex) : (joined rs).matcher flags = altMatcher flags rs := by
  fun_cases joined rs with
  | case1 r => rw [altMatcher_singleton]
  | case2 => rw [Regex.matcher]

mutual

theorem recognizes_atom : ∀ a : Atom, Recognizes (a.regex.matcher .empty) a.language
  | .char d => Matcher.recognizes_one (by simp [Flags.same, Flags.empty, eq_comm])
  | .any => Matcher.recognizes_one (by simp [Flags.empty])
  | .set negated first others => by
    cases negated with
    | false => exact Matcher.recognizes_one fun c => (setAdmits_iff (first :: others) false c).trans (by simp)
    | true => exact Matcher.recognizes_one fun c => (setAdmits_iff (first :: others) true c).trans (by simp)
  | .group body => by
    have hbody := recognizes_choice body
    have hinside : Flags.empty.inside .empty .empty = .empty := rfl
    rw [Atom.regex, Regex.matcher, hinside, matcher_joined]
    exact hbody

theorem recognizes_branch : ∀ b : Branch, Recognizes (seqMatcher .empty b.regexes) b.language
  | .empty => Matcher.recognizes_empty
  | .part atom times rest => (recognizes_times (recognizes_atom atom) times).seq (recognizes_branch rest)

theorem recognizes_choice : ∀ c : Choice, Recognizes (altMatcher .empty (c.branches [] [])) c.language
  | .single b => by
    rw [Choice.branches, altMatcher_singleton, Regex.matcher, List.nil_append, List.append_nil]
    exact recognizes_branch b
  | .either b rest => (recognizes_branch b).alt (recognizes_choice rest)

end

/-! ## matching between anchors -/

theorem seqMatcher_append (flags : Flags) (rs rs' : List Regex) :
    seqMatcher flags (rs ++ rs') = .seq (seqMatcher flags rs) (seqMatcher flags rs') := by
  induction rs with
  | nil => rfl
  | cons r rs ih =>
    rw [List.cons_append, seqMatcher, ih]
    rfl

/-- Nothing is left of the text, or one line feed. -/
def Ended (t : Text) : Prop := t = [] ∨ t = [.lineFeed]

theorem lineStart_iff {m : Matcher} {k : Place → Option Place} {p : Place} :
    (Matcher.seq (Regex.matcher .empty (.anchor .lineStart)) m k p).isSome ↔ p.before = [] ∧ (m k p).isSome := by
  have hholds : Anchor.holds .empty .lineStart p = p.before.isEmpty := by
    simp [Anchor.holds, Flags.empty]
  simp only [Matcher.seq, Regex.matcher, Matcher.guard, hholds, List.isEmpty_iff]
  split <;> simp [*]

theorem lineEnd_iff {p : Place} : (seqMatcher .empty [.anchor .lineEnd] some p).isSome ↔ Ended p.after := by
  have hholds : Anchor.holds .empty .lineEnd p = true ↔ Ended p.after := by
    simp [Anchor.holds, Flags.empty, Ended]
  simp only [seqMatcher, Matcher.seq, Regex.matcher, Matcher.guard, Matcher.empty]
  rw [← hholds]
  split <;> simp [*]

variable (b : Branch) (p : Place)

/-- A branch in the middle. -/
theorem branch_iff : (seqMatcher .empty b.regexes some p).isSome ↔ ∃ u, u <+: p.after ∧ u ∈ b.language := by
  refine (recognizes_branch b some p).trans ⟨?_, ?_⟩
  · rintro ⟨u, v, hp, hu, -⟩
    exact ⟨u, ⟨v, hp.symm⟩, hu⟩
  · rintro ⟨u, ⟨v, hp⟩, hu⟩
    exact ⟨u, v, hp.symm, hu, rfl⟩

/-- A branch before the second anchor. -/
theorem branch_lineEnd_iff : (seqMatcher .empty (b.regexes ++ [.anchor .lineEnd]) some p).isSome ↔
    ∃ u v, p.after = u ++ v ∧ u ∈ b.language ∧ Ended v := by
  rw [seqMatcher_append]
  refine (recognizes_branch b _ p).trans ?_
  simp only [lineEnd_iff, Place.after_beyond]

/-- The branches behind the first one. -/
def Choice.ofList (middle : List Branch) (last : Branch) : Choice := middle.foldr .either (.single last)

theorem Choice.text_ofList (middle : List Branch) (last : Branch) :
    (Choice.ofList middle last).text =
      List.intercalate (TypeLint.text "|") ((middle ++ [last]).map Branch.text) := by
  induction middle with
  | nil => simp [Choice.ofList, Choice.text, List.intercalate]
  | cons b middle ih =>
    obtain ⟨t, rest, hrest⟩ := List.exists_cons_of_ne_nil (l := (middle ++ [last]).map Branch.text) (by simp)
    have htext : (Choice.ofList (b :: middle) last).text =
        b.text ++ TypeLint.text "|" ++ (Choice.ofList middle last).text := rfl
    rw [htext, ih, List.cons_append, List.map_cons, hrest]
    simp [List.intercalate]

theorem branches_lineEnd_iff (middle : List Branch) :
    (altMatcher .empty ((Choice.ofList middle b).branches [] [.anchor .lineEnd]) some p).isSome ↔
      (∃ r ∈ middle, ∃ u, u <+: p.after ∧ u ∈ r.language) ∨ ∃ u v, p.after = u ++ v ∧ u ∈ b.language ∧ Ended v := by
  induction middle with
  | nil =>
    rw [Choice.ofList, List.foldr_nil, Choice.branches, altMatcher_singleton, Regex.matcher, List.nil_append,
      branch_lineEnd_iff]
    simp
  | cons r middle ih =>
    have halt : altMatcher .empty ((Choice.ofList (r :: middle) b).branches [] [.anchor .lineEnd]) some p =
        (seqMatcher .empty r.regexes some p).or
          (altMatcher .empty ((Choice.ofList middle b).branches [] [.anchor .lineEnd]) some p) := rfl
    rw [halt, Option.isSome_or, Bool.or_eq_true, branch_iff, ih]
    simp only [List.exists_mem_cons_iff, or_assoc]

/-- The matcher of a choice between the anchors. -/
def Choice.between (c : Choice) : Matcher := altMatcher .empty (c.branches [.anchor .lineStart] [.anchor .lineEnd])

theorem before_start_beyond (t u v : Text) : ((Place.start t).beyond u v).before = [] ↔ u = [] := by
  simp [Place.start, Place.beyond]

theorem search_single (t : Text) :
    (Choice.single b).between.search t = true ↔ t ∈ b.language ∨ ∃ s, t = s ++ [.lineFeed] ∧ s ∈ b.language := by
  have hmatcher : (Choice.single b).between = .seq (Regex.matcher .empty (.anchor .lineStart))
      (seqMatcher .empty (b.regexes ++ [.anchor .lineEnd])) := by
    rw [Choice.between, Choice.branches, altMatcher_singleton]
    rfl
  rw [hmatcher, Matcher.search_iff]
  simp only [lineStart_iff, branch_lineEnd_iff, before_start_beyond, Place.after_beyond]
  constructor
  · rintro ⟨_, _, rfl, rfl, u, v, rfl, hu, rfl | rfl⟩
    · exact .inl (by simpa using hu)
    · exact .inr ⟨u, rfl, hu⟩
  · rintro (ht | ⟨s, rfl, hs⟩)
    · exact ⟨[], t, rfl, rfl, t, [], by simp, ht, .inl rfl⟩
    · exact ⟨[], _, rfl, rfl, s, [.lineFeed], rfl, hs, .inr rfl⟩

theorem search_ofList (first : Branch) (middle : List Branch) (last : Branch) {t : Text} (h : .lineFeed ∉ t) :
    (Choice.ofList (first :: middle) last).between.search t = true ↔
      (∃ u, u <+: t ∧ u ∈ first.language) ∨ (∃ r ∈ middle, ∃ u, u <:+: t ∧ u ∈ r.language) ∨
        ∃ u, u <:+ t ∧ u ∈ last.language := by
  have halt : ∀ p, (Choice.ofList (first :: middle) last).between some p =
      (Matcher.seq (Regex.matcher .empty (.anchor .lineStart)) (seqMatcher .empty first.regexes) some p).or
        (altMatcher .empty ((Choice.ofList middle last).branches [] [.anchor .lineEnd]) some p) := fun _ => rfl
  rw [Matcher.search_iff]
  simp only [halt, Option.isSome_or, Bool.or_eq_true, lineStart_iff, branch_iff, branches_lineEnd_iff,
    before_start_beyond, Place.after_beyond]
  constructor
  · rintro ⟨u, v, rfl, ⟨rfl, w, hw, hwl⟩ | ⟨r, hr, w, hw, hwl⟩ | ⟨w, x, rfl, hw, hx⟩⟩
    · exact .inl ⟨w, hw, hwl⟩
    · exact .inr (.inl ⟨r, hr, w, hw.isInfix.trans (List.suffix_append u v).isInfix, hwl⟩)
    · -- there is no line feed for the second anchor to leave out
      have hnil : x = [] := hx.resolve_right (by rintro rfl; simp at h)
      subst hnil
      exact .inr (.inr ⟨w, by simp, hw⟩)
  · rintro (⟨w, hw, hwl⟩ | ⟨r, hr, w, ⟨u, v, rfl⟩, hwl⟩ | ⟨w, ⟨u, rfl⟩, hwl⟩)
    · exact ⟨[], t, rfl, .inl ⟨rfl, w, hw, hwl⟩⟩
    · exact ⟨u, w ++ v, by simp, .inr (.inl ⟨r, hr, w, List.prefix_append w v, hwl⟩)⟩
    · exact ⟨u, w, rfl, .inr (.inr ⟨w, [], by simp, hwl, .inl rfl⟩)⟩

end TypeLint.Pattern.Simple
