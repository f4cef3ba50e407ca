import Mathlib.Computability.Language
import TypeLint.Pattern.Match

/-!
# Matchers and languages

Without anchors, groups that are referred to and assertions, what a matcher does at a place is given by a language: it
goes on behind each word of the language that comes next, and only there.

* `Matcher.Recognizes` — a matcher goes on behind the words of a language;
* `Matcher.Recognizes.seq`, `Matcher.Recognizes.alt` — products and sums of languages;
* `Matcher.Recognizes.star`, `Matcher.Recognizes.plus`, `Matcher.Recognizes.optional` — greedy repetition;
* `Matcher.search_iff` — trying a matcher at every place of a text.
-/

namespace TypeLint.Pattern

open scoped Computability

/-! ## places -/

namespace Place

/-- The place behind `u`, with `v` ahead of it. -/
def beyond (p : Place) (u v : Text) : Place := { p with before := u.reverse ++ p.before, after := v }

variable {p : Place} {u v : Text}

@[simp]
theorem after_beyond (p : Place) (u v : Text) : (p.beyond u v).after = v := rfl

@[simp]
theorem beyond_beyond (p : Place) (u v u' v' : Text) : (p.beyond u v).beyond u' v' = p.beyond (u ++ u') v' := by
  simp [beyond]

theorem beyond_nil (h : p.after = v) : p.beyond [] v = p := by
  subst h
  rfl

@[simp]
theorem pos_beyond (p : Place) (u v : Text) : (p.beyond u v).pos = p.pos + u.length := by
  simp [beyond, pos, Nat.add_comm]

theorem total_beyond (h : p.after = u ++ v) : (p.beyond u v).total = p.total := by
  simp only [total, beyond, h, List.length_append, List.length_reverse]
  omega

theorem length_after_le_total (p : Place) : p.after.length ≤ p.total := Nat.le_add_left _ _

end Place

/-- The words of one letter of a class. -/
def letter (inClass : CodePoint → Prop) : Language CodePoint := {w | ∃ c, inClass c ∧ w = [c]}

namespace Matcher

/-! ## recognition -/

/-- At a place, a matcher goes on behind each word of a language that comes next, and only there. -/
def RecognizesAt (a : Matcher) (l : Language CodePoint) (k : Place → Option Place) (p : Place) : Prop :=
  (a k p).isSome ↔ ∃ u v, p.after = u ++ v ∧ u ∈ l ∧ (k (p.beyond u v)).isSome

/-- The same at every place. -/
def Recognizes (a : Matcher) (l : Language CodePoint) : Prop := ∀ k p, RecognizesAt a l k p

variable {a b : Matcher} {l m : Language CodePoint} {k : Place → Option Place} {p : Place}

theorem recognizes_empty : Recognizes empty 1 := by
  intro k p
  constructor
  · intro h
    exact ⟨[], p.after, rfl, Language.nil_mem_one, h⟩
  · rintro ⟨u, v, hp, hu, hk⟩
    obtain rfl : u = [] := (Language.mem_one u).1 hu
    rwa [Place.beyond_nil (v := v) hp] at hk

theorem recognizes_one {inClass : CodePoint → Bool} {q : CodePoint → Prop} (h : ∀ c, inClass c = true ↔ q c) :
    Recognizes (one inClass) (letter q) := by
  intro k p
  unfold RecognizesAt one Place.next?
  cases hp : p.after with
  | nil =>
    constructor
    · simp
    · rintro ⟨_, v, hnil, ⟨c, -, rfl⟩, -⟩
      simp at hnil
  | cons d rest =>
    dsimp only
    constructor
    · intro hk
      split at hk
      · next hd => exact ⟨[d], rest, rfl, ⟨d, (h d).1 hd, rfl⟩, hk⟩
      · simp at hk
    · rintro ⟨_, v, hcons, ⟨c, hc, rfl⟩, hk⟩
      obtain ⟨rfl, rfl⟩ : d = c ∧ rest = v := by simpa using hcons
      rw [if_pos ((h d).2 hc)]
      exact hk

theorem Recognizes.seqAt (ha : Recognizes a l) (hb : ∀ u v, p.after = u ++ v → RecognizesAt b m k (p.beyond u v)) :
    RecognizesAt (seq a b) (l * m) k p := by
  refine (ha (b k) p).trans ⟨?_, ?_⟩
  · rintro ⟨u, v, hp, hu, hk⟩
    obtain ⟨u', v', hv, hu', hk'⟩ := (hb u v hp).1 hk
    refine ⟨u ++ u', v', ?_, Language.append_mem_mul hu hu', by simpa using hk'⟩
    rw [hp, List.append_assoc]
    exact congrArg _ hv
  · rintro ⟨_, v, hp, hw, hk⟩
    obtain ⟨u, hu, u', hu', rfl⟩ := Language.mem_mul.1 hw
    rw [List.append_assoc] at hp
    exact ⟨u, u' ++ v, hp, hu, (hb u _ hp).2 ⟨u', v, rfl, hu', by simpa using hk⟩⟩

theorem Recognizes.seq (ha : Recognizes a l) (hb : Recognizes b m) : Recognizes (seq a b) (l * m) :=
  fun k _ => ha.seqAt fun _ _ _ => hb k _

theorem Recognizes.alt (ha : Recognizes a l) (hb : Recognizes b m) : Recognizes (alt a b) (l + m) := by
  intro k p
  unfold RecognizesAt
  rw [Matcher.alt, Option.isSome_or, Bool.or_eq_true, (ha k p).eq, (hb k p).eq]
  constructor
  · rintro (⟨u, v, hp, hu, hk⟩ | ⟨u, v, hp, hu, hk⟩)
    · exact ⟨u, v, hp, .inl hu, hk⟩
    · exact ⟨u, v, hp, .inr hu, hk⟩
  · rintro ⟨u, v, hp, hu | hu, hk⟩
    · exact .inl ⟨u, v, hp, hu, hk⟩
    · exact .inr ⟨u, v, hp, hu, hk⟩

/-! ## repetition -/

theorem more_succ (a : Matcher) (fuel : Nat) (most last : Option Nat) (k : Place → Option Place) (p : Place) :
    more a (fuel + 1) most last k p =
      if most = some 0 || last = some p.pos then k p
      else (a (more a fuel (most.map (· - 1)) (some p.pos) k) p).or (k p) :=
  rfl

/-- Each turn takes a word. -/
theorem Recognizes.mem_kstar_of_more (ha : Recognizes a l) {fuel : Nat} {last : Option Nat}
    (h : (more a fuel none last k p).isSome) :
    ∃ u v, p.after = u ++ v ∧ u ∈ l∗ ∧ (k (p.beyond u v)).isSome := by
  induction fuel generalizing last p with
  | zero => exact ⟨[], p.after, rfl, Language.nil_mem_kstar l, h⟩
  | succ fuel ih =>
    have hstop : (k p).isSome → ∃ u v, p.after = u ++ v ∧ u ∈ l∗ ∧ (k (p.beyond u v)).isSome :=
      fun hk => ⟨[], p.after, rfl, Language.nil_mem_kstar l, hk⟩
    rw [more_succ] at h
    split at h
    · exact hstop h
    · rw [Option.isSome_or, Bool.or_eq_true] at h
      rcases h with h | h
      · obtain ⟨u, v, hp, hu, hmore⟩ := (ha _ p).1 h
        obtain ⟨u', v', hv, hu', hk⟩ := ih hmore
        refine ⟨u ++ u', v', ?_, ?_, by simpa using hk⟩
        · rw [hp, List.append_assoc]
          exact congrArg _ hv
        · exact mul_kstar_le_kstar (a := l) (Language.append_mem_mul hu hu')
      · exact hstop h

/-- Words that are not empty take turn after turn: no turn ends where it began, and there are no more turns than there
is text. -/
theorem Recognizes.more_of_words (ha : Recognizes a l) {words : List Text} (hwords : ∀ w ∈ words, w ∈ l ∧ w ≠ [])
    {fuel : Nat} {last : Option Nat} {v : Text} (hp : p.after = words.flatten ++ v) (hfuel : p.after.length < fuel)
    (hlast : last ≠ some p.pos) (hk : (k (p.beyond words.flatten v)).isSome) : (more a fuel none last k p).isSome := by
  induction words generalizing fuel last p with
  | nil =>
    rw [List.flatten_nil, Place.beyond_nil (v := v) hp] at hk
    cases fuel with
    | zero => exact hk
    | succ fuel =>
      rw [more_succ]
      split
      · exact hk
      · rw [Option.isSome_or, hk, Bool.or_true]
  | cons w words ih =>
    obtain ⟨fuel, rfl⟩ := Nat.exists_eq_succ_of_ne_zero (Nat.ne_zero_of_lt hfuel)
    obtain ⟨hw, hne⟩ := hwords w (by simp)
    have hlength : 0 < w.length := List.length_pos_iff.2 hne
    rw [List.flatten_cons, List.append_assoc] at hp
    have hgo : ¬((none : Option Nat) = some 0 || last = some p.pos) = true := by simpa using hlast
    rw [more_succ, if_neg hgo, Option.isSome_or, Bool.or_eq_true]
    refine .inl ((ha _ p).2 ⟨w, words.flatten ++ v, hp, hw, ?_⟩)
    refine ih (fun w' hw' => hwords w' (by simp [hw'])) rfl ?_ ?_ (by simpa using hk)
    · rw [hp, List.length_append] at hfuel
      rw [Place.after_beyond]
      omega
    · rw [Place.pos_beyond, ne_eq, Option.some.injEq]
      omega

theorem Recognizes.more (ha : Recognizes a l) {fuel : Nat} (hfuel : p.after.length < fuel) :
    RecognizesAt (more a fuel none none) l∗ k p := by
  refine ⟨ha.mem_kstar_of_more, ?_⟩
  rintro ⟨u, v, hp, hu, hk⟩
  obtain ⟨words, rfl, hwords⟩ := Language.mem_kstar_iff_exists_nonempty.1 hu
  exact ha.more_of_words hwords hp hfuel (by simp) hk

theorem Recognizes.star (ha : Recognizes a l) : Recognizes (repeated 0 none .greedy a) l∗ := by
  intro k p
  have hfuel : p.after.length < p.total + 2 := Nat.lt_succ_of_le (Nat.le_succ_of_le p.length_after_le_total)
  exact ha.more hfuel

theorem Recognizes.plus (ha : Recognizes a l) : Recognizes (repeated 1 none .greedy a) (l * l∗) := by
  intro k p
  have hturn : repeated 1 none .greedy a k p = Matcher.seq a (Matcher.more a (p.total + 2) none none) k p := by
    have hmin : min 1 (p.total + 2) = 1 := Nat.min_eq_left (Nat.le_add_left 1 _)
    simp only [repeated, hmin]
    rfl
  unfold RecognizesAt
  rw [hturn]
  refine ha.seqAt fun u v hp => ha.more ?_
  have htotal := (p.beyond u v).length_after_le_total
  rw [Place.total_beyond hp] at htotal
  omega

theorem Recognizes.optional (ha : Recognizes a l) : Recognizes (repeated 0 (some 1) .greedy a) (l + 1) :=
  ha.alt recognizes_empty

/-! ## search -/

theorem succeeds_iff (m : Matcher) {t : Text} {p : Place} (hp : p.after = t) :
    m.succeeds t p = true ↔ ∃ u v, t = u ++ v ∧ (m some (p.beyond u v)).isSome := by
  induction t generalizing p with
  | nil =>
    rw [succeeds]
    constructor
    · intro h
      exact ⟨[], [], rfl, by rwa [Place.beyond_nil hp]⟩
    · rintro ⟨u, v, huv, h⟩
      obtain ⟨rfl, rfl⟩ := List.append_eq_nil_iff.1 huv.symm
      rwa [Place.beyond_nil hp] at h
  | cons c t ih =>
    have hnext := ih (p := p.beyond [c] t) rfl
    rw [succeeds, Bool.or_eq_true]
    refine (or_congr_right hnext).trans ⟨?_, ?_⟩
    · rintro (h | ⟨u, v, rfl, h⟩)
      · exact ⟨[], c :: t, rfl, by rwa [Place.beyond_nil hp]⟩
      · exact ⟨c :: u, v, rfl, by simpa using h⟩
    · rintro ⟨_ | ⟨d, u⟩, v, huv, h⟩
      · obtain rfl : c :: t = v := huv
        rw [Place.beyond_nil hp] at h
        exact .inl h
      · obtain ⟨rfl, rfl⟩ := List.cons.inj huv
        exact .inr ⟨u, v, rfl, by simpa using h⟩

theorem search_iff (m : Matcher) (t : Text) :
    m.search t = true ↔ ∃ u v, t = u ++ v ∧ (m some ((Place.start t).beyond u v)).isSome :=
  m.succeeds_iff rfl

end Matcher

end TypeLint.Pattern
