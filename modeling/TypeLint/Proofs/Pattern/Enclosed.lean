import Mathlib.Tactic.SplitIfs
import TypeLint.Proofs.Pattern.Steps

/-!
# Patterns between anchors

A pattern is read between two anchors, so the second anchor can complete a pattern that has been cut off.  Only a
backslash at the end of the pattern lets that happen: otherwise what is read between the anchors can be read alone.

* `Cursor.enclosed` — the same place, between the anchors;
* `Follows` — a reading that succeeds only if another one does;
* `Progress.Encloses` — how far two readings of one pattern have come, alone and between the anchors;
* `Progress.Stuck` — the second anchor has been read and the pattern cannot end;
* `Progress.follows_step`, `Progress.follows_finish` — one step, and reading to the end;
* `follows_parse` — a pattern that can be read between the anchors can be read alone.
-/

namespace TypeLint.Pattern

/-! ## readings that follow others -/

/-- Errors that are faults of the text, and not of its size. -/
def Error.isFault : Error → Bool
  | .at _ _ | .whole _ => true
  | .repeatTooLarge | .tooManyDigits | .flagConflict => false

/-- The second reading succeeds only if the first does, with a related result, and it fails without a fault only if the
first fails so too. -/
structure Follows {α β : Type} (R : α → β → Prop) (x : Except Error α) (y : Except Error β) : Prop where
  ok : ∀ b, y = .ok b → ∃ a, x = .ok a ∧ R a b
  error : ∀ e, y = .error e → e.isFault = true ∨ x = .error e

namespace Follows

variable {α β γ δ : Type} {R : α → β → Prop} {S : γ → δ → Prop} {x : Except Error α} {y : Except Error β}

theorem of_ok {a : α} {b : β} (h : R a b) : Follows R (.ok a) (.ok b) :=
  ⟨by rintro _ ⟨⟩; exact ⟨a, rfl, h⟩, by simp⟩

theorem fault (x : Except Error α) (f : Fault) (pos : Nat) : Follows R x (.error (.at f pos)) :=
  ⟨by simp, by rintro _ ⟨⟩; exact .inl rfl⟩

theorem same (e : Error) : Follows R (.error e) (.error e) :=
  ⟨by simp, by rintro _ ⟨⟩; exact .inr rfl⟩

theorem bind {f : α → Except Error γ} {g : β → Except Error δ} (hx : Follows R x y)
    (hf : ∀ a b, R a b → Follows S (f a) (g b)) : Follows S (x >>= f) (y >>= g) := by
  cases y with
  | error e =>
    refine ⟨by simp [Bind.bind, Except.bind], fun e' he' => ?_⟩
    obtain rfl : e = e' := by simpa [Bind.bind, Except.bind] using he'
    rcases hx.error e rfl with he | rfl
    · exact .inl he
    · exact .inr rfl
  | ok b =>
    obtain ⟨a, rfl, hab⟩ := hx.ok b rfl
    exact hf a b hab

/-- The same for a reading that can also come to a result of its own. -/
theorem bind_or {f : α → Except Error γ} {g : β → Except Error δ} {P : δ → Prop} (hx : Follows R x y)
    (hf : ∀ a b, R a b → Follows S (f a) (g b) ∨ ∃ d, g b = .ok d ∧ P d) :
    Follows S (x >>= f) (y >>= g) ∨ ∃ d, y >>= g = .ok d ∧ P d := by
  cases y with
  | error e =>
    -- the second reading has failed, so what would follow does not matter
    exact .inl (bind (g := g) (y := .error e) ⟨by simp, hx.error⟩ fun _ _ (h : False) => h.elim)
  | ok b =>
    obtain ⟨a, rfl, hab⟩ := hx.ok b rfl
    exact hf a b hab

theorem ite {c : Prop} [Decidable c] {x' : Except Error α} {y' : Except Error β} (h : Follows R x y)
    (h' : Follows R x' y') : Follows R (if c then x else x') (if c then y else y') := by
  split
  · exact h
  · exact h'

theorem refl (x : Except Error α) : Follows Eq x x := by
  cases x with
  | ok a => exact of_ok rfl
  | error e => exact same e

end Follows

/-! ## places between the anchors -/

namespace Cursor

/-- The same place of a pattern that stands between the anchors. -/
def enclosed (cur : Cursor) : Cursor := ⟨cur.rest ++ [.plain '$'], cur.pos + 1⟩

/-- Two results that differ only in the place behind them. -/
def Moved {α : Type} (a b : α × Cursor) : Prop := b = (a.1, a.2.enclosed)

variable {cur : Cursor}

theorem next?_enclosed {piece : Piece} {after : Cursor} (h : cur.next? = some (piece, after)) :
    cur.enclosed.next? = some (piece, after.enclosed) := by
  obtain ⟨_ | ⟨p, rest⟩, pos⟩ := cur
  · simp [next?] at h
  · obtain ⟨rfl, rfl⟩ := Prod.mk.inj (Option.some.inj h)
    simp [next?, enclosed, Nat.add_right_comm]

/-- Where the pattern ends there is the second anchor. -/
theorem next?_enclosed_of_none (h : cur.next? = none) :
    cur.enclosed.next? = some (.plain '$', ⟨[], cur.pos + 2⟩) := by
  obtain ⟨_ | ⟨p, rest⟩, pos⟩ := cur
  · rfl
  · simp [next?] at h

theorem ofChar_ne {c d : Char} (h : c ≠ d) : CodePoint.ofChar c ≠ CodePoint.ofChar d :=
  fun heq => h (Char.ext (UInt32.toNat_inj.1 (congrArg CodePoint.val heq)))

theorem sees_enclosed {c : Char} (hc : c ≠ '$') : cur.enclosed.sees c = cur.sees c := by
  obtain ⟨_ | ⟨p, rest⟩, pos⟩ := cur
  · simp [sees, enclosed, ofChar_ne hc.symm]
  · simp [sees, enclosed]

theorem skip?_enclosed {c : Char} (hc : c ≠ '$') : cur.enclosed.skip? c = (cur.skip? c).map enclosed := by
  unfold skip?
  rw [sees_enclosed hc]
  obtain ⟨_ | ⟨p, rest⟩, pos⟩ := cur
  · simp [sees]
  · split <;> rfl

theorem run_enclosed {inClass : CodePoint → Bool} (h : inClass '$' = false) (most : Nat) (cur : Cursor) :
    cur.enclosed.run inClass most = ((cur.run inClass most).1, (cur.run inClass most).2.enclosed) := by
  induction most generalizing cur with
  | zero => simp [run]
  | succ n ih =>
    obtain ⟨_ | ⟨_ | _ | _, rest⟩, pos⟩ := cur
    · simp [run, enclosed, h]
    · next c =>
      have ih := ih ⟨rest, pos + 1⟩
      by_cases hc : inClass c = true
      · simp_all [run, enclosed]
      · simp [run, enclosed, hc]
    · simp [run, enclosed]
    · simp [run, enclosed]

/-- A run cannot be longer than what is left. -/
theorem run_succ (inClass : CodePoint → Bool) {most : Nat} {cur : Cursor} (h : cur.left ≤ most) :
    cur.run inClass (most + 1) = cur.run inClass most := by
  induction most generalizing cur with
  | zero =>
    obtain ⟨_ | ⟨p, rest⟩, pos⟩ := cur
    · simp [run]
    · simp [left] at h
  | succ n ih =>
    obtain ⟨_ | ⟨_ | _ | _, rest⟩, pos⟩ := cur
    · simp [run]
    · next c =>
      have hrest : left ⟨rest, pos + 1⟩ ≤ n := Nat.le_of_succ_le_succ h
      rw [run, run, ih hrest]
    · simp [run]
    · simp [run]

theorem digits_enclosed (cur : Cursor) : cur.enclosed.digits = (cur.digits.1, cur.digits.2.enclosed) := by
  have hlength : cur.enclosed.rest.length = cur.left + 1 := by simp [enclosed, left]
  rw [digits, hlength, run_enclosed (by decide), run_succ _ (Nat.le_refl _)]
  rfl

theorem upTo_enclosed {close : Char} (hc : close ≠ '$') (rest : List Piece) (pos : Nat) :
    upTo close (rest ++ [.plain '$']) (pos + 1) =
      match upTo close rest pos with
      | (t, after, true) => (t, after.enclosed, true)
      | (t, after, false) => (t ++ [CodePoint.ofChar '$'], ⟨[], after.pos + 2⟩, false) := by
  induction rest generalizing pos with
  | nil => simp [upTo, ofChar_ne hc.symm, Piece.text]
  | cons p rest ih =>
    have ih := ih (pos + p.text.length)
    by_cases hp : p = .plain close
    · simp [upTo, hp, enclosed]
    · rw [Nat.add_right_comm] at ih
      rw [List.cons_append, upTo, upTo, if_neg hp, if_neg hp, ih]
      rcases upTo close rest (pos + p.text.length) with ⟨t, after, _ | _⟩ <;> simp

theorem follows_name {close : Char} (hc : close ≠ '$') (what : String) (cur : Cursor) :
    Follows Moved (cur.name close what) (cur.enclosed.name close what) := by
  unfold name
  rw [show cur.enclosed.rest = cur.rest ++ [.plain '$'] from rfl, show cur.enclosed.pos = cur.pos + 1 from rfl,
    upTo_enclosed hc]
  rcases upTo close cur.rest cur.pos with ⟨t, after, _ | _⟩
  · cases t <;> exact .fault _ _ _
  · cases t with
    | nil => exact .fault _ _ _
    | cons c t => exact .of_ok rfl

end Cursor

/-! ## escapes -/

namespace Escape

open Cursor (Moved)

variable (c : CodePoint) (start start' : Nat) (cur : Cursor)

theorem follows_hex (width : Nat) : Follows Moved (hex c width start cur) (hex c width start' cur.enclosed) := by
  unfold hex
  rw [Cursor.run_enclosed (by decide)]
  dsimp only
  split
  · exact .fault _ _ _
  split
  · exact .of_ok rfl
  · exact .fault _ _ _

theorem follows_named : Follows Moved (named start cur) (named start' cur.enclosed) := by
  unfold named
  rw [Cursor.skip?_enclosed (by decide)]
  cases cur.skip? '\x7b' with
  | none => exact .fault _ _ _
  | some inner =>
    refine .bind (Cursor.follows_name (by decide) _ inner) ?_
    rintro ⟨name, after⟩ _ rfl
    dsimp only
    split
    · exact .fault _ _ _
    split
    · exact .of_ok rfl
    · exact .fault _ _ _

theorem follows_octal : Follows Moved (octal c start cur) (octal c start' cur.enclosed) := by
  unfold octal
  rw [Cursor.run_enclosed (by decide)]
  dsimp only
  split
  · exact .ite (.of_ok rfl) (.fault _ _ _)
  · exact .fault _ _ _

theorem follows_literal : Follows Eq (literal c start) (literal c start') := by
  unfold literal
  exact .ite (.fault _ _ _) (.of_ok rfl)

/-- The escapes by number or name are the same between the anchors. -/
theorem numbered?_enclosed :
    (numbered? c start cur = none ∧ numbered? c start' cur.enclosed = none) ∨
      ∃ x y, numbered? c start cur = some x ∧ numbered? c start' cur.enclosed = some y ∧ Follows Moved x y := by
  unfold numbered?
  split_ifs
  · exact .inr ⟨_, _, rfl, rfl, follows_hex _ _ _ _ _⟩
  · exact .inr ⟨_, _, rfl, rfl, follows_hex _ _ _ _ _⟩
  · exact .inr ⟨_, _, rfl, rfl, follows_hex _ _ _ _ _⟩
  · exact .inr ⟨_, _, rfl, rfl, follows_named _ _ _⟩
  · exact .inl ⟨rfl, rfl⟩

theorem follows_inSet : Follows Moved (inSet c start cur) (inSet c start' cur.enclosed) := by
  unfold inSet
  refine .ite (.of_ok rfl) ?_
  split
  · exact .of_ok rfl
  split
  · exact .of_ok rfl
  rcases numbered?_enclosed c start start' cur with ⟨hx, hy⟩ | ⟨x, y, hx, hy, hxy⟩
  · rw [hx, hy]
    refine .ite (.bind (follows_octal _ _ _ _) ?_) (.bind (follows_literal _ _ _) ?_)
    · rintro ⟨d, after⟩ _ rfl
      exact .of_ok rfl
    · rintro d _ rfl
      exact .of_ok rfl
  · rw [hx, hy]
    refine .bind hxy ?_
    rintro ⟨d, after⟩ _ rfl
    exact .of_ok rfl

theorem follows_decimal : Follows Moved (decimal c start cur) (decimal c start' cur.enclosed) := by
  unfold decimal
  rw [Cursor.run_enclosed (by decide)]
  dsimp only
  rw [Cursor.run_enclosed (by decide)]
  refine .ite ?_ (.of_ok rfl)
  dsimp only
  split
  · exact .ite (.of_ok rfl) (.fault _ _ _)
  · exact .fault _ _ _

theorem follows_outside : Follows Moved (outside c start cur) (outside c start' cur.enclosed) := by
  unfold outside
  split
  · exact .of_ok rfl
  split
  · exact .of_ok rfl
  split
  · exact .of_ok rfl
  rcases numbered?_enclosed c start start' cur with ⟨hx, hy⟩ | ⟨x, y, hx, hy, hxy⟩
  · rw [hx, hy]
    refine .ite (.bind (follows_octal _ _ _ _) ?_) (.ite (follows_decimal _ _ _ _) (.bind (follows_literal _ _ _) ?_))
    · rintro ⟨d, after⟩ _ rfl
      exact .of_ok rfl
    · rintro d _ rfl
      exact .of_ok rfl
  · rw [hx, hy]
    refine .bind hxy ?_
    rintro ⟨d, after⟩ _ rfl
    exact .of_ok rfl

end Escape

/-! ## options -/

open Cursor (Moved)

theorem follows_readOff (on : Flags) {fuel : Nat} (fuel' : Nat) (letter : FlagLetter) (off : Flags) {cur : Cursor}
    (h : cur.left < fuel) :
    Follows Moved (readOff on fuel letter off cur) (readOff on fuel' letter off cur.enclosed) := by
  induction fuel' generalizing fuel letter off cur with
  | zero => exact .fault _ _ _
  | succ fuel' ih =>
    obtain ⟨fuel, rfl⟩ := Nat.exists_eq_succ_of_ne_zero (Nat.ne_zero_of_lt h)
    rw [readOff, readOff]
    refine .ite (.fault _ _ _) ?_
    cases hnext : cur.next? with
    | none =>
      rw [Cursor.next?_enclosed_of_none hnext]
      exact .fault _ _ _
    | some r =>
      obtain ⟨piece, after⟩ := r
      have hafter : after.left < fuel := Nat.lt_of_lt_of_le (Cursor.left_next? hnext) (Nat.le_of_lt_succ h)
      rw [Cursor.next?_enclosed hnext]
      refine .ite (.ite (.fault _ _ _) (.ite (.fault _ _ _) (.of_ok rfl))) ?_
      split
      · exact ih _ _ hafter
      · exact .fault _ _ _

theorem follows_readMinus (on : Flags) (cur : Cursor) :
    Follows Moved (readMinus on cur) (readMinus on cur.enclosed) := by
  unfold readMinus
  cases hnext : cur.next? with
  | none =>
    rw [Cursor.next?_enclosed_of_none hnext]
    exact .fault _ _ _
  | some r =>
    obtain ⟨piece, after⟩ := r
    rw [Cursor.next?_enclosed hnext]
    dsimp only
    split
    · exact follows_readOff _ _ _ _ (Cursor.left_next? hnext)
    · exact .fault _ _ _

theorem follows_readOn {fuel : Nat} (fuel' : Nat) (letter : FlagLetter) (on : Flags) {cur : Cursor}
    (h : cur.left < fuel) : Follows Moved (readOn fuel letter on cur) (readOn fuel' letter on cur.enclosed) := by
  induction fuel' generalizing fuel letter on cur with
  | zero => exact .fault _ _ _
  | succ fuel' ih =>
    obtain ⟨fuel, rfl⟩ := Nat.exists_eq_succ_of_ne_zero (Nat.ne_zero_of_lt h)
    rw [readOn, readOn]
    refine .ite (.fault _ _ _) (.ite (.fault _ _ _) ?_)
    cases hnext : cur.next? with
    | none =>
      rw [Cursor.next?_enclosed_of_none hnext]
      exact .fault _ _ _
    | some r =>
      obtain ⟨piece, after⟩ := r
      have hafter : after.left < fuel := Nat.lt_of_lt_of_le (Cursor.left_next? hnext) (Nat.le_of_lt_succ h)
      rw [Cursor.next?_enclosed hnext]
      refine .ite (.of_ok rfl) (.ite (.ite (.fault _ _ _) (.ite (follows_readMinus _ _) (.of_ok rfl))) ?_)
      split
      · exact ih _ _ hafter
      · exact .fault _ _ _

/-! ## how far the readings have come -/

/-- Frames that differ only in the position of their parenthesis. -/
structure Frame.Alike (f f' : Frame) : Prop where
  kind : f'.kind = f.kind
  verbose : f'.verbose = f.verbose
  behind : f'.behind = f.behind
  branches : f'.branches = f.branches
  items : f'.items = f.items

/-- The outermost frames: between the anchors, the first branch begins with an anchor. -/
structure Frame.Begins (f f' : Frame) : Prop where
  kind : f'.kind = f.kind
  verbose : f.verbose = false ∧ f'.verbose = false
  behind : f'.behind = f.behind
  read : (f.branches = [] ∧ f'.branches = [] ∧ f'.items = f.items ++ [.anchor .lineStart]) ∨
    ∃ bs parts, f.branches = bs ++ [.seq parts] ∧ f'.branches = bs ++ [.seq (.anchor .lineStart :: parts)] ∧
      f'.items = f.items

/-- The frames of two readings, the innermost one apart from the others. -/
inductive Frame.Enclose : Frame → List Frame → Frame → List Frame → Prop
  | whole {f f' : Frame} : f.Begins f' → Enclose f [] f' []
  | group {f f' g g' : Frame} {gs gs' : List Frame} : f.Alike f' → Enclose g gs g' gs' →
      Enclose f (g :: gs) f' (g' :: gs')

namespace Frame.Enclose

variable {f f' : Frame} {gs gs' : List Frame}

theorem kind (h : Enclose f gs f' gs') : f'.kind = f.kind := by
  cases h with
  | whole hf => exact hf.kind
  | group hf _ => exact hf.kind

theorem verbose (h : Enclose f gs f' gs') : f'.verbose = f.verbose := by
  cases h with
  | whole hf => rw [hf.verbose.1, hf.verbose.2]
  | group hf _ => exact hf.verbose

theorem behind (h : Enclose f gs f' gs') : f'.behind = f.behind := by
  cases h with
  | whole hf => exact hf.behind
  | group hf _ => exact hf.behind

/-- Blanks and comments are left out only inside of groups. -/
theorem ne_nil_of_verbose (h : Enclose f gs f' gs') (hv : f.verbose = true) : gs' ≠ [] := by
  cases h with
  | whole hf => simp [hf.verbose.1] at hv
  | group _ _ => simp

/-- The last items are the same, and one more or another one can take its place. -/
theorem items (h : Enclose f gs f' gs') :
    (f.items = [] ∧ (f'.items = [] ∨ f'.items = [.anchor .lineStart])) ∨
      ∃ item is is', f.items = item :: is ∧ f'.items = item :: is' ∧
        ∀ r, Enclose { f with items := r :: is } gs { f' with items := r :: is' } gs' := by
  cases h with
  | whole hf =>
    obtain ⟨hk, hv, hb, ⟨hbs, hbs', his⟩ | ⟨bs, parts, hbs, hbs', his⟩⟩ := hf
    · cases hitems : f.items with
      | nil => exact .inl ⟨rfl, .inr (by simp [his, hitems])⟩
      | cons item is =>
        refine .inr ⟨item, is, is ++ [.anchor .lineStart], rfl, by simp [his, hitems], fun r => ?_⟩
        exact .whole ⟨hk, hv, hb, .inl ⟨hbs, hbs', rfl⟩⟩
    · cases hitems : f.items with
      | nil => exact .inl ⟨rfl, .inl (by simp [his, hitems])⟩
      | cons item is =>
        refine .inr ⟨item, is, is, rfl, by simp [his, hitems], fun r => ?_⟩
        exact .whole ⟨hk, hv, hb, .inr ⟨bs, parts, hbs, hbs', rfl⟩⟩
  | group hf hg =>
    cases hitems : f.items with
    | nil => exact .inl ⟨rfl, .inl (by simp [hf.items, hitems])⟩
    | cons item is =>
      refine .inr ⟨item, is, is, rfl, by simp [hf.items, hitems], fun r => ?_⟩
      exact .group ⟨hf.kind, hf.verbose, hf.behind, hf.branches, rfl⟩ hg

theorem push (h : Enclose f gs f' gs') (r : Regex) :
    Enclose { f with items := r :: f.items } gs { f' with items := r :: f'.items } gs' := by
  cases h with
  | whole hf =>
    obtain ⟨hk, hv, hb, ⟨hbs, hbs', his⟩ | ⟨bs, parts, hbs, hbs', his⟩⟩ := hf
    · exact .whole ⟨hk, hv, hb, .inl ⟨hbs, hbs', by simp [his]⟩⟩
    · exact .whole ⟨hk, hv, hb, .inr ⟨bs, parts, hbs, hbs', by simp [his]⟩⟩
  | group hf hg => exact .group ⟨hf.kind, hf.verbose, hf.behind, hf.branches, by simp [hf.items]⟩ hg

theorem branch (h : Enclose f gs f' gs') :
    Enclose { f with branches := f.lastBranch :: f.branches, items := [] } gs
      { f' with branches := f'.lastBranch :: f'.branches, items := [] } gs' := by
  cases h with
  | whole hf =>
    obtain ⟨hk, hv, hb, ⟨hbs, hbs', his⟩ | ⟨bs, parts, hbs, hbs', his⟩⟩ := hf
    · refine .whole ⟨hk, hv, hb, .inr ⟨[], f.items.reverse, ?_, ?_, rfl⟩⟩
      · simp [hbs, lastBranch]
      · simp [hbs', lastBranch, his]
    · refine .whole ⟨hk, hv, hb, .inr ⟨f.lastBranch :: bs, parts, ?_, ?_, rfl⟩⟩
      · simp [hbs]
      · simp [hbs', lastBranch, his]
  | group hf hg =>
    exact .group ⟨hf.kind, hf.verbose, hf.behind, by simp [lastBranch, hf.branches, hf.items], rfl⟩ hg

theorem branches_eq_nil (h : Enclose f gs f' gs') : f'.branches = [] ↔ f.branches = [] := by
  cases h with
  | whole hf =>
    obtain ⟨hk, hv, hb, ⟨hbs, hbs', his⟩ | ⟨bs, parts, hbs, hbs', his⟩⟩ := hf
    · simp [hbs, hbs']
    · simp [hbs, hbs']
  | group hf _ => rw [hf.branches]

theorem of_nil (h : Enclose f gs f' []) : gs = [] ∧ f.Begins f' := by
  cases h with
  | whole hf => exact ⟨rfl, hf⟩

/-- Between the anchors, something has been read outside all groups. -/
theorem begun (h : Enclose f gs f' gs') : ¬(gs'.isEmpty && f'.branches.isEmpty && f'.items.isEmpty) = true := by
  cases h with
  | whole hf =>
    obtain ⟨hk, hv, hb, ⟨hbs, hbs', his⟩ | ⟨bs, parts, hbs, hbs', his⟩⟩ := hf
    · simp [his]
    · simp [hbs']
  | group _ _ => simp

end Frame.Enclose

theorem Frame.Alike.regex {f f' : Frame} (h : f.Alike f') (widths : Nat → Width) :
    f'.regex widths = f.regex widths := by
  simp only [Frame.regex, Frame.body, Frame.lastBranch, h.kind, h.branches, h.items]

namespace Progress

/-- Two readings of one pattern have come equally far, the second one between the anchors. -/
structure Encloses (p p' : Progress) : Prop where
  cursor : p'.cursor = p.cursor.enclosed
  set : (p.set = none ∧ p'.set = none) ∨
    ∃ s s', p.set = some s ∧ p'.set = some s' ∧ s'.negated = s.negated ∧ s'.items = s.items
  frames : Frame.Enclose p.frame p.outer p'.frame p'.outer
  flags : p.flags = .empty ∧ p'.flags = .empty
  names : p'.names = p.names
  widths : p'.widths = p.widths
  asked : p'.asked.map Prod.fst = p.asked.map Prod.fst

variable {p p' : Progress}

theorem Encloses.goto (h : p.Encloses p') (cur : Cursor) : (p.goto cur).Encloses (p'.goto cur.enclosed) :=
  ⟨rfl, h.set, h.frames, h.flags, h.names, h.widths, h.asked⟩

theorem Encloses.push (h : p.Encloses p') (r : Regex) : (p.push r).Encloses (p'.push r) :=
  ⟨h.cursor, h.set, h.frames.push r, h.flags, h.names, h.widths, h.asked⟩

theorem Encloses.enter (h : p.Encloses p') (kind : GroupKind) (start start' : Nat) :
    (p.enter kind start).Encloses (p'.enter kind start') := by
  refine ⟨h.cursor, h.set, .group ⟨rfl, ?_, ?_, rfl, rfl⟩ h.frames, h.flags, h.names, h.widths, h.asked⟩
  · simp only [Progress.enter, h.frames.verbose]
  · simp only [Progress.enter, h.frames.behind, h.widths]

theorem Encloses.groupWidths (h : p.Encloses p') : p'.groupWidths = p.groupWidths := by
  funext index
  simp only [Progress.groupWidths, Progress.width, h.widths]

/-- A group ends in both readings, or in none. -/
theorem Encloses.leave (h : p.Encloses p') :
    (p.leave = none ∧ p'.leave = none) ∨ ∃ q q', p.leave = some q ∧ p'.leave = some q' ∧ q.Encloses q' := by
  have hframes := h.frames
  have hwidths := h.groupWidths
  unfold Progress.leave
  cases houter : p.outer with
  | nil =>
    cases houter' : p'.outer with
    | nil => exact .inl ⟨rfl, rfl⟩
    | cons g' gs' =>
      rw [houter, houter'] at hframes
      cases hframes
  | cons g gs =>
    cases houter' : p'.outer with
    | nil =>
      rw [houter, houter'] at hframes
      cases hframes
    | cons g' gs' =>
      rw [houter, houter'] at hframes
      cases hframes with
      | group hf hg =>
        refine .inr ⟨_, _, rfl, rfl, h.cursor, h.set, ?_, h.flags, h.names, ?_, h.asked⟩
        · rw [hf.regex, hwidths]
          exact hg.push _
        · simp only [hf.kind, h.widths, hwidths, Frame.body, Frame.lastBranch, hf.branches, hf.items]

theorem follows_branch (h : p.Encloses p') : Follows Encloses p.branch p'.branch := by
  have hok : Follows Encloses
      (.ok { p with frame := { p.frame with branches := p.frame.lastBranch :: p.frame.branches, items := [] } })
      (.ok { p' with frame := { p'.frame with branches := p'.frame.lastBranch :: p'.frame.branches, items := [] } }) :=
    .of_ok ⟨h.cursor, h.set, h.frames.branch, h.flags, h.names, h.widths, h.asked⟩
  unfold Progress.branch
  split
  · next index yes rest hkind hbranches =>
    obtain ⟨yes', rest', hbranches'⟩ : ∃ yes' rest', p'.frame.branches = yes' :: rest' := by
      refine List.exists_cons_of_ne_nil fun hnil => ?_
      simp [h.frames.branches_eq_nil.1 hnil] at hbranches
    rw [h.frames.kind, hkind, hbranches']
    exact .fault _ _ _
  · split
    · exact .fault _ _ _
    · exact hok

theorem follows_checkBehind (h : p.Encloses p') (index pos pos' : Nat) :
    Follows Eq (p.checkBehind index pos) (p'.checkBehind index pos') := by
  unfold Progress.checkBehind
  simp only [h.frames.behind, Progress.width, h.widths]
  split
  · exact .of_ok rfl
  · exact .ite (.fault _ _ _) (.ite (.fault _ _ _) (.of_ok rfl))

theorem follows_reference (h : p.Encloses p') (index start start' : Nat) (after : Cursor) :
    Follows Encloses (p.reference index start after) (p'.reference index start' after.enclosed) := by
  unfold Progress.reference
  simp only [Progress.width, h.widths]
  refine .ite (.fault _ _ _) (.bind (follows_checkBehind h _ _ _) fun _ _ _ => ?_)
  exact .of_ok ((h.push _).goto _)

/-! ## sets -/

/-- The second anchor has been read as part of a set or inside a group, so the pattern cannot end. -/
def Stuck (p : Progress) : Prop := p.cursor.rest = [] ∧ (p.set ≠ none ∨ p.outer ≠ [])

theorem Stuck.finish (h : p.Stuck) : ∃ f pos, p.finish = .error (.at f pos) := by
  have hnext : p.cursor.next? = none := Cursor.next?_eq_none.2 h.1
  cases hset : p.set with
  | some s =>
    refine ⟨.unterminatedSet, s.start, finish_of_error ?_⟩
    simp only [step, hset, stepSet, hnext]
    rfl
  | none =>
    have houter : p.outer ≠ [] := by simpa [hset] using h.2
    refine ⟨.unterminatedGroup, p.frame.start, finish_of_error ?_⟩
    simp only [step, hset, hnext, List.isEmpty_iff, if_neg houter]

theorem follows_setItem (piece : Piece) (start start' : Nat) (after : Cursor) :
    Follows Moved (setItem piece start after) (setItem piece start' after.enclosed) := by
  cases piece with
  | plain c => exact .of_ok rfl
  | escaped c => exact Escape.follows_inSet _ _ _ _
  | dangling => exact .fault _ _ _

variable {s s' : SetFrame}

theorem Encloses.inSet (h : p.Encloses p') (hn : s'.negated = s.negated) (hi : s'.items = s.items) (after : Cursor) :
    (p.inSet s after).Encloses (p'.inSet s' after.enclosed) :=
  ⟨rfl, .inr ⟨s, s', rfl, rfl, hn, hi⟩, h.frames, h.flags, h.names, h.widths, h.asked⟩

theorem Encloses.closeSet (h : p.Encloses p') (hn : s'.negated = s.negated) (hi : s'.items = s.items) (after : Cursor) :
    (p.closeSet s after).Encloses (p'.closeSet s' after.enclosed) := by
  have hpush := h.push (.set s.negated s.items.reverse)
  unfold Progress.closeSet
  rw [hn, hi]
  exact ⟨rfl, .inl ⟨rfl, rfl⟩, hpush.frames, h.flags, h.names, h.widths, h.asked⟩

theorem stuck_inSet (p : Progress) (s : SetFrame) (pos : Nat) : (p.inSet s ⟨[], pos⟩).Stuck :=
  ⟨rfl, .inl (by simp [Progress.inSet])⟩

/-- One item of a set is read alike, unless it takes the second anchor into the set. -/
theorem follows_stepSet (h : p.Encloses p') (hn : s'.negated = s.negated) (hi : s'.items = s.items) :
    Follows Encloses (p.stepSet s) (p'.stepSet s') ∨ ∃ q, p'.stepSet s' = .ok q ∧ q.Stuck := by
  have hbracket : Piece.plain '$' ≠ .plain ']' := by decide
  unfold stepSet
  rw [h.cursor]
  cases hlo : p.cursor.next? with
  | none =>
    rw [Cursor.next?_enclosed_of_none hlo]
    exact .inr ⟨_, by simp only [hbracket, decide_false, Bool.false_and, Bool.false_eq_true, if_false]; rfl,
      stuck_inSet p' { s' with items := .char '$' :: s'.items } (p.cursor.pos + 2)⟩
  | some lo =>
    obtain ⟨lo, after⟩ := lo
    rw [Cursor.next?_enclosed hlo, hi]
    dsimp only
    split
    · exact .inl (.of_ok (h.closeSet hn hi _))
    refine (follows_setItem lo _ _ after).bind_or ?_
    rintro ⟨item, after⟩ _ rfl
    dsimp only
    rw [Cursor.skip?_enclosed (by decide)]
    cases after.skip? '-' with
    | none => exact .inl (.of_ok (h.inSet (by exact hn) (by rfl) _))
    | some dash =>
      rw [Option.map_some]
      dsimp only
      cases hhi : dash.next? with
      | none =>
        rw [Cursor.next?_enclosed_of_none hhi]
        simp only [if_neg hbracket, setItem, bind, Except.bind]
        cases item with
        | char a =>
          dsimp only
          split
          · exact .inr ⟨_, rfl, stuck_inSet p' _ _⟩
          · exact .inl (.fault _ _ _)
        | range lo hi => exact .inl (.fault _ _ _)
        | ofClass k negated => exact .inl (.fault _ _ _)
      | some hi =>
        obtain ⟨hi, last⟩ := hi
        rw [Cursor.next?_enclosed hhi]
        refine .inl (.ite (.of_ok (h.closeSet (by exact hn) (by rfl) _)) ?_)
        refine (follows_setItem hi _ _ last).bind ?_
        rintro ⟨item', last⟩ _ rfl
        dsimp only
        split
        · exact .ite (.of_ok (h.inSet (by exact hn) (by rfl) _)) (.fault _ _ _)
        · exact .fault _ _ _

/-! ## repetition and groups -/

theorem mode_enclosed (cur : Cursor) : mode cur.enclosed = ((mode cur).1, (mode cur).2.enclosed) := by
  unfold mode
  rw [Cursor.skip?_enclosed (by decide), Cursor.skip?_enclosed (by decide)]
  cases cur.skip? '?' with
  | some after => rfl
  | none =>
    cases cur.skip? '+' with
    | some after => rfl
    | none => rfl

theorem follows_repeatLast (h : p.Encloses p') (start start' least : Nat) (most : Option Nat) (after : Cursor) :
    Follows Encloses (p.repeatLast start least most after) (p'.repeatLast start' least most after.enclosed) := by
  unfold repeatLast
  rw [mode_enclosed]
  rcases h.frames.items with ⟨-, hnil | hanchor⟩ | ⟨item, is, is', hitems, hitems', hput⟩
  · rw [hnil]
    exact .fault _ _ _
  · rw [hanchor]
    exact .fault _ _ _
  · rw [hitems, hitems']
    have hok : ∀ r, Follows Encloses
        (.ok { p with frame := { p.frame with items := r :: is }, cursor := (mode after).2 })
        (.ok { p' with frame := { p'.frame with items := r :: is' }, cursor := (mode after).2.enclosed }) :=
      fun r => .of_ok ⟨rfl, h.set, hput r, h.flags, h.names, h.widths, h.asked⟩
    cases item with
    | anchor a => exact .fault _ _ _
    | repeated least most mode body => exact .fault _ _ _
    | _ => exact hok _

/-- Options for the whole pattern come too late behind the first anchor. -/
theorem follows_openFlags (h : p.Encloses p') (start start' : Nat) (group : FlagGroup) (after : Cursor) :
    Follows Encloses (p.openFlags start group after) (p'.openFlags start' group after.enclosed) := by
  cases group with
  | inner on off => exact .of_ok ((h.enter _ _ _).goto _)
  | global on =>
    have hlate : p'.openFlags start' (.global on) after.enclosed = .error (.at .lateFlags start') :=
      if_neg h.frames.begun
    rw [hlate]
    exact .fault _ _ _

theorem follows_identifier {close : Char} (hc : close ≠ '$') (cur : Cursor) :
    Follows Moved (identifier close cur) (identifier close cur.enclosed) := by
  unfold identifier
  refine .bind (Cursor.follows_name hc _ cur) ?_
  rintro ⟨name, after⟩ _ rfl
  exact .ite (.of_ok rfl) (.fault _ _ _)

theorem Encloses.index? (h : p.Encloses p') (name : Text) : p'.index? name = p.index? name := by
  simp only [Progress.index?, h.names]

theorem follows_openNamed (h : p.Encloses p') (start start' : Nat) (cur : Cursor) :
    Follows Encloses (p.openNamed start cur) (p'.openNamed start' cur.enclosed) := by
  unfold openNamed
  refine .bind (follows_identifier (by decide) cur) ?_
  rintro ⟨name, after⟩ _ rfl
  dsimp only
  rw [h.index?, h.widths]
  split
  · exact .fault _ _ _
  · refine .of_ok ?_
    have henter := h.enter (.capture (p.widths.length + 1)) start start'
    unfold openCapture
    rw [h.widths, h.names]
    exact ⟨rfl, h.set, henter.frames, h.flags, rfl, rfl, h.asked⟩

theorem follows_namedReference (h : p.Encloses p') (cur : Cursor) :
    Follows Encloses (p.namedReference cur) (p'.namedReference cur.enclosed) := by
  unfold namedReference
  refine .bind (follows_identifier (by decide) cur) ?_
  rintro ⟨name, after⟩ _ rfl
  dsimp only
  rw [h.index?]
  split
  · exact .fault _ _ _
  · exact follows_reference h _ _ _ _

theorem follows_stepNamed (h : p.Encloses p') (start start' question question' : Nat) (cur : Cursor) :
    Follows Encloses (p.stepNamed start question cur) (p'.stepNamed start' question' cur.enclosed) := by
  unfold stepNamed
  cases hnext : cur.next? with
  | none =>
    rw [Cursor.next?_enclosed_of_none hnext]
    exact .fault _ _ _
  | some r =>
    rw [Cursor.next?_enclosed hnext]
    exact .ite (follows_openNamed h _ _ _) (.ite (follows_namedReference h _) (.fault _ _ _))

theorem follows_openConditional (h : p.Encloses p') (start start' : Nat) (cur : Cursor) :
    Follows Encloses (p.openConditional start cur) (p'.openConditional start' cur.enclosed) := by
  unfold openConditional
  refine .bind (Cursor.follows_name (by decide) _ cur) ?_
  rintro ⟨name, after⟩ _ rfl
  dsimp only
  rw [h.index?]
  refine .ite ?_ ?_
  · split
    · exact .fault _ _ _
    · exact .bind (follows_checkBehind h _ _ _) fun _ _ _ => .of_ok ((h.enter _ _ _).goto _)
  · split
    · next index hindex =>
      refine .ite (.fault _ _ _) (.ite (.fault _ _ _) (.bind (follows_checkBehind h _ _ _) fun _ _ _ => .of_ok ?_))
      have henter := (h.enter (.conditional index) start start').goto after
      refine ⟨rfl, h.set, henter.frames, h.flags, h.names, h.widths, ?_⟩
      have hany : (p'.asked.any fun a => a.1 = index) = p.asked.any fun a => a.1 = index := by
        have hany := congrArg (List.any · fun i => i = index) h.asked
        simpa only [List.any_map, Function.comp_def] using hany
      dsimp only
      rw [hany]
      split
      · exact h.asked
      · simp [h.asked]
    · exact .fault _ _ _

theorem follows_openBehind (h : p.Encloses p') (start start' question question' : Nat) (cur : Cursor) :
    Follows Encloses (p.openBehind start question cur) (p'.openBehind start' question' cur.enclosed) := by
  unfold openBehind
  cases hnext : cur.next? with
  | none =>
    rw [Cursor.next?_enclosed_of_none hnext]
    exact .fault _ _ _
  | some r =>
    rw [Cursor.next?_enclosed hnext]
    exact .ite (.of_ok ((h.enter _ _ _).goto _)) (.ite (.of_ok ((h.enter _ _ _).goto _)) (.fault _ _ _))

theorem follows_openExtension (h : p.Encloses p') (start start' question question' : Nat) (cur : Cursor) :
    Follows Encloses (p.openExtension start question cur) (p'.openExtension start' question' cur.enclosed) := by
  unfold openExtension
  cases hnext : cur.next? with
  | none =>
    rw [Cursor.next?_enclosed_of_none hnext]
    exact .fault _ _ _
  | some r =>
    obtain ⟨piece, after⟩ := r
    rw [Cursor.next?_enclosed hnext]
    refine .ite (follows_stepNamed h _ _ _ _ _) ?_
    refine .ite (.of_ok ((h.enter _ _ _).goto _)) ?_
    refine .ite ?_ ?_
    · rw [show after.enclosed.rest = after.rest ++ [.plain '$'] from rfl,
        show after.enclosed.pos = after.pos + 1 from rfl, Cursor.upTo_enclosed (by decide)]
      rcases Cursor.upTo ')' after.rest after.pos with ⟨t, last, _ | _⟩
      · exact .fault _ _ _
      · exact .of_ok (h.goto last)
    refine .ite (.of_ok ((h.enter _ _ _).goto _)) ?_
    refine .ite (.of_ok ((h.enter _ _ _).goto _)) ?_
    refine .ite (follows_openBehind h _ _ _ _ _) ?_
    refine .ite (follows_openConditional h _ _ _) ?_
    refine .ite (.of_ok ((h.enter _ _ _).goto _)) ?_
    refine .ite (.bind (follows_readMinus _ _) ?_) ?_
    · rintro ⟨group, last⟩ _ rfl
      exact follows_openFlags h _ _ _ _
    split
    · refine .bind (follows_readOn _ _ _ (Nat.lt_succ_self _)) ?_
      rintro ⟨group, last⟩ _ rfl
      exact follows_openFlags h _ _ _ _
    · exact .fault _ _ _

theorem follows_openGroup (h : p.Encloses p') (start start' : Nat) (cur : Cursor) :
    Follows Encloses (p.openGroup start cur) (p'.openGroup start' cur.enclosed) := by
  unfold openGroup
  rw [Cursor.skip?_enclosed (by decide)]
  cases cur.skip? '?' with
  | some inner => exact follows_openExtension h _ _ _ _ _
  | none =>
    refine .of_ok ?_
    have henter := h.enter (.capture (p.widths.length + 1)) start start'
    unfold openCapture
    rw [h.widths]
    exact ⟨rfl, h.set, henter.frames, h.flags, h.names, rfl, h.asked⟩

/-! ## steps -/

theorem follows_stepEscape (h : p.Encloses p') (c : CodePoint) (start start' : Nat) (cur : Cursor) :
    Follows Encloses (p.stepEscape c start cur) (p'.stepEscape c start' cur.enclosed) := by
  unfold stepEscape
  refine .bind (Escape.follows_outside _ _ _ _) ?_
  rintro ⟨meaning, after⟩ _ rfl
  cases meaning with
  | char d => exact .of_ok ((h.push _).goto _)
  | ofClass k => exact .of_ok ((h.push _).goto _)
  | anchor a => exact .of_ok ((h.push _).goto _)
  | group index =>
    dsimp only
    rw [h.widths]
    exact .ite (follows_reference h _ _ _ _) (.fault _ _ _)

/-- Bounds whose digits have been read. -/
theorem follows_closeBounds (lo hi : Text) (pos pos' : Nat) (c : Cursor) :
    let close (pos : Nat) (c : Cursor) : Except Error (Option (Nat × Option Nat × Cursor)) :=
      match c.skip? '\x7d' with
      | none => .ok none
      | some after => do
        let least ← count lo
        let most ← count hi
        if let some m := most then
          if m < least.getD 0 then .error (.at .leastAboveMost pos)
        return some (least.getD 0, most, after)
    Follows (fun a b => b = a.map fun r => (r.1, r.2.1, r.2.2.enclosed)) (close pos c) (close pos' c.enclosed) := by
  intro close
  unfold close
  rw [Cursor.skip?_enclosed (by decide)]
  cases c.skip? '\x7d' with
  | none => exact .of_ok rfl
  | some after =>
    refine .bind (.refl _) ?_
    rintro least _ rfl
    refine .bind (.refl _) ?_
    rintro most _ rfl
    cases most with
    | none => exact .of_ok rfl
    | some m => exact .ite (.fault _ _ _) (.of_ok rfl)

theorem follows_bounds (inner : Cursor) :
    Follows (fun a b => b = a.map fun r => (r.1, r.2.1, r.2.2.enclosed)) (bounds inner) (bounds inner.enclosed) := by
  unfold bounds
  rw [Cursor.sees_enclosed (by decide), Cursor.digits_enclosed]
  refine .ite (.of_ok rfl) ?_
  dsimp only
  rw [Cursor.skip?_enclosed (by decide)]
  cases inner.digits.2.skip? ',' with
  | none => exact follows_closeBounds _ _ _ _ _
  | some c =>
    rw [Option.map_some]
    dsimp only
    rw [Cursor.digits_enclosed]
    exact follows_closeBounds _ _ _ _ _

theorem Encloses.openSet (h : p.Encloses p') (start start' : Nat) (after : Cursor) :
    (p.openSet start after).Encloses (p'.openSet start' after.enclosed) := by
  unfold Progress.openSet
  rw [Cursor.skip?_enclosed (by decide)]
  cases after.skip? '^' with
  | some inner => exact h.inSet (by rfl) (by rfl) _
  | none => exact h.inSet (by rfl) (by rfl) _

/-- A comment ends alike, or it takes the second anchor. -/
theorem skipComment_enclosed (cur : Cursor) :
    (∃ after, skipComment cur = .ok after ∧ skipComment cur.enclosed = .ok after.enclosed) ∨
      ∃ pos, skipComment cur.enclosed = .ok ⟨[], pos⟩ := by
  have hlast : (cur.rest ++ [Piece.plain '$']).getLast? ≠ some .dangling := by simp
  have hne : '\n' ≠ '$' := by decide
  have hupTo := Cursor.upTo_enclosed hne cur.rest cur.pos
  unfold skipComment
  simp only [Cursor.enclosed, hupTo]
  rcases Cursor.upTo '\n' cur.rest cur.pos with ⟨t, after, _ | _⟩
  · exact .inr ⟨_, if_neg hlast⟩
  · exact .inl ⟨after, rfl, rfl⟩

theorem follows_stepPlain (h : p.Encloses p') (c : CodePoint) (start start' : Nat) (after : Cursor) :
    Follows Encloses (p.stepPlain c start after) (p'.stepPlain c start' after.enclosed) ∨
      ∃ q, p'.stepPlain c start' after.enclosed = .ok q ∧ q.Stuck := by
  unfold stepPlain
  rw [h.frames.verbose]
  by_cases hcomment : (p.frame.verbose && c = '#') = true
  · have hblank : ¬(p.frame.verbose && c.isAsciiBlank) = true := by
      obtain ⟨hv, hc⟩ : p.frame.verbose = true ∧ c = '#' := by simpa using hcomment
      rw [hv, hc]
      decide
    simp only [if_neg hblank, if_pos hcomment]
    rcases skipComment_enclosed after with ⟨last, hx, hy⟩ | ⟨pos, hy⟩
    · rw [hx, hy]
      exact .inl (.of_ok (h.goto last))
    · -- the group around the comment stays open
      rw [hy]
      exact .inr ⟨_, rfl, rfl, .inr (h.frames.ne_nil_of_verbose (by simp_all))⟩
  · simp only [if_neg hcomment]
    left
    refine .ite (.of_ok (h.goto _)) ?_
    refine .ite (.of_ok (h.openSet _ _ _)) ?_
    refine .ite (follows_repeatLast h _ _ _ _ _) ?_
    refine .ite (follows_repeatLast h _ _ _ _ _) ?_
    refine .ite (follows_repeatLast h _ _ _ _ _) ?_
    refine .ite (.bind (follows_bounds after) ?_) ?_
    · rintro (_ | ⟨least, most, last⟩) _ rfl
      · exact .of_ok ((h.push _).goto _)
      · exact follows_repeatLast h _ _ _ _ _
    refine .ite (.of_ok ((h.push _).goto _)) ?_
    refine .ite (follows_openGroup h _ _ _) ?_
    refine .ite (.of_ok ((h.push _).goto _)) ?_
    exact .ite (.of_ok ((h.push _).goto _)) (.of_ok ((h.push _).goto _))

/-- The first reading has come to its end, and the second one has read the second anchor behind it. -/
structure Completes (p q : Progress) : Prop where
  flags : q.flags = p.flags
  widths : q.widths = p.widths
  asked : q.asked.map Prod.fst = p.asked.map Prod.fst
  frame : ∃ f, p.frame.Begins f ∧ q.frame = { f with items := .anchor .lineEnd :: f.items }

/-- Where the pattern has come to its end, the second anchor is read. -/
theorem step_lineEnd (h : p.Encloses p') (hset : p'.set = none) (hnext : p.cursor.next? = none) :
    p'.step = .ok (some ((p'.push (.anchor .lineEnd)).goto ⟨[], p.cursor.pos + 2⟩)) := by
  have hblank : (p'.frame.verbose && (CodePoint.ofChar '$').isAsciiBlank) = false := by
    rw [show (CodePoint.ofChar '$').isAsciiBlank = false from rfl, Bool.and_false]
  have hcomment : (p'.frame.verbose && decide (CodePoint.ofChar '$' = '#')) = false := by
    rw [show decide (CodePoint.ofChar '$' = '#') = false from rfl, Bool.and_false]
  simp only [step, hset, h.cursor, Cursor.next?_enclosed_of_none hnext, stepPlain, hblank, hcomment]
  rfl

/-- What is read of two patterns alike is read on alike. -/
def Onward (a b : Option Progress) : Prop := ∃ q q', a = some q ∧ b = some q' ∧ q.Encloses q'

theorem follows_some {x y : Except Error Progress} (h : Follows Encloses x y) :
    Follows Onward (x >>= fun q => pure (some q)) (y >>= fun q => pure (some q)) :=
  h.bind fun q q' hq => .of_ok ⟨q, q', rfl, rfl, hq⟩

/-- A piece outside of sets is read alike, unless it begins a comment that takes the second anchor. -/
theorem follows_step_next {piece : Piece} {after : Cursor} (h : p.Encloses p') (hset : p.set = none)
    (hset' : p'.set = none) (hnext : p.cursor.next? = some (piece, after)) :
    Follows Onward p.step p'.step ∨ ∃ q, p'.step = .ok (some q) ∧ q.Stuck := by
  have hflags : p'.checkFlags = .ok () := by rw [checkFlags, h.flags.2]; rfl
  unfold step
  rw [hset, hset', h.cursor, hnext, Cursor.next?_enclosed hnext]
  cases piece with
  | dangling => exact .inl (.fault _ _ _)
  | escaped c => exact .inl (follows_some (follows_stepEscape h _ _ _ _))
  | plain c =>
    dsimp only
    split_ifs with hbar hclose
    · exact .inl ((follows_branch h).bind fun q q' hq => .of_ok ⟨_, _, rfl, rfl, hq.goto after⟩)
    · left
      rcases h.leave with ⟨hleave, hleave'⟩ | ⟨q, q', hleave, hleave', hq⟩
      · rw [hleave', hflags]
        exact .fault _ _ _
      · rw [hleave, hleave']
        exact .of_ok ⟨_, _, rfl, rfl, hq.goto after⟩
    · rcases follows_stepPlain h c p.cursor.pos p.cursor.enclosed.pos after with hfollows | ⟨q, hq, hstuck⟩
      · exact .inl (follows_some hfollows)
      · rw [hq]
        exact .inr ⟨q, rfl, hstuck⟩

/-- One step of the reading between the anchors: it takes the second anchor where the pattern cannot end, or it goes on
as the reading of the pattern alone, or it takes the second anchor where that reading has come to its end. -/
theorem follows_step (h : p.Encloses p') :
    (∃ q, p'.step = .ok (some q) ∧ q.Stuck) ∨ Follows Onward p.step p'.step ∨
      p.step = .ok none ∧ ∃ q, p'.step = .ok (some q) ∧ q.step = .ok none ∧ p.Completes q := by
  rcases h.set with ⟨hset, hset'⟩ | ⟨s, s', hset, hset', hn, hi⟩
  · cases hnext : p.cursor.next? with
    | none =>
      have hstep := step_lineEnd h hset' hnext
      cases houter : p'.outer with
      | cons g gs =>
        refine .inl ⟨_, hstep, rfl, .inr ?_⟩
        show p'.outer ≠ []
        simp [houter]
      | nil =>
        obtain ⟨hnil, hbegins⟩ := Frame.Enclose.of_nil (houter ▸ h.frames)
        refine .inr (.inr ⟨?_, _, hstep, ?_, h.flags.2.trans h.flags.1.symm, h.widths, h.asked, _, hbegins, rfl⟩)
        · simp [step, hset, hnext, hnil, pure, Except.pure]
        · simp [step, hset', houter, Progress.goto, Progress.push, Cursor.next?, pure, Except.pure]
    | some r =>
      rcases follows_step_next h hset hset' hnext with hfollows | hstuck
      · exact .inr (.inl hfollows)
      · exact .inl hstuck
  · have hstep : p.step = p.stepSet s >>= fun q => pure (some q) := by rw [step, hset]
    have hstep' : p'.step = p'.stepSet s' >>= fun q => pure (some q) := by rw [step, hset']
    rw [hstep, hstep']
    rcases follows_stepSet h hn hi with hfollows | ⟨q, hq, hstuck⟩
    · exact .inr (.inl (follows_some hfollows))
    · rw [hq]
      exact .inl ⟨q, rfl, hstuck⟩

/-- Reading to the end. -/
theorem follows_finish (h : p.Encloses p') : Follows Completes p.finish p'.finish := by
  induction hn : p.cursor.left using Nat.strongRecOn generalizing p p' with
  | ind n ih =>
    subst hn
    rcases follows_step h with ⟨q, hq, hstuck⟩ | hfollows | ⟨hp, q, hq, hend, hcompletes⟩
    · obtain ⟨f, pos, hfinish⟩ := hstuck.finish
      rw [finish_of_some hq, hfinish]
      exact .fault _ _ _
    · cases hstep' : p'.step with
      | error e =>
        rw [finish_of_error hstep']
        refine ⟨by simp, ?_⟩
        rintro _ ⟨⟩
        exact (hfollows.error e hstep').imp_right finish_of_error
      | ok b =>
        obtain ⟨_, hstep, q, q', rfl, rfl, hqq'⟩ := hfollows.ok b hstep'
        rw [finish_of_some hstep, finish_of_some hstep']
        exact ih _ (goes_step hstep).1 hqq' rfl
    · rw [finish_of_none hp, finish_of_some hq, finish_of_none hend]
      exact .of_ok hcompletes

end Progress

/-! ## whole patterns -/

theorem checkAllBehind_concat_anchor (rs : List Regex) (a : Anchor) :
    checkAllBehind (rs ++ [.anchor a]) = checkAllBehind rs := by
  rw [checkAllBehind_append]
  cases checkAllBehind rs <;> rfl

/-- The anchors assert nothing about a width. -/
theorem Frame.Begins.checkBehind {f f' : Frame} (h : f.Begins f') :
    ({ f' with items := .anchor .lineEnd :: f'.items } : Frame).body.checkBehind = f.body.checkBehind := by
  have hlast : (Regex.seq (f.items.reverse ++ [.anchor .lineEnd])).checkBehind =
      (Regex.seq f.items.reverse).checkBehind := by
    rw [Regex.checkBehind, Regex.checkBehind, checkAllBehind_concat_anchor]
  have hfirst : ∀ parts, (Regex.seq (.anchor .lineStart :: parts)).checkBehind = (Regex.seq parts).checkBehind :=
    fun _ => rfl
  obtain ⟨-, -, -, ⟨hbs, hbs', his⟩ | ⟨bs, parts, hbs, hbs', his⟩⟩ := h
  · simp [Frame.body, Frame.lastBranch, hbs, hbs', his, hfirst, hlast]
  · have halt : ∀ rs, (Regex.alt rs).checkBehind = checkAllBehind rs := fun rs => by rw [Regex.checkBehind]
    simp [Frame.body, Frame.lastBranch, hbs, hbs', his, halt, checkAllBehind, checkAllBehind_append, hfirst, hlast]

namespace Progress.Completes

variable {p q : Progress}

theorem follows_checkAsked (h : p.Completes q) : Follows Eq p.checkAsked q.checkAsked := by
  have hfind := congrArg (fun l : List Nat => l.reverse.find? (· > p.widths.length)) h.asked
  simp only [← List.map_reverse, List.find?_map, Function.comp_def] at hfind
  unfold Progress.checkAsked
  rw [h.widths]
  cases hq : q.asked.reverse.find? fun a => a.1 > p.widths.length with
  | some a => exact .fault _ _ _
  | none =>
    rw [hq] at hfind
    rw [Option.map_eq_none_iff.1 hfind.symm]
    exact .of_ok rfl

theorem checkBehind (h : p.Completes q) : q.frame.body.checkBehind = p.frame.body.checkBehind := by
  obtain ⟨f, hf, hq⟩ := h.frame
  rw [hq, hf.checkBehind]

theorem checkFlags (h : p.Completes q) : q.checkFlags = p.checkFlags := by
  rw [Progress.checkFlags, Progress.checkFlags, h.flags]

end Progress.Completes

theorem pieces_concat {t : Text} (h : ¬Dangles t) : pieces (t ++ text "$") = pieces t ++ [.plain '$'] := by
  fun_induction pieces t with
  | case1 => rfl
  | case2 c =>
    by_cases hc : c = '\\'
    · exact absurd (by simp [Dangles, pieces, hc]) h
    · simp [text, pieces, hc]
      decide
  | case3 d rest ih =>
    have hrest : ¬Dangles rest := by
      intro hrest
      refine h ?_
      unfold Dangles at hrest ⊢
      rw [pieces, if_pos rfl, List.getLast?_cons, hrest]
      rfl
    rw [List.cons_append, List.cons_append, pieces, if_pos rfl, ih hrest]
    rfl
  | case4 c d rest hc ih =>
    have hrest : ¬Dangles (d :: rest) := by
      intro hrest
      refine h ?_
      unfold Dangles at hrest ⊢
      rw [pieces, if_neg hc, List.getLast?_cons, hrest]
      rfl
    rw [List.cons_append, List.cons_append, pieces, if_neg hc, ← List.cons_append, ih hrest]
    rfl

/-- Behind the first anchor, the readings have come equally far. -/
theorem encloses_start {t : Text} (h : ¬Dangles t) :
    ∃ p, (Progress.start (text "^" ++ t ++ text "$")).step = .ok (some p) ∧ (Progress.start t).Encloses p := by
  obtain ⟨d, rest, hd⟩ := List.exists_cons_of_ne_nil (l := t ++ text "$") (by simp [text])
  have hpieces : pieces (text "^" ++ t ++ text "$") = .plain '^' :: (pieces t ++ [.plain '$']) := by
    rw [List.append_assoc, ← pieces_concat h, hd]
    rfl
  refine ⟨((Progress.start (text "^" ++ t ++ text "$")).push (.anchor .lineStart)).goto
    ⟨pieces t ++ [.plain '$'], 1⟩, ?_, ?_⟩
  · simp only [Progress.start, Cursor.ofPattern, hpieces]
    rfl
  · exact ⟨rfl, .inl ⟨rfl, rfl⟩, .whole ⟨rfl, ⟨rfl, rfl⟩, rfl, .inl ⟨rfl, rfl, rfl⟩⟩, ⟨rfl, rfl⟩, rfl, rfl, rfl⟩

/-- What can be read between anchors can be read alone, unless it ends with a backslash that takes the second anchor. -/
theorem follows_parse {t : Text} (h : ¬Dangles t) :
    Follows (fun _ _ => True) (parse t) (parse (text "^" ++ t ++ text "$")) := by
  obtain ⟨p, hstep, hp⟩ := encloses_start h
  rw [parse_eq, parse_eq, Progress.finish_of_some hstep]
  refine (Progress.follows_finish hp).bind fun q q' hq => ?_
  rw [hq.checkFlags, hq.checkBehind]
  refine .bind (.refl _) fun _ _ _ => hq.follows_checkAsked.bind fun _ _ _ => ?_
  exact .bind (.refl _) fun _ _ _ => .of_ok trivial

end TypeLint.Pattern
