import TypeLint.Proofs.Pattern.Anchored

/-!
# Every step reads on

A step of the reading of a pattern takes at least one piece, so as many steps as there are pieces come to the end, and
the number of steps that are allowed does not matter.  No step takes a backslash that nothing follows.

* `Cursor.left` — the number of pieces that are left;
* `Cursor.Reads` — a place behind another one, with the same end;
* `Progress.goes_step` — fewer pieces are left behind a step, and the end is the same;
* `Progress.finish` — reading to the end, with as many steps as it takes;
* `parse_eq` — the expression of a pattern that has been read to its end;
* `parse_of_dangles` — a pattern cannot end with a backslash that nothing follows.
-/

namespace TypeLint.Pattern

@[grind =]
theorem bind_eq_ok {α β : Type} {x : Except Error α} {f : α → Except Error β} {b : β} :
    x >>= f = .ok b ↔ ∃ a, x = .ok a ∧ f a = .ok b := by
  cases x <;> simp [bind, Except.bind]

/-! ## what the parts leave -/

namespace Cursor

/-- How many pieces are left to be read. -/
def left (cur : Cursor) : Nat := cur.rest.length

/-- The pattern ends with a backslash that nothing follows. -/
def Dangles (cur : Cursor) : Prop := cur.rest.getLast? = some .dangling

/-- A place behind another one, with the same end. -/
@[grind =]
def Reads (cur after : Cursor) : Prop := after.left ≤ cur.left ∧ (cur.Dangles → after.Dangles)

variable {cur after : Cursor}

@[grind =]
theorem next?_eq_none : cur.next? = none ↔ cur.rest = [] := by
  obtain ⟨_ | ⟨p, rest⟩, pos⟩ := cur <;> simp [next?]

@[grind →]
theorem left_next? {r : Piece × Cursor} (h : cur.next? = some r) : r.2.left < cur.left := by
  obtain ⟨_ | ⟨p, rest⟩, pos⟩ := cur
  · simp [next?] at h
  · obtain rfl := Option.some.inj h
    simp [left]

@[grind →]
theorem dangles_next? {r : Piece × Cursor} (h : cur.next? = some r) (hd : cur.Dangles) :
    r.1 = .dangling ∨ r.2.Dangles := by
  obtain ⟨_ | ⟨p, _ | ⟨p', rest⟩⟩, pos⟩ := cur
  · simp [next?] at h
  · obtain rfl := Option.some.inj h
    exact .inl (by simpa [Dangles] using hd)
  · obtain rfl := Option.some.inj h
    exact .inr (by simpa [Dangles] using hd)

@[grind →]
theorem reads_skip? {c : Char} (h : cur.skip? c = some after) :
    after.left < cur.left ∧ (cur.Dangles → after.Dangles) := by
  obtain ⟨_ | ⟨p, _ | ⟨p', rest⟩⟩, pos⟩ := cur
  · simp [skip?, sees] at h
  · obtain ⟨rfl, rfl⟩ : _ ∧ _ := by simpa [skip?, sees] using h
    simp [left, Dangles]
  · obtain ⟨-, rfl⟩ : _ ∧ _ := by simpa [skip?, sees] using h
    simp [left, Dangles]

theorem Dangles.cons {piece : Piece} {rest : List Piece} {pos pos' : Nat} (h : Dangles ⟨piece :: rest, pos⟩)
    (hpiece : piece ≠ .dangling) : Dangles ⟨rest, pos'⟩ := by
  cases rest with
  | nil => exact absurd (by simpa [Dangles] using h) hpiece
  | cons p rest => simpa [Dangles] using h

theorem reads_run (inClass : CodePoint → Bool) (most : Nat) (cur : Cursor) : cur.Reads (run inClass most cur).2 := by
  fun_induction run inClass most cur with
  | case1 n c rest pos h t cur' hrun ih =>
    rw [hrun] at ih
    exact ⟨Nat.le_trans ih.1 (Nat.le_succ _), fun hd => ih.2 (hd.cons (by simp))⟩
  | case2 => exact ⟨Nat.le_refl _, id⟩
  | case3 => exact ⟨Nat.le_refl _, id⟩

theorem reads_digits (cur : Cursor) : cur.Reads cur.digits.2 := reads_run _ _ _

theorem left_upTo (close : Char) (rest : List Piece) (pos : Nat) : (upTo close rest pos).2.1.left ≤ rest.length := by
  fun_induction upTo close rest pos with
  | case1 => simp [left]
  | case2 => simp [left]
  | case3 p rest pos h t cur found hupTo ih =>
    rw [hupTo] at ih
    exact Nat.le_succ_of_le ih

/-- Up to a character that comes, the end is left. -/
theorem dangles_upTo {close : Char} {rest : List Piece} {pos : Nat} (h : rest.getLast? = some .dangling)
    (hfound : (upTo close rest pos).2.2 = true) : (upTo close rest pos).2.1.Dangles := by
  fun_induction upTo close rest pos with
  | case1 => simp at hfound
  | case2 rest pos =>
    have hall : Dangles ⟨.plain close :: rest, pos⟩ := h
    exact hall.cons (by simp)
  | case3 p rest pos hp t cur found hupTo ih =>
    rw [hupTo] at ih
    refine ih ?_ hfound
    cases rest with
    | nil =>
      obtain rfl : false = found := congrArg (·.2.2) hupTo
      simp at hfound
    | cons p' rest => simpa using h

@[grind →]
theorem reads_upTo {close : Char} {pos : Nat} {t : Text} (h : upTo close cur.rest pos = (t, after, true)) :
    cur.Reads after := by
  have hleft := left_upTo close cur.rest pos
  rw [h] at hleft
  refine ⟨hleft, fun hd => ?_⟩
  have hfound : (upTo close cur.rest pos).2.2 = true := by rw [h]
  have hdangles := dangles_upTo hd hfound
  rwa [h] at hdangles

@[grind →]
theorem reads_name {close : Char} {what : String} {r : Text × Cursor} (h : cur.name close what = .ok r) :
    cur.Reads r.2 := by
  unfold name at h
  split at h
  · simp at h
  · simp at h
  · next t after hupTo =>
    obtain rfl := Except.ok.inj h
    exact reads_upTo hupTo

end Cursor

namespace Escape

variable {c : CodePoint} {start : Nat} {cur : Cursor}

@[grind →]
theorem reads_hex {width : Nat} {r : CodePoint × Cursor} (h : hex c width start cur = .ok r) : cur.Reads r.2 := by
  have := Cursor.reads_run isHexDigit width cur
  grind [hex]

@[grind →]
theorem reads_named {r : CodePoint × Cursor} (h : named start cur = .ok r) : cur.Reads r.2 := by
  grind [named]

@[grind →]
theorem reads_numbered? {r : CodePoint × Cursor} (h : numbered? c start cur = some (.ok r)) : cur.Reads r.2 := by
  grind [numbered?]

@[grind →]
theorem reads_octal {r : CodePoint × Cursor} (h : octal c start cur = .ok r) : cur.Reads r.2 := by
  have := Cursor.reads_run isOctalDigit 2 cur
  grind [octal]

@[grind →]
theorem reads_inSet {r : SetItem × Cursor} (h : inSet c start cur = .ok r) : cur.Reads r.2 := by
  grind [inSet]

@[grind →]
theorem reads_decimal {r : Meaning × Cursor} (h : decimal c start cur = .ok r) : cur.Reads r.2 := by
  have hsecond := Cursor.reads_run CodePoint.isAsciiDigit 1 cur
  have hthird := Cursor.reads_run isOctalDigit 1 (cur.run CodePoint.isAsciiDigit 1).2
  grind [decimal]

@[grind →]
theorem reads_outside {r : Meaning × Cursor} (h : outside c start cur = .ok r) : cur.Reads r.2 := by
  grind [outside]

end Escape

@[simp, grind =]
theorem FlagLetter.ofPiece?_dangling : FlagLetter.ofPiece? .dangling = none := rfl

@[grind →]
theorem reads_readOff {on off : Flags} {fuel : Nat} {letter : FlagLetter} {cur : Cursor} {r : FlagGroup × Cursor}
    (h : readOff on fuel letter off cur = .ok r) : cur.Reads r.2 := by
  induction fuel generalizing letter off cur with
  | zero => simp [readOff] at h
  | succ fuel ih => grind [readOff]

@[grind →]
theorem reads_readMinus {on : Flags} {cur : Cursor} {r : FlagGroup × Cursor} (h : readMinus on cur = .ok r) :
    cur.Reads r.2 := by
  grind [readMinus]

@[grind →]
theorem reads_readOn {on : Flags} {fuel : Nat} {letter : FlagLetter} {cur : Cursor} {r : FlagGroup × Cursor}
    (h : readOn fuel letter on cur = .ok r) : cur.Reads r.2 := by
  induction fuel generalizing letter on cur with
  | zero => simp [readOn] at h
  | succ fuel ih => grind [readOn]

namespace Progress

/-- A result stands behind a place. -/
def Leaves (cur : Cursor) (x : Except Error Progress) : Prop := ∀ q, x = .ok q → cur.Reads q.cursor

variable {p q : Progress} {start : Nat} {cur after : Cursor}

theorem Leaves.ok (h : cur.Reads p.cursor) : Leaves cur (.ok p) := by
  rintro _ ⟨⟩
  exact h

theorem Leaves.here (h : p.cursor = cur) : Leaves cur (.ok p) := by
  subst h
  exact .ok ⟨Nat.le_refl _, id⟩

theorem Leaves.ite {c : Prop} [Decidable c] {x y : Except Error Progress} (hx : Leaves cur x) (hy : Leaves cur y) :
    Leaves cur (if c then x else y) := by
  split
  · exact hx
  · exact hy

@[grind →]
theorem reads_setItem {piece : Piece} {r : SetItem × Cursor} (h : setItem piece start after = .ok r) :
    piece ≠ .dangling ∧ after.Reads r.2 := by
  cases piece <;> grind [setItem]

@[simp, grind =]
theorem cursor_goto (p : Progress) (cur : Cursor) : (p.goto cur).cursor = cur := rfl

@[simp, grind =]
theorem cursor_inSet (p : Progress) (s : SetFrame) (after : Cursor) : (p.inSet s after).cursor = after := rfl

@[simp, grind =]
theorem cursor_closeSet (p : Progress) (s : SetFrame) (after : Cursor) : (p.closeSet s after).cursor = after := rfl

/-- Behind a step, fewer pieces are left, and the end is the same. -/
@[grind =]
def Goes (p q : Progress) : Prop := q.cursor.left < p.cursor.left ∧ (p.cursor.Dangles → q.cursor.Dangles)

theorem goes_stepSet {s : SetFrame} (h : p.stepSet s = .ok q) : p.Goes q := by
  unfold stepSet at h
  split at h
  · simp at h
  next lo after hlo =>
  split at h
  · obtain rfl := Except.ok.inj h
    grind
  obtain ⟨⟨item, after'⟩, hitem, h⟩ := bind_eq_ok.1 h
  dsimp only at h
  split at h
  · obtain rfl := Except.ok.inj h
    grind
  next dash hdash =>
  split at h
  · simp at h
  next hi last hhi =>
  split at h
  · obtain rfl := Except.ok.inj h
    grind
  obtain ⟨⟨item', last'⟩, hitem', h⟩ := bind_eq_ok.1 h
  dsimp only at h
  have hq : q.cursor = last' := by
    split at h
    · split at h
      · obtain rfl := Except.ok.inj h
        rfl
      · simp at h
    · simp at h
  grind

@[grind .]
theorem reads_openSet (p : Progress) (start : Nat) (after : Cursor) : after.Reads (p.openSet start after).cursor := by
  grind [openSet]

@[grind →]
theorem reads_bounds {least : Nat} {most : Option Nat} (h : bounds cur = .ok (some (least, most, after))) :
    cur.Reads after := by
  unfold bounds at h
  split at h
  · simp at h
  dsimp only at h
  split at h
  · simp at h
  next last hlast =>
  obtain ⟨lo, -, h⟩ := bind_eq_ok.1 h
  obtain ⟨hi, -, h⟩ := bind_eq_ok.1 h
  obtain rfl : last = after := by
    cases hi with
    | none =>
      obtain ⟨-, -, rfl⟩ : _ ∧ _ ∧ last = after := by simpa [pure, Except.pure] using h
      rfl
    | some m =>
      dsimp only at h
      split at h
      · simp [bind, Except.bind] at h
      · obtain ⟨-, -, rfl⟩ : _ ∧ _ ∧ last = after := by simpa [pure, Except.pure] using h
        rfl
  have hclose := Cursor.reads_skip? hlast
  have hlo := Cursor.reads_digits cur
  split at hclose
  · next c hc =>
    have hhi := Cursor.reads_digits c
    grind
  · grind

theorem reads_mode (cur : Cursor) : cur.Reads (mode cur).2 := by
  grind [mode]

@[grind →]
theorem reads_repeatLast {least : Nat} {most : Option Nat} (h : p.repeatLast start least most after = .ok q) :
    after.Reads q.cursor := by
  have := reads_mode after
  grind [repeatLast]

@[grind →]
theorem reads_identifier {close : Char} {r : Text × Cursor} (h : identifier close cur = .ok r) : cur.Reads r.2 := by
  grind [identifier]

@[grind →]
theorem reads_openNamed (h : p.openNamed start cur = .ok q) : cur.Reads q.cursor := by
  grind [openNamed]

@[grind →]
theorem reads_reference {index : Nat} (h : p.reference index start after = .ok q) : after.Reads q.cursor := by
  grind [reference]

@[grind →]
theorem reads_namedReference (h : p.namedReference cur = .ok q) : cur.Reads q.cursor := by
  grind [namedReference]

@[grind →]
theorem reads_stepNamed {question : Nat} (h : p.stepNamed start question cur = .ok q) : cur.Reads q.cursor := by
  grind [stepNamed]

@[grind →]
theorem reads_openConditional (h : p.openConditional start cur = .ok q) : cur.Reads q.cursor := by
  obtain ⟨⟨name, after⟩, hname, h⟩ := bind_eq_ok.1 h
  suffices hq : q.cursor = after by
    rw [hq]
    exact Cursor.reads_name hname
  dsimp only at h
  split at h
  · split at h
    · simp at h
    · obtain ⟨_, -, h⟩ := bind_eq_ok.1 h
      obtain rfl := Except.ok.inj h
      rfl
  · split at h
    · split at h
      · simp [bind, Except.bind] at h
      split at h
      · simp [bind, Except.bind] at h
      · obtain ⟨_, -, h⟩ := bind_eq_ok.1 h
        obtain rfl := Except.ok.inj h
        rfl
    · simp at h

@[grind →]
theorem reads_openBehind {question : Nat} (h : p.openBehind start question cur = .ok q) : cur.Reads q.cursor := by
  grind [openBehind]

@[grind →]
theorem reads_openFlags {group : FlagGroup} (h : p.openFlags start group after = .ok q) : after.Reads q.cursor := by
  cases group <;> grind [openFlags]

/-- A group begins with a piece that is no lonely backslash. -/
theorem leaves_openExtension (p : Progress) (start question : Nat) (cur : Cursor) :
    Leaves cur (p.openExtension start question cur) := by
  unfold openExtension
  split
  · grind [Leaves]
  next piece after hnext =>
  by_cases hpiece : piece = .dangling
  · subst hpiece
    simp [Leaves]
  have hreads : ∀ {x}, Leaves after x → Leaves cur x := by grind [Leaves]
  refine hreads ?_
  refine .ite (fun q => reads_stepNamed) ?_
  refine .ite (.here rfl) ?_
  refine .ite (by grind [Leaves]) ?_
  refine .ite (.here rfl) ?_
  refine .ite (.here rfl) ?_
  refine .ite (fun q => reads_openBehind) ?_
  refine .ite (fun q => reads_openConditional) ?_
  refine .ite (.here rfl) ?_
  exact .ite (by grind [Leaves]) (by grind [Leaves])

@[grind →]
theorem reads_openGroup (h : p.openGroup start cur = .ok q) : cur.Reads q.cursor := by
  have := leaves_openExtension p start cur.pos
  grind [openGroup, Leaves]

@[grind →]
theorem reads_stepEscape {c : CodePoint} (h : p.stepEscape c start cur = .ok q) : cur.Reads q.cursor := by
  grind [stepEscape]

@[grind →]
theorem reads_skipComment (h : skipComment cur = .ok after) : cur.Reads after := by
  have := Cursor.left_upTo '\n' cur.rest cur.pos
  grind [skipComment, Cursor.Dangles, Cursor.left]

theorem leaves_stepPlain (p : Progress) (c : CodePoint) (start : Nat) (after : Cursor) :
    Leaves after (p.stepPlain c start after) := by
  unfold stepPlain
  refine .ite (.here rfl) ?_
  refine .ite (by grind [Leaves]) ?_
  refine .ite (.ok (reads_openSet _ _ _)) ?_
  refine .ite (fun q => reads_repeatLast) ?_
  refine .ite (fun q => reads_repeatLast) ?_
  refine .ite (fun q => reads_repeatLast) ?_
  refine .ite (by grind [Leaves]) ?_
  refine .ite (.here rfl) ?_
  refine .ite (fun q => reads_openGroup) ?_
  refine .ite (.here rfl) ?_
  exact .ite (.here rfl) (.here rfl)

theorem goes_step (h : p.step = .ok (some q)) : p.Goes q := by
  unfold step at h
  split at h
  · obtain ⟨r, hr, h⟩ := bind_eq_ok.1 h
    obtain rfl : r = q := by simpa [pure, Except.pure] using h
    exact goes_stepSet hr
  split at h
  · split at h <;> simp [pure, Except.pure] at h
  · simp at h
  · next c after hnext =>
    obtain ⟨r, hr, h⟩ := bind_eq_ok.1 h
    obtain rfl : r = q := by simpa [pure, Except.pure] using h
    grind
  · next c after hnext =>
    suffices hreads : after.Reads q.cursor by grind
    split at h
    · obtain ⟨r, -, h⟩ := bind_eq_ok.1 h
      obtain rfl : r.goto after = q := by simpa [pure, Except.pure] using h
      grind
    split at h
    · split at h
      · next r hr =>
        obtain rfl : r.goto after = q := by simpa [pure, Except.pure] using h
        grind
      · obtain ⟨_, -, h⟩ := bind_eq_ok.1 h
        simp at h
    · obtain ⟨r, hr, h⟩ := bind_eq_ok.1 h
      obtain rfl : r = q := by simpa [pure, Except.pure] using h
      exact leaves_stepPlain p c _ after r hr

/-- Reading ends only where nothing is left. -/
theorem rest_of_step_none (h : p.step = .ok none) : p.cursor.rest = [] := by
  unfold step at h
  split at h
  · obtain ⟨_, -, h⟩ := bind_eq_ok.1 h
    simp [pure, Except.pure] at h
  · grind

/-! ## reading to the end -/

/-- More steps than there are pieces make no difference. -/
theorem run_eq_of_left {m n : Nat} (hm : p.cursor.left < m) (hn : p.cursor.left < n) : run m p = run n p := by
  induction m generalizing n p with
  | zero => omega
  | succ m ih =>
    obtain ⟨n, rfl⟩ := Nat.exists_eq_succ_of_ne_zero (Nat.ne_zero_of_lt hn)
    rw [run, run]
    cases hstep : p.step with
    | error e => rfl
    | ok next =>
      cases next with
      | none => rfl
      | some q =>
        have hq := (goes_step hstep).1
        exact ih (by omega) (by omega)

/-- Reading to the end of the pattern. -/
def finish (p : Progress) : Except Error Progress := run (p.cursor.left + 1) p

theorem finish_of_some (h : p.step = .ok (some q)) : p.finish = q.finish := by
  have hq := (goes_step h).1
  have hrun : p.finish = run p.cursor.left q := by rw [finish, run, h]; rfl
  rw [hrun, finish]
  exact run_eq_of_left hq (by omega)

theorem finish_of_none (h : p.step = .ok none) : p.finish = .ok p := by
  rw [finish, run, h]
  rfl

theorem finish_of_error {e : Error} (h : p.step = .error e) : p.finish = .error e := by
  rw [finish, run, h]
  rfl

/-- No step takes a backslash that nothing follows, so the end is not reached. -/
theorem finish_of_dangles (h : p.cursor.Dangles) : ∃ e, p.finish = .error e := by
  induction hn : p.cursor.left using Nat.strongRecOn generalizing p with
  | ind n ih =>
    subst hn
    cases hstep : p.step with
    | error e => exact ⟨e, finish_of_error hstep⟩
    | ok next =>
      cases next with
      | none => simp [Cursor.Dangles, rest_of_step_none hstep] at h
      | some q =>
        obtain ⟨hleft, hdangles⟩ := goes_step hstep
        rw [finish_of_some hstep]
        exact ih _ hleft (hdangles h) rfl

end Progress

/-! ## patterns that have been read to their end -/

theorem checkAllBehind_append (rs rs' : List Regex) :
    checkAllBehind (rs ++ rs') = (checkAllBehind rs >>= fun _ => checkAllBehind rs') := by
  induction rs with
  | nil => rfl
  | cons r rs ih => rw [List.cons_append, checkAllBehind, checkAllBehind, ih, bind_assoc]

theorem parse_eq (pattern : Text) : parse pattern = (Progress.start pattern).finish >>= fun p => do
    p.checkFlags
    p.checkAsked
    p.frame.body.checkBehind
    return ⟨p.flags, p.frame.body⟩ :=
  rfl

/-- The pattern ends with a backslash that nothing follows. -/
def Dangles (pattern : Text) : Prop := (pieces pattern).getLast? = some .dangling

instance (pattern : Text) : Decidable (Dangles pattern) := inferInstanceAs (Decidable (_ = _))

theorem parse_of_dangles {pattern : Text} (h : Dangles pattern) : ∃ e, parse pattern = .error e := by
  obtain ⟨e, he⟩ := (Progress.start pattern).finish_of_dangles h
  rw [parse_eq, he]
  exact ⟨e, rfl⟩

end TypeLint.Pattern
