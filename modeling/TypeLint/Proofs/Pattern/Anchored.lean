import TypeLint.Pattern.Parse

/-!
# Patterns that begin with an anchor

Options for a whole pattern are read only at its very start.  Behind an anchor they come too late, so a pattern that
begins with one has no options for all of it, and its classes cannot be at once those of the ASCII block and those of
all scripts.

* `Progress.Begun` — something has been read outside all groups, and there are no options for the whole pattern;
* `Progress.keeps_step`, `Progress.keeps_run` — one step keeps this, and so does reading to the end;
* `parse_anchor_ne_flagConflict` — a pattern that begins with an anchor has no conflicting options.
-/

namespace TypeLint.Pattern

/-! ## parts of a pattern whose reading cannot find conflicting options -/

@[grind =]
theorem bind_eq_flagConflict {α β : Type} {x : Except Error α} {f : α → Except Error β} :
    x >>= f = .error .flagConflict ↔
      x = .error .flagConflict ∨ ∃ a, x = .ok a ∧ f a = .error .flagConflict := by
  cases x <;> simp [bind, Except.bind]

@[grind =]
theorem pure_eq_ok {α : Type} (a : α) : (pure a : Except Error α) = .ok a := rfl

section Parts

variable (c : CodePoint) (start : Nat) (cur : Cursor)

@[grind .]
theorem Cursor.name_ne_flagConflict (close : Char) (what : String) : cur.name close what ≠ .error .flagConflict := by
  grind [Cursor.name]

@[grind .]
theorem Escape.hex_ne_flagConflict (width : Nat) : Escape.hex c width start cur ≠ .error .flagConflict := by
  grind [Escape.hex]

@[grind .]
theorem Escape.named_ne_flagConflict : Escape.named start cur ≠ .error .flagConflict := by
  grind [Escape.named]

@[grind →]
theorem Escape.ne_flagConflict_of_numbered? {r : Except Error (CodePoint × Cursor)}
    (h : Escape.numbered? c start cur = some r) : r ≠ .error .flagConflict := by
  grind [Escape.numbered?]

@[grind .]
theorem Escape.octal_ne_flagConflict : Escape.octal c start cur ≠ .error .flagConflict := by
  grind [Escape.octal]

@[grind .]
theorem Escape.literal_ne_flagConflict : Escape.literal c start ≠ .error .flagConflict := by
  grind [Escape.literal]

@[grind .]
theorem Escape.inSet_ne_flagConflict : Escape.inSet c start cur ≠ .error .flagConflict := by
  grind [Escape.inSet]

@[grind .]
theorem Escape.decimal_ne_flagConflict : Escape.decimal c start cur ≠ .error .flagConflict := by
  grind [Escape.decimal]

@[grind .]
theorem Escape.outside_ne_flagConflict : Escape.outside c start cur ≠ .error .flagConflict := by
  grind [Escape.outside]

@[grind .]
theorem readOff_ne_flagConflict (on : Flags) (fuel : Nat) (letter : FlagLetter) (off : Flags) :
    readOff on fuel letter off cur ≠ .error .flagConflict := by
  induction fuel generalizing letter off cur with
  | zero => grind [readOff]
  | succ fuel ih => grind [readOff]

@[grind .]
theorem readMinus_ne_flagConflict (on : Flags) : readMinus on cur ≠ .error .flagConflict := by
  grind [readMinus]

@[grind .]
theorem readOn_ne_flagConflict (fuel : Nat) (letter : FlagLetter) (on : Flags) :
    readOn fuel letter on cur ≠ .error .flagConflict := by
  induction fuel generalizing letter on cur with
  | zero => grind [readOn]
  | succ fuel ih => grind [readOn]

@[grind .]
theorem Progress.setItem_ne_flagConflict (piece : Piece) : Progress.setItem piece start cur ≠ .error .flagConflict := by
  cases piece <;> grind [Progress.setItem]

@[grind .]
theorem Progress.count_ne_flagConflict (digits : Text) : Progress.count digits ≠ .error .flagConflict := by
  grind [Progress.count]

@[grind .]
theorem Progress.bounds_ne_flagConflict : Progress.bounds cur ≠ .error .flagConflict := by
  grind [Progress.bounds]

@[grind .]
theorem Progress.identifier_ne_flagConflict (close : Char) :
    Progress.identifier close cur ≠ .error .flagConflict := by
  grind [Progress.identifier]

@[grind .]
theorem Progress.checkBehind_ne_flagConflict (p : Progress) (index pos : Nat) :
    p.checkBehind index pos ≠ .error .flagConflict := by
  grind [Progress.checkBehind]

@[grind .]
theorem Progress.skipComment_ne_flagConflict : Progress.skipComment cur ≠ .error .flagConflict := by
  grind [Progress.skipComment]

end Parts

/-! ## what is kept -/

/-- The outermost of frames. -/
def outermost (f : Frame) : List Frame → Frame
  | [] => f
  | g :: gs => outermost g gs

namespace Progress

/-- Something has been read outside all groups, and there are no options for the whole pattern. -/
structure Begun (p : Progress) : Prop where
  flags : p.flags = .empty
  read : (outermost p.frame p.outer).items ≠ [] ∨ (outermost p.frame p.outer).branches ≠ []

/-- A step that does not find conflicting options, and behind which something has been read. -/
structure Keeps (x : Except Error Progress) : Prop where
  ne_flagConflict : x ≠ .error .flagConflict
  begun : ∀ p, x = .ok p → p.Begun

theorem Keeps.ok {p : Progress} (h : p.Begun) : Keeps (.ok p) := ⟨by simp, by rintro _ ⟨⟩; exact h⟩

theorem Keeps.fault (f : Fault) (pos : Nat) : Keeps (.error (.at f pos)) := ⟨by simp, by simp⟩

theorem Keeps.bind {α : Type} {x : Except Error α} {f : α → Except Error Progress} (hx : x ≠ .error .flagConflict)
    (hf : ∀ a, x = .ok a → Keeps (f a)) : Keeps (x >>= f) := by
  cases x with
  | error e => exact ⟨by simpa [Bind.bind, Except.bind] using hx, by simp [Bind.bind, Except.bind]⟩
  | ok a => exact hf a rfl

theorem Keeps.ite {c : Prop} [Decidable c] {x y : Except Error Progress} (hx : Keeps x) (hy : Keeps y) :
    Keeps (if c then x else y) := by
  split
  · exact hx
  · exact hy

variable {p : Progress}

theorem Begun.goto (h : p.Begun) (cur : Cursor) : (p.goto cur).Begun := ⟨h.flags, h.read⟩

/-- The innermost frame can be replaced by one that has read as much. -/
theorem Begun.frame (h : p.Begun) {f : Frame}
    (hf : p.frame.items ≠ [] ∨ p.frame.branches ≠ [] → f.items ≠ [] ∨ f.branches ≠ []) :
    (outermost f p.outer).items ≠ [] ∨ (outermost f p.outer).branches ≠ [] := by
  have hread := h.read
  cases houter : p.outer with
  | nil => exact hf (by simpa [houter, outermost] using hread)
  | cons g gs => simpa [houter, outermost] using hread

theorem Begun.push (h : p.Begun) (r : Regex) : (p.push r).Begun :=
  ⟨h.flags, h.frame fun _ => .inl (List.cons_ne_nil _ _)⟩

theorem Begun.enter (h : p.Begun) (kind : GroupKind) (start : Nat) : (p.enter kind start).Begun :=
  ⟨h.flags, h.read⟩

theorem Begun.openCapture (h : p.Begun) (start : Nat) : (p.openCapture start).Begun := ⟨h.flags, h.read⟩

theorem Begun.leave (h : p.Begun) {p' : Progress} (hp : p.leave = some p') : p'.Begun := by
  have hread := h.read
  unfold Progress.leave at hp
  split at hp
  · simp at hp
  · next f outer houter =>
    obtain rfl := Option.some.inj hp
    refine ⟨h.flags, ?_⟩
    cases outer with
    | nil => exact .inl (by simp [outermost])
    | cons g gs => simpa [houter, outermost] using hread

theorem keeps_branch (h : p.Begun) : Keeps p.branch := by
  unfold Progress.branch
  split
  · exact .fault _ _
  · exact .ok ⟨h.flags, h.frame fun _ => .inr (by simp)⟩

theorem keeps_reference (h : p.Begun) (index start : Nat) (after : Cursor) : Keeps (p.reference index start after) := by
  unfold Progress.reference
  split
  · exact .fault _ _
  · exact .bind (by grind) fun _ _ => .ok ((h.push _).goto _)

theorem keeps_stepSet (h : p.Begun) (s : SetFrame) : Keeps (p.stepSet s) := by
  unfold Progress.stepSet
  have hset : ∀ s after, Begun (p.inSet s after) := fun s after => ⟨h.flags, h.read⟩
  have hclose : ∀ s after, Begun (p.closeSet s after) := fun s after => ⟨h.flags, (h.push _).read⟩
  split
  · exact .fault _ _
  · next lo after hnext =>
    split
    · exact .ok (hclose _ _)
    refine .bind (by grind) fun ⟨item, after⟩ _ => ?_
    dsimp only
    split
    · exact .ok (hset _ _)
    split
    · exact .fault _ _
    split
    · exact .ok (hclose _ _)
    refine .bind (by grind) fun ⟨item', last⟩ _ => ?_
    dsimp only
    split
    · split
      · exact .ok (hset _ _)
      · exact .fault _ _
    · exact .fault _ _

theorem keeps_repeatLast (h : p.Begun) (start least : Nat) (most : Option Nat) (after : Cursor) :
    Keeps (p.repeatLast start least most after) := by
  unfold Progress.repeatLast
  split
  · exact .fault _ _
  · exact .fault _ _
  · exact .fault _ _
  · exact .ok ⟨h.flags, h.frame fun _ => .inl (List.cons_ne_nil _ _)⟩

theorem keeps_openNamed (h : p.Begun) (start : Nat) (cur : Cursor) : Keeps (p.openNamed start cur) := by
  unfold Progress.openNamed
  refine .bind (by grind) fun ⟨name, after⟩ _ => ?_
  dsimp only
  split
  · exact .fault _ _
  · exact .ok ⟨h.flags, h.read⟩

theorem keeps_namedReference (h : p.Begun) (cur : Cursor) : Keeps (p.namedReference cur) := by
  unfold Progress.namedReference
  refine .bind (by grind) fun ⟨name, after⟩ _ => ?_
  dsimp only
  split
  · exact .fault _ _
  · exact keeps_reference h _ _ _

theorem keeps_stepNamed (h : p.Begun) (start question : Nat) (cur : Cursor) :
    Keeps (p.stepNamed start question cur) := by
  unfold Progress.stepNamed
  split
  · exact .fault _ _
  split
  · exact keeps_openNamed h _ _
  split
  · exact keeps_namedReference h _
  · exact .fault _ _

theorem keeps_openConditional (h : p.Begun) (start : Nat) (cur : Cursor) : Keeps (p.openConditional start cur) := by
  unfold Progress.openConditional
  refine .bind (by grind) fun ⟨name, after⟩ _ => ?_
  dsimp only
  split
  · split
    · exact .fault _ _
    · exact .bind (by grind) fun _ _ => .ok ((h.enter _ _).goto _)
  · split
    · split
      · exact .fault _ _
      split
      · exact .fault _ _
      · exact .bind (by grind) fun _ _ => .ok ⟨h.flags, h.read⟩
    · exact .fault _ _

theorem keeps_openBehind (h : p.Begun) (start question : Nat) (cur : Cursor) :
    Keeps (p.openBehind start question cur) := by
  unfold Progress.openBehind
  split
  · exact .fault _ _
  split
  · exact .ok ((h.enter _ _).goto _)
  split
  · exact .ok ((h.enter _ _).goto _)
  · exact .fault _ _

/-- Options for the whole pattern come too late. -/
theorem keeps_openFlags (h : p.Begun) (start : Nat) (group : FlagGroup) (after : Cursor) :
    Keeps (p.openFlags start group after) := by
  unfold Progress.openFlags
  split
  · exact .ok ((h.enter _ _).goto _)
  · split
    · next hnone =>
      simp only [Bool.and_eq_true, List.isEmpty_iff] at hnone
      obtain ⟨⟨houter, hbranches⟩, hitems⟩ := hnone
      have hread := h.read
      simp [houter, outermost, hitems, hbranches] at hread
    · exact .fault _ _

theorem keeps_openExtension (h : p.Begun) (start question : Nat) (cur : Cursor) :
    Keeps (p.openExtension start question cur) := by
  unfold Progress.openExtension
  split
  · exact .fault _ _
  refine .ite (keeps_stepNamed h _ _ _) ?_
  refine .ite (.ok ((h.enter _ _).goto _)) ?_
  refine .ite ?_ ?_
  · split
    · exact .fault _ _
    · exact .ok (h.goto _)
  refine .ite (.ok ((h.enter _ _).goto _)) ?_
  refine .ite (.ok ((h.enter _ _).goto _)) ?_
  refine .ite (keeps_openBehind h _ _ _) ?_
  refine .ite (keeps_openConditional h _ _) ?_
  refine .ite (.ok ((h.enter _ _).goto _)) ?_
  split
  · exact .bind (by grind) fun ⟨group, last⟩ _ => keeps_openFlags h _ _ _
  split
  · exact .bind (by grind) fun ⟨group, last⟩ _ => keeps_openFlags h _ _ _
  · exact .fault _ _

theorem keeps_openGroup (h : p.Begun) (start : Nat) (cur : Cursor) : Keeps (p.openGroup start cur) := by
  unfold Progress.openGroup
  split
  · exact keeps_openExtension h _ _ _
  · exact .ok ((h.openCapture _).goto _)

theorem keeps_stepEscape (h : p.Begun) (c : CodePoint) (start : Nat) (cur : Cursor) :
    Keeps (p.stepEscape c start cur) := by
  unfold Progress.stepEscape
  refine .bind (by grind) fun ⟨meaning, after⟩ _ => ?_
  dsimp only
  split
  · exact .ok ((h.push _).goto _)
  · exact .ok ((h.push _).goto _)
  · exact .ok ((h.push _).goto _)
  · split
    · exact keeps_reference h _ _ _
    · exact .fault _ _

theorem keeps_openSet (h : p.Begun) (start : Nat) (after : Cursor) : Keeps (.ok (p.openSet start after)) := by
  unfold Progress.openSet
  split
  · exact .ok ⟨h.flags, h.read⟩
  · exact .ok ⟨h.flags, h.read⟩

theorem keeps_stepPlain (h : p.Begun) (c : CodePoint) (start : Nat) (after : Cursor) :
    Keeps (p.stepPlain c start after) := by
  unfold Progress.stepPlain
  refine .ite (.ok (h.goto _)) ?_
  refine .ite (.bind (by grind) fun _ _ => .ok (h.goto _)) ?_
  refine .ite (keeps_openSet h _ _) ?_
  refine .ite (keeps_repeatLast h _ _ _ _) ?_
  refine .ite (keeps_repeatLast h _ _ _ _) ?_
  refine .ite (keeps_repeatLast h _ _ _ _) ?_
  refine .ite ?_ ?_
  · refine .bind (by grind) fun a _ => ?_
    split
    · exact .ok ((h.push _).goto _)
    · exact keeps_repeatLast h _ _ _ _
  refine .ite (.ok ((h.push _).goto _)) ?_
  refine .ite (keeps_openGroup h _ _) ?_
  refine .ite (.ok ((h.push _).goto _)) ?_
  exact .ite (.ok ((h.push _).goto _)) (.ok ((h.push _).goto _))

theorem Begun.checkFlags (h : p.Begun) : p.checkFlags = .ok () := by
  simp [Progress.checkFlags, h.flags, Flags.empty]

/-- One step keeps what has been read, and finds no conflicting options. -/
theorem keeps_step (h : p.Begun) : p.step ≠ .error .flagConflict ∧ ∀ p', p.step = .ok (some p') → p'.Begun := by
  have hkeep : ∀ (x : Except Error Progress) (f : Progress → Progress), Keeps x → (∀ q, q.Begun → (f q).Begun) →
      (x >>= fun q => pure (some (f q))) ≠ .error .flagConflict ∧
        ∀ p', (x >>= fun q => pure (some (f q))) = .ok (some p') → p'.Begun := by
    intro x f hx hf
    cases x with
    | error e =>
      refine ⟨?_, by simp [Bind.bind, Except.bind]⟩
      simpa [Bind.bind, Except.bind] using hx.ne_flagConflict
    | ok q =>
      refine ⟨by simp [Bind.bind, Except.bind, pure, Except.pure], fun p' hp' => ?_⟩
      obtain rfl : f q = p' := by simpa [Bind.bind, Except.bind, pure, Except.pure] using hp'
      exact hf q (hx.begun q rfl)
  unfold Progress.step
  split
  · exact hkeep _ (fun q => q) (keeps_stepSet h _) fun _ hq => hq
  split
  · split
    · exact ⟨by simp [pure, Except.pure], by simp [pure, Except.pure]⟩
    · exact ⟨by simp, by simp⟩
  · exact ⟨by simp, by simp⟩
  · exact hkeep _ (fun q => q) (keeps_stepEscape h _ _ _) fun _ hq => hq
  · next c after hnext =>
    split
    · exact hkeep _ (fun q => q.goto after) (keeps_branch h) fun _ hq => hq.goto after
    split
    · split
      · next q hleave => exact hkeep (.ok q) (fun q => q.goto after) (.ok (h.leave hleave)) fun _ hq => hq.goto after
      · rw [h.checkFlags]
        exact ⟨by simp [Bind.bind, Except.bind], by simp [Bind.bind, Except.bind]⟩
    · exact hkeep _ (fun q => q) (keeps_stepPlain h _ _ _) fun _ hq => hq

/-- Reading to the end keeps what has been read, and finds no conflicting options. -/
theorem keeps_run (h : p.Begun) (fuel : Nat) : Keeps (run fuel p) := by
  induction fuel generalizing p with
  | zero => exact .ok h
  | succ fuel ih =>
    rw [run]
    obtain ⟨hne, hbegun⟩ := keeps_step h
    refine .bind hne fun next hnext => ?_
    cases next with
    | none => exact .ok h
    | some p' => exact ih (hbegun p' hnext)

/-- Behind the anchor with which a pattern begins, something has been read. -/
theorem begun_of_step_anchor (d : CodePoint) (t : Text) :
    ∃ p, (start (CodePoint.ofChar '^' :: d :: t)).step = .ok (some p) ∧ p.Begun :=
  ⟨_, rfl, rfl, .inl (List.cons_ne_nil _ _)⟩

end Progress

mutual

theorem Regex.checkBehind_ne_flagConflict : ∀ r : Regex, r.checkBehind ≠ .error .flagConflict
  | .look none negated body => by
    simpa [Regex.checkBehind] using body.checkBehind_ne_flagConflict
  | .look (some w) negated body => by
    have hbody := body.checkBehind_ne_flagConflict
    simp only [Regex.checkBehind]
    grind
  | .seq parts => by
    rw [Regex.checkBehind]
    exact checkAllBehind_ne_flagConflict parts
  | .alt parts => by
    rw [Regex.checkBehind]
    exact checkAllBehind_ne_flagConflict parts
  | .group _ body => by
    rw [Regex.checkBehind]
    exact body.checkBehind_ne_flagConflict
  | .flagged _ _ body => by
    rw [Regex.checkBehind]
    exact body.checkBehind_ne_flagConflict
  | .atomic body => by
    rw [Regex.checkBehind]
    exact body.checkBehind_ne_flagConflict
  | .repeated _ _ _ body => by
    rw [Regex.checkBehind]
    exact body.checkBehind_ne_flagConflict
  | .conditional _ yes no => by
    have hyes := yes.checkBehind_ne_flagConflict
    have hno := no.checkBehind_ne_flagConflict
    grind [Regex.checkBehind]
  | .char _ | .set _ _ | .any | .anchor _ | .backref _ => by simp [Regex.checkBehind]

theorem checkAllBehind_ne_flagConflict : ∀ rs : List Regex, checkAllBehind rs ≠ .error .flagConflict
  | [] => by simp [checkAllBehind]
  | r :: rs => by
    have hr := r.checkBehind_ne_flagConflict
    have hrs := checkAllBehind_ne_flagConflict rs
    grind [checkAllBehind]

end

/-- A pattern that begins with an anchor and goes on has no conflicting options. -/
theorem parse_anchor_ne_flagConflict {t : Text} (ht : t ≠ []) :
    parse (CodePoint.ofChar '^' :: t) ≠ .error .flagConflict := by
  obtain ⟨d, t, rfl⟩ := List.exists_cons_of_ne_nil ht
  obtain ⟨p, hp, hbegun⟩ := Progress.begun_of_step_anchor d t
  unfold parse
  have hrun : Progress.Keeps ((Progress.start (CodePoint.ofChar '^' :: d :: t)).run
      ((pieces (CodePoint.ofChar '^' :: d :: t)).length + 1)) := by
    rw [Progress.run, hp]
    exact Progress.keeps_run hbegun _
  intro h
  obtain h | ⟨q, hq, h⟩ := bind_eq_flagConflict.1 h
  · exact hrun.ne_flagConflict h
  · rw [(hrun.begun q hq).checkFlags] at h
    have hasked : q.checkAsked ≠ .error .flagConflict := by grind [Progress.checkAsked]
    have hbehind := q.frame.body.checkBehind_ne_flagConflict
    grind

end TypeLint.Pattern
