import TypeLint.Proofs.Source.Embed
import TypeLint.Proofs.Source.Reading
import TypeLint.Proofs.Source.Scan

/-!
# Sources line by line

A line feed cuts a source into two texts that are read one after the other.

* `State.reads_lineFeed_iff` — a line feed is read as a line end of its own, also if more line ends follow it;
* `State.Reads.append_lineFeed` — what is read of a text is read of it in front of a line feed, too;
* `State.ReadsOn` — a state reads a text in front of another one, and no further;
* `State.ReadsLines`, `parse_eq_ok_iff_readsLines` — the end of a source is a line end at which the statements of the
  program are left;
* `State.ReadsOn.embed` — what is read of a source is read of it inside another one, too;
* `parse_append`, `parse_inRun` — the program of a source below another one, and of a source inside a block.
-/

namespace TypeLint.Source

open CodePoint (lineFeed)

/-! ## positions -/

namespace Pos

theorem after_append (p : Pos) (t u : Text) : p.after (t ++ u) = (p.after t).after u := List.foldl_append

theorem after_lineFeed (p : Pos) (t : Text) : p.after (lineFeed :: t) = Pos.after ⟨p.line + 1, 1⟩ t := rfl

/-- That many lines further down. -/
def down (n : Nat) (p : Pos) : Pos := ⟨p.line + n, p.column⟩

theorem next_down (n : Nat) (p : Pos) (c : CodePoint) : (p.down n).next c = (p.next c).down n := by
  unfold next down
  split
  · simp only [Pos.mk.injEq, and_true]
    omega
  · rfl

theorem after_down (n : Nat) (p : Pos) (t : Text) : (p.down n).after t = (p.after t).down n := by
  induction t generalizing p with
  | nil => rfl
  | cons c t ih =>
    show ((p.down n).next c).after t = _
    rw [next_down, ih]
    rfl

theorem line_after (p : Pos) (t : Text) : (p.after t).line = p.line + t.count lineFeed := by
  induction t generalizing p with
  | nil => rfl
  | cons c t ih =>
    show ((p.next c).after t).line = _
    rw [ih, List.count_cons, next]
    split
    · next hc => simp [hc]; omega
    · next hc => simp [hc]

end Pos

/-! ## line ends -/

/-- Nothing is left to be ended behind a line end. -/
theorem State.lineEnded?_lineEnded? {s s₁ : State} (h : s.lineEnded? = some s₁) : s₁.lineEnded? = some s₁ := by
  unfold State.lineEnded? at h
  split at h
  · have hc : s₁.canEnd = false := congrArg Layout.canEnd (State.layout_terminated? h)
    simp [State.lineEnded?, hc]
  · next hc =>
    obtain rfl := Option.some.inj h
    rw [State.lineEnded?, if_neg hc]

theorem State.reads_lineEnd_iff {s s' : State} {pos : Pos} {t : Text} :
    s.Reads pos (lineFeed :: t) s' ↔ ∃ s₁, s.lineEnded? = some s₁ ∧
      s₁.Reads (pos.after (lineFeed :: (lineEndTail t).1)) (lineEndTail t).2 s' := by
  constructor
  · intro h
    cases h with
    | cons scanned read reads =>
      rw [scan_lineFeed] at scanned
      obtain ⟨rfl, rfl, rfl⟩ : _ ∧ _ ∧ _ := by simpa using scanned
      exact ⟨_, read, reads⟩
  · rintro ⟨s₁, h₁, h⟩
    exact .cons (scan_lineFeed ..) h₁ h

/-- Where nothing is left to be ended, line ends are skipped. -/
theorem State.reads_lineEnd_iff_of_lineEnded? {s s' : State} (h : s.lineEnded? = some s) {pos : Pos} {t : Text} :
    s.Reads pos (lineFeed :: t) s' ↔
      s.Reads (pos.after (lineFeed :: (lineEndTail t).1)) (lineEndTail t).2 s' := by
  rw [State.reads_lineEnd_iff, h]
  simp

/-- A line feed is read as a line end of its own, also if more line ends follow it. -/
theorem State.reads_lineFeed_iff {s s' : State} {pos : Pos} {t : Text} :
    s.Reads pos (lineFeed :: t) s' ↔ ∃ s₁, s.lineEnded? = some s₁ ∧ s₁.Reads ⟨pos.line + 1, 1⟩ t s' := by
  rw [State.reads_lineEnd_iff]
  refine exists_congr fun s₁ => and_congr_right fun h₁ => ?_
  have h₂ := State.lineEnded?_lineEnded? h₁
  rw [Pos.after_lineFeed]
  generalize (⟨pos.line + 1, 1⟩ : Pos) = q
  -- the line ends behind the first one are one more line end, maybe with a carriage return before it
  fun_cases lineEndTail t with
  | case1 => rfl
  | case2 cs more rest hmore => rw [State.reads_lineEnd_iff_of_lineEnded? h₂, hmore]
  | case3 c hc d ds hcd more rest hmore =>
    obtain ⟨rfl, rfl⟩ : c = CodePoint.ofChar '\r' ∧ d = lineFeed := by simpa using hcd
    rw [State.reads_cons_iff (scan_carriageReturn ..) (rfl : _ = some s₁),
      State.reads_lineEnd_iff_of_lineEnded? h₂, hmore, ← Pos.after_append]
    rfl
  | case4 => rfl
  | case5 => rfl

/-! ## a line feed behind a text -/

/-- An operator is looked for only where a statement can end. -/
theorem State.canEnd_of_admits_mulOp {s : State} (h : s.admits .mulOp = true) : s.canEnd = true := by
  unfold State.admits at h
  fun_cases State.expected s <;> first | rfl | exact (Bool.false_ne_true h).elim

theorem State.admits_finish (s : State) : s.admits .finish = false := by
  unfold State.admits
  fun_cases State.expected s <;> rfl

/-- A text that is read does not start with an unfinished comment. -/
theorem State.Reads.not_unfinished {s s' : State} {pos : Pos} {t : Text} (h : s.Reads pos t s') : ¬ Unfinished t := by
  intro hun
  cases h with
  | nil =>
    obtain ⟨cs, hcs, -⟩ := hun
    simp at hcs
  | @cons _ s₁ _ _ _ lexeme rest kind scanned read reads =>
    -- the stroke would be an operator, and the star behind it cannot be read
    obtain ⟨rfl, cs, rfl⟩ := of_scan_unfinished hun scanned
    cases reads with
    | cons scanned' =>
      have hk := of_scan_star scanned'
      have hc := State.canEnd_of_admits_mulOp (admits_of_scan (hk ▸ scanned'))
      have hl := congrArg (Layout.canEnd ·.2) (State.layout_step (t := ⟨.mulOp, lexeme, pos⟩) read)
      exact Bool.false_ne_true (hl.trans hc)

/-- What is read of a text is read of it in front of a line feed, too. -/
theorem State.Reads.append_lineFeed {s s' s'' : State} {pos : Pos} {t u : Text} (h : s.Reads pos t s')
    (hu : s'.Reads (pos.after t) (lineFeed :: u) s'') : s.Reads pos (t ++ lineFeed :: u) s'' := by
  induction hn : t.length using Nat.strongRecOn generalizing s pos t with
  | _ n ih =>
    subst hn
    cases h with
    | nil => exact hu
    | @cons _ s₁ _ _ _ lexeme rest kind scanned read reads =>
      by_cases hlf : t.head? = some lineFeed
      · obtain ⟨t, rfl⟩ := List.head?_eq_some_iff.1 hlf
        obtain ⟨s₂, h₂, hr⟩ := State.reads_lineFeed_iff.1 (.cons scanned read reads)
        exact State.reads_lineFeed_iff.2 ⟨s₂, h₂, ih _ (by simp) hr hu rfl⟩
      · have hne : t ≠ [] := by
          rintro rfl
          exact absurd (length_lt_of_scan scanned) (by simp)
        have hun := State.Reads.not_unfinished (.cons scanned read reads)
        have hscan := scan_append_lineFeed s.admits hne hlf hun u
        rw [scanned] at hscan
        obtain rfl : t = lexeme ++ rest := (splits_scan scanned).1
        rw [Pos.after_append] at hu
        exact .cons hscan read (ih _ (length_lt_of_scan scanned) reads hu rfl)

/-! ## a text in front of another -/

/-- White space is skipped, one code point at a time. -/
theorem State.reads_blank_iff {s s' : State} {pos : Pos} {c : CodePoint} (hc : isGap c = true) {t : Text} :
    s.Reads pos (c :: t) s' ↔ s.Reads (pos.next c) t s' := by
  rw [State.reads_cons_iff (scan_blanks hc t) (rfl : _ = some s)]
  show s.Reads ((pos.next c).after (t.takeWhile isGap)) _ s' ↔ _
  cases t with
  | nil => rfl
  | cons d t =>
    by_cases hd : isGap d = true
    · rw [State.reads_cons_iff (scan_blanks hd t) (rfl : _ = some s), List.takeWhile_cons_of_pos hd,
        List.dropWhile_cons_of_pos hd]
    · rw [List.takeWhile_cons_of_neg hd, List.dropWhile_cons_of_neg hd]
      rfl

/-- A state at some position reads a text in front of another one, and leads to another state where that one starts.
White space may also go on there. -/
inductive State.ReadsOn (u : Text) : State → Pos → Text → State → Prop
  | nil (s : State) (pos : Pos) : ReadsOn u s pos [] s
  | blank {s s' : State} {pos : Pos} {c : CodePoint} {t : Text} (hc : isGap c = true)
      (reads : ReadsOn u s (pos.next c) t s') : ReadsOn u s pos (c :: t) s'
  | cons {s s₁ s' : State} {pos : Pos} {lexeme rest : Text} {kind : LexemeKind}
      (scanned : scan s.admits (lexeme ++ (rest ++ u)) = some (kind, lexeme, rest ++ u))
      (read : s.read pos kind lexeme = some s₁) (reads : ReadsOn u s₁ (pos.after lexeme) rest s') :
      ReadsOn u s pos (lexeme ++ rest) s'

/-- What is read is read in front of nothing. -/
theorem State.Reads.readsOn {s s' : State} {pos : Pos} {t : Text} (h : s.Reads pos t s') :
    State.ReadsOn [] s pos t s' := by
  induction h with
  | nil => exact .nil _ _
  | @cons s s₁ s' pos t lexeme rest kind scanned read reads ih =>
    obtain rfl : t = lexeme ++ rest := (splits_scan scanned).1
    exact .cons (by simpa using scanned) read ih

/-- The text behind is read from where the text in front of it leads. -/
theorem State.ReadsOn.reads_iff {u : Text} {s s' s'' : State} {pos : Pos} {t : Text} (h : State.ReadsOn u s pos t s') :
    s.Reads pos (t ++ u) s'' ↔ s'.Reads (pos.after t) u s'' := by
  induction h with
  | nil => rfl
  | blank hc _ ih => exact (State.reads_blank_iff hc).trans ih
  | cons scanned read _ ih => rw [List.append_assoc, State.reads_cons_iff scanned read, ih, Pos.after_append]

theorem State.ReadsOn.trail {u : Text} {s s' : State} {pos : Pos} {t : Text} (h : State.ReadsOn u s pos t s') :
    s.trail <+: s'.trail := by
  induction h with
  | nil => exact List.prefix_rfl
  | blank _ _ ih => exact ih
  | cons _ read _ ih => exact (State.trail_read read).trans ih

/-! ## the end of a source -/

/-- The place behind a terminator: before a statement or member. -/
def State.IsTerminated (s : State) : Prop :=
  (∃ scope, s = .statement .terminated scope) ∨ ∃ members, s = .member .terminated members

section Terminated

variable {t : Token} {s s' : State} {f : Focus} (hk : t.kind = .terminator)
include hk

theorem Focus.Consumes.isTerminated (h : f.Consumes t s) : s.IsTerminated := by
  cases h with
  | terminator => exact .inl ⟨_, rfl⟩
  | memberTerminator => exact .inr ⟨_, rfl⟩
  | _ h => simp [hk] at h

theorem Focus.Steps.isTerminated (h : f.Steps t s) : s.IsTerminated := by
  induction h with
  | consume consumes => exact consumes.isTerminated hk
  | pass _ _ ih => exact ih

/-- A terminator leaves a list of statements or members. -/
theorem State.isTerminated_step (h : s.step t = some s') : s'.IsTerminated := by
  obtain consumes | ⟨f, -, steps⟩ := State.step_iff.1 h
  · exact (State.not_consumes_of_isMark (.inl hk) consumes).elim
  · exact steps.isTerminated hk

end Terminated

theorem State.finished?_statement {e : Entry} {scope : Scope} {p : Program} :
    (State.statement e scope).finished? = some (.complete p) ↔ scope = .program p.body.reverse := by
  cases scope with
  | program done =>
    show some (State.complete ⟨done.reverse⟩) = _ ↔ _
    obtain ⟨body⟩ := p
    simp [List.reverse_eq_iff]
  | block pos owner sig done =>
    show none = _ ↔ _
    simp

/-- The source can end without a terminator only before a statement. -/
theorem State.of_finished? {s : State} {p : Program} (hc : s.canEnd = false)
    (h : s.finished? = some (.complete p)) : ∃ e scope, s = .statement e scope := by
  cases s with
  | statement entry scope => exact ⟨entry, scope, rfl⟩
  | _ =>
    simp_all [State.finished?, State.step, State.canEnd, Members.memberEnd, parameterEnd, expressionBegin,
      operandBegin, signatureBegin, classHeadBegin, alternativeBegin, typeBegin]

/-- The end of a source is a line end at which the statements of the program are left. -/
theorem State.conclude?_eq_some_iff {s : State} {p : Program} :
    s.conclude? = some p ↔ ∃ e, s.lineEnded? = some (.statement e (.program p.body.reverse)) := by
  rw [State.conclude?_eq_some, State.lineEnded?]
  cases hc : s.canEnd with
  | false =>
    constructor
    · rintro ⟨s', hs', hf⟩
      obtain rfl : s = s' := by simpa using hs'
      obtain ⟨e, scope, rfl⟩ := State.of_finished? hc hf
      rw [State.finished?_statement.1 hf]
      exact ⟨e, rfl⟩
    · rintro ⟨e, he⟩
      obtain rfl : s = _ := by simpa using he
      exact ⟨_, rfl, State.finished?_statement.2 rfl⟩
  | true =>
    constructor
    · rintro ⟨s', hs', hf⟩
      rw [if_pos rfl] at hs'
      have hl := State.layout_terminated? hs'
      obtain ⟨scope, rfl⟩ | ⟨members, rfl⟩ := State.isTerminated_step rfl hs'
      · obtain rfl := State.finished?_statement.1 hf
        have hb : s.brackets.1 = .empty := (congrArg Layout.inner hl).symm
        exact ⟨.terminated, by simpa [hb] using hs'⟩
      · simp [State.finished?, State.step, Members.memberEnd] at hf
    · rintro ⟨e, he⟩
      split at he
      · exact ⟨_, he, State.finished?_statement.2 rfl⟩
      · obtain rfl := Option.some.inj he
        simp [State.canEnd] at hc

/-! ## inside another source -/

section Embed

variable (c : Embedding)

theorem Scope.expected_embed (e : Entry) (scope : Scope) :
    (State.statement e (scope.embed c)).expected = (State.statement e scope).expected ∨
      (State.statement e (scope.embed c)).expected = (State.statement e scope).expected ++ [.braceClose] := by
  cases e with
  | opened =>
    cases scope with
    | program done =>
      rw [Scope.embed]
      cases c.scope (done.map (Stmt.move c.move)) with
      | program => exact .inl rfl
      | block => exact .inr rfl
    | block => exact .inl rfl
  | terminated => exact .inl rfl

/-- Inside another source a closing brace may be looked for in addition. -/
theorem State.expected_embed (s : State) :
    (s.embed c).expected = s.expected ∨ (s.embed c).expected = s.expected ++ [.braceClose] := by
  cases s with
  | statement entry scope => exact Scope.expected_embed c entry scope
  | signatureEnd target _ _ =>
    cases target with
    | function owner => cases owner <;> exact .inl rfl
    | type pos slot => exact .inl rfl
  | member entry _ => cases entry <;> exact .inl rfl
  | parameterNamed _ optional _ => cases optional <;> exact .inl rfl
  | newNamed _ _ path _ | typeNamed _ path _ => cases path <;> exact .inl rfl
  | typeEnd _ applied _ => cases applied <;> exact .inl rfl
  | _ => exact .inl rfl

theorem State.scan_embed {s : State} {t : Text} {l : LexemeKind × Text × Text} (h : scan s.admits t = some l) :
    scan (s.embed c).admits t = some l := by
  refine scan_of_admits ?_ ?_ h
  · intro k hk
    rcases State.expected_embed c s with he | he <;> simp [State.admits, he, hk]
  · intro hb
    rcases State.expected_embed c s with he | he <;> simp_all [State.admits]

theorem State.terminated?_embed {s s' : State} (hb : c.body = none ∨ stage s'.trail = stage s.trail)
    (h : s.terminated? = some s') : (s.embed c).terminated? = some (s'.embed c) := by
  rw [← State.step_embed (t := ⟨.terminator, [], .start⟩) (by simp) hb h]
  exact (State.step_terminator ..).symm

theorem State.lineEnded?_embed {s s' : State} (hb : c.body = none ∨ stage s'.trail = stage s.trail)
    (h : s.lineEnded? = some s') : (s.embed c).lineEnded? = some (s'.embed c) := by
  unfold State.lineEnded? at h ⊢
  rw [State.canEnd_embed, State.brackets_embed]
  split at h
  · next hc => rw [if_pos hc, State.terminated?_embed c hb h]
  · next hc => rw [if_neg hc, Option.some.inj h]

theorem State.read_embed {s s' : State} {pos : Pos} {kind : LexemeKind} {lexeme : Text}
    (hb : c.body = none ∨ stage s'.trail = stage s.trail) (hk : kind ≠ .token .finish)
    (h : s.read pos kind lexeme = some s') : (s.embed c).read (c.move pos) kind lexeme = some (s'.embed c) := by
  cases kind with
  | gap => rw [Option.some.inj h, State.read]
  | lineEnd => exact State.lineEnded?_embed c hb h
  | semicolon => exact State.terminated?_embed c hb h
  | token k => exact State.step_embed (t := ⟨k, lexeme, pos⟩) (fun he => hk (congrArg LexemeKind.token he)) hb h

/-- What is read of a source is read of it inside another one, too, if no class is opened or closed that has its members
elsewhere. -/
theorem State.ReadsOn.embed {u : Text} {s s' : State} {pos pos' : Pos} {t : Text} (h : State.ReadsOn u s pos t s')
    (hc : ∀ v w, t = v ++ w → w ≠ [] → c.move (pos.after v) = pos'.after v)
    (hb : c.body = none ∨ stage s'.trail = stage s.trail) : State.ReadsOn u (s.embed c) pos' t (s'.embed c) := by
  induction h generalizing pos' with
  | nil => exact .nil _ _
  | @blank s s' pos a t ha reads ih =>
    refine .blank ha (ih (fun v w hvw hw => ?_) hb)
    exact hc (a :: v) w (by rw [hvw, List.cons_append]) hw
  | @cons s s₁ s' pos lexeme rest kind scanned read reads ih =>
    obtain rfl : c.move pos = pos' := hc [] (lexeme ++ rest) rfl (by simp [(splits_scan scanned).2])
    have hle := stage_le (State.trail_read read)
    have hle' := stage_le reads.trail
    refine .cons (State.scan_embed c scanned) (State.read_embed c ?_ ?_ read) (ih (fun v w hvw hw => ?_) ?_)
    · exact hb.imp_right fun hb => by omega
    · rintro rfl
      exact Bool.false_ne_true ((State.admits_finish s).symm.trans (admits_of_scan scanned))
    · rw [← Pos.after_append, ← Pos.after_append]
      exact hc (lexeme ++ v) w (by rw [hvw, List.append_assoc]) hw
    · exact hb.imp_right fun hb => by omega

/-- What is read of a source is read of it inside another one, too. -/
theorem State.Reads.embed (hb : c.body = none) (hc : ∀ (p : Pos) (t : Text), c.move (p.after t) = (c.move p).after t)
    {s s' : State} {pos : Pos} {t : Text} (h : s.Reads pos t s') : (s.embed c).Reads (c.move pos) t (s'.embed c) := by
  have he := h.readsOn.embed c (fun v w _ _ => hc pos v) (.inl hb)
  simpa using he.reads_iff.2 (.nil _ _)

end Embed

/-! ## whole lines -/

/-- A state reads a text that leaves the statements of a scope if a line end follows it. -/
def State.ReadsLines (s : State) (pos : Pos) (t : Text) (scope : Scope) : Prop :=
  ∃ s' e, s.Reads pos t s' ∧ s'.lineEnded? = some (.statement e scope)

theorem parse_eq_ok_iff_readsLines {source : Text} {p : Program} :
    parse source = .ok p ↔ State.start.ReadsLines .start source (.program p.body.reverse) := by
  simp only [parse_eq_ok_iff, State.conclude?_eq_some_iff, State.ReadsLines, exists_and_left]

theorem State.ReadsLines.embed {c : Embedding} (hb : c.body = none)
    (hc : ∀ (p : Pos) (t : Text), c.move (p.after t) = (c.move p).after t) {s : State} {pos : Pos} {t : Text}
    {scope : Scope} (h : s.ReadsLines pos t scope) :
    (s.embed c).ReadsLines (c.move pos) t (scope.embed c) := by
  obtain ⟨s', e, hr, he⟩ := h
  exact ⟨_, e, hr.embed c hb hc, State.lineEnded?_embed c (.inl hb) he⟩

/-- Lines can be read behind a terminator as well as at the start of a list of statements. -/
theorem State.ReadsLines.of_opened {scope scope' : Scope} {pos : Pos} {t : Text}
    (h : (State.statement .opened scope).ReadsLines pos t scope') (e : Entry) :
    (State.statement e scope).ReadsLines pos t scope' := by
  cases e with
  | opened => exact h
  | terminated =>
    obtain ⟨s', e, hr, he⟩ := h
    generalize hs : State.statement .opened scope = s at hr
    induction hr with
    | nil =>
      subst hs
      obtain ⟨rfl, rfl⟩ : _ ∧ _ := by simpa [State.lineEnded?, State.canEnd] using he
      exact ⟨_, _, .nil _ _, rfl⟩
    | @cons s s₁ s' pos t lexeme rest kind scanned read reads ih =>
      subst hs
      have hscan : scan (State.statement .terminated scope).admits t = some (kind, lexeme, rest) := by
        refine scan_of_admits ?_ ?_ scanned
        · intro k hk
          cases scope <;> simp [State.admits, State.expected, hk]
        · intro _
          rfl
      cases kind with
      | gap =>
        obtain ⟨s'', e', hr', he'⟩ := ih he (Option.some.inj read)
        exact ⟨s'', e', .cons hscan rfl hr', he'⟩
      | lineEnd =>
        obtain ⟨s'', e', hr', he'⟩ := ih he (Option.some.inj read)
        exact ⟨s'', e', .cons hscan rfl hr', he'⟩
      | semicolon => exact ⟨s', e, .cons hscan read reads, he⟩
      | token k => exact ⟨s', e, .cons hscan read reads, he⟩

/-- Behind a line feed, what follows lines is read from the scope that they leave. -/
theorem State.ReadsLines.append {s : State} {pos : Pos} {t : Text} {scope : Scope} (h : s.ReadsLines pos t scope) :
    ∃ e, ∀ {u s'}, (State.statement e scope).Reads ⟨(pos.after t).line + 1, 1⟩ u s' →
      s.Reads pos (t ++ lineFeed :: u) s' := by
  obtain ⟨s₁, e, hr, he⟩ := h
  exact ⟨e, fun hu => hr.append_lineFeed (State.reads_lineFeed_iff.2 ⟨_, he, hu⟩)⟩

/-! ## one source below another -/

/-- Behind the statements of a program, that many lines further down. -/
def Embedding.below (n : Nat) (before : List Stmt) : Embedding where
  move := Pos.down n
  scope done := .program (done ++ before)
  add_scope _ _ := rfl
  brackets_scope _ := rfl

/-- Two programs, one below the other, are one program. -/
theorem parse_append {source source' : Text} {p p' : Program} (h : parse source = .ok p)
    (h' : parse source' = .ok p') :
    parse (source ++ lineFeed :: source') =
      .ok ⟨p.body ++ p'.body.map (Stmt.move (Pos.down (1 + source.count lineFeed)))⟩ := by
  rw [parse_eq_ok_iff_readsLines] at h h' ⊢
  have hb := h'.embed (c := .below (1 + source.count lineFeed) p.body.reverse) rfl fun p t => (Pos.after_down ..).symm
  have hpos : (Pos.start.after source).line + 1 = 1 + (1 + source.count lineFeed) := by
    rw [Pos.line_after]
    simp only [Pos.start]
    omega
  obtain ⟨e, happ⟩ := h.append
  rw [hpos] at happ
  obtain ⟨s', e', hr, he⟩ := State.ReadsLines.of_opened hb e
  refine ⟨s', e', happ hr, ?_⟩
  rw [he]
  simp [Scope.embed, Embedding.below]

/-! ## a source inside a block -/

/-- In the block of an arrow function that `run` is called with, one line further down. -/
def Embedding.inRun : Embedding where
  move := Pos.down 1
  scope := .block ⟨1, 11⟩
    (.arrow ⟨1, 5⟩ (.argument (.call (.name ⟨text "run", ⟨1, 1⟩⟩)) [] [] (Slot.statement (.program [])).operand))
    (.mk [] [] none)
  add_scope _ _ := rfl
  brackets_scope _ := rfl

/-- The lines around such a block. -/
def inRun (source : Text) : Text :=
  text "run(() => \x7b" ++ lineFeed :: (source ++ lineFeed :: text "\x7d)")

/-- The call that they spell. -/
def runCall (body : List Stmt) : Expr :=
  .call (.name ⟨text "run", ⟨1, 1⟩⟩) [] [.arrow ⟨1, 5⟩ (.mk [] [] none) (.block (.mk ⟨1, 11⟩ body))]

/-- One lexeme that is spelled out, and what follows it. -/
theorem State.Reads.lexeme {s s₁ s' : State} {pos : Pos} {rest : Text} (kind : LexemeKind) (word : Text)
    (scanned : scan s.admits (word ++ rest) = some (kind, word, rest)) (read : s.read pos kind word = some s₁)
    (reads : s₁.Reads (pos.after word) rest s') : s.Reads pos (word ++ rest) s' :=
  .cons scanned read reads

theorem reads_runHead {t : Text} {s : State}
    (h : (State.statement .opened (Embedding.inRun.scope [])).Reads ⟨2, 1⟩ t s) :
    State.start.Reads .start (text "run(() => \x7b" ++ lineFeed :: t) s := by
  refine .lexeme (.token .name) (text "run") rfl rfl ?_
  refine .lexeme (.token .parenOpen) (text "(") rfl rfl ?_
  refine .lexeme (.token .parenOpen) (text "(") rfl rfl ?_
  refine .lexeme (.token .parenClose) (text ")") rfl rfl ?_
  refine .lexeme .gap (text " ") rfl rfl ?_
  refine .lexeme (.token .arrow) (text "=>") rfl rfl ?_
  refine .lexeme .gap (text " ") rfl rfl ?_
  refine .lexeme (.token .braceOpen) (text "\x7b") rfl rfl ?_
  exact State.reads_lineFeed_iff.2 ⟨_, rfl, h⟩

theorem readsLines_runTail (e : Entry) (done : List Stmt) (pos : Pos) :
    (State.statement e (Embedding.inRun.scope done)).ReadsLines pos (text "\x7d)")
      (.program [.expr (runCall done.reverse)]) := by
  have hscan : scan (State.statement e (Embedding.inRun.scope done)).admits (text "\x7d)") =
      some (.token .braceClose, text "\x7d", text ")") := by
    cases e <;> rfl
  refine ⟨.operandEnd (runCall done.reverse) (Slot.statement (.program [])).operand, .terminated, ?_, rfl⟩
  refine .lexeme (.token .braceClose) (text "\x7d") hscan rfl ?_
  exact .lexeme (.token .parenClose) (text ")") rfl rfl (.nil _ _)

/-- A program inside a block is a block of its statements. -/
theorem parse_inRun {source : Text} {p : Program} (h : parse source = .ok p) :
    parse (inRun source) = .ok ⟨[.expr (runCall (p.body.map (Stmt.move (Pos.down 1))))]⟩ := by
  rw [parse_eq_ok_iff_readsLines] at h ⊢
  have hb := h.embed (c := .inRun) rfl fun p t => (Pos.after_down ..).symm
  obtain ⟨e, happ⟩ := hb.append
  obtain ⟨s', e', hr, he⟩ := readsLines_runTail e (p.body.reverse.map (Stmt.move (Pos.down 1))) _
  refine ⟨s', e', reads_runHead (happ hr), ?_⟩
  rw [he]
  simp

end TypeLint.Source
