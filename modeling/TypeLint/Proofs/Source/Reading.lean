import TypeLint.Proofs.Source.Nesting
import TypeLint.Source.Parse

/-!
# Reading without a reader

A `Reader` keeps a layout, the last token and the last terminator beside its state.  The layout is a function of the
state, and the tokens are only needed for the places of errors.  So what a text spells can be said with states alone:

* `State.read` — the place behind one lexeme;
* `State.Reads` — a state reads a whole text, lexeme by lexeme;
* `State.conclude?` — the program at the end of a source;
* `parse_eq_ok_iff` — a source spells a program exactly if the first state reads it to a place that concludes it.
-/

namespace TypeLint.Source

/-! ## terminators -/

/-- The place behind a terminator. -/
def State.terminated? (s : State) : Option State := s.step ⟨.terminator, [], .start⟩

/-- The place behind the end of the source. -/
def State.finished? (s : State) : Option State := s.step ⟨.finish, [], .start⟩

/-- The tokens that are only marks: a phrase keeps neither their text nor their position. -/
def Token.IsMark (t : Token) : Prop := t.kind = .terminator ∨ t.kind = .finish

section Mark

variable {t t' : Token}

theorem Focus.Consumes.of_isMark {f : Focus} {s : State} (ht : t.IsMark) (hk : t'.kind = t.kind)
    (h : f.Consumes t s) : f.Consumes t' s := by
  cases h with
  | terminator h | finish h | memberTerminator h => exact by constructor; rw [hk, h]
  | _ h => simp [Token.IsMark, h] at ht

theorem Focus.Steps.of_isMark {f : Focus} {s : State} (ht : t.IsMark) (hk : t'.kind = t.kind) (h : f.Steps t s) :
    f.Steps t' s := by
  induction h with
  | consume consumes => exact .consume (consumes.of_isMark ht hk)
  | pass passes _ ih => exact .pass (hk ▸ passes) ih

theorem State.not_consumes_of_isMark {s s' : State} (ht : t.IsMark) : ¬ s.Consumes t s' := by
  intro h
  cases h <;> simp_all [Token.IsMark]

theorem State.step_mark {s s' : State} (ht : t.IsMark) (hk : t'.kind = t.kind) (h : s.step t = some s') :
    s.step t' = some s' := by
  obtain consumes | ⟨f, offers, steps⟩ := State.step_iff.1 h
  · exact (State.not_consumes_of_isMark ht consumes).elim
  · exact State.step_iff.2 (.inr ⟨f, hk ▸ offers, steps.of_isMark ht hk⟩)

/-- What a mark leads to does not depend on where it stands. -/
theorem State.step_of_isMark (ht : t.IsMark) (hk : t'.kind = t.kind) (s : State) : s.step t' = s.step t := by
  have ht' : t'.IsMark := by rwa [Token.IsMark, hk]
  exact Option.ext fun s' => ⟨State.step_mark ht' hk.symm, State.step_mark ht hk⟩

end Mark

theorem State.step_terminator (s : State) (text : Text) (pos : Pos) :
    s.step ⟨.terminator, text, pos⟩ = s.terminated? :=
  State.step_of_isMark (t := ⟨.terminator, [], .start⟩) (.inl rfl) (by rfl) s

theorem State.step_finish (s : State) (text : Text) (pos : Pos) : s.step ⟨.finish, text, pos⟩ = s.finished? :=
  State.step_of_isMark (t := ⟨.finish, [], .start⟩) (.inr rfl) (by rfl) s

/-! ## reading with states -/

/-- The place behind a line end. -/
def State.lineEnded? (s : State) : Option State :=
  if s.canEnd && s.brackets.1 = .empty then s.terminated? else some s

/-- The place behind one lexeme. -/
def State.read (s : State) (pos : Pos) (kind : LexemeKind) (lexeme : Text) : Option State :=
  match kind with
  | .gap => some s
  | .lineEnd => s.lineEnded?
  | .semicolon => s.terminated?
  | .token k => s.step ⟨k, lexeme, pos⟩

/-- A state at some position reads a whole text and leads to another state. -/
inductive State.Reads : State → Pos → Text → State → Prop
  | nil (s : State) (pos : Pos) : Reads s pos [] s
  | cons {s s₁ s' : State} {pos : Pos} {t lexeme rest : Text} {kind : LexemeKind}
      (scanned : scan s.admits t = some (kind, lexeme, rest)) (read : s.read pos kind lexeme = some s₁)
      (reads : Reads s₁ (pos.after lexeme) rest s') : Reads s pos t s'

/-- The program at the end of a source. -/
def State.conclude? (s : State) : Option Program :=
  match (if s.canEnd then s.terminated? else some s).bind State.finished? with
  | some (.complete p) => some p
  | _ => none

/-! ## the reader follows the states -/

/-- A reader whose layout is that of its state, and that knows the last token where it may need it. -/
structure Reader.Coherent (r : Reader) : Prop where
  layout : r.layout = r.state.layout
  last : r.layout.canEnd = true → r.last.isSome

theorem Reader.coherent_start : Reader.start.Coherent := ⟨rfl, by simp [Reader.start, Layout.start]⟩

theorem Layout.step_role (l : Layout) (k : Terminal) :
    l.step k.role = (.pass, Brackets.behind (l.inner, l.outer) k) := by
  cases k <;> rfl

theorem State.layout_terminated? {s s' : State} (h : s.terminated? = some s') :
    s'.layout = { s.layout with canEnd := false } :=
  (Prod.mk.inj (State.layout_step h)).2.symm

/-- A reader that is given a token follows its state. -/
theorem Reader.Coherent.give {r : Reader} {t : Token} {s : State} {l : Layout} (hs : r.state.step t = some s)
    (hl : s.layout = l) (hlast : l.canEnd = true → r.last.isSome) :
    ∃ r', { r with layout := l }.give t = .ok r' ∧ r'.state = s ∧ r'.pos = r.pos ∧ r'.Coherent := by
  refine ⟨{ r with layout := l, state := s, given := some t }, ?_, rfl, rfl, ?_⟩
  · simp [Reader.give, hs]
  · exact ⟨hl.symm, hlast⟩

theorem Reader.give_of_step_eq_none {r : Reader} {t : Token} (hs : r.state.step t = none) :
    r.give t = .error t.unexpected := by
  simp [Reader.give, hs]

/-- Where the state of a reader reads a lexeme, the reader does. -/
theorem Reader.Coherent.read {r : Reader} (hr : r.Coherent) {kind : LexemeKind} {lexeme : Text} {s : State}
    (h : r.state.read r.pos kind lexeme = some s) :
    ∃ r', r.read kind lexeme = .ok r' ∧ r'.state = s ∧ r'.pos = r.pos.after lexeme ∧ r'.Coherent := by
  have terminator : ∀ t : Token, t.kind = .terminator → r.state.terminated? = some s →
      ∃ r', { r with pos := r.pos.after lexeme, layout := { r.layout with canEnd := false } }.give t = .ok r' ∧
        r'.state = s ∧ r'.pos = r.pos.after lexeme ∧ r'.Coherent := by
    rintro ⟨_, text, pos⟩ rfl hs
    refine Reader.Coherent.give (r := { r with pos := r.pos.after lexeme }) ?_ ?_ (by simp)
    · rw [State.step_terminator, hs]
    · rw [hr.layout, State.layout_terminated? hs]
  cases kind with
  | gap =>
    obtain rfl := Option.some.inj h
    exact ⟨_, rfl, rfl, rfl, hr.layout, hr.last⟩
  | lineEnd =>
    simp only [State.read, State.lineEnded?] at h
    simp only [Reader.read, Reader.layOut, Layout.step, hr.layout, State.layout]
    split at h
    · next hc =>
      rw [if_pos hc]
      simpa [hr.layout, State.layout] using terminator _ rfl h
    · next hc =>
      rw [if_neg hc]
      obtain rfl := Option.some.inj h
      exact ⟨_, rfl, rfl, rfl, rfl, fun hc => hr.last (by rw [hr.layout]; exact hc)⟩
  | semicolon => exact terminator _ rfl h
  | token k =>
    have hl := State.layout_step h
    simp only [Reader.read, Reader.layOut, hr.layout, hl]
    exact Reader.Coherent.give (r := { r with pos := r.pos.after lexeme, last := some _ }) h rfl (by simp)

/-- Where the state of a reader does not read a lexeme, the reader does not. -/
theorem Reader.Coherent.read_eq_error {r : Reader} (hr : r.Coherent) {kind : LexemeKind} {lexeme : Text}
    (h : r.state.read r.pos kind lexeme = none) : ∃ e, r.read kind lexeme = .error e := by
  cases kind with
  | gap => simp [State.read] at h
  | lineEnd =>
    simp only [State.read, State.lineEnded?] at h
    simp only [Reader.read, Reader.layOut, Layout.step, hr.layout, State.layout]
    split at h
    · next hc =>
      rw [if_pos hc]
      exact ⟨_, Reader.give_of_step_eq_none (by rw [State.step_terminator]; exact h)⟩
    · simp at h
  | semicolon => exact ⟨_, Reader.give_of_step_eq_none (by rw [State.step_terminator]; exact h)⟩
  | token k =>
    simp only [Reader.read, Reader.layOut]
    rw [Layout.step_role]
    exact ⟨_, Reader.give_of_step_eq_none h⟩

theorem State.conclude?_eq_some {s : State} {p : Program} :
    s.conclude? = some p ↔
      ∃ s', (if s.canEnd then s.terminated? else some s) = some s' ∧ s'.finished? = some (.complete p) := by
  unfold State.conclude?
  split
  · next q hq =>
    rw [Option.bind_eq_some_iff] at hq
    obtain ⟨s', hs', hf⟩ := hq
    simp [hs', hf]
  · next hq =>
    constructor
    · intro h
      simp at h
    · rintro ⟨s', hs', hf⟩
      exact absurd (Option.bind_eq_some_iff.2 ⟨s', hs', hf⟩) (hq p)

/-- At the end of a source the terminator of the reader is that of its state. -/
theorem Reader.Coherent.terminate_eq_ok {r r' : Reader} (hr : r.Coherent) (h : r.terminate = .ok r') :
    (if r.state.canEnd then r.state.terminated? else some r.state) = some r'.state := by
  have hc : r.layout.canEnd = r.state.canEnd := by rw [hr.layout, State.layout]
  unfold Reader.terminate at h
  split at h
  · next t hend _ =>
    unfold Reader.give at h
    rw [State.step_terminator] at h
    rw [← hc, hend, if_pos rfl]
    split at h
    · next s hs =>
      rw [hs, ← Except.ok.inj h]
    · simp at h
  · next hno =>
    obtain rfl := Except.ok.inj h
    cases hend : r.layout.canEnd with
    | false => rw [← hc, hend, if_neg (by simp)]
    | true =>
      obtain ⟨t, ht⟩ := Option.isSome_iff_exists.1 (hr.last hend)
      exact absurd ht (hno t hend)

theorem Reader.Coherent.exists_terminate {r : Reader} (hr : r.Coherent) {s : State}
    (h : (if r.state.canEnd then r.state.terminated? else some r.state) = some s) :
    ∃ r', r.terminate = .ok r' ∧ r'.state = s := by
  have hc : r.layout.canEnd = r.state.canEnd := by rw [hr.layout, State.layout]
  unfold Reader.terminate
  cases hend : r.layout.canEnd with
  | false =>
    rw [← hc, hend, if_neg (by simp)] at h
    exact ⟨r, rfl, Option.some.inj h⟩
  | true =>
    obtain ⟨t, ht⟩ := Option.isSome_iff_exists.1 (hr.last hend)
    rw [← hc, hend, if_pos rfl] at h
    refine ⟨{ r with state := s, given := some ⟨.terminator, [], t.pos⟩ }, ?_, rfl⟩
    simp only [ht, Reader.give, State.step_terminator, h]

theorem Reader.Coherent.finish_eq_ok_iff {r : Reader} (hr : r.Coherent) {p : Program} :
    r.finish = .ok p ↔ r.state.conclude? = some p := by
  rw [State.conclude?_eq_some]
  unfold Reader.finish
  constructor
  · intro h
    split at h
    · simp at h
    · next r' hr' =>
      refine ⟨r'.state, hr.terminate_eq_ok hr', ?_⟩
      rw [State.step_finish] at h
      split at h
      · next hf => rw [hf, Except.ok.inj h]
      · simp at h
  · rintro ⟨s, hs, hf⟩
    obtain ⟨r', hr', rfl⟩ := hr.exists_terminate hs
    simp only [hr', State.step_finish, hf]

theorem State.reads_cons_iff {s s' s₁ : State} {pos : Pos} {t lexeme rest : Text} {kind : LexemeKind}
    (h : scan s.admits t = some (kind, lexeme, rest)) (hr : s.read pos kind lexeme = some s₁) :
    s.Reads pos t s' ↔ s₁.Reads (pos.after lexeme) rest s' := by
  constructor
  · intro hs
    cases hs with
    | nil => exact absurd (length_lt_of_scan h) (by simp)
    | cons scanned read reads =>
      obtain ⟨rfl, rfl, rfl⟩ : _ ∧ _ ∧ _ := by simpa using h.symm.trans scanned
      obtain rfl := Option.some.inj (hr.symm.trans read)
      exact reads
  · exact .cons h hr

/-- A reader reads a program exactly if its state reads the text to a place that concludes the program. -/
theorem Reader.Coherent.run_eq_ok_iff {r : Reader} (hr : r.Coherent) {t : Text} {p : Program} :
    r.run t = .ok p ↔ ∃ s, r.state.Reads r.pos t s ∧ s.conclude? = some p := by
  fun_induction Reader.run r t with
  | case1 r =>
    rw [hr.finish_eq_ok_iff]
    constructor
    · intro h
      exact ⟨_, .nil _ _, h⟩
    · rintro ⟨s, hs, h⟩
      cases hs with
      | nil => exact h
      | cons scanned => exact absurd (length_lt_of_scan scanned) (by simp)
  | case2 r c cs hscan =>
    refine ⟨fun h => by simp at h, ?_⟩
    rintro ⟨s, hs, -⟩
    cases hs with
    | cons scanned => simp [hscan] at scanned
  | case3 r c cs kind lexeme rest hscan e hread =>
    refine ⟨fun h => by simp at h, ?_⟩
    rintro ⟨s, hs, -⟩
    cases hs with
    | cons scanned read =>
      obtain ⟨rfl, rfl, rfl⟩ : _ ∧ _ ∧ _ := by simpa using hscan.symm.trans scanned
      obtain ⟨r', hr', -⟩ := hr.read read
      simp [hread] at hr'
  | case4 r c cs kind lexeme rest hscan r' hread ih =>
    cases hs : r.state.read r.pos kind lexeme with
    | none =>
      obtain ⟨e, he⟩ := hr.read_eq_error hs
      simp [hread] at he
    | some s =>
      obtain ⟨r'', hr'', rfl, hpos, hc⟩ := hr.read hs
      obtain rfl := Except.ok.inj (hread.symm.trans hr'')
      simp only [ih hc, State.reads_cons_iff hscan hs, hpos]

/-- The first place of a source. -/
def State.start : State := .statement .opened (.program [])

/-- A source spells a program exactly if the first state reads it to a place that concludes the program. -/
theorem parse_eq_ok_iff {source : Text} {p : Program} :
    parse source = .ok p ↔ ∃ s, State.start.Reads .start source s ∧ s.conclude? = some p :=
  Reader.coherent_start.run_eq_ok_iff

/-! ## evaluation -/

/-- `Reader.run` for at most that many lexemes.  The recursion is on their number, so it can be evaluated. -/
def Reader.runFor : Nat → Reader → Text → Except SyntaxError Program
  | 0, r, _ | _, r, [] => r.finish
  | n + 1, r, c :: cs =>
    match scan r.state.admits (c :: cs) with
    | none => .error (r.stuck c cs)
    | some (kind, lexeme, rest) =>
      match r.read kind lexeme with
      | .error e => .error e
      | .ok r => runFor n r rest

theorem Reader.runFor_eq_run {n : Nat} {r : Reader} {t : Text} (h : t.length ≤ n) : r.runFor n t = r.run t := by
  fun_induction Reader.run r t generalizing n with
  | case1 r => cases n <;> rfl
  | case2 r c cs hscan =>
    cases n with
    | zero => simp at h
    | succ n => simp only [Reader.runFor, hscan]
  | case3 r c cs kind lexeme rest hscan e hread =>
    cases n with
    | zero => simp at h
    | succ n => simp only [Reader.runFor, hscan, hread]
  | case4 r c cs kind lexeme rest hscan r' hread ih =>
    cases n with
    | zero => simp at h
    | succ n =>
      simp only [Reader.runFor, hscan, hread]
      exact ih (Nat.le_of_lt_succ (Nat.lt_of_lt_of_le (length_lt_of_scan hscan) h))

theorem parse_eq_runFor (source : Text) : parse source = Reader.start.runFor source.length source :=
  (Reader.runFor_eq_run (Nat.le_refl _)).symm

end TypeLint.Source
