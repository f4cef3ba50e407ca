import TypeLint.Proofs.Source.Future
import TypeLint.Proofs.Source.Reading

/-!
# Programs are what the grammar derives

A list of tokens leads from the start of a source to its end exactly if its terminals are derived from the grammar: what
can be read on the way gives the one direction, and what has been read the other.  The lexemes of a source, with
terminators in place of semicolons and line ends, are such a list if the source is a program.

* `State.run` — reading a list of tokens;
* `State.run_iff_derives` — the lists that are read are those that are derived;
* `delivered` — the tokens of a source, as the lexemes and the layout give them;
* `parse_delivers` — a source that is a program is read as its tokens are.
-/

namespace TypeLint.Source

open scoped Computability

/-! ## lists of tokens -/

/-- The place behind a list of tokens. -/
def State.run (s : State) (ts : List Token) : Option State := ts.foldlM State.step s

@[simp]
theorem State.run_nil (s : State) : s.run [] = some s := rfl

@[simp]
theorem State.run_cons (s : State) (t : Token) (ts : List Token) :
    s.run (t :: ts) = (s.step t).bind fun s => s.run ts :=
  rfl

theorem State.run_append (s : State) (ts us : List Token) :
    s.run (ts ++ us) = (s.run ts).bind fun s => s.run us := by
  simp [State.run, List.foldlM_append]

/-- The words that have led to a place, followed by what is read from there, have led to the next. -/
theorem State.past_run {s s' : State} {ts : List Token} (h : s.run ts = some s') {w : List Terminal}
    (hw : w ∈ s.past) : w ++ ts.map Token.kind ∈ s'.past := by
  induction ts generalizing s w with
  | nil =>
    obtain rfl := Option.some.inj h
    simpa using hw
  | cons t ts ih =>
    obtain ⟨s₁, hs, hrun⟩ := Option.bind_eq_some_iff.1 h
    have hw' : w ++ [t.kind] ∈ s₁.past := State.past_step hs (Language.append_mem_mul hw rfl)
    simpa using ih hrun hw'

/-- A word that a place accepts is read, whatever tokens spell it. -/
theorem State.Accepts.run {s : State} {ts : List Token} (h : s.Accepts (ts.map Token.kind)) :
    ∃ p, s.run ts = some (.complete p) := by
  induction ts generalizing s with
  | nil =>
    obtain ⟨p, rfl⟩ := h
    exact ⟨p, rfl⟩
  | cons t ts ih =>
    obtain ⟨s₁, hs, ha⟩ := h t.text t.pos
    obtain ⟨p, hp⟩ := ih ha
    exact ⟨p, by rw [State.run_cons, hs, Option.bind_some, hp]⟩

theorem State.nil_mem_past_start : [] ∈ State.start.past :=
  Language.append_mem_mul (Language.nil_mem_kstar _) (Language.nil_mem_kstar _)

/-- The tokens that are read from the start of a source to its end are those whose terminals the grammar derives. -/
theorem State.run_iff_derives (ts : List Token) (text : Text) (pos : Pos) :
    (∃ p, State.start.run (ts ++ [⟨.finish, text, pos⟩]) = some (.complete p)) ↔
      Derives (.rule .program) (ts.map Token.kind) := by
  constructor
  · rintro ⟨p, hp⟩
    have h : ts.map Token.kind ++ [.finish] ∈ Nonterminal.program.language * one .finish := by
      simpa [State.past] using State.past_run hp State.nil_mem_past_start
    obtain ⟨w, hw, _, rfl, he⟩ := h
    obtain ⟨rfl, -⟩ := List.append_inj' he rfl
    exact hw
  · intro h
    refine State.Accepts.run ?_
    rw [List.map_append]
    exact h.accepts

/-! ## the tokens of a source -/

/-- A lexeme with its text and position. -/
structure Lexeme where
  kind : LexemeKind
  text : Text
  pos : Pos
deriving DecidableEq

namespace Lexeme

/-- What a lexeme means for the layout.  Gaps mean nothing, and are left out before. -/
def role (a : Lexeme) : Role :=
  match a.kind with
  | .token k => k.role
  | .lineEnd => .lineEnd
  | .semicolon => .semicolon
  | .gap => .inner

/-- How terminators are made of lexemes. -/
def marking : Marking Lexeme where
  role := role
  atLexeme := fun a => { a with kind := .token .terminator }
  atEnd := fun a => ⟨.token .terminator, [], a.pos⟩

end Lexeme

/-- A token as a lexeme. -/
def Token.lexeme (t : Token) : Lexeme := ⟨.token t.kind, t.text, t.pos⟩

/-- The lexemes of what is left of a source, as far as it can be read, less the gaps. -/
def Reader.lexemes (r : Reader) (t : Text) : List Lexeme :=
  match t with
  | [] => []
  | c :: cs =>
    match _h : scan r.state.admits (c :: cs) with
    | none => []
    | some (kind, lexeme, rest) =>
      let here : List Lexeme := if kind = .gap then [] else [⟨kind, lexeme, r.pos⟩]
      match r.read kind lexeme with
      | .error _ => here
      | .ok r => here ++ lexemes r rest
termination_by t.length
decreasing_by exact length_lt_of_scan _h

/-- The tokens of a source, with terminators in place of semicolons and line ends. -/
def delivered (source : Text) : List Lexeme := terminated Lexeme.marking (Reader.start.lexemes source)

namespace Reader

/-- The tokens that are still delivered if these lexemes are left. -/
def rest (r : Reader) (as : List Lexeme) : List Lexeme :=
  terminatedFrom Lexeme.marking r.layout (r.last.map Token.lexeme) as

theorem give_eq_ok {r r' : Reader} {t : Token} (h : r.give t = .ok r') :
    ∃ s, r.state.step t = some s ∧ r' = { r with state := s, given := some t } := by
  unfold Reader.give at h
  split at h
  · next s hs => exact ⟨s, hs, (Except.ok.inj h).symm⟩
  · simp at h

/-- What becomes of a lexeme is what the state of the reader reads. -/
theorem rest_of_read {r r' : Reader} {kind : LexemeKind} {lexeme : Text} (h : r.read kind lexeme = .ok r')
    (as : List Lexeme) :
    ∃ ts : List Token, r.rest ((if kind = .gap then [] else [⟨kind, lexeme, r.pos⟩]) ++ as) =
      ts.map Token.lexeme ++ r'.rest as ∧ r.state.run ts = some r'.state := by
  cases kind with
  | gap =>
    obtain rfl := Except.ok.inj h
    exact ⟨[], rfl, rfl⟩
  | lineEnd =>
    simp only [Reader.read, Reader.layOut] at h
    cases hend : r.layout.canEnd && r.layout.inner = .empty with
    | true =>
      have hstep : r.layout.step .lineEnd = (.terminate, { r.layout with canEnd := false }) := if_pos hend
      rw [hstep] at h
      obtain ⟨s, hs, rfl⟩ := give_eq_ok h
      refine ⟨[⟨.terminator, lexeme, r.pos⟩], ?_, ?_⟩
      · simp [Reader.rest, terminatedFrom, Lexeme.marking, Lexeme.role, hstep, Token.lexeme]
      · simp [hs]
    | false =>
      have hstep : r.layout.step .lineEnd = (.drop, r.layout) := if_neg (by simp [hend])
      rw [hstep] at h
      obtain rfl := Except.ok.inj h
      refine ⟨[], ?_, rfl⟩
      simp [Reader.rest, terminatedFrom, Lexeme.marking, Lexeme.role, hstep]
  | semicolon =>
    obtain ⟨s, hs, rfl⟩ := give_eq_ok h
    refine ⟨[⟨.terminator, lexeme, r.pos⟩], rfl, ?_⟩
    simp [hs]
  | token k =>
    simp only [Reader.read, Reader.layOut] at h
    rw [Layout.step_role] at h
    obtain ⟨s, hs, rfl⟩ := give_eq_ok h
    refine ⟨[⟨k, lexeme, r.pos⟩], ?_, ?_⟩
    · simp only [Reader.rest, terminatedFrom, Lexeme.marking, Lexeme.role, if_neg, List.cons_append, List.nil_append,
        reduceCtorEq, not_false_eq_true]
      rw [Layout.step_role]
      rfl
    · simp [hs]

/-- The end of a source is what the state of the reader reads last. -/
theorem rest_of_finish {r : Reader} {p : Program} (h : r.finish = .ok p) :
    ∃ ts : List Token, r.rest [] = ts.map Token.lexeme ∧
      ∃ pos, r.state.run (ts ++ [⟨.finish, [], pos⟩]) = some (.complete p) := by
  unfold Reader.finish at h
  split at h
  · simp at h
  next r' hr' =>
  have hfinish : r'.state.step ⟨.finish, [], r'.endPos⟩ = some (.complete p) := by
    split at h
    · next hp => rw [hp, Except.ok.inj h]
    · simp at h
  generalize r'.endPos = pos at hfinish
  unfold Reader.terminate at hr'
  unfold Reader.rest terminatedFrom
  split at hr'
  · next t hend hlast =>
    obtain ⟨s, hs, rfl⟩ := give_eq_ok hr'
    refine ⟨[⟨.terminator, [], t.pos⟩], ?_, pos, ?_⟩
    · simp [hend, hlast, Lexeme.marking, Token.lexeme]
    · simpa [hs] using hfinish
  · next hno =>
    obtain rfl := Except.ok.inj hr'
    refine ⟨[], ?_, pos, ?_⟩
    · split
      · next hend hlast =>
        obtain ⟨t, ht, -⟩ := Option.map_eq_some_iff.1 hlast
        exact absurd ht (hno t hend)
      · rfl
    · simpa using hfinish

/-- A reader that comes to a program reads the tokens that are delivered. -/
theorem rest_lexemes {r : Reader} {t : Text} {p : Program} (h : r.run t = .ok p) :
    ∃ ts : List Token, r.rest (r.lexemes t) = ts.map Token.lexeme ∧
      ∃ pos, r.state.run (ts ++ [⟨.finish, [], pos⟩]) = some (.complete p) := by
  fun_induction Reader.run r t with
  | case1 r =>
    rw [Reader.lexemes]
    exact rest_of_finish h
  | case2 => simp at h
  | case3 => simp at h
  | case4 r c cs kind lexeme rest hscan r' hread ih =>
    obtain ⟨us, hus, pos, hrun⟩ := ih h
    obtain ⟨ts, hts, hrun'⟩ := rest_of_read hread (r'.lexemes rest)
    refine ⟨ts ++ us, ?_, pos, ?_⟩
    · rw [Reader.lexemes]
      split
      · next hnone => simp [hscan] at hnone
      · next hsome =>
        obtain ⟨rfl, rfl, rfl⟩ : _ ∧ _ ∧ _ := by simpa using hscan.symm.trans hsome
        simp only [hread, hts, hus, List.map_append]
    · rw [List.append_assoc, State.run_append, hrun', Option.bind_some, hrun]

end Reader

/-- A source that is a program is read as its tokens are. -/
theorem parse_delivers {source : Text} {p : Program} (h : parse source = .ok p) :
    ∃ ts : List Token, delivered source = ts.map Token.lexeme ∧
      ∃ pos, State.start.run (ts ++ [⟨.finish, [], pos⟩]) = some (.complete p) :=
  Reader.rest_lexemes h

/-- The lists of tokens that lead from the start of a source to its end are exactly those that are derived from the
grammar, and the tokens of every source that is a program are such a list, by which the program is read. -/
theorem accepts_exactly_derived :
    (∀ (ts : List Token) (pos : Pos), (∃ p, State.start.run (ts ++ [⟨.finish, [], pos⟩]) = some (.complete p)) ↔
      Derives (.rule .program) (ts.map Token.kind)) ∧
    ∀ (source : Text) (p : Program), parse source = .ok p →
      ∃ ts : List Token, delivered source = ts.map Token.lexeme ∧ Derives (.rule .program) (ts.map Token.kind) ∧
        ∃ pos, State.start.run (ts ++ [⟨.finish, [], pos⟩]) = some (.complete p) := by
  refine ⟨fun ts pos => State.run_iff_derives ts [] pos, fun source p h => ?_⟩
  obtain ⟨ts, hts, pos, hrun⟩ := parse_delivers h
  exact ⟨ts, hts, (State.run_iff_derives ts [] pos).1 ⟨p, hrun⟩, pos, hrun⟩

theorem accepts_exactly_derived_lines :
    (∃ p, parse (text "f(\na)\nb") = .ok p) ∧ ∃ ts : List Token, delivered (text "f(\na)\nb") = ts.map Token.lexeme ∧
      ts.map Token.kind = [.name, .parenOpen, .name, .parenClose, .terminator, .name, .terminator] ∧
      Derives (.rule .program) (ts.map Token.kind) := by
  obtain ⟨p, hp⟩ : ∃ p, parse (text "f(\na)\nb") = .ok p := ⟨_, by cbv⟩
  obtain ⟨ts, hts, hd, -⟩ := accepts_exactly_derived.2 _ p hp
  have hkinds : (delivered (text "f(\na)\nb")).map Lexeme.kind =
      [Terminal.name, .parenOpen, .name, .parenClose, .terminator, .name, .terminator].map LexemeKind.token := by
    cbv
  refine ⟨⟨p, hp⟩, ts, hts, ?_, hd⟩
  rw [hts, List.map_map] at hkinds
  refine List.map_injective_iff.2 (fun _ _ => LexemeKind.token.inj) ?_
  rw [← hkinds, List.map_map]
  rfl

end TypeLint.Source
