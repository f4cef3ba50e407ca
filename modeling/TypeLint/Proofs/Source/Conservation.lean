import TypeLint.Proofs.Source.Terminators

/-!
# What the layout adds and what it leaves out

Terminators take the place of semicolons and of some line ends, and all other lexemes stay where they are.  Whether a
statement can end somewhere can be seen from the last lexeme that has been given out, so a list in which terminators
have been put has all that it needs.  Lexemes may be of any kinds; the layout looks at few of them.

* `KindedMarking` — lexemes of any kinds, one of which is that of terminators;
* `Marking.Tracks` — what the layout and the last token say about what has been given out;
* `terminated_of_tokens` — a list without semicolons and line ends that is ended already is left as it is;
* `terminated_conserves` — nothing is lost, only terminators are added, and a second time nothing is;
* `terminated_blankLine` — a line end behind a line end or semicolon, or at the end, makes no difference.
-/

namespace TypeLint.Source

/-- Line ends and semicolons are no tokens; all other lexemes are. -/
def Role.isToken : Role → Bool
  | .lineEnd | .semicolon => false
  | _ => true

theorem Role.isToken_iff {r : Role} : r.isToken = true ↔ r ≠ .lineEnd ∧ r ≠ .semicolon := by
  cases r <;> decide

/-- A marking for lexemes of any kinds.  The role of a lexeme is that of its kind, and all terminators are of one kind,
which means nothing for the layout. -/
structure KindedMarking (α κ : Type) extends Marking α where
  kind : α → κ
  roleOf : κ → Role
  terminator : κ
  role_eq : ∀ a, role a = roleOf (kind a)
  roleOf_terminator : roleOf terminator = .inner
  kind_atLexeme : ∀ a, kind (atLexeme a) = terminator
  kind_atEnd : ∀ a, kind (atEnd a) = terminator

/-- The kinds of the lexemes of a source. -/
def Lexeme.kindedMarking : KindedMarking Lexeme LexemeKind where
  toMarking := Lexeme.marking
  kind := Lexeme.kind
  roleOf kind := Lexeme.role ⟨kind, [], .start⟩
  terminator := .token .terminator
  role_eq _ := rfl
  roleOf_terminator := rfl
  kind_atLexeme _ := rfl
  kind_atEnd _ := rfl

namespace KindedMarking

variable {α κ : Type} (m : KindedMarking α κ)

theorem role_of_terminator {a : α} (h : m.kind a = m.terminator) : m.role a = .inner := by
  rw [m.role_eq, h, m.roleOf_terminator]

@[simp]
theorem role_atLexeme (a : α) : m.role (m.atLexeme a) = .inner := m.role_of_terminator (m.kind_atLexeme a)

@[simp]
theorem role_atEnd (a : α) : m.role (m.atEnd a) = .inner := m.role_of_terminator (m.kind_atEnd a)

end KindedMarking

/-! ## what stands in the place of one lexeme -/

namespace Marking

variable {α : Type} (m : Marking α)

theorem outcome_of_token {a : α} (ha : (m.role a).isToken = true) (l : Layout) : m.outcome l a = [a] := by
  obtain ⟨hl, hs⟩ := Role.isToken_iff.1 ha
  rw [outcome, Layout.step_token l hl hs]

theorem outcome_of_semicolon {a : α} (ha : m.role a = .semicolon) (l : Layout) : m.outcome l a = [m.atLexeme a] := by
  rw [outcome, ha]
  rfl

/-- The three things that can become of a lexeme: a token stays, a semicolon or line end becomes a terminator, and a
line end is left out. -/
theorem outcome_cases (l : Layout) (a : α) :
    ((m.role a).isToken = true ∧ m.outcome l a = [a] ∧ (l.step (m.role a)).2.canEnd = (m.role a).canEnd ∧
      ∀ last, m.lastToken last [a] = some a) ∨
    ((m.role a).isToken = false ∧ m.outcome l a = [m.atLexeme a] ∧ (l.step (m.role a)).2.canEnd = false) ∨
    (m.role a = .lineEnd ∧ m.outcome l a = [] ∧ (l.step (m.role a)).2 = l ∧ ∀ last, m.lastToken last [a] = last) := by
  by_cases hline : m.role a = .lineEnd
  · by_cases hend : l.canEnd = true ∧ l.inner = .empty
    · refine .inr (.inl ⟨by rw [hline]; rfl, ?_, ?_⟩)
      · rw [outcome_of_lineEnd hline, if_pos hend]
      · rw [hline, Layout.step_lineEnd_of_empty hend]
    · refine .inr (.inr ⟨hline, ?_, ?_, fun last => by simp [lastToken, hline]⟩)
      · rw [outcome_of_lineEnd hline, if_neg hend]
      · rw [hline, Layout.step_lineEnd_of_not hend]
  by_cases hsemi : m.role a = .semicolon
  · refine .inr (.inl ⟨by rw [hsemi]; rfl, m.outcome_of_semicolon hsemi l, ?_⟩)
    rw [hsemi]
    rfl
  · have htoken : (m.role a).isToken = true := Role.isToken_iff.2 ⟨hline, hsemi⟩
    refine .inl ⟨htoken, m.outcome_of_token htoken l, ?_, fun last => by simp [lastToken, hline, hsemi]⟩
    rw [Layout.step_token l hline hsemi]

/-- How many line ends of a list become terminators. -/
def fired (l : Layout) (as : List α) : Nat :=
  (as.zip (m.outcomes l as)).countP fun p => m.role p.1 = .lineEnd && !p.2.isEmpty

theorem fired_cons (l : Layout) (a : α) (as : List α) :
    m.fired l (a :: as) = m.fired l [a] + m.fired (l.step (m.role a)).2 as := by
  simp [fired, outcomes, List.countP_cons, Nat.add_comm]

/-! ## the layout follows what has been given out -/

/-- Whether a statement can end behind what has been given out. -/
def ended (out : List α) : Bool := out.getLast?.any fun b => (m.role b).canEnd

theorem ended_append_singleton (out : List α) (b : α) : m.ended (out ++ [b]) = (m.role b).canEnd := by
  simp [ended]

/-- A layout and a last token that follow what has been given out: a statement can end behind a token that can be the
last one, and such a token is known. -/
structure Tracks (out : List α) (l : Layout) (last : Option α) : Prop where
  canEnd : l.canEnd = m.ended out
  last : l.canEnd = true → last.isSome = true

theorem tracks_start : m.Tracks [] .start none := ⟨rfl, by simp [Layout.start]⟩

variable {m} {out : List α} {l : Layout} {last : Option α}

/-- At the end of a list a terminator is given out if a statement can end there. -/
theorem Tracks.atEnd (h : m.Tracks out l last) :
    (l.canEnd = false ∧ terminatedFrom m l last [] = []) ∨
      l.canEnd = true ∧ ∃ t, terminatedFrom m l last [] = [m.atEnd t] := by
  unfold terminatedFrom
  cases hend : l.canEnd with
  | false => exact .inl ⟨rfl, rfl⟩
  | true =>
    obtain ⟨t, rfl⟩ := Option.isSome_iff_exists.1 (h.last hend)
    exact .inr ⟨rfl, t, rfl⟩

end Marking

namespace KindedMarking

variable {α κ : Type} (m : KindedMarking α κ)

/-- One lexeme more. -/
theorem tracks_step {out : List α} {l : Layout} {last : Option α} (h : m.Tracks out l last) (a : α) :
    m.Tracks (out ++ m.outcome l a) (l.step (m.role a)).2 (m.lastToken last [a]) := by
  rcases m.outcome_cases l a with ⟨-, hout, hend, hlast⟩ | ⟨-, hout, hend⟩ | ⟨-, hout, hl, hlast⟩
  · refine ⟨?_, fun _ => by rw [hlast]; rfl⟩
    rw [hout, m.ended_append_singleton, hend]
  · refine ⟨?_, fun hcan => absurd hcan (by simp [hend])⟩
    rw [hout, m.ended_append_singleton, hend, m.role_atLexeme]
    rfl
  · rw [hout, List.append_nil, hl, hlast]
    exact h

/-- Any number of lexemes more. -/
theorem tracks_behind {out : List α} {l : Layout} {last : Option α} (h : m.Tracks out l last) (as : List α) :
    m.Tracks (out ++ (m.outcomes l as).flatten) (l.behind (as.map m.role)) (m.lastToken last as) := by
  induction as generalizing out l last with
  | nil => simpa [Marking.outcomes, Marking.lastToken] using h
  | cons a as ih => simpa [Marking.outcomes, Marking.lastToken] using ih (m.tracks_step h a)

theorem tracks_all (as : List α) :
    m.Tracks (m.outcomes .start as).flatten (Layout.start.behind (as.map m.role)) (m.lastToken none as) := by
  simpa using m.tracks_behind m.tracks_start as

theorem terminated_eq (as : List α) : terminated m.toMarking as = (m.outcomes .start as).flatten ++
    terminatedFrom m.toMarking (Layout.start.behind (as.map m.role)) (m.lastToken none as) [] := by
  simpa [terminated] using terminatedFrom_append m.toMarking .start none as []

/-- Behind what stands in the places of the lexemes, at most one more terminator is given out. -/
theorem exists_tail (as : List α) : ∃ tail, terminated m.toMarking as = (m.outcomes .start as).flatten ++ tail ∧
    tail.length ≤ 1 ∧ ∀ b ∈ tail, m.kind b = m.terminator := by
  refine ⟨_, m.terminated_eq as, ?_⟩
  rcases (m.tracks_all as).atEnd with ⟨-, htail⟩ | ⟨-, t, htail⟩
  · simp [htail]
  · simp [htail, m.kind_atEnd]

/-! ## nothing is lost -/

theorem isToken_of_mem_outcomes {l : Layout} {as : List α} {b : α} (h : b ∈ (m.outcomes l as).flatten) :
    (m.role b).isToken = true := by
  induction as generalizing l with
  | nil => simp [Marking.outcomes] at h
  | cons a as ih =>
    rw [Marking.outcomes, List.flatten_cons, List.mem_append] at h
    rcases h with h | h
    · rcases m.outcome_cases l a with ⟨htoken, hout, -⟩ | ⟨-, hout, -⟩ | ⟨-, hout, -⟩
      · obtain rfl : b = a := by simpa [hout] using h
        exact htoken
      · obtain rfl : b = m.atLexeme a := by simpa [hout] using h
        rw [m.role_atLexeme]
        rfl
      · simp [hout] at h
    · exact ih h

/-- Semicolons and line ends are not given out. -/
theorem isToken_of_mem_terminated {as : List α} {b : α} (h : b ∈ terminated m.toMarking as) :
    (m.role b).isToken = true := by
  obtain ⟨tail, heq, -, hkind⟩ := m.exists_tail as
  rw [heq, List.mem_append] at h
  rcases h with h | h
  · exact m.isToken_of_mem_outcomes h
  · rw [m.role_of_terminator (hkind b h)]
    rfl

/-- No statement can end behind all that is given out. -/
theorem ended_terminated (as : List α) : m.ended (terminated m.toMarking as) = false := by
  have htracks := m.tracks_all as
  rw [terminated_eq]
  rcases htracks.atEnd with ⟨hend, htail⟩ | ⟨-, t, htail⟩
  · rw [htail, List.append_nil, ← htracks.canEnd, hend]
  · rw [htail, m.ended_append_singleton, m.role_atEnd]
    rfl

theorem outcomes_of_tokens {l : Layout} {bs : List α} (h : ∀ b ∈ bs, (m.role b).isToken = true) :
    (m.outcomes l bs).flatten = bs := by
  induction bs generalizing l with
  | nil => rfl
  | cons b bs ih =>
    obtain ⟨hb, hbs⟩ := List.forall_mem_cons.1 h
    rw [Marking.outcomes, List.flatten_cons, m.outcome_of_token hb, ih hbs]
    rfl

/-- A list without semicolons and line ends is left as it is if no statement can end behind it. -/
theorem terminated_of_tokens {bs : List α} (h : ∀ b ∈ bs, (m.role b).isToken = true) (hend : m.ended bs = false) :
    terminated m.toMarking bs = bs := by
  have htracks := m.tracks_all bs
  rw [terminated_eq, m.outcomes_of_tokens h]
  rw [m.outcomes_of_tokens h] at htracks
  rcases htracks.atEnd with ⟨-, htail⟩ | ⟨hcan, -⟩
  · rw [htail, List.append_nil]
  · rw [htracks.canEnd, hend] at hcan
    exact absurd hcan (by simp)

section Kinds

variable [DecidableEq κ]

/-- Where a lexeme is given out as another one, it is given out as a terminator. -/
theorem filter_outcome (l : Layout) (a : α) :
    (m.outcome l a).filter (fun b => m.kind b ≠ m.terminator) =
      [a].filter fun a => (m.role a).isToken && m.kind a ≠ m.terminator := by
  rcases m.outcome_cases l a with ⟨htoken, hout, -⟩ | ⟨htoken, hout, -⟩ | ⟨hline, hout, -⟩
  · simp [hout, htoken, List.filter_cons]
  · simp [hout, htoken, m.kind_atLexeme]
  · simp [hout, hline, Role.isToken]

theorem filter_outcomes (l : Layout) (as : List α) :
    (m.outcomes l as).flatten.filter (fun b => m.kind b ≠ m.terminator) =
      as.filter fun a => (m.role a).isToken && m.kind a ≠ m.terminator := by
  induction as generalizing l with
  | nil => rfl
  | cons a as ih =>
    rw [Marking.outcomes, List.flatten_cons, List.filter_append, ih, filter_outcome, ← List.filter_append,
      List.singleton_append]

/-- What is given out, less its terminators, is the list less its semicolons, line ends and terminators. -/
theorem filter_terminated (as : List α) :
    (terminated m.toMarking as).filter (fun b => m.kind b ≠ m.terminator) =
      as.filter fun a => (m.role a).isToken && m.kind a ≠ m.terminator := by
  obtain ⟨tail, heq, -, hkind⟩ := m.exists_tail as
  have htail : tail.filter (fun b => m.kind b ≠ m.terminator) = [] := by simpa using hkind
  rw [heq, List.filter_append, filter_outcomes, htail, List.append_nil]

theorem mem_of_mem_terminated {as : List α} {b : α} (h : b ∈ terminated m.toMarking as)
    (hb : m.kind b ≠ m.terminator) : b ∈ as := by
  have hmem : b ∈ (terminated m.toMarking as).filter fun b => m.kind b ≠ m.terminator := by simp [h, hb]
  rw [filter_terminated] at hmem
  exact List.mem_of_mem_filter hmem

/-- A lexeme is given out as a terminator if it is a semicolon, a line end that fires, or a terminator before. -/
theorem countP_outcome (l : Layout) (a : α) :
    (m.outcome l a).countP (fun b => m.kind b = m.terminator) =
      [a].countP (fun a => m.role a = .semicolon) + [a].countP (fun a => m.kind a = m.terminator) + m.fired l [a] := by
  rcases m.outcome_cases l a with ⟨htoken, hout, -⟩ | ⟨htoken, hout, -⟩ | ⟨hline, hout, -⟩
  · obtain ⟨hline, hsemi⟩ := Role.isToken_iff.1 htoken
    simp [Marking.fired, Marking.outcomes, hout, hline, hsemi]
  · have hkind : m.kind a ≠ m.terminator := fun h => by simp [m.role_of_terminator h, Role.isToken] at htoken
    have hrole : m.role a = .lineEnd ∨ m.role a = .semicolon := by
      cases hr : m.role a <;> simp_all [Role.isToken]
    rcases hrole with hrole | hrole <;> simp [Marking.fired, Marking.outcomes, hout, hrole, hkind, m.kind_atLexeme]
  · have hkind : m.kind a ≠ m.terminator := fun h => by simp [m.role_of_terminator h] at hline
    simp [Marking.fired, Marking.outcomes, hout, hline, hkind]

theorem countP_outcomes (l : Layout) (as : List α) :
    (m.outcomes l as).flatten.countP (fun b => m.kind b = m.terminator) =
      as.countP (fun a => m.role a = .semicolon) + as.countP (fun a => m.kind a = m.terminator) + m.fired l as := by
  induction as generalizing l with
  | nil => rfl
  | cons a as ih =>
    have hcount : ∀ p : α → Bool, (a :: as).countP p = [a].countP p + as.countP p :=
      fun p => by rw [← List.countP_append, List.singleton_append]
    rw [Marking.outcomes, List.flatten_cons, List.countP_append, countP_outcome, ih, m.fired_cons l a as, hcount,
      hcount]
    omega

end Kinds

end KindedMarking

/-- What is given out for a list holds no semicolon and no line end.  Less its terminators, it is the list less its
semicolons, line ends and terminators.  Its terminators are as many as the semicolons and terminators of the list and
the line ends that fire, and at most one more, at the end.  No statement can end behind it, and given in again it is
given out unchanged. -/
theorem terminated_conserves {α κ : Type} [DecidableEq κ] (m : KindedMarking α κ) (as : List α) :
    (∀ b ∈ terminated m.toMarking as, m.role b ≠ .lineEnd ∧ m.role b ≠ .semicolon) ∧
    ((terminated m.toMarking as).filter fun b => m.kind b ≠ m.terminator) =
      (as.filter fun a => m.role a ≠ .lineEnd ∧ m.role a ≠ .semicolon ∧ m.kind a ≠ m.terminator) ∧
    (∃ tail : List α, tail.length ≤ 1 ∧ terminated m.toMarking as = (m.outcomes .start as).flatten ++ tail ∧
      (terminated m.toMarking as).countP (fun b => m.kind b = m.terminator) =
        as.countP (fun a => m.role a = .semicolon) + as.countP (fun a => m.kind a = m.terminator) +
          m.fired .start as + tail.length) ∧
    (∀ b, (terminated m.toMarking as).getLast? = some b → (m.role b).canEnd = false) ∧
    terminated m.toMarking (terminated m.toMarking as) = terminated m.toMarking as := by
  have htokens : ∀ b ∈ terminated m.toMarking as, (m.role b).isToken = true :=
    fun b hb => m.isToken_of_mem_terminated hb
  have hended := m.ended_terminated as
  obtain ⟨tail, heq, hlength, hkind⟩ := m.exists_tail as
  refine ⟨fun b hb => Role.isToken_iff.1 (htokens b hb), ?_, ⟨tail, hlength, heq, ?_⟩, fun b hb => ?_, ?_⟩
  · rw [m.filter_terminated]
    refine List.filter_congr fun a _ => ?_
    simp only [← and_assoc, ← Role.isToken_iff, Bool.decide_and, Bool.decide_eq_true]
  · have htail : tail.countP (fun b => m.kind b = m.terminator) = tail.length := by
      simpa [List.countP_eq_length] using hkind
    rw [heq, List.countP_append, m.countP_outcomes, htail]
  · simpa [Marking.ended, hb] using hended
  · exact m.terminated_of_tokens htokens hended

/-- A semicolon, a terminator that was there before, a line end that fires, and the end: four terminators.  The last
line end does not fire, since a parenthesis is open. -/
theorem terminated_conserves_lexemes :
    let kinds : List LexemeKind := [.token .name, .lineEnd, .lineEnd, .semicolon, .token .terminator,
      .token .parenOpen, .token .number, .lineEnd]
    let as : List Lexeme := kinds.map fun kind => ⟨kind, [], .start⟩
    Lexeme.marking.fired .start as = 1 ∧
      (terminated Lexeme.marking as).countP (fun b => b.kind = .token .terminator) = 4 ∧
      (∃ tail : List Lexeme, tail.length = 1 ∧
        terminated Lexeme.marking as = (Lexeme.marking.outcomes .start as).flatten ++ tail) ∧
      (∃ b, (terminated Lexeme.marking as).getLast? = some b ∧
        b.role ≠ .lineEnd ∧ b.role ≠ .semicolon ∧ b.role.canEnd = false) ∧
      terminated Lexeme.marking (terminated Lexeme.marking as) = terminated Lexeme.marking as := by
  intro kinds as
  obtain ⟨htokens, -, ⟨tail, -, heq, hcount⟩, hlast, hagain⟩ := terminated_conserves Lexeme.kindedMarking as
  have hfour : (terminated Lexeme.marking as).countP (fun b => b.kind = .token .terminator) = 4 := by decide
  have hfired : Lexeme.marking.fired .start as = 1 := by decide
  refine ⟨hfired, hfour, ⟨tail, ?_, heq⟩, ?_, hagain⟩
  · have hsum : 4 = 3 + tail.length := hfour.symm.trans hcount
    omega
  · obtain ⟨b, hb⟩ : ∃ b, (terminated Lexeme.marking as).getLast? = some b := ⟨_, rfl⟩
    obtain ⟨hline, hsemi⟩ := htokens b (List.mem_of_getLast? hb)
    exact ⟨b, hb, hline, hsemi, hlast b hb⟩

/-! ## line ends that make no difference -/

theorem Layout.quiet_behind_lineEnd (l : Layout) :
    ¬((l.step .lineEnd).2.canEnd = true ∧ (l.step .lineEnd).2.inner = .empty) := by
  by_cases h : l.canEnd = true ∧ l.inner = .empty
  · rw [Layout.step_lineEnd_of_empty h]
    simp
  · rw [Layout.step_lineEnd_of_not h]
    exact h

theorem Layout.quiet_behind_semicolon (l : Layout) :
    ¬((l.step .semicolon).2.canEnd = true ∧ (l.step .semicolon).2.inner = .empty) := by
  simp [Layout.step]

section Quiet

variable {α : Type} (m : Marking α) {l : Layout} {n : α}

theorem terminatedFrom_lineEnd_of_not (hn : m.role n = .lineEnd) (h : ¬(l.canEnd = true ∧ l.inner = .empty))
    (last : Option α) (bs : List α) : terminatedFrom m l last (n :: bs) = terminatedFrom m l last bs := by
  rw [terminatedFrom, hn, Layout.step_lineEnd_of_not h]

/-- A line end that does not fire may be left out. -/
theorem terminated_without_lineEnd (as bs : List α) (hn : m.role n = .lineEnd)
    (h : ¬((Layout.start.behind (as.map m.role)).canEnd = true ∧
      (Layout.start.behind (as.map m.role)).inner = .empty)) :
    terminated m (as ++ n :: bs) = terminated m (as ++ bs) := by
  rw [terminated, terminated, terminatedFrom_append, terminatedFrom_append, terminatedFrom_lineEnd_of_not m hn h]

end Quiet

/-- A line end behind another one, or behind a semicolon, makes no difference.  At the end of a list it makes none for
the kinds of what is given out, also if brackets are open there: either the terminator that stands for it takes the
place of the one at the end, or it is left out. -/
theorem terminated_blankLine {α κ : Type} (m : KindedMarking α κ) {n : α} (hn : m.role n = .lineEnd) :
    (∀ (as bs : List α) (n₀ : α), m.role n₀ = .lineEnd →
      terminated m.toMarking (as ++ [n₀, n] ++ bs) = terminated m.toMarking (as ++ [n₀] ++ bs)) ∧
    (∀ (as bs : List α) (s : α), m.role s = .semicolon →
      terminated m.toMarking (as ++ [s, n] ++ bs) = terminated m.toMarking (as ++ [s] ++ bs)) ∧
    ∀ as : List α, (terminated m.toMarking (as ++ [n])).map m.kind = (terminated m.toMarking as).map m.kind := by
  refine ⟨fun as bs n₀ hn₀ => ?_, fun as bs s hs => ?_, fun as => ?_⟩
  · have h := terminated_without_lineEnd m.toMarking (as ++ [n₀]) bs hn
      (by simpa [hn₀] using Layout.quiet_behind_lineEnd _)
    simpa using h
  · have h := terminated_without_lineEnd m.toMarking (as ++ [s]) bs hn
      (by simpa [hs] using Layout.quiet_behind_semicolon _)
    simpa using h
  · have htracks := m.tracks_all as
    have hthere : terminated m.toMarking (as ++ [n]) = (m.outcomes .start as).flatten ++
        terminatedFrom m.toMarking (Layout.start.behind (as.map m.role)) (m.lastToken none as) [n] :=
      terminatedFrom_append m.toMarking .start none as [n]
    rw [hthere, m.terminated_eq as, List.map_append, List.map_append]
    generalize Layout.start.behind (as.map m.role) = l at htracks ⊢
    by_cases hend : l.canEnd = true ∧ l.inner = .empty
    · obtain ⟨hfalse, -⟩ | ⟨-, t, htail⟩ := htracks.atEnd
      · simp [hfalse] at hend
      · have hline : terminatedFrom m.toMarking l (m.lastToken none as) [n] = [m.atLexeme n] := by
          simp [terminatedFrom, hn, Layout.step_lineEnd_of_empty hend]
        simp [hline, htail, m.kind_atLexeme, m.kind_atEnd]
    · rw [terminatedFrom_lineEnd_of_not m.toMarking hn hend]

theorem terminated_blankLine_open :
    let lexeme : LexemeKind → Lexeme := fun kind => ⟨kind, [], .start⟩
    let as : List Lexeme := [.token .braceOpen, .token .name].map lexeme
    let bs : List Lexeme := [.token .parenOpen, .token .name].map lexeme
    let line : Lexeme := ⟨.lineEnd, [CodePoint.lineFeed], .start⟩
    terminated Lexeme.marking (as ++ [lexeme .lineEnd, line] ++ bs) =
        terminated Lexeme.marking (as ++ [lexeme .lineEnd] ++ bs) ∧
      terminated Lexeme.marking (as ++ [lexeme .semicolon, line] ++ bs) =
        terminated Lexeme.marking (as ++ [lexeme .semicolon] ++ bs) ∧
      (terminated Lexeme.marking (as ++ bs ++ [line])).map Lexeme.kind =
        (terminated Lexeme.marking (as ++ bs)).map Lexeme.kind ∧
      (terminated Lexeme.marking (as ++ [line])).map Lexeme.kind =
        [.token .braceOpen, .token .name, .token .terminator] := by
  intro lexeme as bs line
  obtain ⟨hline, hsemi, hend⟩ := terminated_blankLine Lexeme.kindedMarking (n := line) rfl
  exact ⟨hline as bs _ rfl, hsemi as bs _ rfl, hend (as ++ bs), (hend as).trans (by decide)⟩

end TypeLint.Source
