import TypeLint.Proofs.Source.Acceptance

/-!
# Where statements end

The layout counts the parentheses and the angle brackets that are open since the innermost open brace.  If brackets are
well nested, these counts say what kind of bracket was opened last; if they are not, a block still keeps what happens in
it to itself.

* `Layout.behind` — the layout behind a list of lexemes;
* `Marking.outcome`, `Marking.outcomes` — what stands in the place of a lexeme, and of each lexeme of a list;
* `terminatedFrom_append` — the terminated list is what stands in the places of the lexemes, one after the other;
* `openBehind` — the brackets that are open behind a list of lexemes, one inside the other;
* `terminated_lineEnd` — which line ends become terminators if brackets are well nested;
* `Closed` — braces that are opened and closed in pairs;
* `terminatedFrom_block` — a block leaves the layout around it as it was, and is read as if it stood alone.
-/

namespace TypeLint.Source

/-! ## one lexeme after the other -/

namespace Layout

/-- The layout behind lexemes of these roles. -/
def behind (l : Layout) (rs : List Role) : Layout := rs.foldl (fun l r => (l.step r).2) l

@[simp]
theorem behind_nil (l : Layout) : l.behind [] = l := rfl

@[simp]
theorem behind_cons (l : Layout) (r : Role) (rs : List Role) : l.behind (r :: rs) = (l.step r).2.behind rs := rfl

@[simp]
theorem behind_append (l : Layout) (rs rs' : List Role) : l.behind (rs ++ rs') = (l.behind rs).behind rs' :=
  List.foldl_append

theorem step_lineEnd_of_empty {l : Layout} (h : l.canEnd = true ∧ l.inner = .empty) :
    l.step .lineEnd = (.terminate, { l with canEnd := false }) :=
  if_pos (by simpa using h)

theorem step_lineEnd_of_not {l : Layout} (h : ¬(l.canEnd = true ∧ l.inner = .empty)) :
    l.step .lineEnd = (.drop, l) :=
  if_neg (by simpa using h)

/-- Behind a token a statement can end if the token can be the last one of a statement. -/
theorem step_token (l : Layout) {r : Role} (hl : r ≠ .lineEnd) (hs : r ≠ .semicolon) :
    l.step r = (.pass, ⟨(l.brackets r).1, (l.brackets r).2, r.canEnd⟩) := by
  cases r <;> first | rfl | contradiction

end Layout

namespace Marking

variable {α : Type} (m : Marking α)

/-- What stands in the place of a lexeme. -/
def outcome (l : Layout) (a : α) : List α :=
  match (l.step (m.role a)).1 with
  | .pass => [a]
  | .drop => []
  | .terminate => [m.atLexeme a]

/-- What stands in the place of each lexeme of a list that begins with that layout. -/
def outcomes (l : Layout) : List α → List (List α)
  | [] => []
  | a :: as => m.outcome l a :: outcomes (l.step (m.role a)).2 as

/-- The last token of a list, or else the one before it.  Line ends and semicolons are no tokens. -/
def lastToken (last : Option α) (as : List α) : Option α :=
  as.foldl (fun last a => if m.role a = .lineEnd ∨ m.role a = .semicolon then last else some a) last

theorem outcomes_append (l : Layout) (as bs : List α) :
    m.outcomes l (as ++ bs) = m.outcomes l as ++ m.outcomes (l.behind (as.map m.role)) bs := by
  induction as generalizing l with
  | nil => rfl
  | cons a as ih => simp [outcomes, ih]

variable {m}

theorem outcome_of_lineEnd {l : Layout} {a : α} (ha : m.role a = .lineEnd) :
    m.outcome l a = if l.canEnd = true ∧ l.inner = .empty then [m.atLexeme a] else [] := by
  unfold outcome
  rw [ha]
  split_ifs with h
  · rw [Layout.step_lineEnd_of_empty h]
  · rw [Layout.step_lineEnd_of_not h]

/-- What stands in the place of a lexeme of a list depends only on what stands before it. -/
theorem getElem?_outcomes {as : List α} {i : Nat} {a : α} (ha : as[i]? = some a) (l : Layout) :
    (m.outcomes l as)[i]? = some (m.outcome (l.behind ((as.take i).map m.role)) a) := by
  induction as generalizing i l with
  | nil => simp at ha
  | cons b as ih =>
    cases i with
    | zero =>
      obtain rfl : b = a := by simpa using ha
      simp [outcomes]
    | succ i =>
      have ha : as[i]? = some a := by simpa using ha
      simpa [outcomes] using ih ha _

end Marking

section Terminated

variable {α : Type} (m : Marking α)

/-- A terminated list is what stands in the places of its lexemes, and what follows at its end. -/
theorem terminatedFrom_append (l : Layout) (last : Option α) (as bs : List α) :
    terminatedFrom m l last (as ++ bs) =
      (m.outcomes l as).flatten ++ terminatedFrom m (l.behind (as.map m.role)) (m.lastToken last as) bs := by
  induction as generalizing l last with
  | nil => rfl
  | cons a as ih =>
    by_cases hl : m.role a = .lineEnd
    · by_cases h : l.canEnd = true ∧ l.inner = .empty
      · simp [terminatedFrom, Marking.outcomes, Marking.outcome, Marking.lastToken, hl,
          Layout.step_lineEnd_of_empty h, ih]
      · simp [terminatedFrom, Marking.outcomes, Marking.outcome, Marking.lastToken, hl,
          Layout.step_lineEnd_of_not h, ih]
    by_cases hs : m.role a = .semicolon
    · simp [terminatedFrom, Marking.outcomes, Marking.outcome, Marking.lastToken, hs, Layout.step, ih]
    · simp [terminatedFrom, Marking.outcomes, Marking.outcome, Marking.lastToken, hl, hs,
        Layout.step_token l hl hs, ih]

/-! ## the token before a line end -/

/-- Of the lexemes before position `i`, the last one that is no line end can be the last token of a statement, and none
of the line ends behind it has become a terminator. -/
def Marking.CanEndAt (as : List α) (i : Nat) : Prop :=
  ∃ (j : Nat) (t : α), j < i ∧ as[j]? = some t ∧ m.role t ≠ .lineEnd ∧ m.role t ≠ .semicolon ∧
    (m.role t).canEnd = true ∧
    ∀ k b, j < k → k < i → as[k]? = some b → m.role b = .lineEnd ∧ (m.outcomes .start as)[k]? = some []

variable {m} {as : List α} {i : Nat} {a : α}

theorem canEndAt_behind_lineEnd (ha : as[i]? = some a) (hrole : m.role a = .lineEnd) :
    m.CanEndAt as (i + 1) ↔ m.CanEndAt as i ∧ (m.outcomes .start as)[i]? = some [] := by
  constructor
  · rintro ⟨j, t, hj, ht, hl, hs, hend, hafter⟩
    have hne : j ≠ i := by
      rintro rfl
      obtain rfl := Option.some.inj (ht.symm.trans ha)
      exact hl hrole
    refine ⟨⟨j, t, by omega, ht, hl, hs, hend, fun k b hjk hk hb => ?_⟩, ?_⟩
    · exact hafter k b hjk (by omega) hb
    · exact (hafter i a (by omega) (by omega) ha).2
  · rintro ⟨⟨j, t, hj, ht, hl, hs, hend, hafter⟩, hout⟩
    refine ⟨j, t, by omega, ht, hl, hs, hend, fun k b hjk hk hb => ?_⟩
    rcases Nat.lt_succ_iff_lt_or_eq.1 hk with hk | rfl
    · exact hafter k b hjk hk hb
    · obtain rfl := Option.some.inj (hb.symm.trans ha)
      exact ⟨hrole, hout⟩

theorem canEndAt_behind_token (ha : as[i]? = some a) (hrole : m.role a ≠ .lineEnd) :
    m.CanEndAt as (i + 1) ↔ m.role a ≠ .semicolon ∧ (m.role a).canEnd = true := by
  constructor
  · rintro ⟨j, t, hj, ht, hl, hs, hend, hafter⟩
    have heq : j = i := by
      by_contra hne
      exact hrole (hafter i a (by omega) (by omega) ha).1
    subst heq
    obtain rfl := Option.some.inj (ht.symm.trans ha)
    exact ⟨hs, hend⟩
  · rintro ⟨hs, hend⟩
    exact ⟨i, a, by omega, ha, hrole, hs, hend, fun k b hjk hk _ => by omega⟩

/-- The layout knows whether a statement can end. -/
theorem canEnd_behind_take_iff (hi : i ≤ as.length) :
    (Layout.start.behind ((as.take i).map m.role)).canEnd = true ↔ m.CanEndAt as i := by
  induction i with
  | zero => simp [Layout.start, Marking.CanEndAt]
  | succ i ih =>
    have ih := ih (by omega)
    have ha : as[i]? = some as[i] := List.getElem?_eq_getElem hi
    rw [List.take_add_one, ha, Option.toList_some, List.map_append, Layout.behind_append]
    by_cases hline : m.role as[i] = .lineEnd
    · rw [canEndAt_behind_lineEnd ha hline, ← ih, Marking.getElem?_outcomes ha,
        Marking.outcome_of_lineEnd hline]
      generalize Layout.start.behind ((as.take i).map m.role) = l
      by_cases h : l.canEnd = true ∧ l.inner = .empty
      · simp [hline, h, Layout.step_lineEnd_of_empty h]
      · simp [hline, h, Layout.step_lineEnd_of_not h]
    · rw [canEndAt_behind_token ha hline]
      by_cases hsemi : m.role as[i] = .semicolon
      · simp [hsemi, Layout.step]
      · simp [hsemi, Layout.step_token _ hline hsemi]

/-! ## well nested brackets -/

/-- The kinds of brackets that matter for the layout. -/
inductive Bracket where
  | paren
  | angle
  | brace
deriving DecidableEq

namespace Bracket

/-- The brackets that are open behind one more lexeme, the innermost one first; none if it closes a bracket that is not
the innermost one. -/
def track : List Bracket → Role → Option (List Bracket)
  | bs, .parenOpen => some (.paren :: bs)
  | bs, .angleOpen => some (.angle :: bs)
  | bs, .braceOpen => some (.brace :: bs)
  | bs, .parenClose => if bs.head? = some .paren then some bs.tail else none
  | bs, .angleClose => if bs.head? = some .angle then some bs.tail else none
  | bs, .braceClose => if bs.head? = some .brace then some bs.tail else none
  | bs, _ => some bs

/-- With one more bracket of that kind. -/
def added : Bracket → Brackets → Brackets
  | .paren, b => b.openParen
  | .angle, b => b.openAngle
  | .brace, b => b.openBrace

/-- The frames of open brackets. -/
def frames (bs : List Bracket) : Brackets := bs.foldr added .none

end Bracket

/-- The brackets that are open behind lexemes of these roles, the innermost one first; none if they are not well
nested. -/
def openBehind (rs : List Role) : Option (List Bracket) := rs.foldlM Bracket.track []

/-- One lexeme changes the counts of the layout as it changes the brackets that are open. -/
theorem Bracket.frames_step {bs bs' : List Bracket} {r : Role} {l : Layout} (h : track bs r = some bs')
    (hl : (l.inner, l.outer) = frames bs) : ((l.step r).2.inner, (l.step r).2.outer) = frames bs' := by
  cases r with
  | lineEnd =>
    obtain rfl := Option.some.inj h
    by_cases hend : l.canEnd = true ∧ l.inner = .empty
    · rw [Layout.step_lineEnd_of_empty hend]
      exact hl
    · rw [Layout.step_lineEnd_of_not hend]
      exact hl
  | semicolon | last | inner =>
    obtain rfl := Option.some.inj h
    exact hl
  | parenOpen =>
    obtain rfl := Option.some.inj h
    exact congrArg Brackets.openParen hl
  | angleOpen =>
    obtain rfl := Option.some.inj h
    exact congrArg Brackets.openAngle hl
  | braceOpen =>
    obtain rfl := Option.some.inj h
    exact congrArg Brackets.openBrace hl
  | parenClose =>
    obtain ⟨bs, rfl⟩ : ∃ tail, bs = .paren :: tail := by grind [track, List.head?_eq_some_iff]
    obtain rfl : bs = bs' := by simpa [track] using h
    have hopen : (l.inner, l.outer) = (frames bs).openParen := hl
    simp [Layout.step, Layout.brackets, (Prod.mk.inj hopen).1, (Prod.mk.inj hopen).2]
  | angleClose =>
    obtain ⟨bs, rfl⟩ : ∃ tail, bs = .angle :: tail := by grind [track, List.head?_eq_some_iff]
    obtain rfl : bs = bs' := by simpa [track] using h
    have hopen : (l.inner, l.outer) = (frames bs).openAngle := hl
    simp [Layout.step, Layout.brackets, (Prod.mk.inj hopen).1, (Prod.mk.inj hopen).2]
  | braceClose =>
    obtain ⟨bs, rfl⟩ : ∃ tail, bs = .brace :: tail := by grind [track, List.head?_eq_some_iff]
    obtain rfl : bs = bs' := by simpa [track] using h
    have hopen : (l.inner, l.outer) = (frames bs).openBrace := hl
    simp [Layout.step, Layout.brackets, (Prod.mk.inj hopen).2]

theorem frames_behind {rs : List Role} {bs bs' : List Bracket} {l : Layout} (h : rs.foldlM Bracket.track bs = some bs')
    (hl : (l.inner, l.outer) = Bracket.frames bs) :
    ((l.behind rs).inner, (l.behind rs).outer) = Bracket.frames bs' := by
  induction rs generalizing bs l with
  | nil =>
    obtain rfl := Option.some.inj h
    exact hl
  | cons r rs ih =>
    obtain ⟨bs₁, h₁, h₂⟩ := Option.bind_eq_some_iff.1 h
    exact ih h₂ (Bracket.frames_step h₁ hl)

/-- No bracket is open since the last brace exactly if the innermost open bracket is a brace. -/
theorem Bracket.frames_fst_eq_empty {bs : List Bracket} :
    (frames bs).1 = .empty ↔ bs.head? = none ∨ bs.head? = some .brace := by
  cases bs with
  | nil => simp [frames, Brackets.none]
  | cons b bs =>
    cases b <;> simp [frames, added, Brackets.openParen, Brackets.openAngle, Brackets.openBrace, Frame.empty]

/-- In a list with well nested brackets, a line end becomes a terminator if the last lexeme before it that is no line
end can be the last token of a statement, none of the line ends between them has become a terminator, and the innermost
open bracket is a brace, or none is open.  Any other line end is dropped. -/
theorem terminated_lineEnd (m : Marking α) {as : List α} (hnested : (openBehind (as.map m.role)).isSome = true) :
    (terminated m as = (m.outcomes .start as).flatten ++
      terminatedFrom m (Layout.start.behind (as.map m.role)) (m.lastToken none as) []) ∧
    ∀ (i : Nat) (a : α), as[i]? = some a → m.role a = .lineEnd →
      ∃ bs, openBehind ((as.take i).map m.role) = some bs ∧
        (m.CanEndAt as i ∧ (bs.head? = none ∨ bs.head? = some .brace) →
          (m.outcomes .start as)[i]? = some [m.atLexeme a]) ∧
        (¬(m.CanEndAt as i ∧ (bs.head? = none ∨ bs.head? = some .brace)) →
          (m.outcomes .start as)[i]? = some []) := by
  refine ⟨by simpa [terminated] using terminatedFrom_append m .start none as [], fun i a ha hrole => ?_⟩
  obtain ⟨bs, hbs⟩ : ∃ bs, openBehind ((as.take i).map m.role) = some bs := by
    rw [← List.take_append_drop i as, List.map_append, openBehind, List.foldlM_append] at hnested
    obtain ⟨_, h⟩ := Option.isSome_iff_exists.1 hnested
    obtain ⟨bs, hbs, -⟩ := Option.bind_eq_some_iff.1 h
    exact ⟨bs, hbs⟩
  have hi : i ≤ as.length := by
    have := (List.getElem?_eq_some_iff.1 ha).1
    omega
  have hframes := frames_behind (l := .start) hbs rfl
  have hcond : m.CanEndAt as i ∧ (bs.head? = none ∨ bs.head? = some .brace) ↔
      (Layout.start.behind ((as.take i).map m.role)).canEnd = true ∧
        (Layout.start.behind ((as.take i).map m.role)).inner = .empty := by
    rw [canEnd_behind_take_iff hi, ← Bracket.frames_fst_eq_empty, ← hframes]
  refine ⟨bs, hbs, fun h => ?_, fun h => ?_⟩
  · rw [Marking.getElem?_outcomes ha, Marking.outcome_of_lineEnd hrole, if_pos (hcond.1 h)]
  · rw [Marking.getElem?_outcomes ha, Marking.outcome_of_lineEnd hrole, if_neg (mt hcond.2 h)]

/-- The line end behind a call becomes a terminator; the one between its parentheses is dropped. -/
theorem terminated_lineEnd_call :
    let kinds : List LexemeKind := [.token .name, .token .parenOpen, .lineEnd, .token .parenClose, .lineEnd, .lineEnd]
    let as : List Lexeme := kinds.map fun kind => ⟨kind, [], .start⟩
    (openBehind (as.map Lexeme.marking.role)).isSome = true ∧
      (Lexeme.marking.outcomes .start as)[2]? = some [] ∧
      (Lexeme.marking.outcomes .start as)[4]? = some [⟨.token .terminator, [], .start⟩] := by
  intro kinds as
  have hnested : (openBehind (as.map Lexeme.marking.role)).isSome = true := by decide
  obtain ⟨bs, hbs, -, hinside⟩ := (terminated_lineEnd Lexeme.marking hnested).2 2 _ rfl rfl
  obtain ⟨bs', hbs', hbehind, -⟩ := (terminated_lineEnd Lexeme.marking hnested).2 4 _ rfl rfl
  obtain rfl : [.paren] = bs := Option.some.inj hbs
  obtain rfl : [] = bs' := Option.some.inj hbs'
  refine ⟨hnested, hinside (by simp), hbehind ⟨?_, .inl rfl⟩⟩
  exact ⟨3, _, by decide, rfl, by decide, by decide, rfl, fun k b h h' => by omega⟩

/-! ## blocks -/

/-- Braces are opened and closed in pairs, whatever other brackets are left open. -/
structure Closed (rs : List Role) : Prop where
  le_of_prefix : ∀ rs', rs' <+: rs → rs'.count .braceClose ≤ rs'.count .braceOpen
  eq_of_all : rs.count .braceClose = rs.count .braceOpen

namespace Layout

/-- A layout with more frames around it. -/
def surrounded (l : Layout) (fs : List Frame) : Layout := { l with outer := l.outer ++ fs }

/-- A lexeme does not look at the frames around, unless it closes a brace that is one of them. -/
theorem step_surrounded {l : Layout} {r : Role} (h : r = .braceClose → l.outer ≠ []) (fs : List Frame) :
    (l.surrounded fs).step r = ((l.step r).1, (l.step r).2.surrounded fs) := by
  cases r with
  | lineEnd =>
    by_cases hend : l.canEnd = true ∧ l.inner = .empty
    · rw [step_lineEnd_of_empty hend]
      exact step_lineEnd_of_empty hend
    · rw [step_lineEnd_of_not hend]
      exact step_lineEnd_of_not hend
  | braceClose =>
    obtain ⟨f, outer, houter⟩ := List.exists_cons_of_ne_nil (h rfl)
    simp [step, brackets, surrounded, houter]
  | _ => rfl

/-- The number of open braces behind a lexeme. -/
theorem length_outer_step {l : Layout} {r : Role} (h : r = .braceClose → l.outer ≠ []) :
    (l.step r).2.outer.length + [r].count .braceClose = l.outer.length + [r].count .braceOpen := by
  cases r with
  | lineEnd =>
    by_cases hend : l.canEnd = true ∧ l.inner = .empty
    · rw [step_lineEnd_of_empty hend]
      rfl
    · rw [step_lineEnd_of_not hend]
      rfl
  | braceClose =>
    obtain ⟨f, outer, houter⟩ := List.exists_cons_of_ne_nil (h rfl)
    simp [step, brackets, houter]
  | _ => rfl

/-- Lexemes of these roles never close more braces than are open in the layout and among them. -/
def Covers (l : Layout) (rs : List Role) : Prop :=
  ∀ rs', rs' <+: rs → rs'.count .braceClose ≤ l.outer.length + rs'.count .braceOpen

theorem Covers.head {l : Layout} {r : Role} {rs : List Role} (h : l.Covers (r :: rs)) :
    r = .braceClose → l.outer ≠ [] := by
  rintro rfl hnil
  have := h [.braceClose] (by simp)
  simp [hnil] at this

theorem Covers.tail {l : Layout} {r : Role} {rs : List Role} (h : l.Covers (r :: rs)) : (l.step r).2.Covers rs := by
  intro rs' hrs'
  have hcount := h (r :: rs') (by simpa using hrs')
  have hlength := length_outer_step h.head
  rw [← List.singleton_append, List.count_append, List.count_append] at hcount
  omega

theorem covers_of_closed {rs : List Role} (h : Closed rs) (l : Layout) : l.Covers rs :=
  fun rs' hrs' => (h.le_of_prefix rs' hrs').trans (Nat.le_add_left _ _)

/-- The number of open braces behind lexemes. -/
theorem length_outer_behind {l : Layout} {rs : List Role} (h : l.Covers rs) :
    (l.behind rs).outer.length + rs.count .braceClose = l.outer.length + rs.count .braceOpen := by
  induction rs generalizing l with
  | nil => rfl
  | cons r rs ih =>
    have hstep := length_outer_step h.head
    have hrest := ih h.tail
    rw [← List.singleton_append, List.count_append, List.count_append, List.singleton_append, behind_cons]
    omega

/-- The frames around a layout are kept by lexemes that do not close them. -/
theorem behind_surrounded {l : Layout} {rs : List Role} (h : l.Covers rs) (fs : List Frame) :
    (l.surrounded fs).behind rs = (l.behind rs).surrounded fs := by
  induction rs generalizing l with
  | nil => rfl
  | cons r rs ih => rw [behind_cons, behind_cons, step_surrounded h.head, ih h.tail]

/-- Behind a block the frames are those before it. -/
theorem behind_block {rs : List Role} (h : Closed rs) (l : Layout) :
    (l.behind [.braceOpen]).behind (rs ++ [.braceClose]) = ⟨l.inner, l.outer, true⟩ := by
  have hcovers := covers_of_closed h start
  have hnil : (start.behind rs).outer = [] := by
    have hlength := length_outer_behind hcovers
    rw [h.eq_of_all] at hlength
    exact List.eq_nil_of_length_eq_zero (Nat.add_right_cancel hlength)
  have hopen : l.behind [.braceOpen] = start.surrounded (l.inner :: l.outer) := rfl
  rw [hopen, behind_append, behind_surrounded hcovers]
  simp [step, brackets, surrounded, hnil, Role.canEnd]

end Layout

/-- What stands in the places of lexemes does not depend on frames that they do not close. -/
theorem Marking.outcomes_surrounded (m : Marking α) {l : Layout} {as : List α} (h : l.Covers (as.map m.role))
    (fs : List Frame) : m.outcomes (l.surrounded fs) as = m.outcomes l as := by
  induction as generalizing l with
  | nil => rfl
  | cons a as ih =>
    have hstep := Layout.step_surrounded h.head fs
    rw [Marking.outcomes, Marking.outcomes, Marking.outcome, Marking.outcome, hstep, ih h.tail]

/-- The lexemes of a block, from any place, stand for what they stand for if the block is all there is, whatever
brackets other than braces they leave open or close without need; and behind the block the frames are those before
it. -/
theorem terminatedFrom_block (m : Marking α) {opening closing : α} {body : List α}
    (hopening : m.role opening = .braceOpen) (hclosing : m.role closing = .braceClose)
    (hbody : Closed (body.map m.role)) (l : Layout) :
    ((l.behind ((opening :: (body ++ [closing])).map m.role)).inner = l.inner ∧
      (l.behind ((opening :: (body ++ [closing])).map m.role)).outer = l.outer) ∧
    (m.outcomes l (opening :: body)).tail = (m.outcomes .start (opening :: body)).tail ∧
    ∀ (last : Option α) (after : List α),
      terminatedFrom m l last (opening :: (body ++ closing :: after)) =
        opening :: ((m.outcomes .start (opening :: body)).tail.flatten ++
          closing :: terminatedFrom m ⟨l.inner, l.outer, true⟩ (some closing) after) := by
  have htail : ∀ l : Layout, (m.outcomes l (opening :: body)).tail = m.outcomes .start body := by
    intro l
    have hopen : (l.step (m.role opening)).2 = Layout.start.surrounded (l.inner :: l.outer) := by rw [hopening]; rfl
    rw [Marking.outcomes, List.tail_cons, hopen, m.outcomes_surrounded (Layout.covers_of_closed hbody _)]
  have hroles : (opening :: (body ++ [closing])).map m.role =
      [.braceOpen] ++ (body.map m.role ++ [.braceClose]) := by
    simp [hopening, hclosing]
  have hbehind : l.behind ((opening :: (body ++ [closing])).map m.role) = ⟨l.inner, l.outer, true⟩ := by
    rw [hroles, Layout.behind_append, Layout.behind_block hbody]
  refine ⟨by rw [hbehind]; exact ⟨rfl, rfl⟩, by rw [htail, htail], fun last after => ?_⟩
  have hlast : m.lastToken last (opening :: (body ++ [closing])) = some closing := by
    simp [Marking.lastToken, hclosing]
  have houtcomes : m.outcomes l (opening :: (body ++ [closing])) =
      [opening] :: (m.outcomes .start body ++ [[closing]]) := by
    rw [← List.cons_append, Marking.outcomes_append, ← htail l]
    simp [Marking.outcomes, Marking.outcome, hopening, hclosing, Layout.step]
  calc terminatedFrom m l last (opening :: (body ++ closing :: after))
      = terminatedFrom m l last ((opening :: (body ++ [closing])) ++ after) := by simp
    _ = opening :: ((m.outcomes .start (opening :: body)).tail.flatten ++
          closing :: terminatedFrom m ⟨l.inner, l.outer, true⟩ (some closing) after) := by
      rw [terminatedFrom_append, hbehind, hlast, houtcomes, htail]
      simp

/-- A parenthesis that is left open in a block holds back the line ends behind it in the block, and none behind the
block. -/
theorem terminatedFrom_block_unbalanced :
    let lexeme : LexemeKind → Lexeme := fun kind => ⟨kind, [], .start⟩
    let body : List Lexeme := [.token .name, .lineEnd, .token .parenOpen, .token .name, .lineEnd].map lexeme
    let after : List Lexeme := [.token .angleClose, .lineEnd].map lexeme
    Closed (body.map Lexeme.marking.role) ∧
      terminatedFrom Lexeme.marking ⟨⟨0, 1⟩, [⟨2, 0⟩], false⟩ none
          (lexeme (.token .braceOpen) :: (body ++ lexeme (.token .braceClose) :: after)) =
        [.token .braceOpen, .token .name, .token .terminator, .token .parenOpen, .token .name, .token .braceClose,
          .token .angleClose, .token .terminator].map lexeme := by
  intro lexeme body after
  have hbody : Closed (body.map Lexeme.marking.role) := by
    refine ⟨fun rs' hrs' => ?_, by decide⟩
    have hnone : rs'.count .braceClose ≤ 0 := (hrs'.sublist.count_le _).trans (by decide)
    omega
  refine ⟨hbody, ?_⟩
  exact ((terminatedFrom_block Lexeme.marking rfl rfl hbody ⟨⟨0, 1⟩, [⟨2, 0⟩], false⟩).2.2 none after).trans (by decide)

end Terminated

end TypeLint.Source
