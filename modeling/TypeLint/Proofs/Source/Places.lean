import Mathlib.Data.List.TakeWhile
import TypeLint.Proofs.Source.Heads
import TypeLint.Proofs.Source.Lines

/-!
# Where the names of types stand

The heads of a program are names of its source: each stands at its position, as long as it can be, and they follow
each other in the order of their positions.

* `Pos.Before` — the order of positions;
* `Ident.StandsIn` — a name stands in a text at its position;
* `heads_of_parse` — the heads of a program stand in its source, one behind the other;
* `Ident.StandsIn.line` — a name that stands in a source is a word of one of its lines.
-/

namespace TypeLint.Source

open CodePoint (lineFeed)

/-! ## the order of positions -/

/-- A position is before another one. -/
def Pos.Before (p q : Pos) : Prop := p.line < q.line ∨ p.line = q.line ∧ p.column < q.column

theorem Pos.Before.trans {p q r : Pos} (h : p.Before q) (h' : q.Before r) : p.Before r := by
  unfold Pos.Before at *
  omega

theorem Pos.Before.asymm {p q : Pos} (h : p.Before q) : ¬ q.Before p := by
  unfold Pos.Before at *
  omega

theorem Pos.not_before_self (p : Pos) : ¬ p.Before p := fun h => h.asymm h

theorem Pos.before_next (p : Pos) (c : CodePoint) : p.Before (p.next c) := by
  unfold Pos.Before Pos.next
  split
  · exact .inl (Nat.lt_succ_self _)
  · exact .inr ⟨rfl, Nat.lt_succ_self _⟩

theorem Pos.before_after (p : Pos) {t : Text} (ht : t ≠ []) : p.Before (p.after t) := by
  induction t generalizing p with
  | nil => exact absurd rfl ht
  | cons c t ih =>
    show p.Before ((p.next c).after t)
    by_cases h : t = []
    · subst h
      exact p.before_next c
    · exact (p.before_next c).trans (ih _ h)

/-! ## names in a text -/

/-- A name stands in a text that starts at `pos`: the name that is read at its position is this one. -/
def Ident.StandsIn (id : Ident) (pos : Pos) (t : Text) : Prop :=
  ∃ before behind, t = before ++ (id.text ++ behind) ∧ id.pos = pos.after before ∧
    name? (id.text ++ behind) = some (id.text, behind)

theorem Ident.StandsIn.append {id : Ident} {pos : Pos} {t u : Text} (h : id.StandsIn (pos.after u) t) :
    id.StandsIn pos (u ++ t) := by
  obtain ⟨before, behind, rfl, hp, hn⟩ := h
  exact ⟨u ++ before, behind, by simp, by rw [hp, Pos.after_append], hn⟩

theorem Ident.StandsIn.before {id : Ident} {pos : Pos} {t u : Text} (h : id.StandsIn (pos.after u) t) (hu : u ≠ []) :
    pos.Before id.pos := by
  obtain ⟨before, behind, -, hp, -⟩ := h
  rw [hp, ← Pos.after_append]
  exact pos.before_after (by simp [hu])

theorem spellings_ne_name : ∀ s ∈ spellings, s.2 ≠ .name := by decide

/-- A lexeme that is a name is what is read as a name. -/
theorem name?_of_scan {admits : Terminal → Bool} {t lexeme rest : Text}
    (h : scan admits t = some (.token .name, lexeme, rest)) : name? t = some (lexeme, rest) := by
  rcases scan_token_cases h with ⟨hk, -⟩ | ⟨-, -, hs⟩ | ⟨hk, -⟩ | ⟨hmem, -⟩
  · exact absurd hk (by decide)
  · exact hs
  · exact absurd hk (by decide)
  · exact absurd rfl (spellings_ne_name _ hmem)

/-! ## the heads that are read -/

theorem State.heads_of_isMark {t : Token} (ht : t.IsMark) {s s' : State} (h : s.step t = some s') :
    s'.heads = s.heads := by
  rcases State.heads_step h with hs | hs
  · exact hs
  · rcases ht with hk | hk <;> simpa [Token.heads, hk] using hs

theorem State.heads_terminated? {s s' : State} (h : s.terminated? = some s') : s'.heads = s.heads :=
  State.heads_of_isMark (.inl rfl) h

/-- A lexeme adds nothing to the heads, or itself if it is a name. -/
theorem State.heads_read {s s' : State} {pos : Pos} {kind : LexemeKind} {lexeme : Text}
    (h : s.read pos kind lexeme = some s') :
    s'.heads = s.heads ∨ kind = .token .name ∧ s'.heads = s.heads ++ [⟨lexeme, pos⟩] := by
  cases kind with
  | gap => exact .inl (by rw [Option.some.inj h])
  | lineEnd =>
    simp only [State.read, State.lineEnded?] at h
    split at h
    · exact .inl (State.heads_terminated? h)
    · exact .inl (by rw [Option.some.inj h])
  | semicolon => exact .inl (State.heads_terminated? h)
  | token k =>
    rcases State.heads_step h with hs | hs
    · exact .inl hs
    · by_cases hk : k = .name
      · subst hk
        exact .inr ⟨rfl, hs⟩
      · exact .inl (by simpa [Token.heads, hk] using hs)

/-- What is read adds names of the text to the heads, one behind the other. -/
theorem State.Reads.heads {s s' : State} {pos : Pos} {t : Text} (h : s.Reads pos t s') :
    ∃ ids, s'.heads = s.heads ++ ids ∧ (∀ id ∈ ids, id.StandsIn pos t) ∧
      ids.Pairwise fun a b => a.pos.Before b.pos := by
  induction h with
  | nil => exact ⟨[], by simp⟩
  | @cons s s₁ s' pos t lexeme rest kind scanned read reads ih =>
    obtain ⟨ids, hids, hin, hord⟩ := ih
    obtain ⟨ht, hne⟩ := splits_scan scanned
    obtain rfl : t = lexeme ++ rest := ht
    rcases State.heads_read read with hs | ⟨rfl, hs⟩
    · exact ⟨ids, by rw [hids, hs], fun id hid => (hin id hid).append, hord⟩
    · refine ⟨⟨lexeme, pos⟩ :: ids, by simp [hids, hs], ?_, ?_⟩
      · intro id hid
        rcases List.mem_cons.1 hid with rfl | hid
        · exact ⟨[], rest, rfl, rfl, name?_of_scan scanned⟩
        · exact (hin id hid).append
      · exact List.pairwise_cons.2 ⟨fun id hid => (hin id hid).before hne, hord⟩

theorem State.heads_of_conclude? {s : State} {p : Program} (h : s.conclude? = some p) : p.heads = s.heads := by
  obtain ⟨s', hs', hf⟩ := State.conclude?_eq_some.1 h
  have hp : p.heads = s'.heads := State.heads_of_isMark (.inr rfl) hf
  split at hs'
  · rw [hp, State.heads_terminated? hs']
  · rw [hp, Option.some.inj hs']

/-- The heads of a program stand in its source, one behind the other. -/
theorem heads_of_parse {source : Text} {p : Program} (h : parse source = .ok p) :
    (∀ id ∈ p.heads, id.StandsIn .start source) ∧ p.heads.Pairwise fun a b => a.pos.Before b.pos := by
  obtain ⟨s, hr, hs⟩ := parse_eq_ok_iff.1 h
  obtain ⟨ids, hids, hin, hord⟩ := hr.heads
  have : p.heads = ids := by
    rw [State.heads_of_conclude? hs, hids]
    rfl
  rw [this]
  exact ⟨hin, hord⟩

/-! ## lines -/

section Name

variable {t word rest : Text} (h : name? t = some (word, rest))
include h

theorem of_name?_eq_some : ∃ c cs, isNameStart c = true ∧ (∀ d ∈ cs, isNamePart d = true) ∧ word = c :: cs ∧
    ∀ d ∈ rest.head?, isNamePart d = false := by
  cases t with
  | nil => simp [name?] at h
  | cons c cs =>
    simp only [name?] at h
    split at h
    · next hc =>
      obtain ⟨rfl, rfl⟩ : _ ∧ _ := by simpa using h
      refine ⟨c, _, hc, List.all_eq_true.1 List.all_takeWhile, rfl, ?_⟩
      intro d hd
      have := List.head?_dropWhile_not isNamePart cs
      rw [Option.mem_def.1 hd] at this
      simpa using this
    · simp at h

theorem lineFeed_notMem_name : lineFeed ∉ word := by
  obtain ⟨c, cs, hc, hcs, rfl, -⟩ := of_name?_eq_some h
  intro hmem
  rcases List.mem_cons.1 hmem with rfl | hmem
  · exact absurd hc (by decide)
  · exact absurd (hcs _ hmem) (by decide)

theorem name?_word : name? word = some (word, []) := by
  obtain ⟨c, cs, hc, hcs, rfl, -⟩ := of_name?_eq_some h
  rw [name?, if_pos hc, List.takeWhile_eq_self_iff.2 hcs, List.dropWhile_eq_nil_iff.2 hcs]

end Name

/-- The line of a text behind `t`: what is before the end of `t` has the length that the column says, and what is behind
it goes up to the next line feed. -/
theorem getElem?_splitOn_takeWhile {line : Text} (hline : lineFeed ∉ line) (t behind : Text) (n : Nat) :
    ∃ before, ((line ++ (t ++ behind)).splitOn lineFeed)[t.count lineFeed]? =
        some (before ++ behind.takeWhile (· ≠ lineFeed)) ∧
      (Pos.after ⟨n, line.length + 1⟩ t).column = before.length + 1 := by
  induction t generalizing line n with
  | nil =>
    refine ⟨line, ?_, rfl⟩
    by_cases hb : lineFeed ∈ behind
    · obtain ⟨rest, more, rfl, hrest⟩ := List.eq_append_cons_of_mem hb
      have hno : lineFeed ∉ line ++ rest := by simp [hline, hrest]
      have hsplit := List.splitOn_append_cons_self_of_not_mem hno more
      have htake : (rest ++ lineFeed :: more).takeWhile (· ≠ lineFeed) = rest := by
        rw [List.takeWhile_append_of_pos (by grind)]
        simp
      rw [List.append_assoc] at hsplit
      rw [htake]
      simp [hsplit]
    · have hno : lineFeed ∉ line ++ behind := by simp [hline, hb]
      have htake : behind.takeWhile (· ≠ lineFeed) = behind := List.takeWhile_eq_self_iff.2 (by grind)
      rw [htake]
      simp [List.splitOn_eq_singleton hno]
  | cons c t ih =>
    by_cases hc : c = lineFeed
    · subst hc
      obtain ⟨before, h, hcol⟩ := ih (List.not_mem_nil : lineFeed ∉ ([] : Text)) (n + 1)
      refine ⟨before, ?_, hcol⟩
      rw [List.cons_append, List.splitOn_append_cons_self_of_not_mem hline, List.count_cons_self]
      exact h
    · have hno : lineFeed ∉ line ++ [c] := by simp [hline, Ne.symm hc]
      obtain ⟨before, h, hcol⟩ := ih hno n
      refine ⟨before, ?_, ?_⟩
      · rw [List.count_cons_of_ne hc]
        simpa using h
      · rw [← hcol]
        simp [Pos.after, Pos.next, hc]

/-- The line of a text in which a word without line feeds stands: what is before it has the length that the column
says. -/
theorem getElem?_splitOn {line word : Text} (hline : lineFeed ∉ line) (hword : lineFeed ∉ word) (t behind : Text)
    (n : Nat) :
    ∃ before rest, ((line ++ (t ++ (word ++ behind))).splitOn lineFeed)[t.count lineFeed]? =
        some (before ++ (word ++ rest)) ∧
      (Pos.after ⟨n, line.length + 1⟩ t).column = before.length + 1 ∧ rest <+: behind := by
  obtain ⟨before, h, hcol⟩ := getElem?_splitOn_takeWhile hline t (word ++ behind) n
  rw [List.takeWhile_append_of_pos (by grind)] at h
  exact ⟨before, _, h, hcol, _, List.takeWhile_append_dropWhile⟩

/-- A name that stands in a source is a word of a line. -/
theorem Ident.StandsIn.line {id : Ident} {source : Text} (h : id.StandsIn .start source) :
    ∃ (i : Nat) (before behind : Text), (source.splitOn lineFeed)[i]? = some (before ++ (id.text ++ behind)) ∧
      id.pos = ⟨i + 1, before.length + 1⟩ ∧ name? id.text = some (id.text, []) ∧
      ∀ c ∈ behind.head?, isNamePart c = false := by
  obtain ⟨text, behind, rfl, hpos, hname⟩ := h
  obtain ⟨before, rest, hline, hcol, hrest⟩ :=
    getElem?_splitOn (List.not_mem_nil : lineFeed ∉ ([] : Text)) (lineFeed_notMem_name hname) text behind 1
  refine ⟨text.count lineFeed, before, rest, hline, ?_, name?_word hname, ?_⟩
  · have hl : (Pos.start.after text).line = text.count lineFeed + 1 := by
      rw [Pos.line_after, Pos.start, Nat.add_comm]
    rw [hpos, ← hl, ← hcol]
    rfl
  · obtain ⟨more, rfl⟩ := hrest
    obtain ⟨-, -, -, -, -, hmax⟩ := of_name?_eq_some hname
    intro c hc
    refine hmax c ?_
    cases rest with
    | nil => simp at hc
    | cons d rest => exact hc

end TypeLint.Source
