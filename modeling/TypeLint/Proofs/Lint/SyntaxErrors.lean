import TypeLint.Proofs.Lint.Literals
import TypeLint.Proofs.Source.Gaps

/-!
# Where a source is refused

The error of a source that is no program is about something that stands in the source, and it gives the position of
that.  The position comes from where the reader stands, from the last token that it was given, or from the last token of
the text; each of these is the position behind some beginning of the source.

* `HasAt` — a source goes on with a text from a position on;
* `HasAt.line` — what stands at the position in the line that it names;
* `Reader.StandsIn` — a reader has come to a place in a source;
* `Reader.StandsIn.read` — one lexeme further;
* `Refers` — what an error says is found where it says it is;
* `refers_of_parse` — the error of a source does so;
* `parseSource_points` — the diagnostic of a source that is no program.
-/

namespace TypeLint.Source

open CodePoint (lineFeed)

/-! ## positions in a source -/

/-- From the position `p` on, a source is `t`. -/
def HasAt (source : Text) (p : Pos) (t : Text) : Prop := ∃ before, source = before ++ t ∧ p = Pos.start.after before

theorem hasAt_start (source : Text) : HasAt source .start source := ⟨[], rfl, rfl⟩

theorem HasAt.after {source : Text} {p : Pos} {t u : Text} (h : HasAt source p (t ++ u)) :
    HasAt source (p.after t) u := by
  obtain ⟨before, rfl, rfl⟩ := h
  exact ⟨before ++ t, by simp, (Pos.after_append ..).symm⟩

/-- The line of a position, and what is left of it there. -/
theorem HasAt.line {source : Text} {p : Pos} {t : Text} (h : HasAt source p t) :
    ∃ row, (source.splitOn lineFeed)[p.line - 1]? = some row ∧ 1 ≤ p.line ∧
      p.line + t.count lineFeed = 1 + source.count lineFeed ∧ 1 ≤ p.column ∧ p.column ≤ row.length + 1 ∧
      row.drop (p.column - 1) = t.takeWhile (· ≠ lineFeed) := by
  obtain ⟨before, rfl, rfl⟩ := h
  obtain ⟨start, hline, hcolumn⟩ := getElem?_splitOn_takeWhile (List.not_mem_nil : lineFeed ∉ ([] : Text)) before t 1
  have hcolumn : (Pos.start.after before).column = start.length + 1 := hcolumn
  have hnumber : (Pos.start.after before).line = 1 + before.count lineFeed := Pos.line_after ..
  refine ⟨start ++ t.takeWhile (· ≠ lineFeed), ?_, by omega, ?_, by omega, ?_, ?_⟩
  · rw [hnumber, Nat.add_sub_cancel_left]
    exact hline
  · rw [hnumber, List.count_append]
    omega
  · rw [hcolumn, List.length_append]
    omega
  · rw [hcolumn, Nat.add_sub_cancel]
    exact List.drop_left

section Line

variable {source : Text} {p : Pos} {row : Text} (hline : (source.splitOn lineFeed)[p.line - 1]? = some row)
include hline

theorem HasAt.drop {t : Text} (h : HasAt source p t) : row.drop (p.column - 1) = t.takeWhile (· ≠ lineFeed) := by
  obtain ⟨row', hline', -, -, -, -, hdrop⟩ := h.line
  obtain rfl := Option.some.inj (hline.symm.trans hline')
  exact hdrop

theorem HasAt.word {v behind : Text} (h : HasAt source p (v ++ behind)) (hv : lineFeed ∉ v) :
    v <+: row.drop (p.column - 1) := by
  rw [h.drop hline, List.takeWhile_append_of_pos (by grind)]
  exact List.prefix_append ..

theorem HasAt.getElem? {c : CodePoint} {behind : Text} (h : HasAt source p (c :: behind)) (hc : c ≠ lineFeed) :
    row[p.column - 1]? = some c := by
  rw [← List.head?_drop, h.drop hline, List.takeWhile_cons_of_pos (by simpa using hc)]
  rfl

theorem HasAt.lineEnd {behind : Text} (h : HasAt source p (lineFeed :: behind)) :
    p.column = row.length + 1 ∧ p.line ≤ source.count lineFeed := by
  have hdrop := h.drop hline
  obtain ⟨row', hline', -, hcount, hcolumn, hlength, -⟩ := h.line
  obtain rfl := Option.some.inj (hline.symm.trans hline')
  rw [List.takeWhile_cons_of_neg (by simp), List.drop_eq_nil_iff] at hdrop
  rw [List.count_cons_self] at hcount
  omega

end Line

/-! ## lexemes and lines -/

theorem lineFeed_notMem_stringTail {q : CodePoint} {t : Text} {s : Text × Text} (hq : q ≠ lineFeed)
    (h : stringTail? q t = some s) : lineFeed ∉ s.1 := by
  fun_induction stringTail? q t generalizing s
  case case2 =>
    obtain rfl := Option.some.inj h
    simpa using Ne.symm hq
  case case6 ih =>
    obtain ⟨u, hu, rfl⟩ := Option.map_eq_some_iff.1 h
    have := ih hu
    grind
  case case7 ih =>
    obtain ⟨u, hu, rfl⟩ := Option.map_eq_some_iff.1 h
    have := ih hu
    grind
  all_goals simp at h

theorem lineFeed_notMem_string {t : Text} {s : Text × Text} (h : string? t = some s) : lineFeed ∉ s.1 := by
  cases t with
  | nil => simp [string?] at h
  | cons c cs =>
    simp only [string?] at h
    split at h
    · next hc =>
      have hne : c ≠ lineFeed := by
        rintro rfl
        exact absurd hc (by decide)
      obtain ⟨u, hu, rfl⟩ := Option.map_eq_some_iff.1 h
      simpa using ⟨Ne.symm hne, lineFeed_notMem_stringTail hne hu⟩
    · simp at h

theorem lineFeed_notMem_digits {t : Text} {s : Text × Text} (h : digits? t = some s) : lineFeed ∉ s.1 := fun hmem =>
  absurd (isDigit_of_digits? h _ hmem) (by decide)

theorem lineFeed_notMem_fraction {t : Text} {s : Text × Text} (h : fraction? t = some s) : lineFeed ∉ s.1 := by
  cases t with
  | nil => simp [fraction?] at h
  | cons c cs =>
    simp only [fraction?] at h
    split at h
    · next hc =>
      have hne : c ≠ lineFeed := hc ▸ by decide
      obtain ⟨u, hu, rfl⟩ := Option.map_eq_some_iff.1 h
      simpa using ⟨Ne.symm hne, lineFeed_notMem_digits hu⟩
    · simp at h

theorem lineFeed_notMem_number {t : Text} {s : Text × Text} (h : number? t = some s) : lineFeed ∉ s.1 := by
  obtain ⟨⟨ds, rest⟩, hds, hs⟩ := Option.map_eq_some_iff.1 h
  cases hfrac : fraction? rest with
  | none =>
    simp only [hfrac] at hs
    exact hs ▸ lineFeed_notMem_digits hds
  | some frac =>
    simp only [hfrac] at hs
    subst hs
    simpa using ⟨lineFeed_notMem_digits hds, lineFeed_notMem_fraction hfrac⟩

theorem lineFeed_notMem_spelling : ∀ s ∈ spellings, lineFeed ∉ s.1 := by decide

/-- No line ends in a token. -/
theorem lineFeed_notMem_token {admits : Terminal → Bool} {t lexeme rest : Text} {k : Terminal}
    (h : scan admits t = some (.token k, lexeme, rest)) : lineFeed ∉ lexeme := by
  rcases scan_token_cases h with ⟨-, -, hs⟩ | ⟨-, -, hs⟩ | ⟨-, -, hs⟩ | ⟨hmem, -⟩
  · exact lineFeed_notMem_string hs
  · exact lineFeed_notMem_name hs
  · exact lineFeed_notMem_number hs
  · exact lineFeed_notMem_spelling _ hmem

theorem spellings_ne_terminator : ∀ s ∈ spellings, s.2 ≠ .terminator := by decide

/-- Terminators are not found in a text. -/
theorem ne_terminator_of_scan {admits : Terminal → Bool} {t lexeme rest : Text} {k : Terminal}
    (h : scan admits t = some (.token k, lexeme, rest)) : k ≠ .terminator := by
  rcases scan_token_cases h with ⟨rfl, -⟩ | ⟨rfl, -⟩ | ⟨rfl, -⟩ | ⟨hmem, -⟩
  · decide
  · rcases wordKind_eq admits lexeme with hname | ⟨-, hmem⟩
    · rw [hname]
      decide
    · exact spellings_ne_terminator _ hmem
  · decide
  · exact spellings_ne_terminator _ hmem

/-- How line ends and semicolons are found. -/
theorem scan_mark_cases {admits : Terminal → Bool} {t lexeme rest : Text} {kind : LexemeKind}
    (h : scan admits t = some (kind, lexeme, rest)) :
    (kind = .lineEnd → lineEnds? t = some (lexeme, rest)) ∧
      (kind = .semicolon → semicolon? t = some (lexeme, rest)) := by
  obtain ⟨f, hf, hfs⟩ := List.exists_of_findSome?_eq_some h
  simp only [scanners, List.mem_cons, List.not_mem_nil, or_false] at hf
  rcases hf with rfl | rfl | rfl | rfl | rfl | rfl | rfl | rfl | rfl
  · obtain ⟨-, rfl⟩ := of_tagged_eq_some (eq_some_of_onlyIf hfs)
    simp
  · obtain ⟨-, rfl⟩ := of_tagged_eq_some (eq_some_of_onlyIf hfs)
    simp
  · obtain ⟨-, rfl⟩ := of_tagged_eq_some hfs
    simp
  · obtain ⟨-, rfl⟩ := of_tagged_eq_some (eq_some_of_onlyIf hfs)
    simp
  · obtain ⟨-, rfl⟩ := of_tagged_eq_some hfs
    simp
  · obtain ⟨-, rfl⟩ := of_tagged_eq_some hfs
    simp
  · obtain ⟨hs, rfl⟩ := of_tagged_eq_some hfs
    simp [hs]
  · obtain ⟨hs, rfl⟩ := of_tagged_eq_some hfs
    simp [hs]
  · obtain ⟨k, rfl, -⟩ := of_spelled?_eq_some hfs
    simp

theorem head_of_scan_lineEnd {admits : Terminal → Bool} {t lexeme rest : Text}
    (h : scan admits t = some (.lineEnd, lexeme, rest)) : ∃ cs, t = lineFeed :: cs := by
  have hends := (scan_mark_cases h).1 rfl
  cases t with
  | nil => simp [lineEnds?] at hends
  | cons c cs =>
    simp only [lineEnds?] at hends
    split at hends
    · next hc => exact ⟨cs, by rw [hc]⟩
    · simp at hends

theorem head_of_scan_semicolon {admits : Terminal → Bool} {t lexeme rest : Text}
    (h : scan admits t = some (.semicolon, lexeme, rest)) : ∃ cs, t = CodePoint.ofChar ';' :: cs := by
  have hsemi := (scan_mark_cases h).2 rfl
  cases t with
  | nil => simp [semicolon?] at hsemi
  | cons c cs =>
    simp only [semicolon?] at hsemi
    split at hsemi
    · next hc => exact ⟨cs, by rw [hc]⟩
    · simp at hsemi

/-! ## the reader in a source -/

/-- The last token of a source, as far as it can be read. -/
def lastToken (source : Text) : Option Lexeme := Lexeme.marking.lastToken none (Reader.start.lexemes source)

namespace Reader

/-- What a reader knows behind a lexeme. -/
theorem read_eq_ok {r r' : Reader} {kind : LexemeKind} {lexeme : Text} (h : r.read kind lexeme = .ok r') :
    r'.pos = r.pos.after lexeme ∧ (r'.given = r.given ∨ ∃ k, r'.given = some ⟨k, lexeme, r.pos⟩) ∧
      ((∃ k, kind = .token k ∧ r'.last = some ⟨k, lexeme, r.pos⟩) ∨ (∀ k, kind ≠ .token k) ∧ r'.last = r.last) := by
  cases kind with
  | gap =>
    obtain rfl := Except.ok.inj h
    exact ⟨rfl, .inl rfl, .inr ⟨by simp, rfl⟩⟩
  | lineEnd =>
    simp only [Reader.read, Reader.layOut] at h
    by_cases hend : r.layout.canEnd = true ∧ r.layout.inner = .empty
    · rw [Layout.step_lineEnd_of_empty hend] at h
      obtain ⟨s, -, rfl⟩ := give_eq_ok h
      exact ⟨rfl, .inr ⟨_, rfl⟩, .inr ⟨by simp, rfl⟩⟩
    · rw [Layout.step_lineEnd_of_not hend] at h
      obtain rfl := Except.ok.inj h
      exact ⟨rfl, .inl rfl, .inr ⟨by simp, rfl⟩⟩
  | semicolon =>
    obtain ⟨s, -, rfl⟩ := give_eq_ok h
    exact ⟨rfl, .inr ⟨_, rfl⟩, .inr ⟨by simp, rfl⟩⟩
  | token k =>
    simp only [Reader.read, Reader.layOut] at h
    rw [Layout.step_role] at h
    obtain ⟨s, -, rfl⟩ := give_eq_ok h
    exact ⟨rfl, .inr ⟨k, rfl⟩, .inl ⟨k, rfl, rfl⟩⟩

theorem give_eq_error {r : Reader} {t : Token} {e : SyntaxError} (h : r.give t = .error e) : e = t.unexpected := by
  unfold Reader.give at h
  split at h
  · simp at h
  · exact (Except.error.inj h).symm

/-- A lexeme is refused as the token that it is, or as the end of a statement. -/
theorem read_eq_error {r : Reader} {kind : LexemeKind} {lexeme : Text} {e : SyntaxError}
    (h : r.read kind lexeme = .error e) :
    (∃ k, kind = .token k ∧ e = Token.unexpected ⟨k, lexeme, r.pos⟩) ∨
      (kind = .lineEnd ∨ kind = .semicolon) ∧ e = .statementEnd r.pos := by
  cases kind with
  | gap => simp [Reader.read] at h
  | lineEnd =>
    simp only [Reader.read, Reader.layOut] at h
    by_cases hend : r.layout.canEnd = true ∧ r.layout.inner = .empty
    · rw [Layout.step_lineEnd_of_empty hend] at h
      exact .inr ⟨.inl rfl, give_eq_error h⟩
    · rw [Layout.step_lineEnd_of_not hend] at h
      simp at h
  | semicolon => exact .inr ⟨.inr rfl, give_eq_error h⟩
  | token k =>
    simp only [Reader.read, Reader.layOut] at h
    rw [Layout.step_role] at h
    exact .inl ⟨k, rfl, give_eq_error h⟩

theorem endPos_cases (r : Reader) : r.endPos = .start ∨ ∃ t, r.given = some t ∧ t.text ≠ [] ∧ r.endPos = t.pos := by
  unfold Reader.endPos
  split
  · next t ht =>
    split
    · exact .inl rfl
    · next htext => exact .inr ⟨t, ht, htext, rfl⟩
  · exact .inl rfl

/-- At the end, a source is refused for the end of a statement behind its last token, or for its own end. -/
theorem finish_eq_error {r : Reader} {e : SyntaxError} (h : r.finish = .error e) :
    (∃ t, r.last = some t ∧ e = .statementEnd t.pos) ∨
      ∃ p, (p = .start ∨ ∃ t, r.given = some t ∧ p = t.pos) ∧ e = .token [] p := by
  unfold Reader.finish at h
  split at h
  · next e' hterminate =>
    obtain rfl := Except.error.inj h
    unfold Reader.terminate at hterminate
    split at hterminate
    · next t _ hlast => exact .inl ⟨t, hlast, give_eq_error hterminate⟩
    · simp at hterminate
  · next r' hterminate =>
    obtain rfl : .token [] r'.endPos = e := by
      split at h
      · simp at h
      · exact Except.error.inj h
    refine .inr ⟨r'.endPos, ?_, rfl⟩
    rcases r'.endPos_cases with hstart | ⟨u, hgiven, htext, hpos⟩
    · exact .inl hstart
    unfold Reader.terminate at hterminate
    split at hterminate
    · -- the terminator at the end has no text, so its position is not taken
      obtain ⟨s, -, rfl⟩ := give_eq_ok hterminate
      obtain rfl := Option.some.inj hgiven
      exact absurd rfl htext
    · obtain rfl := Except.ok.inj hterminate
      exact .inr ⟨u, hgiven, hpos⟩

/-- The pieces of what is left begin with the lexeme that is read next. -/
theorem pieces_of_read {r r' : Reader} {kind : LexemeKind} {t lexeme rest : Text}
    (hscan : scan r.state.admits t = some (kind, lexeme, rest)) (hread : r.read kind lexeme = .ok r') :
    r.pieces t = lexeme :: r'.pieces rest := by
  cases t with
  | nil => exact absurd (length_lt_of_scan hscan) (by simp)
  | cons c cs =>
    rw [Reader.pieces]
    split
    · next hnone => simp [hscan] at hnone
    · next hsome =>
      obtain ⟨rfl, rfl, rfl⟩ : _ ∧ _ ∧ _ := by simpa using hscan.symm.trans hsome
      simp only [hread]

/-- A reader has come to a place in a source, where `t` is left.  What it knows of tokens before that place is where
these stand. -/
structure StandsIn (source : Text) (r : Reader) (t : Text) : Prop where
  here : HasAt source r.pos t
  given : ∀ u, r.given = some u → ∃ behind, HasAt source u.pos behind
  last : ∀ u, r.last = some u → lineFeed ∉ u.text ∧ ∃ behind, HasAt source u.pos (u.text ++ behind)
  lastToken : Source.lastToken source = Lexeme.marking.lastToken (r.last.map Token.lexeme) (r.lexemes t)
  pieces : (r.pieces t).flatten = t → (Source.pieces source).flatten = source

theorem standsIn_start (source : Text) : Reader.start.StandsIn source source where
  here := hasAt_start source
  given := by simp [Reader.start]
  last := by simp [Reader.start]
  lastToken := rfl
  pieces := id

/-- A token is the last one behind itself, and line ends and semicolons are none. -/
theorem lastToken_of_read {r r' : Reader} {kind : LexemeKind} {lexeme : Text} (h : r.read kind lexeme = .ok r') :
    Lexeme.marking.lastToken (r.last.map Token.lexeme) (if kind = .gap then [] else [⟨kind, lexeme, r.pos⟩]) =
      r'.last.map Token.lexeme := by
  obtain ⟨-, -, ⟨k, rfl, hlast⟩ | ⟨hkind, hlast⟩⟩ := read_eq_ok h
  · rw [hlast]
    cases k <;> rfl
  · rw [hlast]
    cases kind with
    | token k => exact absurd rfl (hkind k)
    | _ => rfl

/-- One lexeme further. -/
theorem StandsIn.read {source t lexeme rest : Text} {r r' : Reader} {kind : LexemeKind} (hr : r.StandsIn source t)
    (hscan : scan r.state.admits t = some (kind, lexeme, rest)) (hread : r.read kind lexeme = .ok r') :
    r'.StandsIn source rest := by
  obtain ⟨ht, -⟩ := splits_scan hscan
  obtain rfl : t = lexeme ++ rest := ht
  obtain ⟨hpos, hgiven, hlast⟩ := read_eq_ok hread
  refine ⟨hpos ▸ hr.here.after, fun u hu => ?_, fun u hu => ?_, ?_, fun hrest => hr.pieces ?_⟩
  · rcases hgiven with hsame | ⟨k, hnew⟩
    · exact hr.given u (hsame ▸ hu)
    · obtain rfl := Option.some.inj (hnew.symm.trans hu)
      exact ⟨_, hr.here⟩
  · rcases hlast with ⟨k, rfl, hnew⟩ | ⟨-, hsame⟩
    · obtain rfl := Option.some.inj (hnew.symm.trans hu)
      exact ⟨lineFeed_notMem_token hscan, rest, hr.here⟩
    · exact hr.last u (hsame ▸ hu)
  · rw [hr.lastToken, lexemes_of_read hscan hread, ← lastToken_of_read hread]
    exact List.foldl_append
  · rw [pieces_of_read hscan hread, List.flatten_cons, hrest]

end Reader

/-! ## what errors refer to -/

/-- What an error says is found where it says it is.  An error without a text is about the end of the source, and then
all of the source has been read. -/
inductive Refers (source : Text) : SyntaxError → Prop
  | token {v behind : Text} {p : Pos} {admits : Terminal → Bool} {k : Terminal} (here : HasAt source p (v ++ behind))
      (scanned : scan admits (v ++ behind) = some (.token k, v, behind)) : Refers source (.token v p)
  | finish {p : Pos} {behind : Text} (here : HasAt source p behind) (all : (pieces source).flatten = source) :
      Refers source (.token [] p)
  | character {c : CodePoint} {behind : Text} {p : Pos} (here : HasAt source p (c :: behind)) (hc : c ≠ lineFeed) :
      Refers source (.character c p)
  | semicolon {p : Pos} {behind : Text} (here : HasAt source p (CodePoint.ofChar ';' :: behind)) :
      Refers source (.statementEnd p)
  | lineEnd {p : Pos} {behind : Text} (here : HasAt source p (lineFeed :: behind)) : Refers source (.statementEnd p)
  | lastToken {t : Token} {behind : Text} (here : HasAt source t.pos (t.text ++ behind)) (oneLine : lineFeed ∉ t.text)
      (last : lastToken source = some t.lexeme) (all : (pieces source).flatten = source) :
      Refers source (.statementEnd t.pos)

theorem Token.unexpected_eq {k : Terminal} (hk : k ≠ .terminator) (t : Text) (p : Pos) :
    Token.unexpected ⟨k, t, p⟩ = .token t p := by
  cases k <;> first | rfl | contradiction

/-- Where no lexeme that is looked for is found, there is another token, or the code point itself is to blame. -/
theorem Reader.StandsIn.stuck {source : Text} {r : Reader} {c : CodePoint} {cs : Text}
    (hr : r.StandsIn source (c :: cs)) (hscan : scan r.state.admits (c :: cs) = none) :
    Refers source (r.stuck c cs) := by
  unfold Reader.stuck
  split
  · next k lexeme rest hall =>
    obtain ⟨hsplit, -⟩ := splits_scan hall
    have hsplit : c :: cs = lexeme ++ rest := hsplit
    exact .token (hsplit ▸ hr.here) (hsplit ▸ hall)
  · refine .character hr.here ?_
    rintro rfl
    simp [scan_lineFeed] at hscan

/-- The error of a reader refers to the source that it stands in. -/
theorem Reader.StandsIn.refers {source t : Text} {r : Reader} {e : SyntaxError} (hr : r.StandsIn source t)
    (h : r.run t = .error e) : Refers source e := by
  fun_induction Reader.run r t with
  | case1 r =>
    have hall : (Source.pieces source).flatten = source := hr.pieces (by rw [Reader.pieces]; rfl)
    rcases Reader.finish_eq_error h with ⟨t, hlast, rfl⟩ | ⟨p, hp, rfl⟩
    · obtain ⟨honeLine, behind, hhere⟩ := hr.last t hlast
      refine .lastToken hhere honeLine ?_ hall
      rw [hr.lastToken, Reader.lexemes, hlast]
      rfl
    · rcases hp with rfl | ⟨t, hgiven, rfl⟩
      · exact .finish (hasAt_start source) hall
      · obtain ⟨behind, hhere⟩ := hr.given t hgiven
        exact .finish hhere hall
  | case2 r c cs hscan => exact Except.error.inj h ▸ hr.stuck hscan
  | case3 r c cs kind lexeme rest hscan e' hread =>
    obtain rfl := Except.error.inj h
    have hsplit : c :: cs = lexeme ++ rest := (splits_scan hscan).1
    rcases Reader.read_eq_error hread with ⟨k, rfl, rfl⟩ | ⟨rfl | rfl, rfl⟩
    · rw [Token.unexpected_eq (ne_terminator_of_scan hscan)]
      exact .token (hsplit ▸ hr.here) (hsplit ▸ hscan)
    · obtain ⟨behind, hcons⟩ := head_of_scan_lineEnd hscan
      exact .lineEnd (hcons ▸ hr.here)
    · obtain ⟨behind, hcons⟩ := head_of_scan_semicolon hscan
      exact .semicolon (hcons ▸ hr.here)
  | case4 r c cs kind lexeme rest hscan r' hread ih => exact ih (hr.read hscan hread) h

theorem refers_of_parse {source : Text} {e : SyntaxError} (h : parse source = .error e) : Refers source e :=
  (Reader.standsIn_start source).refers h

theorem Refers.hasAt {source : Text} {e : SyntaxError} (h : Refers source e) : ∃ t, HasAt source e.pos t := by
  cases h <;> exact ⟨_, ‹_›⟩

theorem text_append (s s' : String) : text (s ++ s') = text s ++ text s' := by simp [text]

/-- A message always tells what was not expected. -/
theorem SyntaxError.message_ne_input (e : SyntaxError) : e.message ≠ text "unexpected input" := by
  intro h
  have hinitial : e.message[11]? = some (CodePoint.ofChar 'i') := by
    rw [h]
    decide
  cases e with
  | token t p =>
    rw [SyntaxError.message, List.getElem?_append_left (by decide)] at hinitial
    exact absurd hinitial (by decide)
  | statementEnd p => exact (by decide : text "unexpected end of statement" ≠ text "unexpected input") h
  | character c p =>
    rw [SyntaxError.message, List.getElem?_append_left (by decide)] at hinitial
    exact absurd hinitial (by decide)

end TypeLint.Source

namespace TypeLint.Lint

open Report Source
open CodePoint (lineFeed)

theorem message_token (file : Option Text) (v : Text) (p : Pos) :
    (syntaxDiagnostic file (.token v p)).message = text "syntax error: unexpected token " ++ v.quoted := by
  rw [syntaxDiagnostic, SyntaxError.message, ← List.append_assoc, ← text_append]
  rfl

theorem message_character (file : Option Text) (c : CodePoint) (p : Pos) :
    (syntaxDiagnostic file (.character c p)).message =
      text "syntax error: unexpected character " ++ Text.quoted [c] := by
  rw [syntaxDiagnostic, SyntaxError.message, ← List.append_assoc, ← text_append]
  rfl

theorem message_statementEnd (file : Option Text) (p : Pos) :
    (syntaxDiagnostic file (.statementEnd p)).message = text "syntax error: unexpected end of statement" := by
  rw [syntaxDiagnostic, SyntaxError.message, ← text_append]
  rfl

theorem message_ne_input (file : Option Text) (e : SyntaxError) :
    (syntaxDiagnostic file e).message ≠ text "syntax error: unexpected input" := by
  have hwords : text "syntax error: unexpected input" = text "syntax error: " ++ text "unexpected input" :=
    text_append "syntax error: " "unexpected input"
  rw [hwords]
  exact fun h => e.message_ne_input (List.append_cancel_left h)

/-- A source that is no program gives one diagnostic.  Its line is one of the source, and its column is in that line or
just behind it.  It names the code point there; or the token there, which has no text at the end of the source only; or
the end of a statement, and then a semicolon or a line end is there, or the last token of the source.  It never says of
the input only that it is unexpected. -/
theorem parseSource_points {source : Text} {e : SyntaxError} (h : parse source = .error e) (file : Option Text) :
    ∃ (d : Diagnostic) (n column : Nat) (row : Text),
      parseSource source file = .ok (.refused d) ∧ d.phase = some (text "parser") ∧ d.severity = text "error" ∧
      d.span.line = some (n : Int) ∧ d.span.column = some (column : Int) ∧
      1 ≤ n ∧ n ≤ 1 + source.count lineFeed ∧ (source.splitOn lineFeed)[n - 1]? = some row ∧
      1 ≤ column ∧ column ≤ row.length + 1 ∧ d.message ≠ text "syntax error: unexpected input" ∧
      ((∃ c, row[column - 1]? = some c ∧ d.message = text "syntax error: unexpected character " ++ Text.quoted [c]) ∨
      (∃ v : Text, v <+: row.drop (column - 1) ∧
        ((∃ admits kind behind, scan admits (v ++ behind) = some (.token kind, v, behind)) ∨
          v = [] ∧ (pieces source).flatten = source) ∧
        d.message = text "syntax error: unexpected token " ++ v.quoted) ∨
      d.message = text "syntax error: unexpected end of statement" ∧
        (row[column - 1]? = some (CodePoint.ofChar ';') ∨
          column = row.length + 1 ∧ n ≤ source.count lineFeed ∨
          ∃ t : Token, lastToken source = some t.lexeme ∧ (pieces source).flatten = source ∧ t.pos = ⟨n, column⟩ ∧
            t.text <+: row.drop (column - 1))) := by
  have hrefused : parseSource source file = .ok (.refused (syntaxDiagnostic file e)) := by simp [parseSource, h]
  have hrefers := refers_of_parse h
  obtain ⟨t, hhere⟩ := hrefers.hasAt
  obtain ⟨row, hline, hfirst, hcount, hcolumn, hlength, -⟩ := hhere.line
  refine ⟨syntaxDiagnostic file e, e.pos.line, e.pos.column, row, hrefused, rfl, rfl, rfl, rfl, hfirst, by omega,
    hline, hcolumn, hlength, message_ne_input file e, ?_⟩
  cases hrefers with
  | @token v behind p admits k here scanned =>
    have hword := here.word hline (lineFeed_notMem_token scanned)
    exact .inr (.inl ⟨v, hword, .inl ⟨admits, k, behind, scanned⟩, message_token file v p⟩)
  | finish here all => exact .inr (.inl ⟨[], ⟨_, rfl⟩, .inr ⟨rfl, all⟩, message_token file [] _⟩)
  | character here hc => exact .inl ⟨_, here.getElem? hline hc, message_character file _ _⟩
  | semicolon here => exact .inr (.inr ⟨message_statementEnd file _, .inl (here.getElem? hline (by decide))⟩)
  | lineEnd here => exact .inr (.inr ⟨message_statementEnd file _, .inr (.inl (here.lineEnd hline))⟩)
  | @lastToken t behind here oneLine last all =>
    have hword := here.word hline oneLine
    exact .inr (.inr ⟨message_statementEnd file _, .inr (.inr ⟨t, last, all, rfl, hword⟩)⟩)

/-- A call that is not closed is refused at its last token. -/
theorem parseSource_points_lastToken :
    ∃ (d : Diagnostic) (n column : Nat) (row : Text),
      parseSource (text "a\nf(b") none = .ok (.refused d) ∧
      d.message = text "syntax error: unexpected end of statement" ∧
      ((text "a\nf(b").splitOn lineFeed)[n - 1]? = some row ∧ (n, column) = (2, 3) ∧
      row.drop (column - 1) = text "b" := by
  have herror : parse (text "a\nf(b") = .error (.statementEnd ⟨2, 3⟩) := by
    rw [parse_eq_runFor]
    cbv
  obtain ⟨d, n, column, row, hd, -, -, hn, hcolumn, -, -, hline, -, -, -, -⟩ := parseSource_points herror none
  obtain rfl : syntaxDiagnostic none (.statementEnd ⟨2, 3⟩) = d := by simpa [parseSource, herror] using hd
  obtain rfl : 2 = n := Int.ofNat.inj (Option.some.inj hn)
  obtain rfl : 3 = column := Int.ofNat.inj (Option.some.inj hcolumn)
  have hsecond : ((text "a\nf(b").splitOn lineFeed)[2 - 1]? = some (text "f(b") := by decide
  obtain rfl := Option.some.inj (hsecond.symm.trans hline)
  exact ⟨_, 2, 3, _, hd, message_statementEnd none _, hline, rfl, by decide⟩

end TypeLint.Lint
