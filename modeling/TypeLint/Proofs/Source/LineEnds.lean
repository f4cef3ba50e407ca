import TypeLint.Proofs.Source.Lines

/-!
# Line ends with carriage returns

A source is read in the same way if each of its line feeds has a carriage return before it.  The carriage return is
white space in front of a line end, or the last code point of a comment up to the end of a line, or stands inside any
other comment; in a string no line ends.

* `withReturns` — a text with a carriage return before each line feed;
* `scan_withReturns` — what such a text starts with, if it is neither white space nor a comment up to the end of a line;
* `State.reads_withReturns_iff` — the two texts are read to the same places;
* `parse_withReturns_iff` — and spell the same program.
-/

namespace TypeLint.Source

open CodePoint (lineFeed)

/-- The code point that may stand before a line feed. -/
def carriageReturn : CodePoint := '\r'

/-- A carriage return before each line feed. -/
def withReturns : Text → Text
  | [] => []
  | c :: cs => if c = lineFeed then carriageReturn :: lineFeed :: withReturns cs else c :: withReturns cs

@[simp]
theorem withReturns_nil : withReturns [] = [] := rfl

@[simp]
theorem withReturns_lineFeed (t : Text) : withReturns (lineFeed :: t) = carriageReturn :: lineFeed :: withReturns t := rfl

theorem withReturns_cons {c : CodePoint} (hc : c ≠ lineFeed) (t : Text) :
    withReturns (c :: t) = c :: withReturns t := if_neg hc

theorem withReturns_append (t u : Text) : withReturns (t ++ u) = withReturns t ++ withReturns u := by
  induction t with
  | nil => rfl
  | cons c t ih =>
    by_cases hc : c = lineFeed
    · subst hc
      simp [ih]
    · rw [List.cons_append, withReturns_cons hc, withReturns_cons hc, ih, List.cons_append]

theorem withReturns_of_notMem {t : Text} (h : lineFeed ∉ t) : withReturns t = t := by
  induction t with
  | nil => rfl
  | cons c t ih =>
    simp only [List.mem_cons, not_or] at h
    rw [withReturns_cons (Ne.symm h.1), ih h.2]

theorem Pos.after_withReturns (p : Pos) (t : Text) : p.after (withReturns t) = p.after t := by
  induction t generalizing p with
  | nil => rfl
  | cons c t ih =>
    by_cases hc : c = lineFeed
    · subst hc
      exact ih _
    · rw [withReturns_cons hc]
      exact ih _

/-- A text starts with the same code point, unless it is a line feed. -/
theorem head?_withReturns {c : CodePoint} (hc : c ≠ carriageReturn) (hl : c ≠ lineFeed) (t : Text) :
    (withReturns t).head? = some c ↔ t.head? = some c := by
  cases t with
  | nil => rfl
  | cons a t =>
    by_cases ha : a = lineFeed
    · subst ha
      simp [hc.symm, hl.symm]
    · rw [withReturns_cons ha, List.head?_cons, List.head?_cons]

/-! ## the scanners -/

/-- A split of a text where what follows has carriage returns. -/
def returning (s : Text × Text) : Text × Text := (s.1, withReturns s.2)

section While

variable {p : CodePoint → Bool} (hl : p lineFeed = false) (hr : p carriageReturn = false) (t : Text)
include hl hr

theorem takeWhile_withReturns : (withReturns t).takeWhile p = t.takeWhile p := by
  induction t with
  | nil => rfl
  | cons c t ih =>
    by_cases hc : c = lineFeed
    · subst hc
      simp [hl, hr]
    · rw [withReturns_cons hc, List.takeWhile_cons, List.takeWhile_cons, ih]

theorem dropWhile_withReturns : (withReturns t).dropWhile p = withReturns (t.dropWhile p) := by
  induction t with
  | nil => rfl
  | cons c t ih =>
    by_cases hc : c = lineFeed
    · subst hc
      simp [hl, hr]
    · rw [withReturns_cons hc, List.dropWhile_cons, List.dropWhile_cons, ih]
      split
      · rfl
      · rw [withReturns_cons hc]

end While

theorem name?_withReturns (t : Text) : name? (withReturns t) = (name? t).map returning := by
  cases t with
  | nil => rfl
  | cons c t =>
    by_cases hc : c = lineFeed
    · subst hc
      rfl
    · rw [withReturns_cons hc, name?, name?, takeWhile_withReturns (by decide) (by decide),
        dropWhile_withReturns (by decide) (by decide)]
      split <;> rfl

theorem digits?_withReturns (t : Text) : digits? (withReturns t) = (digits? t).map returning := by
  cases t with
  | nil => rfl
  | cons c t =>
    by_cases hc : c = lineFeed
    · subst hc
      rfl
    · rw [withReturns_cons hc, digits?, digits?, takeWhile_withReturns (by decide) (by decide),
        dropWhile_withReturns (by decide) (by decide)]
      split <;> rfl

theorem fraction?_withReturns (t : Text) : fraction? (withReturns t) = (fraction? t).map returning := by
  cases t with
  | nil => rfl
  | cons c t =>
    by_cases hc : c = lineFeed
    · subst hc
      rfl
    · rw [withReturns_cons hc, fraction?, fraction?, digits?_withReturns]
      split
      · cases digits? t <;> rfl
      · rfl

theorem number?_withReturns (t : Text) : number? (withReturns t) = (number? t).map returning := by
  rw [number?, number?, digits?_withReturns]
  cases digits? t with
  | none => rfl
  | some s =>
    simp only [Option.map_some, returning, fraction?_withReturns]
    cases fraction? s.2 <;> rfl

/-- No string goes on behind a line feed. -/
theorem stringTail?_lineFeed {q : CodePoint} (hl : q ≠ lineFeed) (t : Text) : stringTail? q (lineFeed :: t) = none := by
  rw [stringTail?.eq_def]
  simp [hl.symm]

theorem stringTail?_withReturns {q : CodePoint} (hl : q ≠ lineFeed) (hr : q ≠ carriageReturn) (t : Text) :
    stringTail? q (withReturns t) = (stringTail? q t).map returning := by
  have hbackslash : carriageReturn ≠ '\\' := by decide
  have hfeed : carriageReturn ≠ lineFeed := by decide
  fun_induction stringTail? q t with
  | case1 => rfl
  | case2 cs =>
    rw [withReturns_cons hl, stringTail?.eq_def]
    simp [returning]
  | case3 cs hc =>
    rw [withReturns_lineFeed, stringTail?.eq_def]
    simp [hr.symm, hfeed, hbackslash, stringTail?_lineFeed hl]
  | case4 =>
    rw [withReturns_cons (by assumption), stringTail?.eq_def]
    simp [*]
  | case5 ds hq hlf =>
    rw [withReturns_cons (by assumption), withReturns_lineFeed, stringTail?.eq_def]
    simp [*, stringTail?_lineFeed hl]
  | case6 d ds hd hq hlf ih =>
    rw [withReturns_cons hlf, withReturns_cons hd, stringTail?.eq_def]
    simp [hq, hlf, hd, ih, returning, Function.comp_def]
  | case7 c cs hq hlf hb ih =>
    rw [withReturns_cons hlf, stringTail?.eq_def]
    simp [hq, hlf, hb, ih, returning, Function.comp_def]

theorem string?_withReturns (t : Text) : string? (withReturns t) = (string? t).map returning := by
  cases t with
  | nil => rfl
  | cons c t =>
    by_cases hc : c = lineFeed
    · subst hc
      rfl
    · rw [withReturns_cons hc, string?, string?]
      split
      · next hq =>
        have hr : c ≠ carriageReturn := by
          rintro rfl
          exact absurd hq (by decide)
        simp [stringTail?_withReturns hc hr, returning, Function.comp_def]
      · rfl

theorem commentTail?_cons (c : CodePoint) (t : Text) :
    commentTail? (c :: t) = if c = '*' ∧ t.head? = some (CodePoint.ofChar '/') then some ([c, CodePoint.ofChar '/'], t.tail)
      else (commentTail? t).map fun s => (c :: s.1, s.2) := by
  cases t with
  | nil => simp [commentTail?]
  | cons d t =>
    rw [commentTail?]
    by_cases hcd : c = '*' ∧ d = '/'
    · simp [hcd]
    · simp only [List.head?_cons, Option.some.injEq, Bool.and_eq_true, decide_eq_true_eq, if_neg hcd]

theorem commentTail?_withReturns (t : Text) :
    commentTail? (withReturns t) = (commentTail? t).map fun s => (withReturns s.1, withReturns s.2) := by
  induction t with
  | nil => rfl
  | cons c t ih =>
    have hstar : lineFeed ≠ '*' ∧ carriageReturn ≠ '*' := by decide
    have hstroke := head?_withReturns (c := '/') (by decide) (by decide) t
    by_cases hc : c = lineFeed
    · subst hc
      simp [commentTail?_cons, hstar, ih, Function.comp_def]
    · simp only [withReturns_cons hc, commentTail?_cons, hstroke, ih]
      split
      · next h =>
        obtain ⟨t, rfl⟩ := List.head?_eq_some_iff.1 h.2
        simp [withReturns_cons, hc, show CodePoint.ofChar '/' ≠ lineFeed by decide]
      · simp [withReturns_cons hc, Function.comp_def]

theorem blockComment?_withReturns (t : Text) :
    blockComment? (withReturns t) = (blockComment? t).map fun s => (withReturns s.1, withReturns s.2) := by
  have hblock : ∀ (c : CodePoint) (t : Text), blockComment? (c :: t) =
      if c = '/' ∧ t.head? = some (CodePoint.ofChar '*') then
        (commentTail? t.tail).map fun s => (c :: CodePoint.ofChar '*' :: s.1, s.2)
      else none := by
    intro c t
    cases t with
    | nil => simp [blockComment?]
    | cons d t =>
      by_cases hcd : c = '/' ∧ d = '*'
      · simp [blockComment?, hcd]
      · simp only [blockComment?, List.head?_cons, Option.some.injEq, Bool.and_eq_true, decide_eq_true_eq, if_neg hcd]
  have hstar := fun t => head?_withReturns (c := '*') (by decide) (by decide) t
  cases t with
  | nil => rfl
  | cons c t =>
    by_cases hc : c = lineFeed
    · subst hc
      rw [withReturns_lineFeed, blockComment?_cons (by decide), blockComment?_cons (by decide)]
      rfl
    · simp only [withReturns_cons hc, hblock, hstar]
      split
      · next h =>
        obtain ⟨t, rfl⟩ := List.head?_eq_some_iff.1 h.2
        simp [withReturns_cons, hc, show CodePoint.ofChar '*' ≠ lineFeed by decide, commentTail?_withReturns,
          Function.comp_def]
      · rfl

theorem semicolon?_withReturns {c : CodePoint} (hc : c ≠ lineFeed) (t : Text) :
    semicolon? (withReturns (c :: t)) = (semicolon? (c :: t)).map returning := by
  rw [withReturns_cons hc, semicolon?, semicolon?]
  split <;> rfl

theorem after?_withReturns {word : Text} (hl : lineFeed ∉ word) (hr : carriageReturn ∉ word) (t : Text) :
    (withReturns t).after? word = (t.after? word).map withReturns := by
  induction word generalizing t with
  | nil => simp [Text.after?]
  | cons a word ih =>
    simp only [List.mem_cons, not_or] at hl hr
    cases t with
    | nil => rfl
    | cons c t =>
      by_cases hc : c = lineFeed
      · subst hc
        simp [Text.after?, Ne.symm hl.1, Ne.symm hr.1]
      · rw [withReturns_cons hc, Text.after?, Text.after?, ih hl.2 hr.2]
        split <;> rfl

/-- A lexeme with what follows it, in a text with carriage returns.  They may also stand in a comment. -/
def returningLexeme : LexemeKind × Text × Text → LexemeKind × Text × Text
  | (.gap, lexeme, rest) => (.gap, withReturns lexeme, withReturns rest)
  | (kind, lexeme, rest) => (kind, lexeme, withReturns rest)

theorem spelled?_withReturns (admits : Terminal → Bool) (t : Text) :
    spelled? admits (withReturns t) = (spelled? admits t).map returningLexeme := by
  have hplain : ∀ s ∈ spellings, lineFeed ∉ s.1 ∧ carriageReturn ∉ s.1 := by decide
  apply findSome?_eq_map
  rintro ⟨word, kind⟩ hs
  obtain ⟨hl, hr⟩ := hplain _ hs
  simp only [after?_withReturns hl hr]
  split
  · simp [returningLexeme, Function.comp_def]
  · rfl

/-! ## one lexeme -/

theorem token_withReturns {scanner : Text → Option (Text × Text)}
    (h : ∀ t, scanner (withReturns t) = (scanner t).map returning) (admitted : Bool) (kind : Text → Terminal) (t : Text) :
    onlyIf admitted (tagged (fun word => .token (kind word)) scanner) (withReturns t) =
      (onlyIf admitted (tagged (fun word => .token (kind word)) scanner) t).map returningLexeme := by
  simp only [onlyIf, tagged, h]
  split
  · simp [returningLexeme, returning, Function.comp_def]
  · rfl

/-- A text that starts with neither white space, nor a line end, nor a comment up to the end of its line starts with the
same lexeme if carriage returns are put into it. -/
theorem scan_withReturns (admits : Terminal → Bool) {c : CodePoint} {t : Text} (hc : c ≠ lineFeed)
    (hgap : isGap c = false) (hcomment : ¬ (c = '/' ∧ t.head? = some (CodePoint.ofChar '/'))) :
    scan admits (withReturns (c :: t)) = (scan admits (c :: t)).map returningLexeme := by
  have hnone : ∀ u : Text, (u.head? = some (CodePoint.ofChar '/') → t.head? = some (CodePoint.ofChar '/')) →
      lineComment? (c :: u) = none := by
    intro u hu
    cases u with
    | nil => rfl
    | cons d u =>
      rw [lineComment?, if_neg]
      simp only [Bool.and_eq_true, decide_eq_true_eq]
      rintro ⟨rfl, rfl⟩
      exact hcomment ⟨rfl, hu rfl⟩
  apply findSome?_eq_map
  intro f hf
  simp only [scanners, List.mem_cons, List.not_mem_nil, or_false] at hf
  rcases hf with rfl | rfl | rfl | rfl | rfl | rfl | rfl | rfl | rfl
  · exact token_withReturns string?_withReturns _ _ _
  · exact token_withReturns name?_withReturns _ _ _
  · simp [tagged, blockComment?_withReturns, returningLexeme, Function.comp_def]
  · exact token_withReturns number?_withReturns _ _ _
  · rw [tagged, tagged, withReturns_cons hc, hnone t fun h => h,
      hnone (withReturns t) (head?_withReturns (by decide) (by decide) t).1]
    rfl
  · simp [tagged, withReturns_cons hc, blanks?, hgap]
  · simp [tagged, withReturns_cons hc, lineEnds?, hc]
  · simp [tagged, semicolon?_withReturns hc, returningLexeme, returning, Function.comp_def]
  · exact spelled?_withReturns admits _

/-! ## a whole text -/

theorem State.reads_iff_of_scan {s s' : State} {pos : Pos} {t lexeme rest : Text} {kind : LexemeKind}
    (h : scan s.admits t = some (kind, lexeme, rest)) :
    s.Reads pos t s' ↔ ∃ s₁, s.read pos kind lexeme = some s₁ ∧ s₁.Reads (pos.after lexeme) rest s' := by
  constructor
  · intro hs
    cases hs with
    | nil => exact absurd (length_lt_of_scan h) (by simp)
    | cons scanned read reads =>
      obtain ⟨rfl, rfl, rfl⟩ : _ ∧ _ ∧ _ := by simpa using h.symm.trans scanned
      exact ⟨_, read, reads⟩
  · rintro ⟨s₁, read, reads⟩
    exact .cons h read reads

theorem State.not_reads_of_scan {s s' : State} {pos : Pos} {c : CodePoint} {t : Text}
    (h : scan s.admits (c :: t) = none) : ¬ s.Reads pos (c :: t) s' := by
  intro hs
  cases hs with
  | cons scanned => simp [h] at scanned

/-- A comment ends before the line feed behind it. -/
theorem State.reads_lineComment_iff {s s' : State} {pos : Pos} {a : Text} (ha : lineFeed ∉ a) (u : Text) :
    s.Reads pos (text "//" ++ (a ++ lineFeed :: u)) s' ↔ ∃ s₁, s.lineEnded? = some s₁ ∧ s₁.Reads ⟨pos.line + 1, 1⟩ u s' := by
  have hall : ∀ c ∈ a, decide (c ≠ lineFeed) = true := by
    intro c hc
    rw [decide_eq_true_iff]
    rintro rfl
    exact ha hc
  have hcomment : lineComment? (text "//" ++ (a ++ lineFeed :: u)) = some (text "//" ++ a, lineFeed :: u) := by
    show some (_ :: _ :: List.takeWhile _ (a ++ _), List.dropWhile _ (a ++ _)) = _
    rw [List.takeWhile_append_of_pos hall, List.dropWhile_append_of_pos hall, List.takeWhile_cons_of_neg (by simp),
      List.dropWhile_cons_of_neg (by simp), List.append_nil]
    rfl
  have hline : (pos.after (text "//" ++ a)).line = pos.line := by
    rw [Pos.line_after, List.count_append, List.count_eq_zero.2 ha]
    rfl
  rw [State.reads_cons_iff (scan_lineComment _ hcomment) (rfl : _ = some s), State.reads_lineFeed_iff, hline]

/-- A text is read to the same places with carriage returns before its line feeds. -/
theorem State.reads_withReturns_iff {s s' : State} {pos : Pos} {t : Text} :
    s.Reads pos (withReturns t) s' ↔ s.Reads pos t s' := by
  induction hn : t.length using Nat.strongRecOn generalizing s pos t with
  | _ n ih =>
    subst hn
    cases t with
    | nil => rfl
    | cons c t =>
      by_cases hc : c = lineFeed
      · subst hc
        have hline : (pos.next carriageReturn).line = pos.line := rfl
        rw [withReturns_lineFeed, State.reads_blank_iff (by decide), State.reads_lineFeed_iff, State.reads_lineFeed_iff,
          hline]
        simp only [ih t.length (by simp) rfl]
      by_cases hgap : isGap c = true
      · rw [withReturns_cons hc, State.reads_blank_iff hgap, State.reads_blank_iff hgap]
        exact ih _ (by simp) rfl
      by_cases hcomment : c = '/' ∧ t.head? = some (CodePoint.ofChar '/')
      · obtain ⟨rfl, ht⟩ := hcomment
        obtain ⟨t, rfl⟩ := List.head?_eq_some_iff.1 ht
        by_cases hl : lineFeed ∈ t
        · -- the carriage return before the line feed belongs to the comment
          obtain ⟨a, u, rfl, ha⟩ := List.eq_append_cons_of_mem hl
          have hreturn : lineFeed ∉ a ++ [carriageReturn] := by simpa [ha] using (by decide : lineFeed ≠ carriageReturn)
          have hsplit : withReturns (text "//" ++ (a ++ lineFeed :: u)) =
              text "//" ++ (a ++ [carriageReturn] ++ lineFeed :: withReturns u) := by
            rw [withReturns_append, withReturns_append, withReturns_of_notMem ha, withReturns_lineFeed]
            simp
            rfl
          show s.Reads pos (withReturns (text "//" ++ (a ++ lineFeed :: u))) s' ↔
            s.Reads pos (text "//" ++ (a ++ lineFeed :: u)) s'
          rw [hsplit, State.reads_lineComment_iff hreturn, State.reads_lineComment_iff ha]
          simp only [ih u.length (by simp; omega) rfl]
        · rw [withReturns_of_notMem]
          simpa [hl] using (by decide : lineFeed ≠ CodePoint.ofChar '/')
      · have hscan := scan_withReturns s.admits hc (by simpa using hgap) hcomment
        cases hl : scan s.admits (c :: t) with
        | none =>
          rw [hl, withReturns_cons hc] at hscan
          rw [withReturns_cons hc]
          exact iff_of_false (State.not_reads_of_scan hscan) (State.not_reads_of_scan hl)
        | some l =>
          obtain ⟨kind, lexeme, rest⟩ := l
          have hrest : ∀ {s₁ : State} {q : Pos}, s₁.Reads q (withReturns rest) s' ↔ s₁.Reads q rest s' :=
            ih _ (length_lt_of_scan hl) rfl
          rw [hl] at hscan
          rw [State.reads_iff_of_scan hl]
          -- what is read of a gap does not depend on its text, and the other lexemes have the same text
          cases kind with
          | gap =>
            rw [State.reads_iff_of_scan hscan, Pos.after_withReturns]
            simp only [State.read, hrest]
          | lineEnd | semicolon | token k =>
            rw [State.reads_iff_of_scan hscan]
            simp only [State.read, hrest]

/-- A source spells the same program with carriage returns before its line feeds. -/
theorem parse_withReturns_iff {source : Text} {p : Program} :
    parse (withReturns source) = .ok p ↔ parse source = .ok p := by
  simp only [parse_eq_ok_iff, State.reads_withReturns_iff]

end TypeLint.Source
