import TypeLint.Source.Lexeme

/-!
# Lexemes and what follows them

No lexeme but a line end or a comment goes beyond a line feed, so what is read of a text does not change if a line
feed and more text are put behind it.  Other separators, such as a semicolon, are the same for a lexeme that is
complete.

* `Separates` — code points that only comments, strings and gaps go on with;
* `scan_append_lineFeed` — the exceptions are a text that starts with a line end, and an unfinished comment;
* `scan_append_separator` — a lexeme in front of a separator;
* `scan_lineFeed` — the line end at the start of a text;
* `scan_token_cases` — the four ways in which a token is found;
* `scan_of_admits` — more terminals that are looked for make no difference if the text does not start with them;
* `admits_of_scan` — only what is looked for is found.
-/

namespace TypeLint.Source

open CodePoint (lineFeed)

/-- A code point that only comments, strings and gaps go on with. -/
structure Separates (c : CodePoint) : Prop where
  isNamePart : isNamePart c = false
  isDigit : c.isDigit = false
  notMem_spelling : ∀ s ∈ spellings, c ∉ s.1

theorem separates_lineFeed : Separates lineFeed := ⟨by decide, by decide, by decide⟩

theorem separates_semicolon : Separates ';' := ⟨by decide, by decide, by decide⟩

theorem separates_blank : Separates ' ' := ⟨by decide, by decide, by decide⟩

/-- A lexeme with what follows it, where the text goes on behind a separator. -/
def goOn (c : CodePoint) (u : Text) (s : Text × Text) : Text × Text := (s.1, s.2 ++ c :: u)

/-- A scanner that finds the same at the start of `t` if the text goes on behind a separator. -/
def StopsAt (c : CodePoint) (scanner : Text → Option (Text × Text)) (t : Text) : Prop :=
  ∀ u, scanner (t ++ c :: u) = (scanner t).map (goOn c u)

section TakeWhile

variable {p : CodePoint → Bool} {c : CodePoint} (hp : p c = false) (cs u : Text)
include hp

theorem takeWhile_append_separator : (cs ++ c :: u).takeWhile p = cs.takeWhile p := by
  induction cs with
  | nil => simp [hp]
  | cons c cs ih => simp [List.takeWhile_cons, ih]

theorem dropWhile_append_separator : (cs ++ c :: u).dropWhile p = cs.dropWhile p ++ c :: u := by
  induction cs with
  | nil => simp [hp]
  | cons c cs ih =>
    simp only [List.cons_append, List.dropWhile_cons, ih]
    split <;> rfl

end TakeWhile

/-! ## lexemes that stop at every separator -/

section Separator

variable {c : CodePoint} (hc : Separates c)
include hc

theorem Separates.isNameStart : isNameStart c = false := by
  have h := hc.isNamePart
  simp only [Source.isNamePart, Bool.or_eq_false_iff] at h
  exact h.1

theorem Separates.ne_stroke : c ≠ '/' := by
  rintro rfl
  exact hc.notMem_spelling (text "/", .mulOp) (by decide) (by decide)

theorem Separates.ne_star : c ≠ '*' := by
  rintro rfl
  exact hc.notMem_spelling (text "*", .mulOp) (by decide) (by decide)

theorem stops_name? (t : Text) : StopsAt c name? t := by
  intro u
  cases t with
  | nil => simp [name?, hc.isNameStart]
  | cons a cs =>
    simp only [List.cons_append, name?]
    rw [takeWhile_append_separator hc.isNamePart, dropWhile_append_separator hc.isNamePart]
    split <;> rfl

theorem stops_digits? (t : Text) : StopsAt c digits? t := by
  intro u
  cases t with
  | nil => simp [digits?, hc.isDigit]
  | cons a cs =>
    simp only [List.cons_append, digits?]
    rw [takeWhile_append_separator hc.isDigit, dropWhile_append_separator hc.isDigit]
    split <;> rfl

theorem stops_fraction? (t : Text) : StopsAt c fraction? t := by
  have hpoint : c ≠ '.' := by
    rintro rfl
    exact hc.notMem_spelling (text ".", .dot) (by decide) (by decide)
  intro u
  cases t with
  | nil => simp [fraction?, hpoint]
  | cons a cs =>
    simp only [List.cons_append, fraction?, stops_digits? hc cs u]
    split
    · simp [goOn, Function.comp_def]
    · rfl

theorem stops_number? (t : Text) : StopsAt c number? t := by
  intro u
  simp only [number?, stops_digits? hc t u]
  cases digits? t with
  | none => rfl
  | some s =>
    simp only [Option.map_some, goOn, stops_fraction? hc s.2 u]
    cases fraction? s.2 <;> rfl

omit hc in
theorem stops_semicolon? {t : Text} (hne : t ≠ []) : StopsAt c semicolon? t := by
  intro u
  cases t with
  | nil => exact absurd rfl hne
  | cons a cs =>
    simp only [List.cons_append, semicolon?]
    split <;> rfl

omit hc in
theorem stops_lineEnds? {t : Text} (hne : t ≠ []) (ht : t.head? ≠ some lineFeed) : StopsAt c lineEnds? t := by
  intro u
  cases t with
  | nil => exact absurd rfl hne
  | cons a cs =>
    have ha : a ≠ lineFeed := by simpa using ht
    simp [lineEnds?, ha]

end Separator

/-! ## strings and blanks -/

theorem stops_stringTail? (q : CodePoint) (hq : q ≠ lineFeed) (t : Text) : StopsAt lineFeed (stringTail? q) t := by
  intro u
  fun_induction stringTail? q t with
  | case1 =>
    rw [List.nil_append, stringTail?.eq_def]
    simp [hq.symm]
  | case2 cs =>
    rw [List.cons_append, stringTail?.eq_def]
    simp [goOn]
  | case3 cs hc =>
    rw [List.cons_append, stringTail?.eq_def]
    simp [hc]
  | case4 =>
    rw [List.cons_append, stringTail?.eq_def]
    simp [*]
  | case5 =>
    rw [List.cons_append, stringTail?.eq_def]
    simp [*]
  | case6 =>
    rw [List.cons_append, stringTail?.eq_def]
    simp [goOn, Function.comp_def, *]
  | case7 =>
    rw [List.cons_append, stringTail?.eq_def]
    simp [goOn, Function.comp_def, *]

theorem stops_string? (t : Text) : StopsAt lineFeed string? t := by
  intro u
  cases t with
  | nil => rfl
  | cons c cs =>
    simp only [List.cons_append, string?]
    split
    · next hc =>
      have hq : c ≠ lineFeed := by
        rintro rfl
        exact absurd hc (by decide)
      simp [stops_stringTail? c hq cs u, goOn, Function.comp_def]
    · rfl

/-- A string that is closed goes on with nothing. -/
theorem stringTail?_append {q : CodePoint} {t : Text} {s : Text × Text} (h : stringTail? q t = some s) (u : Text) :
    stringTail? q (t ++ u) = some (s.1, s.2 ++ u) := by
  fun_induction stringTail? q t generalizing s with
  | case2 cs =>
    obtain rfl := Option.some.inj h
    rw [List.cons_append, stringTail?.eq_def]
    simp
  | case6 _ _ _ _ _ ih =>
    obtain ⟨v, hv, rfl⟩ := Option.map_eq_some_iff.1 h
    rw [List.cons_append, List.cons_append, stringTail?.eq_def]
    simp [*, ih hv]
  | case7 _ _ _ _ _ ih =>
    obtain ⟨v, hv, rfl⟩ := Option.map_eq_some_iff.1 h
    rw [List.cons_append, stringTail?.eq_def]
    simp [*, ih hv]
  | _ => simp at h

theorem string?_append {t : Text} {s : Text × Text} (h : string? t = some s) (u : Text) :
    string? (t ++ u) = some (s.1, s.2 ++ u) := by
  cases t with
  | nil => simp [string?] at h
  | cons c cs =>
    simp only [string?] at h
    split at h
    · next hq =>
      obtain ⟨v, hv, rfl⟩ := Option.map_eq_some_iff.1 h
      rw [List.cons_append, string?, if_pos hq, stringTail?_append hv]
      rfl
    · simp at h

theorem stops_blanks? (t : Text) : StopsAt lineFeed blanks? t := by
  intro u
  cases t with
  | nil => rfl
  | cons c cs =>
    simp only [List.cons_append, blanks?]
    rw [takeWhile_append_separator (by decide), dropWhile_append_separator (by decide)]
    split <;> rfl

theorem stops_blanks?_of_eq_none {t : Text} (hne : t ≠ []) (h : blanks? t = none) (c : CodePoint) :
    StopsAt c blanks? t := by
  intro u
  cases t with
  | nil => exact absurd rfl hne
  | cons a cs =>
    simp only [blanks?, ite_eq_right_iff, reduceCtorEq, imp_false] at h
    simp [blanks?, h]

/-! ## comments -/

theorem lineComment?_cons {c : CodePoint} (hc : c ≠ '/') (cs : Text) : lineComment? (c :: cs) = none := by
  cases cs <;> simp [lineComment?, hc]

theorem stops_lineComment? (t : Text) : StopsAt lineFeed lineComment? t := by
  intro u
  match t with
  | [] => exact lineComment?_cons (by decide) u
  | [c] => simp [lineComment?, show lineFeed ≠ CodePoint.ofChar '/' by decide]
  | a :: b :: cs =>
    simp only [List.cons_append, lineComment?]
    rw [takeWhile_append_separator (by decide), dropWhile_append_separator (by decide)]
    split <;> rfl

theorem stops_lineComment?_of_eq_none {c : CodePoint} (hc : Separates c) {t : Text} (h : lineComment? t = none) :
    StopsAt c lineComment? t := by
  intro u
  rw [h]
  match t with
  | [] => exact lineComment?_cons hc.ne_stroke u
  | [a] => simp [lineComment?, hc.ne_stroke]
  | a :: b :: cs =>
    simp only [lineComment?, ite_eq_right_iff, reduceCtorEq, imp_false] at h
    simp [lineComment?, h]

theorem commentTail?_append {t : Text} {s : Text × Text} (h : commentTail? t = some s) (c : CodePoint) (u : Text) :
    commentTail? (t ++ c :: u) = some (goOn c u s) := by
  fun_induction commentTail? t generalizing s with
  | case1 a b cs hab =>
    obtain rfl := Option.some.inj h
    simp [commentTail?, hab, goOn]
  | case2 a b cs hab ih =>
    obtain ⟨v, hv, rfl⟩ := Option.map_eq_some_iff.1 h
    have := ih hv
    rw [List.cons_append] at this
    rw [List.cons_append, List.cons_append, commentTail?, if_neg hab, this]
    rfl
  | case3 => simp at h

theorem blockComment?_cons {c : CodePoint} (hc : c ≠ '/') (cs : Text) : blockComment? (c :: cs) = none := by
  cases cs <;> simp [blockComment?, hc]

/-- A comment that is opened and does not end in the text. -/
def Unfinished (t : Text) : Prop :=
  ∃ cs, t = CodePoint.ofChar '/' :: CodePoint.ofChar '*' :: cs ∧ commentTail? cs = none

theorem stops_blockComment? {c : CodePoint} (hc : Separates c) {t : Text} (ht : ¬ Unfinished t) :
    StopsAt c blockComment? t := by
  intro u
  match t with
  | [] => exact blockComment?_cons hc.ne_stroke u
  | [a] => simp [blockComment?, hc.ne_star]
  | a :: b :: cs =>
    simp only [List.cons_append, blockComment?]
    split
    · next hab =>
      simp only [Bool.and_eq_true, decide_eq_true_eq] at hab
      cases hcs : commentTail? cs with
      | none => exact absurd ⟨cs, by rw [hab.1, hab.2], hcs⟩ ht
      | some s => simp [commentTail?_append hcs c u, goOn]
    · rfl

/-! ## fixed spellings -/

theorem after?_append_separator {c : CodePoint} {word : Text} (hw : c ∉ word) (t u : Text) :
    (t ++ c :: u).after? word = (t.after? word).map (· ++ c :: u) := by
  induction word generalizing t with
  | nil => simp [Text.after?]
  | cons a word ih =>
    simp only [List.mem_cons, not_or] at hw
    cases t with
    | nil => simp [Text.after?, Ne.symm hw.1]
    | cons b t =>
      simp only [List.cons_append, Text.after?, ih hw.2]
      split <;> rfl

theorem findSome?_congr {α β : Type} {l : List α} {f f' : α → Option β} (h : ∀ a ∈ l, f' a = f a) :
    l.findSome? f' = l.findSome? f := by
  induction l with
  | nil => rfl
  | cons a l ih =>
    rw [List.findSome?_cons, List.findSome?_cons, h a (by simp), ih fun b hb => h b (by simp [hb])]

theorem findSome?_eq_map {α β γ : Type} {l : List α} {f : α → Option β} {f' : α → Option γ} {g : β → γ}
    (h : ∀ a ∈ l, f' a = (f a).map g) : l.findSome? f' = (l.findSome? f).map g := by
  rw [List.map_findSome?]
  exact findSome?_congr h

theorem spelled?_append_separator {c : CodePoint} (hc : Separates c) (admits : Terminal → Bool) (t u : Text) :
    spelled? admits (t ++ c :: u) = (spelled? admits t).map (Prod.map id (goOn c u)) := by
  apply findSome?_eq_map
  rintro ⟨word, kind⟩ hs
  simp only [after?_append_separator (hc.notMem_spelling _ hs)]
  split
  · simp [goOn, Function.comp_def]
  · rfl

/-! ## one lexeme -/

theorem tagged_append {c : CodePoint} {kind : Text → LexemeKind} {scanner : Text → Option (Text × Text)} {t : Text}
    (h : StopsAt c scanner t) (u : Text) :
    tagged kind scanner (t ++ c :: u) = (tagged kind scanner t).map (Prod.map id (goOn c u)) := by
  simp only [tagged, h u, Option.map_map]
  rfl

theorem onlyIf_append {c : CodePoint} {scanner : Text → Option (LexemeKind × Text × Text)} {t u : Text}
    (h : scanner (t ++ c :: u) = (scanner t).map (Prod.map id (goOn c u))) (admitted : Bool) :
    onlyIf admitted scanner (t ++ c :: u) = (onlyIf admitted scanner t).map (Prod.map id (goOn c u)) := by
  cases admitted
  · rfl
  · exact h

/-- What a text starts with stays the same in front of a separator if strings, comments and blanks do. -/
theorem scan_append {c : CodePoint} (hc : Separates c) (admits : Terminal → Bool) {t : Text} (hne : t ≠ [])
    (ht : t.head? ≠ some lineFeed) (hun : ¬ Unfinished t) (hstring : StopsAt c string? t)
    (hcomment : StopsAt c lineComment? t) (hblanks : StopsAt c blanks? t) (u : Text) :
    scan admits (t ++ c :: u) = (scan admits t).map (Prod.map id (goOn c u)) := by
  apply findSome?_eq_map
  intro f hf
  simp only [scanners, List.mem_cons, List.not_mem_nil, or_false] at hf
  rcases hf with rfl | rfl | rfl | rfl | rfl | rfl | rfl | rfl | rfl
  · exact onlyIf_append (tagged_append hstring u) _
  · exact onlyIf_append (tagged_append (stops_name? hc t) u) _
  · exact tagged_append (stops_blockComment? hc hun) u
  · exact onlyIf_append (tagged_append (stops_number? hc t) u) _
  · exact tagged_append hcomment u
  · exact tagged_append hblanks u
  · exact tagged_append (stops_lineEnds? hne ht) u
  · exact tagged_append (stops_semicolon? hne) u
  · exact spelled?_append_separator hc admits t u

/-- A text that does not start with a line end, and not with an unfinished comment, starts with the same lexeme if it
goes on behind a line feed. -/
theorem scan_append_lineFeed (admits : Terminal → Bool) {t : Text} (hne : t ≠ []) (ht : t.head? ≠ some lineFeed)
    (hc : ¬ Unfinished t) (u : Text) :
    scan admits (t ++ lineFeed :: u) = (scan admits t).map (Prod.map id (goOn lineFeed u)) :=
  scan_append separates_lineFeed admits hne ht hc (stops_string? t) (stops_lineComment? t) (stops_blanks? t) u

/-- A line feed starts a line end. -/
theorem scan_lineFeed (admits : Terminal → Bool) (cs : Text) :
    scan admits (lineFeed :: cs) =
      some (.lineEnd, lineFeed :: (lineEndTail cs).1, (lineEndTail cs).2) := by
  have h1 := blockComment?_cons (c := lineFeed) (by decide) cs
  have h2 := lineComment?_cons (c := lineFeed) (by decide) cs
  simp only [scan, scanners, List.findSome?_cons, tagged, h1, h2]
  cases admits .string <;> cases admits .name <;> cases admits .number <;> rfl

/-- A carriage return before a line feed is a gap. -/
theorem scan_carriageReturn (admits : Terminal → Bool) (cs : Text) :
    scan admits (CodePoint.ofChar '\r' :: lineFeed :: cs) =
      some (.gap, [CodePoint.ofChar '\r'], lineFeed :: cs) := by
  simp only [scan, scanners, List.findSome?_cons]
  cases admits .string <;> cases admits .name <;> cases admits .number <;> rfl

theorem of_spelled?_eq_some {admits : Terminal → Bool} {t word rest : Text} {k : LexemeKind}
    (h : spelled? admits t = some (k, word, rest)) :
    ∃ kind, k = .token kind ∧ (word, kind) ∈ spellings ∧ admits kind = true ∧ t = word ++ rest := by
  obtain ⟨⟨s, kind⟩, hs, hf⟩ := List.exists_of_findSome?_eq_some h
  dsimp only at hf
  split at hf
  · next hk =>
    obtain ⟨r, hr, he⟩ := Option.map_eq_some_iff.1 hf
    obtain ⟨rfl, rfl, rfl⟩ : _ ∧ _ ∧ _ := by simpa using he
    exact ⟨kind, rfl, hs, hk, Text.after?_eq_some hr⟩
  · simp at hf

theorem spellings_stroke : ∀ s ∈ spellings, s.1.head? = some (CodePoint.ofChar '/') →
    s = (text "/", .mulOp) := by decide

theorem spellings_star : ∀ s ∈ spellings, s.1.head? = some (CodePoint.ofChar '*') → s.2 = .mulOp := by decide

/-- At the start of an unfinished comment there is at most an operator. -/
theorem of_scan_unfinished {admits : Terminal → Bool} {t lexeme rest : Text} {kind : LexemeKind}
    (ht : Unfinished t) (h : scan admits t = some (kind, lexeme, rest)) :
    kind = .token .mulOp ∧ ∃ cs, rest = CodePoint.ofChar '*' :: cs := by
  obtain ⟨cs, rfl, hcs⟩ := ht
  obtain ⟨f, hf, hfs⟩ := List.exists_of_findSome?_eq_some h
  simp only [scanners, List.mem_cons, List.not_mem_nil, or_false] at hf
  -- no scanner but the last one finds anything at a stroke and a star
  rcases hf with rfl | rfl | rfl | rfl | rfl | rfl | rfl | rfl | rfl
  · exact absurd (eq_some_of_onlyIf hfs).symm (Option.some_ne_none _)
  · exact absurd (eq_some_of_onlyIf hfs).symm (Option.some_ne_none _)
  · simp [tagged, blockComment?, hcs] at hfs
  · exact absurd (eq_some_of_onlyIf hfs).symm (Option.some_ne_none _)
  · exact absurd hfs.symm (Option.some_ne_none _)
  · exact absurd hfs.symm (Option.some_ne_none _)
  · exact absurd hfs.symm (Option.some_ne_none _)
  · exact absurd hfs.symm (Option.some_ne_none _)
  · obtain ⟨k, rfl, hk, -, ht⟩ := of_spelled?_eq_some hfs
    obtain ⟨c, word, rfl⟩ := List.exists_cons_of_ne_nil (spellings_ne_nil _ hk)
    obtain rfl := (List.cons.inj ht).1
    obtain ⟨hw, rfl⟩ := Prod.mk.inj (spellings_stroke _ hk rfl)
    obtain rfl := (List.cons.inj hw).2
    exact ⟨rfl, cs, (List.cons.inj ht).2.symm⟩

/-- A star is at most an operator. -/
theorem of_scan_star {admits : Terminal → Bool} {cs lexeme rest : Text} {kind : LexemeKind}
    (h : scan admits (CodePoint.ofChar '*' :: cs) = some (kind, lexeme, rest)) : kind = .token .mulOp := by
  obtain ⟨f, hf, hfs⟩ := List.exists_of_findSome?_eq_some h
  simp only [scanners, List.mem_cons, List.not_mem_nil, or_false] at hf
  rcases hf with rfl | rfl | rfl | rfl | rfl | rfl | rfl | rfl | rfl
  · exact absurd (eq_some_of_onlyIf hfs).symm (Option.some_ne_none _)
  · exact absurd (eq_some_of_onlyIf hfs).symm (Option.some_ne_none _)
  · simp [tagged, blockComment?_cons (c := CodePoint.ofChar '*') (by decide)] at hfs
  · exact absurd (eq_some_of_onlyIf hfs).symm (Option.some_ne_none _)
  · simp [tagged, lineComment?_cons (c := CodePoint.ofChar '*') (by decide)] at hfs
  · exact absurd hfs.symm (Option.some_ne_none _)
  · exact absurd hfs.symm (Option.some_ne_none _)
  · exact absurd hfs.symm (Option.some_ne_none _)
  · obtain ⟨k, rfl, hk, -, ht⟩ := of_spelled?_eq_some hfs
    obtain ⟨c, word, rfl⟩ := List.exists_cons_of_ne_nil (spellings_ne_nil _ hk)
    obtain rfl := (List.cons.inj ht).1
    rw [show k = .mulOp from spellings_star _ hk rfl]

theorem spellings_quote : ∀ s ∈ spellings, s.1.head? ≠ some '"' ∧ s.1.head? ≠ some '\'' := by decide

/-- A quote starts at most a string. -/
theorem string?_of_scan {admits : Terminal → Bool} {q : CodePoint} (hq : q = '"' ∨ q = '\'') {cs : Text}
    {l : LexemeKind × Text × Text} (h : scan admits (q :: cs) = some l) : ∃ s, string? (q :: cs) = some s := by
  have hstroke : q ≠ '/' := by rcases hq with rfl | rfl <;> decide
  have hstart : isNameStart q = false := by rcases hq with rfl | rfl <;> decide
  have hdigit : q.isDigit = false := by rcases hq with rfl | rfl <;> decide
  have hgap : isGap q = false := by rcases hq with rfl | rfl <;> decide
  have hfeed : q ≠ lineFeed := by rcases hq with rfl | rfl <;> decide
  have hsemi : q ≠ ';' := by rcases hq with rfl | rfl <;> decide
  obtain ⟨f, hf, hfs⟩ := List.exists_of_findSome?_eq_some h
  simp only [scanners, List.mem_cons, List.not_mem_nil, or_false] at hf
  rcases hf with rfl | rfl | rfl | rfl | rfl | rfl | rfl | rfl | rfl
  · obtain ⟨s, hs, -⟩ := Option.map_eq_some_iff.1 (eq_some_of_onlyIf hfs)
    exact ⟨s, hs⟩
  · have hnone := eq_some_of_onlyIf hfs
    simp [tagged, name?, hstart] at hnone
  · simp [tagged, blockComment?_cons hstroke] at hfs
  · have hnone := eq_some_of_onlyIf hfs
    simp [tagged, number?, digits?, hdigit] at hnone
  · simp [tagged, lineComment?_cons hstroke] at hfs
  · simp [tagged, blanks?, hgap] at hfs
  · simp [tagged, lineEnds?, hfeed] at hfs
  · simp [tagged, semicolon?, hsemi] at hfs
  · obtain ⟨k, word, rest⟩ := l
    obtain ⟨k, rfl, hk, -, ht⟩ := of_spelled?_eq_some hfs
    obtain ⟨c, word, rfl⟩ := List.exists_cons_of_ne_nil (spellings_ne_nil _ hk)
    obtain ⟨rfl, -⟩ := List.cons.inj ht
    have := spellings_quote _ hk
    rcases hq with rfl | rfl <;> simp at this

theorem stops_string?_of_scan {admits : Terminal → Bool} {t : Text} {l : LexemeKind × Text × Text}
    (h : scan admits t = some l) (c : CodePoint) : StopsAt c string? t := by
  intro u
  cases t with
  | nil => exact absurd (length_lt_of_scan h) (by simp)
  | cons a cs =>
    by_cases hq : a = CodePoint.ofChar '"' ∨ a = CodePoint.ofChar '\''
    · obtain ⟨s, hs⟩ := string?_of_scan hq h
      rw [hs, string?_append hs]
      rfl
    · simp [string?, hq]

/-- A lexeme that is not a comment up to the end of a line, and not blank, stays the same in front of a separator. -/
theorem scan_append_separator {c : CodePoint} (hc : Separates c) {admits : Terminal → Bool} {t lexeme rest : Text}
    {kind : LexemeKind} (h : scan admits t = some (kind, lexeme, rest)) (ht : t.head? ≠ some lineFeed)
    (hun : ¬ Unfinished t) (hcomment : lineComment? t = none) (hblanks : blanks? t = none) (u : Text) :
    scan admits (t ++ c :: u) = some (kind, lexeme, rest ++ c :: u) := by
  have hne : t ≠ [] := by
    rintro rfl
    exact absurd (length_lt_of_scan h) (by simp)
  rw [scan_append hc admits hne ht hun (stops_string?_of_scan h c) (stops_lineComment?_of_eq_none hc hcomment)
    (stops_blanks?_of_eq_none hne hblanks c), h]
  rfl

theorem scan_lineComment (admits : Terminal → Bool) {t : Text} {s : Text × Text} (h : lineComment? t = some s) :
    scan admits t = some (.gap, s) := by
  match t with
  | [] | [_] => simp [lineComment?] at h
  | a :: b :: cs =>
    have hab : a = CodePoint.ofChar '/' ∧ b = CodePoint.ofChar '/' := by
      simp only [lineComment?] at h
      split at h
      · next hab => simpa using hab
      · simp at h
    obtain ⟨rfl, rfl⟩ := hab
    simp only [scan, scanners, List.findSome?_cons, tagged, h]
    cases admits .string <;> cases admits .name <;> cases admits .number <;> rfl

/-- White space starts a gap. -/
theorem scan_blanks {admits : Terminal → Bool} {c : CodePoint} (hc : isGap c = true) (cs : Text) :
    scan admits (c :: cs) = some (.gap, c :: cs.takeWhile isGap, cs.dropWhile isGap) := by
  have hcases : c = CodePoint.ofChar ' ' ∨ c = CodePoint.ofChar '\t' ∨ c = CodePoint.ofChar '\x0c' ∨
      c = CodePoint.ofChar '\r' := by
    simpa [isGap, or_assoc] using hc
  have hstroke : c ≠ '/' := by rcases hcases with rfl | rfl | rfl | rfl <;> decide
  have h1 := blockComment?_cons hstroke cs
  have h2 := lineComment?_cons hstroke cs
  have h3 : string? (c :: cs) = none := by rcases hcases with rfl | rfl | rfl | rfl <;> rfl
  have h4 : name? (c :: cs) = none := by rcases hcases with rfl | rfl | rfl | rfl <;> rfl
  have h5 : number? (c :: cs) = none := by rcases hcases with rfl | rfl | rfl | rfl <;> rfl
  simp only [scan, scanners, List.findSome?_cons, tagged, onlyIf, h1, h2, h3, h4, h5, blanks?, hc]
  simp

/-! ## what is looked for -/

theorem admitted_of_onlyIf {admitted : Bool} {scanner : Text → Option (LexemeKind × Text × Text)} {t : Text}
    {l : LexemeKind × Text × Text} (h : onlyIf admitted scanner t = some l) : admitted = true := by
  cases admitted
  · simp [onlyIf] at h
  · rfl

theorem of_tagged_eq_some {kind : Text → LexemeKind} {scanner : Text → Option (Text × Text)} {t : Text}
    {k : LexemeKind} {s : Text × Text} (h : tagged kind scanner t = some (k, s)) :
    scanner t = some s ∧ k = kind s.1 := by
  obtain ⟨u, hu, he⟩ := Option.map_eq_some_iff.1 h
  obtain ⟨rfl, rfl⟩ := Prod.mk.inj he
  exact ⟨hu, rfl⟩

theorem wordKind_eq (admits : Terminal → Bool) (word : Text) :
    wordKind admits word = .name ∨
      admits (wordKind admits word) = true ∧ (word, wordKind admits word) ∈ spellings := by
  unfold wordKind
  split
  · next s kind hs =>
    right
    have hp := List.find?_some hs
    have hm := List.mem_of_find?_eq_some hs
    simp only [Bool.and_eq_true, decide_eq_true_eq] at hp
    exact ⟨hp.2, hp.1 ▸ hm⟩
  · exact .inl rfl

/-- How a token is found: as a string, word or number that is looked for, or by its spelling. -/
theorem scan_token_cases {admits : Terminal → Bool} {t lexeme rest : Text} {kind : Terminal}
    (h : scan admits t = some (.token kind, lexeme, rest)) :
    (kind = .string ∧ admits .string = true ∧ string? t = some (lexeme, rest)) ∨
    (kind = wordKind admits lexeme ∧ admits .name = true ∧ name? t = some (lexeme, rest)) ∨
    (kind = .number ∧ admits .number = true ∧ number? t = some (lexeme, rest)) ∨
    ((lexeme, kind) ∈ spellings ∧ admits kind = true) := by
  obtain ⟨f, hf, hfs⟩ := List.exists_of_findSome?_eq_some h
  simp only [scanners, List.mem_cons, List.not_mem_nil, or_false] at hf
  rcases hf with rfl | rfl | rfl | rfl | rfl | rfl | rfl | rfl | rfl
  · obtain ⟨hs, hk⟩ := of_tagged_eq_some (eq_some_of_onlyIf hfs)
    exact .inl ⟨LexemeKind.token.inj hk, admitted_of_onlyIf hfs, hs⟩
  · obtain ⟨hs, hk⟩ := of_tagged_eq_some (eq_some_of_onlyIf hfs)
    exact .inr (.inl ⟨LexemeKind.token.inj hk, admitted_of_onlyIf hfs, hs⟩)
  · cases (of_tagged_eq_some hfs).2
  · obtain ⟨hs, hk⟩ := of_tagged_eq_some (eq_some_of_onlyIf hfs)
    exact .inr (.inr (.inl ⟨LexemeKind.token.inj hk, admitted_of_onlyIf hfs, hs⟩))
  · cases (of_tagged_eq_some hfs).2
  · cases (of_tagged_eq_some hfs).2
  · cases (of_tagged_eq_some hfs).2
  · cases (of_tagged_eq_some hfs).2
  · obtain ⟨k, hk, hs, ha, -⟩ := of_spelled?_eq_some hfs
    obtain rfl := LexemeKind.token.inj hk
    exact .inr (.inr (.inr ⟨hs, ha⟩))

/-- Only what is looked for is found. -/
theorem admits_of_scan {admits : Terminal → Bool} {t lexeme rest : Text} {kind : Terminal}
    (h : scan admits t = some (.token kind, lexeme, rest)) : admits kind = true := by
  rcases scan_token_cases h with ⟨rfl, ha, -⟩ | ⟨rfl, ha, -⟩ | ⟨rfl, ha, -⟩ | ⟨-, ha⟩
  · exact ha
  · rcases wordKind_eq admits lexeme with hw | hw
    · rw [hw, ha]
    · exact hw.1
  · exact ha
  · exact ha

section Brace

variable {admits admits' : Terminal → Bool}

theorem spelling_braceClose : ∀ s ∈ spellings, s.2 = .braceClose → s.1 = text "\x7d" := by decide

theorem wordKind_congr (h : ∀ k, k ≠ .braceClose → admits' k = admits k) {word : Text}
    (hw : word ≠ text "\x7d") : wordKind admits' word = wordKind admits word := by
  have hfind : (spellings.find? fun x => x.1 = word && admits' x.2) =
      spellings.find? fun x => x.1 = word && admits x.2 := by
    rw [← List.findSome?_guard, ← List.findSome?_guard]
    apply findSome?_congr
    rintro ⟨s, kind⟩ hs
    by_cases hk : kind = .braceClose
    · have : s ≠ word := by
        rintro rfl
        exact hw (spelling_braceClose _ hs hk)
      simp [Option.guard, this]
    · simp [Option.guard, h kind hk]
  unfold wordKind
  erw [hfind]

theorem after?_cons_eq_none {a c : CodePoint} (h : a ≠ c) (word t : Text) :
    Text.after? (c :: t) (a :: word) = none := by
  rw [Text.after?, if_neg h]

theorem spelled?_congr (h : ∀ k, k ≠ .braceClose → admits' k = admits k) {c : CodePoint}
    (hc : c ≠ CodePoint.ofChar '\x7d') (cs : Text) : spelled? admits' (c :: cs) = spelled? admits (c :: cs) := by
  apply findSome?_congr
  rintro ⟨s, kind⟩ hs
  by_cases hk : kind = .braceClose
  · obtain rfl := spelling_braceClose _ hs hk
    have : Text.after? (c :: cs) (text "\x7d") = none := after?_cons_eq_none (Ne.symm hc) _ _
    simp [this]
  · simp only [h kind hk]

theorem spelled?_braceClose (admits : Terminal → Bool) (cs : Text) :
    spelled? admits (CodePoint.ofChar '\x7d' :: cs) =
      if admits .braceClose then some (.token .braceClose, text "\x7d", cs) else none := by
  have head : ∀ s ∈ spellings, s.2 ≠ .braceClose → s.1.head? ≠ some (CodePoint.ofChar '\x7d') := by decide
  -- no other spelling starts with a closing brace
  have hb : spelled? admits (CodePoint.ofChar '\x7d' :: cs) =
      spelled? (fun k => k = .braceClose && admits .braceClose) (CodePoint.ofChar '\x7d' :: cs) := by
    apply findSome?_congr
    rintro ⟨s, kind⟩ hs
    by_cases hk : kind = .braceClose
    · simp [hk]
    · obtain ⟨a, word, rfl⟩ := List.exists_cons_of_ne_nil (spellings_ne_nil _ hs)
      have ha := head _ hs hk
      have : Text.after? (CodePoint.ofChar '\x7d' :: cs) (a :: word) = none :=
        after?_cons_eq_none (by simpa using ha) _ _
      simp [hk, this]
  rw [hb]
  cases admits .braceClose <;> cases cs <;> rfl

theorem scan_braceClose (admits : Terminal → Bool) (cs : Text) :
    scan admits (CodePoint.ofChar '\x7d' :: cs) =
      if admits .braceClose then some (.token .braceClose, text "\x7d", cs) else none := by
  have h1 := blockComment?_cons (c := CodePoint.ofChar '\x7d') (by decide) cs
  have h2 := lineComment?_cons (c := CodePoint.ofChar '\x7d') (by decide) cs
  simp only [scan, scanners, List.findSome?_cons, tagged, h1, h2, spelled?_braceClose]
  cases admits .string <;> cases admits .name <;> cases admits .number <;> cases admits .braceClose <;> rfl

/-- A closing brace that is looked for in addition makes a difference only at a closing brace. -/
theorem scan_of_admits (h : ∀ k, k ≠ .braceClose → admits' k = admits k)
    (hb : admits .braceClose = true → admits' .braceClose = true) {t : Text} {l : LexemeKind × Text × Text}
    (hs : scan admits t = some l) : scan admits' t = some l := by
  cases t with
  | nil => exact absurd (length_lt_of_scan hs) (by simp)
  | cons c cs =>
    by_cases hc : c = CodePoint.ofChar '\x7d'
    · subst hc
      rw [scan_braceClose] at hs ⊢
      split at hs
      · next ha => rw [if_pos (hb ha), hs]
      · simp at hs
    · have hname : tagged (fun word => .token (wordKind admits' word)) name? (c :: cs) =
          tagged (fun word => .token (wordKind admits word)) name? (c :: cs) := by
        simp only [tagged, name?]
        split
        · have hw : c :: cs.takeWhile isNamePart ≠ text "\x7d" := fun he => hc (List.cons.inj he).1
          simp only [Option.map_some, wordKind_congr h hw]
        · rfl
      rw [← hs]
      simp only [scan, scanners, List.findSome?_cons, onlyIf, hname, spelled?_congr h hc, h .string (by decide),
        h .name (by decide), h .number (by decide)]

end Brace

end TypeLint.Source
