import TypeLint.Proofs.Source.LineEnds
import TypeLint.Proofs.Source.Members
import TypeLint.Proofs.Source.Places

/-!
# Gaps between lexemes

Between any two lexemes of a source there may be more white space, or one more comment: the source is read in the same
way, and what follows in the same line moves to the right.

* `scan_cut` — a lexeme is found in a text as well if the text ends sooner, but not before the lexeme does;
* `Filler` — a space, a tab, or a space and a comment within a line;
* `State.ReadsOn.fill` — what is read of a text with a filler in it;
* `pieces` — the lexemes of a source, gaps included;
* `parse_fill` — a source with a filler between two lexemes spells the same program, moved.
-/

namespace TypeLint.Source

open CodePoint (lineFeed)

/-! ## the end of a text cut off -/

/-- A scanner for which the end of a text can be cut off: what it finds in front of the cut it still finds, and it finds
nothing new. -/
structure Cuts (scanner : Text → Option (Text × Text)) : Prop where
  found {l v b : Text} : scanner (l ++ (v ++ b)) = some (l, v ++ b) → scanner (l ++ v) = some (l, v)
  notFound {t b : Text} : scanner (t ++ b) = none → scanner t = none

/-- The same of a scanner with the kinds of its lexemes. -/
structure CutsLexemes (scanner : Text → Option (LexemeKind × Text × Text)) : Prop where
  found {k : LexemeKind} {l v b : Text} : scanner (l ++ (v ++ b)) = some (k, l, v ++ b) → scanner (l ++ v) = some (k, l, v)
  notFound {t b : Text} : scanner (t ++ b) = none → scanner t = none

theorem takeWhile_cut {p : CodePoint → Bool} {w v b : Text} (h : (w ++ (v ++ b)).takeWhile p = w) :
    (w ++ v).takeWhile p = w ∧ (w ++ v).dropWhile p = v := by
  have htake : (w ++ v).takeWhile p = w := by
    induction w with
    | nil =>
      cases v with
      | nil => rfl
      | cons c v =>
        simp only [List.nil_append, List.cons_append, List.takeWhile_cons] at h ⊢
        split at h
        · simp at h
        · next hc => rw [if_neg hc]
    | cons c w ih =>
      simp only [List.cons_append, List.takeWhile_cons] at h ⊢
      split at h
      · next hc => rw [if_pos hc, ih (List.cons.inj h).2]
      · simp at h
  refine ⟨htake, ?_⟩
  have happend := List.takeWhile_append_dropWhile (p := p) (l := w ++ v)
  rw [htake] at happend
  exact List.append_cancel_left happend

/-- One code point and all of another kind behind it. -/
def headed (p q : CodePoint → Bool) : Text → Option (Text × Text)
  | [] => none
  | c :: cs => if p c then some (c :: cs.takeWhile q, cs.dropWhile q) else none

theorem cuts_headed (p q : CodePoint → Bool) : Cuts (headed p q) where
  found {l v b} h := by
    cases l with
    | nil =>
      cases hw : v ++ b with
      | nil => simp [headed, hw] at h
      | cons c w => simp [headed, hw] at h
    | cons c w =>
      simp only [List.cons_append, headed] at h ⊢
      split at h
      · next hc =>
        obtain ⟨htake, -⟩ : (w ++ (v ++ b)).takeWhile q = w ∧ _ := by simpa using h
        rw [if_pos hc, (takeWhile_cut htake).1, (takeWhile_cut htake).2]
      · simp at h
  notFound {t b} h := by
    cases t with
    | nil => rfl
    | cons c t =>
      simp only [List.cons_append, headed, ite_eq_right_iff, reduceCtorEq, imp_false] at h ⊢
      exact h

theorem name?_eq_headed : name? = headed isNameStart isNamePart := by
  funext t
  cases t <;> rfl

theorem digits?_eq_headed : digits? = headed CodePoint.isDigit CodePoint.isDigit := by
  funext t
  cases t <;> rfl

theorem blanks?_eq_headed : blanks? = headed isGap isGap := by
  funext t
  cases t <;> rfl

theorem cuts_name? : Cuts name? := name?_eq_headed ▸ cuts_headed _ _

theorem cuts_digits? : Cuts digits? := digits?_eq_headed ▸ cuts_headed _ _

theorem cuts_blanks? : Cuts blanks? := blanks?_eq_headed ▸ cuts_headed _ _

theorem cuts_fraction? : Cuts fraction? where
  found {l v b} h := by
    cases l with
    | nil => exact absurd (splits_fraction? h).2 (by simp)
    | cons c w =>
      simp only [List.cons_append, fraction?] at h ⊢
      split at h
      · next hc =>
        obtain ⟨⟨ds, rest⟩, hs, he⟩ := Option.map_eq_some_iff.1 h
        obtain ⟨rfl, rfl⟩ : ds = w ∧ rest = v ++ b := by simpa using he
        rw [if_pos hc, cuts_digits?.found hs]
        rfl
      · simp at h
  notFound {t b} h := by
    cases t with
    | nil => rfl
    | cons c t =>
      simp only [List.cons_append, fraction?, ite_eq_right_iff, Option.map_eq_none_iff] at h ⊢
      exact fun hc => cuts_digits?.notFound (h hc)

theorem cuts_number? : Cuts number? where
  found {l v b} h := by
    obtain ⟨⟨ds, rest⟩, hs, he⟩ := Option.map_eq_some_iff.1 h
    have hsplit : l ++ (v ++ b) = ds ++ rest := (splits_digits? hs).1
    cases hf : fraction? rest with
    | none =>
      obtain ⟨rfl, rfl⟩ : ds = l ∧ rest = v ++ b := by simpa [hf] using he
      simp [number?, cuts_digits?.found hs, cuts_fraction?.notFound hf]
    | some f =>
      obtain ⟨frac, rest'⟩ := f
      obtain ⟨rfl, rfl⟩ : ds ++ frac = l ∧ rest' = v ++ b := by simpa [hf] using he
      obtain rfl : rest = frac ++ (v ++ b) := (splits_fraction? hf).1
      have hdigits : digits? (ds ++ (frac ++ v)) = some (ds, frac ++ v) := by
        apply cuts_digits?.found
        simpa using hs
      simp [number?, hdigits, cuts_fraction?.found hf]
  notFound {t b} h := by
    rw [number?, Option.map_eq_none_iff] at h ⊢
    exact cuts_digits?.notFound h

/-- A lexeme that ends with itself ends in front of everything. -/
theorem Cuts.of_closed {scanner : Text → Option (Text × Text)} (splits : ∀ {t s}, scanner t = some s → Splits t s)
    (closed : ∀ {t l r}, scanner t = some (l, r) → ∀ y, scanner (l ++ y) = some (l, y)) : Cuts scanner where
  found h := closed h _
  notFound {t b} h := by
    cases ht : scanner t with
    | none => rfl
    | some s =>
      obtain rfl : t = s.1 ++ s.2 := (splits ht).1
      rw [List.append_assoc, closed ht] at h
      simp at h

theorem stringTail?_closed {q : CodePoint} {t l r : Text} (h : stringTail? q t = some (l, r)) (y : Text) :
    stringTail? q (l ++ y) = some (l, y) := by
  fun_induction stringTail? q t generalizing l r with
  | case2 cs =>
    obtain ⟨rfl, rfl⟩ : _ ∧ _ := by simpa using h
    rw [List.cons_append, stringTail?.eq_def]
    simp
  | case6 d ds hd hq hlf ih =>
    obtain ⟨⟨body, rest⟩, hs, he⟩ := Option.map_eq_some_iff.1 h
    obtain ⟨rfl, rfl⟩ : _ ∧ _ := by simpa using he
    rw [List.cons_append, List.cons_append, stringTail?.eq_def]
    simp [hq, hlf, hd, ih hs]
  | case7 c cs hq hlf hb ih =>
    obtain ⟨⟨body, rest⟩, hs, he⟩ := Option.map_eq_some_iff.1 h
    obtain ⟨rfl, rfl⟩ : _ ∧ _ := by simpa using he
    rw [List.cons_append, stringTail?.eq_def]
    simp [hq, hlf, hb, ih hs]
  | _ => simp at h

theorem cuts_string? : Cuts string? := by
  refine .of_closed splits_string? fun {t l r} h y => ?_
  cases t with
  | nil => simp [string?] at h
  | cons c t =>
    simp only [string?] at h
    split at h
    · next hc =>
      obtain ⟨⟨body, rest⟩, hs, he⟩ := Option.map_eq_some_iff.1 h
      obtain ⟨rfl, rfl⟩ : _ ∧ _ := by simpa using he
      simp only [List.cons_append, string?, if_pos hc, stringTail?_closed hs y]
      rfl
    · simp at h

theorem commentTail?_closed {t l r : Text} (h : commentTail? t = some (l, r)) (y : Text) :
    commentTail? (l ++ y) = some (l, y) := by
  induction t generalizing l r with
  | nil => simp [commentTail?] at h
  | cons c t ih =>
    rw [commentTail?_cons] at h
    split at h
    · next hc =>
      obtain ⟨rfl, rfl⟩ : _ ∧ _ := by simpa using h
      rw [List.cons_append, commentTail?_cons, if_pos ⟨hc.1, rfl⟩]
      rfl
    · next hc =>
      obtain ⟨⟨body, rest⟩, hs, he⟩ := Option.map_eq_some_iff.1 h
      obtain ⟨rfl, rfl⟩ : _ ∧ _ := by simpa using he
      obtain ⟨d, body, rfl⟩ := List.exists_cons_of_ne_nil (splits_commentTail? hs).2
      obtain rfl : t = d :: body ++ rest := (splits_commentTail? hs).1
      rw [List.cons_append, commentTail?_cons, if_neg (by exact hc), ih hs]
      rfl

theorem blockComment?_closed {t l r : Text} (h : blockComment? t = some (l, r)) (y : Text) :
    blockComment? (l ++ y) = some (l, y) := by
  match t with
  | [] | [_] => simp [blockComment?] at h
  | a :: c :: t =>
    simp only [blockComment?] at h
    split at h
    · next hc =>
      obtain ⟨⟨body, rest⟩, hs, he⟩ := Option.map_eq_some_iff.1 h
      obtain ⟨rfl, rfl⟩ : _ ∧ _ := by simpa using he
      simp only [List.cons_append, blockComment?, if_pos hc, commentTail?_closed hs y]
      rfl
    · simp at h

theorem cuts_blockComment? : Cuts blockComment? := .of_closed splits_blockComment? blockComment?_closed

theorem cuts_semicolon? : Cuts semicolon? := by
  refine .of_closed splits_semicolon? fun {t l r} h y => ?_
  cases t with
  | nil => simp [semicolon?] at h
  | cons c t =>
    simp only [semicolon?] at h
    split at h
    · next hc =>
      obtain ⟨rfl, rfl⟩ : _ ∧ _ := by simpa using h
      simp [semicolon?, hc]
    · simp at h

theorem of_lineComment?_eq_some {t l r : Text} (h : lineComment? t = some (l, r)) :
    ∃ a, l = text "//" ++ a ∧ lineFeed ∉ a ∧ ∀ c ∈ r.head?, c = lineFeed := by
  match t with
  | [] | [_] => simp [lineComment?] at h
  | a :: b :: cs =>
    simp only [lineComment?] at h
    split at h
    · next hab =>
      obtain ⟨rfl, rfl⟩ : a = CodePoint.ofChar '/' ∧ b = CodePoint.ofChar '/' := by simpa using hab
      obtain ⟨rfl, rfl⟩ := Prod.mk.inj (Option.some.inj h)
      refine ⟨_, rfl, fun hm => ?_, fun c hc => ?_⟩
      · exact absurd (List.mem_takeWhile_imp hm) (by simp)
      · have hhead := List.head?_dropWhile_not (fun c => decide (c ≠ lineFeed)) cs
        rw [Option.mem_def.1 hc] at hhead
        simpa using hhead
    · simp at h

/-- A comment goes on to the line feed behind it, or to the end of the text. -/
theorem lineComment?_text {a y : Text} (ha : lineFeed ∉ a) (hy : ∀ c ∈ y.head?, c = lineFeed) :
    lineComment? (text "//" ++ (a ++ y)) = some (text "//" ++ a, y) := by
  have hall : ∀ c ∈ a, decide (c ≠ lineFeed) = true := by
    intro c hc
    rw [decide_eq_true_iff]
    rintro rfl
    exact ha hc
  have hend : y.takeWhile (fun c => decide (c ≠ lineFeed)) = [] ∧ y.dropWhile (fun c => decide (c ≠ lineFeed)) = y := by
    cases y with
    | nil => exact ⟨rfl, rfl⟩
    | cons c y =>
      obtain rfl := hy c rfl
      simp
  show some (_ :: _ :: List.takeWhile _ (a ++ y), List.dropWhile _ (a ++ y)) = _
  rw [List.takeWhile_append_of_pos hall, List.dropWhile_append_of_pos hall, hend.1, hend.2, List.append_nil]
  rfl

theorem cuts_lineComment? : Cuts lineComment? where
  found {l v b} h := by
    obtain ⟨a, rfl, ha, hend⟩ := of_lineComment?_eq_some h
    refine (congrArg lineComment? (List.append_assoc ..)).trans (lineComment?_text ha fun c hc => hend c ?_)
    rw [List.head?_append, Option.mem_def.1 hc]
    rfl
  notFound {t b} h := by
    match t with
    | [] | [_] => rfl
    | a :: c :: cs =>
      simp only [List.cons_append, lineComment?, ite_eq_right_iff, reduceCtorEq, imp_false] at h ⊢
      exact h

theorem lineEndTail_lineFeed (t : Text) :
    lineEndTail (lineFeed :: t) = (lineFeed :: (lineEndTail t).1, (lineEndTail t).2) := by
  rw [lineEndTail.eq_def]
  rfl

theorem lineEndTail_cut {t b m v : Text} (h : lineEndTail (t ++ b) = (m, v ++ b)) (ht : t = m ++ v) :
    lineEndTail t = (m, v) := by
  fun_induction lineEndTail t generalizing m with
  | case1 =>
    obtain ⟨rfl, rfl⟩ : m = [] ∧ v = [] := by simpa using ht.symm
    rfl
  | case2 cs more rest hmore ih =>
    simp only [List.cons_append, lineEndTail_lineFeed, Prod.mk.injEq] at h
    obtain ⟨rfl, hr⟩ := h
    obtain ⟨rfl, rfl⟩ := Prod.mk.inj (hmore.symm.trans (ih (Prod.ext rfl hr) (List.cons.inj ht).2))
    rfl
  | case3 c hc d ds hcd more rest hmore ih =>
    simp only [List.cons_append, lineEndTail, if_neg hc, if_pos hcd, Prod.mk.injEq] at h
    obtain ⟨rfl, hr⟩ := h
    obtain ⟨rfl, rfl⟩ := Prod.mk.inj (hmore.symm.trans (ih (Prod.ext rfl hr) (List.cons.inj (List.cons.inj ht).2).2))
    rfl
  | case4 c hc d ds hcd =>
    simp only [List.cons_append, lineEndTail, if_neg hc, if_neg hcd, Prod.mk.injEq] at h
    obtain ⟨rfl, -⟩ := h
    rw [ht, List.nil_append]
  | case5 c hc =>
    -- the carriage return alone is no line end, though it may be one with what is cut off
    cases m with
    | nil => rw [ht, List.nil_append]
    | cons a m =>
      obtain ⟨rfl, rfl, rfl⟩ : c = a ∧ m = [] ∧ v = [] := by simpa using ht
      cases b with
      | nil => simp [lineEndTail, hc] at h
      | cons d b =>
        simp only [List.cons_append, List.nil_append, lineEndTail, if_neg hc] at h
        split at h <;> simp at h

theorem cuts_lineEnds? : Cuts lineEnds? where
  found {l v b} h := by
    cases l with
    | nil => exact absurd rfl (splits_lineEnds? h).2
    | cons c m =>
      simp only [List.cons_append, lineEnds?] at h ⊢
      split at h
      · next hc =>
        obtain ⟨hm, hr⟩ : _ ∧ _ := by simpa using h
        rw [← List.append_assoc] at hm hr
        rw [if_pos hc, lineEndTail_cut (Prod.ext hm hr) rfl]
      · simp at h
  notFound {t b} h := by
    cases t with
    | nil => rfl
    | cons c t =>
      simp only [List.cons_append, lineEnds?, ite_eq_right_iff, reduceCtorEq, imp_false] at h ⊢
      exact h

/-! ## one lexeme -/

theorem Cuts.tagged {scanner : Text → Option (Text × Text)} (h : Cuts scanner) (kind : Text → LexemeKind) :
    CutsLexemes (tagged kind scanner) where
  found hf := by
    obtain ⟨hs, rfl⟩ := of_tagged_eq_some hf
    rw [Source.tagged, h.found hs]
    rfl
  notFound hf := by
    rw [Source.tagged, Option.map_eq_none_iff] at hf ⊢
    exact h.notFound hf

theorem CutsLexemes.onlyIf {scanner : Text → Option (LexemeKind × Text × Text)} (h : CutsLexemes scanner)
    (admitted : Bool) : CutsLexemes (onlyIf admitted scanner) := by
  cases admitted with
  | false => exact ⟨fun hf => by simp [Source.onlyIf] at hf, fun _ => rfl⟩
  | true => exact h

theorem CutsLexemes.findSome? {α : Type} {l : List α} {scanner : α → Text → Option (LexemeKind × Text × Text)}
    (h : ∀ a ∈ l, CutsLexemes (scanner a)) : CutsLexemes fun t => l.findSome? fun a => scanner a t := by
  have notFound : ∀ {l : List α} {t b : Text}, (∀ a ∈ l, CutsLexemes (scanner a)) →
      (l.findSome? fun a => scanner a (t ++ b)) = none → (l.findSome? fun a => scanner a t) = none := by
    intro l t b h hf
    rw [List.findSome?_eq_none_iff] at hf ⊢
    exact fun a ha => (h a ha).notFound (hf a ha)
  refine ⟨fun {k l' v b} hf => ?_, notFound h⟩
  obtain ⟨l₁, a, l₂, rfl, ha, hnone⟩ := List.findSome?_eq_some_iff.1 hf
  refine List.findSome?_eq_some_iff.2 ⟨l₁, a, l₂, rfl, (h a (by simp)).found ha, fun x hx => ?_⟩
  refine (h x (by simp [hx])).notFound (b := b) ?_
  rw [List.append_assoc]
  exact hnone x hx

theorem cutsLexemes_spelled? (admits : Terminal → Bool) : CutsLexemes (spelled? admits) := by
  have hword : ∀ word : Text, word ≠ [] → Cuts fun t => (t.after? word).map fun rest => (word, rest) := by
    intro word hne
    refine .of_closed (fun {t s} h => ?_) fun {t l r} h y => ?_
    · obtain ⟨rest, hr, rfl⟩ := Option.map_eq_some_iff.1 h
      exact ⟨Text.after?_eq_some hr, hne⟩
    · obtain ⟨rest, hr, he⟩ := Option.map_eq_some_iff.1 h
      obtain ⟨rfl, rfl⟩ := Prod.mk.inj he
      simp [Text.after?_append]
  refine CutsLexemes.findSome? fun s hs => ?_
  convert ((hword s.1 (spellings_ne_nil s hs)).tagged fun _ => .token s.2).onlyIf (admits s.2) using 2 with t
  simp [Source.onlyIf, Source.tagged, Function.comp_def]

/-- A lexeme is found in a text as well if the text ends sooner, but not before the lexeme does. -/
theorem scan_cut {admits : Terminal → Bool} {kind : LexemeKind} {lexeme rest u : Text}
    (h : scan admits (lexeme ++ (rest ++ u)) = some (kind, lexeme, rest ++ u)) :
    scan admits (lexeme ++ rest) = some (kind, lexeme, rest) := by
  refine (CutsLexemes.findSome? fun f hf => ?_).found h
  simp only [scanners, List.mem_cons, List.not_mem_nil, or_false] at hf
  rcases hf with rfl | rfl | rfl | rfl | rfl | rfl | rfl | rfl | rfl
  · exact (cuts_string?.tagged _).onlyIf _
  · exact (cuts_name?.tagged _).onlyIf _
  · exact cuts_blockComment?.tagged _
  · exact (cuts_number?.tagged _).onlyIf _
  · exact cuts_lineComment?.tagged _
  · exact cuts_blanks?.tagged _
  · exact cuts_lineEnds?.tagged _
  · exact cuts_semicolon?.tagged _
  · exact cutsLexemes_spelled? admits

theorem State.ReadsOn.eq_of_nil {u : Text} {s s' : State} {pos : Pos} (h : State.ReadsOn u s pos [] s') : s' = s := by
  generalize ht : ([] : Text) = t at h
  cases h with
  | nil => rfl
  | blank => simp at ht
  | cons scanned => exact absurd (List.append_eq_nil_iff.1 ht.symm).1 (splits_scan scanned).2

/-- What is read of a text in front of another one is read of it alone. -/
theorem State.ReadsOn.reads {u : Text} {s s' : State} {pos : Pos} {t : Text} (h : State.ReadsOn u s pos t s') :
    s.Reads pos t s' := by
  induction h with
  | nil => exact .nil _ _
  | blank hc _ ih => exact (State.reads_blank_iff hc).2 ih
  | cons scanned read _ ih => exact .cons (scan_cut scanned) read ih

/-! ## fillers -/

/-- What may be put between two lexemes: a space, a tab, or a space and a comment within a line. -/
inductive Filler : Text → Prop
  | space : Filler (text " ")
  | tab : Filler (text "\t")
  | comment {c : Text} (whole : blockComment? c = some (c, [])) (oneLine : lineFeed ∉ c) :
      Filler (CodePoint.ofChar ' ' :: c)

theorem scan_blockComment (admits : Terminal → Bool) {t : Text} {s : Text × Text} (h : blockComment? t = some s) :
    scan admits t = some (.gap, s) := by
  match t with
  | [] | [_] => simp [blockComment?] at h
  | a :: b :: cs =>
    have hab : a = CodePoint.ofChar '/' ∧ b = CodePoint.ofChar '*' := by
      simp only [blockComment?] at h
      split at h
      · next hab => simpa using hab
      · simp at h
    obtain ⟨rfl, rfl⟩ := hab
    simp only [scan, scanners, List.findSome?_cons, tagged, h]
    cases admits .string <;> cases admits .name <;> rfl

namespace Filler

variable {g : Text} (h : Filler g)
include h

theorem lineFeed_notMem : lineFeed ∉ g := by
  cases h with
  | space | tab => decide
  | comment whole oneLine => simpa [oneLine] using (by decide : lineFeed ≠ CodePoint.ofChar ' ')

theorem exists_cons : ∃ c w, g = c :: w ∧ Separates c := by
  cases h with
  | space => exact ⟨_, _, rfl, separates_blank⟩
  | tab => exact ⟨_, _, rfl, by decide, by decide, by decide⟩
  | comment => exact ⟨_, _, rfl, separates_blank⟩

/-- A filler is skipped. -/
theorem reads_iff {s s' : State} {pos : Pos} {u : Text} : s.Reads pos (g ++ u) s' ↔ s.Reads (pos.after g) u s' := by
  cases h with
  | space | tab => exact State.reads_blank_iff (by decide)
  | @comment c whole oneLine =>
    rw [List.cons_append, State.reads_blank_iff (by decide),
      State.reads_cons_iff (scan_blockComment _ (blockComment?_closed whole u)) (rfl : _ = some s)]
    rfl

end Filler

/-- Line ends are read one by one. -/
theorem State.reads_lineEnds_iff {s s' : State} {pos : Pos} {t m : Text} (hm : (lineEndTail t).1 = m) (w : Text) :
    s.Reads pos (lineFeed :: (m ++ w)) s' ↔
      ∃ s₁, s.lineEnded? = some s₁ ∧ s₁.Reads (pos.after (lineFeed :: m)) w s' := by
  subst hm
  rw [State.reads_lineFeed_iff]
  refine exists_congr fun s₁ => and_congr_right fun h₁ => ?_
  have h₂ := State.lineEnded?_lineEnded? h₁
  rw [Pos.after_lineFeed]
  generalize (⟨pos.line + 1, 1⟩ : Pos) = q
  fun_induction lineEndTail t generalizing q with
  | case1 => rfl
  | case2 cs more rest hmore ih =>
    rw [hmore] at ih
    rw [List.cons_append, State.reads_lineFeed_iff, h₂, Pos.after_lineFeed]
    simpa using ih _
  | case3 c hc d ds hcd more rest hmore ih =>
    obtain ⟨rfl, rfl⟩ : c = CodePoint.ofChar '\r' ∧ d = lineFeed := by simpa using hcd
    rw [hmore] at ih
    rw [List.cons_append, List.cons_append, State.reads_blank_iff (by decide), State.reads_lineFeed_iff, h₂]
    show _ ↔ s₁.Reads ((q.next _).after (lineFeed :: more)) w s'
    rw [Pos.after_lineFeed]
    simpa using ih _
  | case4 => rfl
  | case5 => rfl

/-- What is read of a text is read of it with a filler behind it, too. -/
theorem State.ReadsOn.fill {u g : Text} (hg : Filler g) {s s₁ s' : State} {pos : Pos} {t : Text}
    (h : State.ReadsOn u s pos t s₁) (hu : s₁.Reads (pos.after (t ++ g)) u s') : s.Reads pos (t ++ (g ++ u)) s' := by
  induction h with
  | nil => exact hg.reads_iff.2 hu
  | blank hc _ ih => exact (State.reads_blank_iff hc).2 (ih hu)
  | @cons s s₂ s₁ pos lexeme rest kind scanned read reads ih =>
    have hun := (State.ReadsOn.cons scanned read reads).reads.not_unfinished
    rw [List.append_assoc, Pos.after_append] at hu
    have hrest := ih hu
    rw [List.append_assoc]
    by_cases hfeed : lexeme.head? = some lineFeed
    · obtain ⟨m, rfl⟩ := List.head?_eq_some_iff.1 hfeed
      rw [List.cons_append, scan_lineFeed] at scanned
      obtain ⟨rfl, hm, -⟩ : .lineEnd = kind ∧ (lineEndTail (m ++ (rest ++ u))).1 = m ∧ _ := by simpa using scanned
      exact (State.reads_lineEnds_iff hm _).2 ⟨s₂, read, hrest⟩
    cases hcomment : lineComment? (lexeme ++ (rest ++ u)) with
    | some l =>
      have hscan := scan_lineComment s.admits hcomment
      rw [scanned] at hscan
      obtain ⟨rfl, rfl⟩ : kind = .gap ∧ (lexeme, rest ++ u) = l := by simpa using hscan
      obtain rfl := Option.some.inj read
      obtain ⟨a, rfl, ha, hend⟩ := of_lineComment?_eq_some hcomment
      cases rest with
      | nil =>
        -- the comment goes on to the end of its line, and swallows the filler
        obtain rfl := reads.eq_of_nil
        have hfilled : lineFeed ∉ a ++ g := by simp [ha, hg.lineFeed_notMem]
        have hscan := scan_lineComment s₁.admits (lineComment?_text hfilled hend)
        refine .cons (by simpa using hscan) rfl ?_
        simpa [Pos.after_append] using hu
      | cons c rest =>
        exact .cons (scan_lineComment _ (lineComment?_text ha hend)) rfl hrest
    | none =>
      cases hblanks : blanks? (lexeme ++ (rest ++ u)) with
      | some l =>
        obtain ⟨rfl, hgap⟩ := gap_of_blanks? hblanks scanned
        obtain rfl := Option.some.inj read
        have hskip := State.ReadsOn.blanks (u := rest ++ (g ++ u)) hgap (.nil s (pos.after lexeme))
        rw [← List.append_nil lexeme, hskip.reads_iff, List.append_nil]
        exact hrest
      | none =>
        have hhead : (lexeme ++ rest).head? ≠ some lineFeed := by
          rwa [List.head?_append_of_ne_nil _ (splits_scan scanned).2]
        rw [← List.append_assoc] at hcomment hblanks
        obtain ⟨c, w, rfl, hc⟩ := hg.exists_cons
        have hscan := scan_append_separator hc (scan_cut scanned) hhead hun (cuts_lineComment?.notFound hcomment)
          (cuts_blanks?.notFound hblanks) (w ++ u)
        exact .cons (by simpa using hscan) read hrest

/-! ## where the source goes on -/

/-- That many columns further right, from a position on to the end of its line. -/
def Pos.push (p : Pos) (n : Nat) (q : Pos) : Pos :=
  if q.line = p.line ∧ p.column ≤ q.column then ⟨q.line, q.column + n⟩ else q

namespace Pos

theorem push_of_before {p q : Pos} (h : q.Before p) (n : Nat) : p.push n q = q := by
  unfold Before at h
  rw [push, if_neg (by omega)]

theorem push_self (p : Pos) (n : Nat) : p.push n p = ⟨p.line, p.column + n⟩ := if_pos ⟨rfl, Nat.le_refl _⟩

theorem push_next {p q : Pos} (h : ¬ q.Before p) (n : Nat) (c : CodePoint) :
    p.push n (q.next c) = (p.push n q).next c := by
  unfold Before at h
  by_cases hc : c = lineFeed
  · -- the next line is not that of `p`
    have hline : ¬ (q.line + 1 = p.line ∧ p.column ≤ 1) := by omega
    simp only [next, if_pos hc, push, if_neg hline]
    split <;> rfl
  · simp only [next, if_neg hc, push]
    split
    · next hq =>
      rw [if_pos (by omega)]
      simp only [Pos.mk.injEq, true_and]
      omega
    · next hq => rw [if_neg (by omega)]

theorem push_after {p q : Pos} (h : ¬ q.Before p) (n : Nat) (t : Text) :
    p.push n (q.after t) = (p.push n q).after t := by
  induction t generalizing q with
  | nil => rfl
  | cons c t ih =>
    have hnext : ¬ (q.next c).Before p := fun hb => h ((q.before_next c).trans hb)
    show p.push n ((q.next c).after t) = ((p.push n q).next c).after t
    rw [ih hnext, push_next h]

end Pos

/-- In the same program, where it goes on further right from a position on. -/
def Embedding.pushed (p : Pos) (n : Nat) : Embedding where
  move := p.push n
  scope := .program
  add_scope := Scope.add_program
  brackets_scope := Scope.brackets_program

/-- A source with a filler in front of a lexeme spells the same program, moved. -/
theorem parse_fill_of_readsOn {before behind g : Text} {s₁ : State} {p : Program} (hg : Filler g)
    (h : State.ReadsOn behind .start .start before s₁) (hp : parse (before ++ behind) = .ok p) :
    parse (before ++ (g ++ behind)) =
      .ok ⟨p.body.map (Stmt.move ((Pos.start.after before).push g.length))⟩ := by
  obtain ⟨s, hr, hs⟩ := parse_eq_ok_iff.1 hp
  obtain ⟨e, he⟩ := State.conclude?_eq_some_iff.1 hs
  have hbehind := h.reads_iff.1 hr
  generalize hq : Pos.start.after before = q at hbehind
  let c := Embedding.pushed q g.length
  -- all that is read in front of the filler keeps its place
  have hfixed : s₁.embed c = s₁ := by
    have hread : State.ReadsOn behind (State.start.embed c) .start before (s₁.embed c) := by
      refine h.embed c (fun v w hvw hw => ?_) (.inl rfl)
      refine Pos.push_of_before ?_ _
      rw [← hq, hvw, Pos.after_append]
      exact Pos.before_after _ hw
    exact hread.reads.unique h.reads
  have hmoved : (s₁.embed c).Reads (q.after g) behind (s.embed c) := by
    refine (hbehind.readsOn.embed c (fun v w _ _ => ?_) (.inl rfl)).reads
    rw [Pos.after_of_notMem q hg.lineFeed_notMem, ← Pos.push_self]
    exact Pos.push_after q.not_before_self _ _
  rw [hfixed, ← hq, ← Pos.after_append] at hmoved
  refine parse_eq_ok_iff.2 ⟨s.embed c, h.fill hg hmoved, ?_⟩
  refine State.conclude?_eq_some_iff.2 ⟨e, ?_⟩
  rw [State.lineEnded?_embed c (.inl rfl) he, ← List.map_reverse]
  rfl

/-! ## the lexemes of a source -/

/-- The lexemes of what is left of a source, as far as it can be read, gaps included. -/
def Reader.pieces (r : Reader) (t : Text) : List Text :=
  match t with
  | [] => []
  | c :: cs =>
    match _h : scan r.state.admits (c :: cs) with
    | none => []
    | some (kind, lexeme, rest) =>
      match r.read kind lexeme with
      | .error _ => [lexeme]
      | .ok r => lexeme :: pieces r rest
termination_by t.length
decreasing_by exact length_lt_of_scan _h

/-- The lexemes of a source, gaps included. -/
def pieces (source : Text) : List Text := Reader.start.pieces source

/-- A text that can be read is cut by its lexemes into what is read first and what is read then. -/
theorem Reader.Coherent.readsOn_pieces {r : Reader} (hr : r.Coherent) {t : Text} {s : State}
    (h : r.state.Reads r.pos t s) :
    (r.pieces t).flatten = t ∧
      ∀ n, ∃ s₁, State.ReadsOn ((r.pieces t).drop n).flatten r.state r.pos ((r.pieces t).take n).flatten s₁ := by
  fun_induction Reader.pieces r t with
  | case1 r => exact ⟨rfl, fun n => ⟨r.state, by simpa using State.ReadsOn.nil _ _⟩⟩
  | case2 r c cs hscan => exact absurd h (State.not_reads_of_scan hscan)
  | case3 r c cs kind lexeme rest hscan e hread =>
    obtain ⟨s₁, hs₁, -⟩ := (State.reads_iff_of_scan hscan).1 h
    obtain ⟨r', hr', -⟩ := hr.read hs₁
    simp [hread] at hr'
  | case4 r c cs kind lexeme rest hscan r' hread ih =>
    obtain ⟨s₁, hs₁, hreads⟩ := (State.reads_iff_of_scan hscan).1 h
    obtain ⟨r'', hr'', rfl, hpos, hcoherent⟩ := hr.read hs₁
    obtain rfl := Except.ok.inj (hread.symm.trans hr'')
    rw [← hpos] at hreads
    obtain ⟨hflatten, hcut⟩ := ih hcoherent hreads
    have hsplit : c :: cs = lexeme ++ rest := (splits_scan hscan).1
    refine ⟨by rw [List.flatten_cons, hflatten, hsplit], fun n => ?_⟩
    cases n with
    | zero => exact ⟨r.state, .nil _ _⟩
    | succ n =>
      obtain ⟨s₂, hs₂⟩ := hcut n
      have hjoin : ((r'.pieces rest).take n).flatten ++ ((r'.pieces rest).drop n).flatten = rest := by
        rw [← List.flatten_append, List.take_append_drop, hflatten]
      refine ⟨s₂, .cons ?_ hs₁ (hpos ▸ hs₂)⟩
      rw [List.drop_succ_cons, hjoin, ← hsplit, hscan]

theorem flatten_pieces {source : Text} {p : Program} (h : parse source = .ok p) : (pieces source).flatten = source := by
  obtain ⟨s, hr, -⟩ := parse_eq_ok_iff.1 h
  exact (Reader.coherent_start.readsOn_pieces hr).1

/-- A source with a filler between two of its lexemes, or at one of its ends, spells the same program, moved. -/
theorem parse_fill {source g : Text} {p : Program} (h : parse source = .ok p) (hg : Filler g) (n : Nat) :
    ∃ f, parse (((pieces source).take n).flatten ++ (g ++ ((pieces source).drop n).flatten)) =
      .ok ⟨p.body.map (Stmt.move f)⟩ := by
  obtain ⟨s, hr, -⟩ := parse_eq_ok_iff.1 h
  obtain ⟨s₁, hs₁⟩ := (Reader.coherent_start.readsOn_pieces hr).2 n
  refine ⟨_, parse_fill_of_readsOn hg hs₁ ?_⟩
  show parse (((pieces source).take n).flatten ++ ((pieces source).drop n).flatten) = _
  rw [← List.flatten_append, List.take_append_drop, flatten_pieces h, h]

end TypeLint.Source
