import TypeLint.Proofs.Source.Lines
import TypeLint.Proofs.Source.Members
import TypeLint.Proofs.Source.Places
import TypeLint.Proofs.Text.Quoted
import TypeLint.Tree.Build

/-!
# Words with blanks between them

A text can be written word by word, with a blank before each.  If a word by itself is a token at its place, it is that
token in the text, so what such a text is read as can be found word by word.

* `string?_quoted`, `number?_ofNat` — a quoted text is a string, and a numeral a number;
* `numberValue_ofNat` — the value of a numeral is the number;
* `scan_word`, `scan_numeral`, `scan_quoted` — names, numerals and strings where they are looked for;
* `State.Takes` — what holds behind some words, wherever they stand;
* `State.Takes.reads` — the words are read.
-/

namespace TypeLint.Source

open CodePoint (lineFeed)

/-! ## strings -/

/-- The text belongs to a string between the quotes `q`, whatever is behind it. -/
def InString (q : CodePoint) (w : Text) : Prop :=
  ∀ rest, stringTail? q (w ++ rest) = (stringTail? q rest).map fun s => (w ++ s.1, s.2)

theorem InString.append {q : CodePoint} {w w' : Text} (h : InString q w) (h' : InString q w') :
    InString q (w ++ w') := by
  intro rest
  rw [List.append_assoc, h, h', Option.map_map]
  simp [Function.comp_def]

/-- What neither closes a string nor opens an escape belongs to it. -/
theorem inString_plain {q : CodePoint} {w : Text} (hw : ∀ c ∈ w, c ≠ q ∧ c ≠ lineFeed ∧ c ≠ '\\') :
    InString q w := by
  intro rest
  induction w with
  | nil => simp
  | cons c w ih =>
    obtain ⟨⟨hq, hfeed, hslash⟩, hw⟩ := List.forall_mem_cons.1 hw
    rw [List.cons_append, stringTail?.eq_def]
    simp only [if_neg hq, if_neg hfeed, if_neg hslash, ih hw]
    cases stringTail? q rest <;> rfl

/-- A backslash and the code point behind it belong to a string. -/
theorem inString_backslash {q e : CodePoint} (hq : q ≠ '\\') (he : e ≠ lineFeed) :
    InString q [CodePoint.ofChar '\\', e] := by
  intro rest
  show stringTail? q (CodePoint.ofChar '\\' :: e :: rest) = _
  rw [stringTail?, if_neg (Ne.symm hq), if_neg (by decide), if_pos rfl, if_neg he]
  rfl

theorem digit_inString : ∀ d < 16, Text.digit d ≠ '\'' ∧ Text.digit d ≠ '"' ∧ Text.digit d ≠ lineFeed ∧
    Text.digit d ≠ '\\' := by
  decide

section Quotes

variable {q : CodePoint} (hq : q = '\'' ∨ q = '"')
include hq

theorem inString_hex (w n : Nat) : InString q (Text.hex w n) := by
  refine inString_plain fun d hd => ?_
  obtain ⟨k, hk, rfl⟩ := Text.mem_hex hd
  obtain ⟨h1, h2, h3, h4⟩ := digit_inString k hk
  rcases hq with rfl | rfl
  · exact ⟨h1, h3, h4⟩
  · exact ⟨h2, h3, h4⟩

/-- An escaped code point belongs to a string. -/
theorem inString_escaped (c : CodePoint) : InString q (Text.escaped q c) := by
  have hslash : q ≠ '\\' := by rcases hq with rfl | rfl <;> decide
  have hfeed : ∀ e ∈ Text.escapeSigns, e ≠ lineFeed := by decide
  rcases Text.escaped_cases hq c with ⟨he, -, hc, hquote, hline, -⟩ | ⟨e, hmem, he, -⟩ | ⟨e, hmem, w, he, -⟩
  · rw [he]
    exact inString_plain (by simpa using ⟨hquote, hline, hc⟩)
  · rw [he]
    exact inString_backslash hslash (hfeed e hmem)
  · rw [he]
    exact (inString_backslash hslash (hfeed e hmem)).append (inString_hex hq (w + 1) c.val)

theorem stringTail?_flatMap_escaped (t : Text) :
    stringTail? q (t.flatMap (Text.escaped q) ++ [q]) = some (t.flatMap (Text.escaped q) ++ [q], []) := by
  induction t with
  | nil => simp [stringTail?]
  | cons c t ih =>
    rw [List.flatMap_cons, List.append_assoc, inString_escaped hq c, ih]
    rfl

end Quotes

/-- A quoted text is a string. -/
theorem string?_quoted (t : Text) : string? t.quoted = some (t.quoted, []) := by
  have hq := Text.quoteFor_eq t
  have hopen : (Text.quoteFor t = '"' || Text.quoteFor t = '\'') = true := by
    rcases hq with h | h <;> rw [h] <;> decide
  rw [Text.quoted, List.cons_append, string?, if_pos hopen, stringTail?_flatMap_escaped hq]
  rfl

/-! ## numerals -/

theorem digitValue?_ofChar {c : Char} (hc : c.isDigit = true) :
    (CodePoint.ofChar c).digitValue? = some (c.toNat - '0'.toNat) := by
  obtain ⟨hlo, hhi⟩ : 48 ≤ c.toNat ∧ c.toNat ≤ 57 := by
    simp only [Char.isDigit, Bool.and_eq_true, decide_eq_true_eq, ge_iff_le, UInt32.le_iff_toNat_le] at hc
    exact hc
  have hval : (CodePoint.ofChar c).val = c.toNat := rfl
  have hdigit : (CodePoint.ofChar c).isAsciiDigit = true := by
    simp [CodePoint.isAsciiDigit, CodePoint.within, hval, hlo, hhi]
  rw [CodePoint.digitValue?, if_pos (by omega), if_pos hdigit, hval]
  rfl

theorem isDigit_of_mem_ofNat {n : Nat} {c : CodePoint} (h : c ∈ Text.ofNat n) : c.isDigit = true := by
  obtain ⟨d, hd, rfl⟩ := List.mem_map.1 h
  rw [CodePoint.isDigit, digitValue?_ofChar (Nat.isDigit_of_mem_toDigits (by decide) (by decide) hd)]
  rfl

theorem ofNat_ne_nil (n : Nat) : Text.ofNat n ≠ [] := by
  simp [Text.ofNat]

/-- A numeral is a number. -/
theorem number?_ofNat (n : Nat) : number? (Text.ofNat n) = some (Text.ofNat n, []) := by
  obtain ⟨c, cs, hcs⟩ := List.exists_cons_of_ne_nil (ofNat_ne_nil n)
  have hdigits : ∀ d ∈ c :: cs, d.isDigit = true := fun d hd => isDigit_of_mem_ofNat (hcs ▸ hd)
  obtain ⟨hc, hrest⟩ := List.forall_mem_cons.1 hdigits
  have hnumber : digits? (c :: cs) = some (c :: cs, []) := by
    rw [digits?, if_pos hc, List.takeWhile_eq_self_iff.2 hrest, List.dropWhile_eq_nil_iff.2 hrest]
  simp [hcs, number?, hnumber, fraction?]

theorem decimalValue_ofNat (n : Nat) : decimalValue (Text.ofNat n) = n := by
  have hvalues : (Text.ofNat n).filterMap CodePoint.digitValue? =
      (Nat.toDigits 10 n).map fun c => c.toNat - '0'.toNat := by
    rw [Text.ofNat, List.filterMap_map, ← List.filterMap_eq_map]
    refine List.filterMap_congr fun c hc => ?_
    exact digitValue?_ofChar (Nat.isDigit_of_mem_toDigits (by decide) (by decide) hc)
  have h := Nat.ofDigitChars_ten_toDigits (n := n)
  simp only [Nat.ofDigitChars, Nat.mul_comm 10] at h
  rw [decimalValue, hvalues, Text.ofDigits, List.foldl_map, h]

theorem cut_of_notMem {sep : CodePoint} {t : Text} (h : sep ∉ t) : t.cut sep = (t, none) := by
  induction t with
  | nil => rfl
  | cons c t ih =>
    rw [List.mem_cons, not_or] at h
    rw [Text.cut, if_neg (Ne.symm h.1), ih h.2]

/-- The value of a numeral is the number, if it does not have too many digits. -/
theorem numberValue_ofNat {n : Nat} (h : (Text.ofNat n).length ≤ Text.maxDigits) :
    numberValue (Text.ofNat n) = .ok (.int n) := by
  have hpoint : CodePoint.ofChar '.' ∉ Text.ofNat n := fun hmem => absurd (isDigit_of_mem_ofNat hmem) (by decide)
  rw [numberValue, cut_of_notMem hpoint]
  simp only [if_neg (Nat.not_lt.2 h), decimalValue_ofNat]

/-! ## one word at its place -/

/-- No digit starts a name. -/
theorem isDigit_of_isNameStart {c : CodePoint} (h : isNameStart c = true) : c.isDigit = false := by
  have hval : 65 ≤ c.val ∧ c.val < 128 ∨ c.val = 36 := by
    simp only [isNameStart, CodePoint.isAsciiLetter, CodePoint.within, Bool.or_eq_true, Bool.and_eq_true,
      decide_eq_true_eq, Char.reduceToNat] at h
    rcases h with (h | rfl) | rfl
    · omega
    · exact .inl (by decide)
    · exact .inr rfl
  have hdigit : c.isAsciiDigit = false := by
    simp only [CodePoint.isAsciiDigit, CodePoint.within, Char.reduceToNat, Bool.and_eq_false_iff,
      decide_eq_false_iff_not]
    omega
  rw [CodePoint.isDigit, CodePoint.digitValue?, if_pos (by omega), hdigit]
  rfl

section Scan

variable {admits : Terminal → Bool}

/-- A name is a name where no word is a keyword. -/
theorem scan_word (ha : admits .name = true) (hkeyword : ∀ s ∈ spellings, admits s.2 = true → name? s.1 = none)
    {w : Text} (hw : name? w = some (w, [])) : scan admits w = some (.token .name, w, []) := by
  have hkind : wordKind admits w = .name := by
    rcases wordKind_eq admits w with h | ⟨h, hmem⟩
    · exact h
    · simp [hkeyword _ hmem h] at hw
  cases w with
  | nil => simp [name?] at hw
  | cons c cs =>
    simp only [name?] at hw
    split at hw
    · next hc =>
      obtain ⟨htake, hdrop⟩ : cs.takeWhile isNamePart = cs ∧ cs.dropWhile isNamePart = [] := by simpa using hw
      rw [scan_name ha hc, htake, hdrop, hkind]
    · simp at hw

theorem scan_quoted (ha : admits .string = true) (t : Text) :
    scan admits t.quoted = some (.token .string, t.quoted, []) := by
  simp [scan, scanners, onlyIf, tagged, ha, string?_quoted]

theorem scan_numeral (ha : admits .number = true) (n : Nat) :
    scan admits (Text.ofNat n) = some (.token .number, Text.ofNat n, []) := by
  have hnumber := number?_ofNat n
  obtain ⟨c, cs, hcs⟩ := List.exists_cons_of_ne_nil (ofNat_ne_nil n)
  have hc : c.isDigit = true := isDigit_of_mem_ofNat (n := n) (by simp [hcs])
  rw [hcs] at hnumber ⊢
  have hstring : string? (c :: cs) = none := by
    refine if_neg fun hq => ?_
    rcases (by simpa using hq : c = CodePoint.ofChar '"' ∨ c = CodePoint.ofChar '\'') with rfl | rfl <;>
      exact absurd hc (by decide)
  have hname : name? (c :: cs) = none := by
    refine if_neg fun hstart => ?_
    rw [isDigit_of_isNameStart hstart] at hc
    exact Bool.false_ne_true hc
  have hcomment : blockComment? (c :: cs) = none := by
    refine blockComment?_cons ?_ cs
    rintro rfl
    exact absurd hc (by decide)
  simp [scan, scanners, onlyIf, tagged, ha, hnumber, hstring, hname, hcomment]

end Scan

/-- A text that is a token stays that token in front of a blank. -/
theorem scan_append_blank {admits : Terminal → Bool} {w : Text} {k : Terminal}
    (h : scan admits w = some (.token k, w, [])) (u : Text) :
    scan admits (w ++ CodePoint.ofChar ' ' :: u) = some (.token k, w, CodePoint.ofChar ' ' :: u) := by
  have hhead : w.head? ≠ some lineFeed := by
    intro hw
    obtain ⟨cs, rfl⟩ := List.head?_eq_some_iff.1 hw
    simp [scan_lineFeed] at h
  have hun : ¬ Unfinished w := by
    intro hun
    obtain ⟨-, cs, hcs⟩ := of_scan_unfinished hun h
    simp at hcs
  have hcomment : lineComment? w = none := by
    cases hl : lineComment? w with
    | none => rfl
    | some l => simp [scan_lineComment admits hl] at h
  have hblanks : blanks? w = none := by
    cases w with
    | nil => rfl
    | cons c cs =>
      refine if_neg fun hc => ?_
      simp [scan_blanks hc] at h
  exact scan_append_separator separates_blank h hhead hun hcomment hblanks u

/-! ## word by word -/

/-- What holds behind some words: each by itself is a token at its place, which leads on wherever it stands. -/
def State.Takes : State → List Text → (State → Prop) → Prop
  | s, [], post => post s
  | s, w :: ws, post =>
    ∃ k, scan s.admits w = some (.token k, w, []) ∧ ∀ pos, ∃ s', s.step ⟨k, w, pos⟩ = some s' ∧ s'.Takes ws post

section Takes

variable {s : State} {ws : List Text} {post : State → Prop}

theorem State.Takes.mono {post' : State → Prop} (h : s.Takes ws post) (hpost : ∀ s', post s' → post' s') :
    s.Takes ws post' := by
  induction ws generalizing s with
  | nil => exact hpost s h
  | cons w ws ih =>
    obtain ⟨k, hscan, hstep⟩ := h
    refine ⟨k, hscan, fun pos => ?_⟩
    obtain ⟨s', hs', h⟩ := hstep pos
    exact ⟨s', hs', ih h⟩

theorem State.takes_append {ws' : List Text} :
    s.Takes (ws ++ ws') post ↔ s.Takes ws fun s' => s'.Takes ws' post := by
  induction ws generalizing s with
  | nil => rfl
  | cons w ws ih => simp only [List.cons_append, State.Takes, ih]

/-- Words behind words. -/
theorem State.Takes.append {ws' : List Text} {post' : State → Prop} (h : s.Takes ws post)
    (h' : ∀ s', post s' → s'.Takes ws' post') : s.Takes (ws ++ ws') post' :=
  State.takes_append.2 (h.mono h')

/-- One word more. -/
theorem State.Takes.cons {w : Text} {k : Terminal} {next : Pos → State}
    (hscan : scan s.admits w = some (.token k, w, [])) (hstep : ∀ pos, s.step ⟨k, w, pos⟩ = some (next pos))
    (h : ∀ pos, (next pos).Takes ws post) : s.Takes (w :: ws) post :=
  ⟨k, hscan, fun pos => ⟨next pos, hstep pos, h pos⟩⟩

/-- The words with a blank before each. -/
def spaced (ws : List Text) : Text := ws.flatMap fun w => CodePoint.ofChar ' ' :: w

theorem scan_append_spaced {admits : Terminal → Bool} {w : Text} {k : Terminal}
    (h : scan admits w = some (.token k, w, [])) (ws : List Text) :
    scan admits (w ++ spaced ws) = some (.token k, w, spaced ws) := by
  cases ws with
  | nil => simpa [spaced] using h
  | cons v ws => exact scan_append_blank h _

/-- Words that can be taken are read. -/
theorem State.Takes.reads (h : s.Takes ws post) (pos : Pos) : ∃ s', s.Reads pos (spaced ws) s' ∧ post s' := by
  induction ws generalizing s pos with
  | nil => exact ⟨s, .nil s pos, h⟩
  | cons w ws ih =>
    obtain ⟨k, hscan, hstep⟩ := h
    obtain ⟨s₁, hs₁, h⟩ := hstep (pos.next (CodePoint.ofChar ' '))
    obtain ⟨s', hreads, hpost⟩ := ih h ((pos.next (CodePoint.ofChar ' ')).after w)
    refine ⟨s', ?_, hpost⟩
    show s.Reads pos (CodePoint.ofChar ' ' :: (w ++ spaced ws)) s'
    rw [State.reads_blank_iff (by decide)]
    exact .cons (scan_append_spaced hscan ws) hs₁ hreads

/-- Words joined by blanks. -/
theorem blank_append_join {ws : List Text} (h : ws ≠ []) :
    CodePoint.ofChar ' ' :: Text.join (text " ") ws = spaced ws := by
  induction ws with
  | nil => exact absurd rfl h
  | cons w ws ih =>
    cases ws with
    | nil => simp [Text.join, spaced]
    | cons v ws =>
      have hjoin : Text.join (text " ") (w :: v :: ws) = w ++ CodePoint.ofChar ' ' :: Text.join (text " ") (v :: ws) := by
        simp [Text.join, text]
      rw [hjoin, ih (by simp)]
      simp [spaced]

end Takes

end TypeLint.Source
