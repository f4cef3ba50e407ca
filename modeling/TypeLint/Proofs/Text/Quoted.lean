import Mathlib.Tactic.Ring
import TypeLint.Text.Quoted

/-!
# Quoted text is read back

Every text, lone surrogates and control characters included, is the value of its quoted form.

* `CodePoint.not_isSurrogate_of_isPrintable` — surrogates are escaped;
* `unescape_hex` — hexadecimal digits are read as the number that they spell;
* `escaped_cases` — what an escaped code point can be;
* `unescape_escaped` — an escaped code point is read as itself;
* `unquoted_quoted` — the value of a quoted text is the text.
-/

namespace TypeLint

/-! ## printable code points -/

namespace Text

/-- What lies in a range is found in the table, if no range before that one starts behind it. -/
theorem inRanges_of_find? {ranges : List (Nat × Nat)} {lo hi n : Nat}
    (h : ranges.find? (fun r => lo ≤ r.1) = some (lo, hi)) (hlo : lo ≤ n) (hhi : n ≤ hi) :
    inRanges n ranges = true := by
  induction ranges with
  | nil => simp at h
  | cons r ranges ih =>
    rw [inRanges]
    by_cases hr : lo ≤ r.1
    · obtain rfl : r = (lo, hi) := by simpa [hr] using h
      simp [hhi, Nat.not_lt.2 hlo]
    · have hn : ¬ n < r.1 := by omega
      rw [List.find?_cons_of_neg (by simpa using hr)] at h
      simp [hn, ih h]

end Text

theorem CodePoint.not_isSurrogate_of_isPrintable {c : CodePoint} (h : c.isPrintable = true) :
    c.isSurrogate = false := by
  by_contra hs
  have hs : 0xD800 ≤ c.val ∧ c.val < 0xE000 := by simpa [isSurrogate] using hs
  have hfind : unprintableRanges.find? (fun r => 0xd7fc ≤ r.1) = some (0xd7fc, 0xf8ff) := by decide +kernel
  have hrange := Text.inRanges_of_find? hfind (n := c.val) (by omega) (by omega)
  rw [isPrintable, if_neg (by omega), hrange] at h
  simp at h

theorem CodePoint.ne_zero_of_isPrintable {c : CodePoint} (h : c.isPrintable = true) : c.val ≠ 0 := by
  intro h0
  simp [isPrintable, h0] at h

namespace Text

/-! ## escapes -/

-- the equations of the two functions are made here, once for the proofs that follow
attribute [local simp] unescape Escape.step

theorem hexValue?_digit : ∀ d < 16, (digit d).hexValue? = some d := by decide

/-- Digits in front of the last one. -/
theorem unescape_hex_append (w left v n : Nat) (rest : Text) :
    unescape (.hex (w + left) v) (hex w n ++ rest) = unescape (.hex left (v * 16 ^ w + n % 16 ^ w)) rest := by
  induction w generalizing left n rest with
  | zero => simp [hex, Nat.mod_one]
  | succ w ih =>
    have hd := hexValue?_digit (n % 16) (Nat.mod_lt n (by decide))
    have hvalue : (v * 16 ^ w + n / 16 % 16 ^ w) * 16 + n % 16 = v * 16 ^ (w + 1) + n % 16 ^ (w + 1) := by
      rw [Nat.pow_succ', Nat.mod_mul]
      ring
    rw [hex, List.append_assoc, show w + 1 + left = w + (left + 1) by omega, ih, List.singleton_append]
    simp only [unescape, Escape.step, hd, bind, pure, Option.bind_some, List.nil_append, hvalue]
    cases unescape (.hex left (v * 16 ^ (w + 1) + n % 16 ^ (w + 1))) rest <;> rfl

/-- Hexadecimal digits are read as the number that they spell. -/
theorem unescape_hex {w n : Nat} (hn : n < 0x110000) (hw : n < 16 ^ (w + 1)) (rest : Text) :
    unescape (.hex w 0) (hex (w + 1) n ++ rest) = (unescape .outside rest).map (⟨n, hn⟩ :: ·) := by
  have hd := hexValue?_digit (n % 16) (Nat.mod_lt n (by decide))
  have hvalue : n / 16 % 16 ^ w * 16 + n % 16 = n := by
    have : n / 16 < 16 ^ w := by
      rw [Nat.pow_succ'] at hw
      omega
    rw [Nat.mod_eq_of_lt this]
    omega
  have h : unescape (.hex w 0) (hex w (n / 16) ++ digit (n % 16) :: rest) = _ := unescape_hex_append w 0 0 (n / 16) _
  rw [hex, List.append_assoc, List.singleton_append, h]
  simp only [unescape, Escape.step, hd, bind, pure, Option.bind_some, Nat.zero_mul, Nat.zero_add, hvalue,
    CodePoint.ofNat?, dif_pos hn]
  cases unescape .outside rest <;> rfl

/-- A backslash and the code point behind it. -/
theorem unescape_backslash {e : CodePoint} {out : Text} {next : Escape} (h : Escape.stepOpened e = some (out, next))
    (rest : Text) :
    unescape .outside (CodePoint.ofChar '\\' :: e :: rest) = (unescape next rest).map (out ++ ·) := by
  have hopen : Escape.stepOutside (CodePoint.ofChar '\\') = some ([], .opened) := rfl
  simp only [unescape, Escape.step, hopen, h, bind, pure, Option.bind_some, List.nil_append]
  cases unescape next rest <;> rfl

/-- The code points behind the backslash of an escape. -/
def escapeSigns : Text := text "\\'\"nrtxuU"

section Quotes

variable {q : CodePoint} (hq : q = '\'' ∨ q = '"')
include hq

/-- An escaped code point is itself, or a sign that stands for it, or its number. -/
theorem escaped_cases (c : CodePoint) :
    (escaped q c = [c] ∧ c.isPrintable = true ∧ c ≠ '\\' ∧ c ≠ q ∧ c ≠ '\n' ∧ c ≠ '\r') ∨
    (∃ e ∈ escapeSigns, escaped q c = [CodePoint.ofChar '\\', e] ∧ Escape.stepOpened e = some ([c], .outside)) ∨
    ∃ e ∈ escapeSigns, ∃ w, escaped q c = CodePoint.ofChar '\\' :: e :: hex (w + 1) c.val ∧
      Escape.stepOpened e = some ([], .hex w 0) ∧ c.val < 16 ^ (w + 1) := by
  by_cases hslash : c = '\\'
  · refine .inr (.inl ⟨'\\', by decide, ?_, by rw [hslash]; rfl⟩)
    rw [escaped, if_pos hslash]
    rfl
  by_cases hquote : c = q
  · refine .inr (.inl ⟨c, ?_, by rw [escaped, if_neg hslash, if_pos hquote], ?_⟩)
    · rcases hq with rfl | rfl <;> rw [hquote] <;> decide
    · rcases hq with rfl | rfl <;> rw [hquote] <;> rfl
  by_cases hfeed : c = '\n'
  · refine .inr (.inl ⟨'n', by decide, ?_, by rw [hfeed]; rfl⟩)
    rw [escaped, if_neg hslash, if_neg hquote, if_pos hfeed]
    rfl
  by_cases hreturn : c = '\r'
  · refine .inr (.inl ⟨'r', by decide, ?_, by rw [hreturn]; rfl⟩)
    rw [escaped, if_neg hslash, if_neg hquote, if_neg hfeed, if_pos hreturn]
    rfl
  by_cases htab : c = '\t'
  · refine .inr (.inl ⟨'t', by decide, ?_, by rw [htab]; rfl⟩)
    rw [escaped, if_neg hslash, if_neg hquote, if_neg hfeed, if_neg hreturn, if_pos htab]
    rfl
  have hrest : escaped q c = if c.isPrintable then [c]
      else if c.val < 0x100 then text "\\x" ++ hex 2 c.val
      else if c.val < 0x10000 then text "\\u" ++ hex 4 c.val
      else text "\\U" ++ hex 8 c.val := by
    rw [escaped, if_neg hslash, if_neg hquote, if_neg hfeed, if_neg hreturn, if_neg htab]
  rw [hrest]
  by_cases hprint : c.isPrintable = true
  · rw [if_pos hprint]
    exact .inl ⟨rfl, hprint, hslash, hquote, hfeed, hreturn⟩
  rw [if_neg hprint]
  by_cases h2 : c.val < 0x100
  · rw [if_pos h2]
    exact .inr (.inr ⟨'x', by decide, 1, rfl, rfl, h2⟩)
  rw [if_neg h2]
  by_cases h4 : c.val < 0x10000
  · rw [if_pos h4]
    exact .inr (.inr ⟨'u', by decide, 3, rfl, rfl, h4⟩)
  · rw [if_neg h4]
    have := c.isLt
    exact .inr (.inr ⟨'U', by decide, 7, rfl, rfl, by omega⟩)

/-- An escaped code point is read as itself. -/
theorem unescape_escaped (c : CodePoint) (rest : Text) :
    unescape .outside (escaped q c ++ rest) = (unescape .outside rest).map (c :: ·) := by
  rcases escaped_cases hq c with ⟨he, -, hslash, -, -, hreturn⟩ | ⟨e, -, he, hopen⟩ | ⟨e, -, w, he, hopen, hw⟩
  · have hstep : Escape.stepOutside c = some ([c], .outside) := by
      rw [Escape.stepOutside, if_neg hslash, if_neg hreturn]
    rw [he]
    simp only [List.singleton_append, unescape, Escape.step, hstep, bind, pure, Option.bind_some]
    cases unescape .outside rest <;> rfl
  · rw [he]
    exact unescape_backslash hopen rest
  · rw [he, List.cons_append, List.cons_append, unescape_backslash hopen, unescape_hex c.isLt hw, Option.map_map]
    rfl

theorem unescape_flatMap_escaped (t : Text) : unescape .outside (t.flatMap (escaped q)) = some t := by
  induction t with
  | nil => rfl
  | cons c t ih =>
    rw [List.flatMap_cons, unescape_escaped hq, ih]
    rfl

end Quotes

/-! ## what stands between the quotes -/

theorem quoteFor_eq (t : Text) : quoteFor t = '\'' ∨ quoteFor t = '"' := by
  unfold quoteFor
  split
  · exact .inr rfl
  · exact .inl rfl

theorem mem_hex {w n : Nat} {c : CodePoint} (h : c ∈ hex w n) : ∃ d < 16, c = digit d := by
  induction w generalizing n with
  | zero => simp [hex] at h
  | succ w ih =>
    rw [hex, List.mem_append, List.mem_singleton] at h
    rcases h with h | rfl
    · exact ih h
    · exact ⟨n % 16, Nat.mod_lt n (by decide), rfl⟩

theorem digit_readable : ∀ d < 16, (digit d).isSurrogate = false ∧ (digit d).val ≠ 0 := by decide

/-- Neither a surrogate nor the code point zero is left in an escaped code point. -/
theorem readable_of_mem_escaped {q c d : CodePoint} (hq : q = '\'' ∨ q = '"') (h : d ∈ escaped q c) :
    d.isSurrogate = false ∧ d.val ≠ 0 := by
  have hsigns : ∀ e ∈ CodePoint.ofChar '\\' :: escapeSigns, e.isSurrogate = false ∧ e.val ≠ 0 := by decide
  rcases escaped_cases hq c with ⟨he, hprint, -⟩ | ⟨e, hmem, he, -⟩ | ⟨e, hmem, w, he, -⟩
  · rw [he] at h
    obtain rfl := List.mem_singleton.1 h
    exact ⟨CodePoint.not_isSurrogate_of_isPrintable hprint, CodePoint.ne_zero_of_isPrintable hprint⟩
  · rw [he] at h
    have hsub : [CodePoint.ofChar '\\', e] ⊆ CodePoint.ofChar '\\' :: escapeSigns := by simp [hmem]
    exact hsigns d (hsub h)
  · rw [he, List.mem_cons, List.mem_cons] at h
    rcases h with rfl | rfl | h
    · exact hsigns _ List.mem_cons_self
    · exact hsigns _ (List.mem_cons_of_mem _ hmem)
    · obtain ⟨k, hk, rfl⟩ := mem_hex h
      exact digit_readable k hk

theorem readable_of_mem_quoted {t : Text} {d : CodePoint} (h : d ∈ quoted t) : d.isSurrogate = false ∧ d.val ≠ 0 := by
  have hq := quoteFor_eq t
  have hquote : (quoteFor t).isSurrogate = false ∧ (quoteFor t).val ≠ 0 := by
    rcases hq with h | h <;> rw [h] <;> decide
  simp only [quoted, List.cons_append, List.mem_cons, List.mem_append, List.mem_flatMap, List.not_mem_nil,
    or_false] at h
  rcases h with rfl | ⟨c, -, hc⟩ | rfl
  · exact hquote
  · exact readable_of_mem_escaped hq hc
  · exact hquote

/-- The value of a quoted text is the text. -/
theorem unquoted_quoted (t : Text) : unquoted (quoted t) = .ok t := by
  have hsurrogate : (quoted t).any CodePoint.isSurrogate = false := by
    simpa using fun d hd => (readable_of_mem_quoted hd).1
  have hzero : (quoted t).any (·.val = 0) = false := by
    simpa using fun d hd => (readable_of_mem_quoted hd).2
  have hbody : (quoted t).tail.dropLast = t.flatMap (escaped (quoteFor t)) := by simp [quoted]
  simp only [unquoted, hsurrogate, hzero, hbody, unescape_flatMap_escaped (quoteFor_eq t)]
  simp

end Text

end TypeLint
