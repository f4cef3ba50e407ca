import TypeLint.Json.Reader
import TypeLint.Json.Writer
import TypeLint.Proofs.Source.Words
import TypeLint.Proofs.Text.Quoted

/-!
# Written values are read back

A value that is written as one line of JSON is a document, and is read back as itself, except that two surrogates that
follow each other in a text are read as one code point.

* `joined` — a value as it is read back;
* `Readable` — the values for which this holds: they have no fractions, and no numbers of too many digits;
* `string_flatMap_escape` — a text between quotes is read back;
* `value_write` — a value in front of what may follow it is read back;
* `read_write` — a line with a value is a document.
-/

namespace TypeLint.Json

/-! ## what is read back -/

/-- A text as it is read back: two surrogates, the high one first, are one code point. -/
def joinedText : Text → Text
  | c :: d :: t =>
    match joinSurrogates? c.val d.val with
    | some e => e :: joinedText t
    | none => c :: joinedText (d :: t)
  | t => t

mutual

/-- A value as it is read back. -/
def joined : Json → Json
  | .str t => .str (joinedText t)
  | .arr items => .arr (joinedItems items)
  | .obj members => .obj (joinedMembers [] members)
  | v => v

/-- The items of an array as they are read back. -/
def joinedItems : List Json → List Json
  | [] => []
  | v :: vs => v.joined :: joinedItems vs

/-- Members as they are read back behind others. -/
def joinedMembers (read : List (Text × Json)) : List (Text × Json) → List (Text × Json)
  | [] => read
  | (k, v) :: ms => joinedMembers (set (joinedText k) v.joined read) ms

end

mutual

/-- A value without fractions, and without numbers of too many digits. -/
def Readable : Json → Prop
  | .int n => (Text.ofNat n.natAbs).length ≤ Text.maxDigits
  | .float _ => False
  | .arr items => ReadableItems items
  | .obj members => ReadableMembers members
  | _ => True

/-- Such items. -/
def ReadableItems : List Json → Prop
  | [] => True
  | v :: vs => v.Readable ∧ ReadableItems vs

/-- Such members. -/
def ReadableMembers : List (Text × Json) → Prop
  | [] => True
  | (_, v) :: ms => v.Readable ∧ ReadableMembers ms

end

/-! ## texts -/

theorem hex4?_hex {n : Nat} (hn : n < 0x10000) {rest : Text} (hrest : rest ≠ []) :
    hex4? (Text.hex 4 n ++ rest) = some n := by
  obtain ⟨c, rest, rfl⟩ := List.exists_cons_of_ne_nil hrest
  have hdigit := fun k => Text.hexValue?_digit (k % 16) (Nat.mod_lt k (by decide))
  simp only [Text.hex, List.nil_append, List.cons_append, hex4?, hdigit, bind, Option.bind_some, pure,
    Option.some.injEq]
  omega

/-- The two surrogates that a code point is written with. -/
theorem joinSurrogates?_split {c : CodePoint} (hc : 0x10000 ≤ c.val) :
    joinSurrogates? (0xD800 + (c.val - 0x10000) / 0x400) (0xDC00 + (c.val - 0x10000) % 0x400) = some c := by
  have hlt := c.isLt
  have hhigh : (c.val - 0x10000) / 0x400 < 0x400 := by omega
  have hlow : (c.val - 0x10000) % 0x400 < 0x400 := by omega
  have hval : 0x10000 + (0xD800 + (c.val - 0x10000) / 0x400 - 0xD800) * 0x400 +
      (0xDC00 + (c.val - 0x10000) % 0x400 - 0xDC00) = c.val := by omega
  rw [joinSurrogates?, if_pos, hval, CodePoint.ofNat?, dif_pos hlt]
  simp only [Bool.and_eq_true, decide_eq_true_eq]
  omega

/-- An escaped code point is itself, a sign that stands for it, its number, or the numbers of two surrogates. -/
theorem escape_cases (c : CodePoint) :
    (escape c = [c] ∧ c ≠ '"' ∧ c ≠ '\\' ∧ ¬ c.val ≤ 0x1f) ∨
    (∃ e, escape c = [CodePoint.ofChar '\\', e] ∧ e ≠ 'u' ∧ escapeOf? e = some c) ∨
    (escape c = unit c.val ∧ c.val < 0x10000) ∨
    ∃ high low, escape c = unit high ++ unit low ∧ high < 0xDC00 ∧ low < 0xE000 ∧
      joinSurrogates? high low = some c := by
  by_cases hquote : c = '"'
  · exact .inr (.inl ⟨'"', by rw [escape, if_pos hquote]; rfl, by decide, by rw [hquote]; rfl⟩)
  by_cases hslash : c = '\\'
  · exact .inr (.inl ⟨'\\', by rw [hslash]; rfl, by decide, by rw [hslash]; rfl⟩)
  by_cases hfeed : c = '\n'
  · exact .inr (.inl ⟨'n', by rw [hfeed]; rfl, by decide, by rw [hfeed]; rfl⟩)
  by_cases hreturn : c = '\r'
  · exact .inr (.inl ⟨'r', by rw [hreturn]; rfl, by decide, by rw [hreturn]; rfl⟩)
  by_cases htab : c = '\t'
  · exact .inr (.inl ⟨'t', by rw [htab]; rfl, by decide, by rw [htab]; rfl⟩)
  by_cases hform : c = '\x0c'
  · exact .inr (.inl ⟨'f', by rw [hform]; rfl, by decide, by rw [hform]; rfl⟩)
  by_cases hback : c = '\x08'
  · exact .inr (.inl ⟨'b', by rw [hback]; rfl, by decide, by rw [hback]; rfl⟩)
  rw [escape, if_neg hquote, if_neg hslash, if_neg hfeed, if_neg hreturn, if_neg htab, if_neg hform, if_neg hback]
  by_cases hplain : c.within ' ' '~' = true
  · refine .inl ⟨if_pos hplain, hquote, hslash, ?_⟩
    simp only [CodePoint.within, Bool.and_eq_true, decide_eq_true_eq, Char.reduceToNat] at hplain
    omega
  rw [if_neg hplain]
  by_cases hunit : c.val < 0x10000
  · exact .inr (.inr (.inl ⟨if_pos hunit, hunit⟩))
  · have hlt := c.isLt
    refine .inr (.inr (.inr ⟨_, _, if_neg hunit, ?_, ?_, joinSurrogates?_split (by omega)⟩))
    · omega
    · omega

theorem of_joinSurrogates?_eq_some {high low : Nat} {c : CodePoint} (h : joinSurrogates? high low = some c) :
    0xD800 ≤ high ∧ high < 0xDC00 ∧ 0xDC00 ≤ low ∧ low < 0xE000 := by
  unfold joinSurrogates? at h
  split at h
  · next hcond =>
    simp only [Bool.and_eq_true, decide_eq_true_eq] at hcond
    omega
  · simp at h

theorem drop_hex (n : Nat) (rest : Text) : (Text.hex 4 n ++ rest).drop 4 = rest := rfl

/-- Two surrogates are one code point. -/
theorem unicodeEscape_pair {high low : Nat} {c : CodePoint} (h : joinSurrogates? high low = some c) {rest : Text}
    (hrest : rest ≠ []) (o : Nat) : unicodeEscape ⟨Text.hex 4 high ++ (unit low ++ rest), o⟩ = .ok (c, 10) := by
  obtain ⟨hlo, hhi, hlo', hhi'⟩ := of_joinSurrogates?_eq_some h
  have hlow : hex4? (Text.hex 4 low ++ rest) = some low := hex4?_hex (by omega) hrest
  have hlength : (Text.hex 4 low ++ rest).length > 4 := by
    have := List.length_pos_iff.2 hrest
    simp only [Text.hex, List.length_append, List.length_nil, List.length_singleton]
    omega
  have hunit : unit low ++ rest = CodePoint.ofChar '\\' :: CodePoint.ofChar 'u' :: (Text.hex 4 low ++ rest) := rfl
  have hhigh : hex4? (Text.hex 4 high ++ (unit low ++ rest)) = some high := hex4?_hex (by omega) (by simp [hunit])
  simp only [unicodeEscape, drop_hex, hhigh]
  simp only [hunit, hlow, h, hlength]
  simp [hlo, hhi]

/-- A number that does not join with the next one is a code point. -/
theorem unicodeEscape_alone {c : CodePoint} (hc : c.val < 0x10000) {rest : Text} (hrest : rest ≠ [])
    (h : ∀ more, rest = CodePoint.ofChar '\\' :: CodePoint.ofChar 'u' :: more →
      ∃ m, hex4? more = some m ∧ joinSurrogates? c.val m = none) (o : Nat) :
    unicodeEscape ⟨Text.hex 4 c.val ++ rest, o⟩ = .ok (c, 4) := by
  have hofNat : CodePoint.ofNat? c.val = some c := dif_pos c.isLt
  simp only [unicodeEscape, drop_hex, hex4?_hex hc hrest, hofNat]
  split
  · next a b more =>
    split
    · next hcond =>
      simp only [Bool.and_eq_true, decide_eq_true_eq] at hcond
      obtain ⟨⟨⟨-, rfl⟩, rfl⟩, -⟩ := hcond
      obtain ⟨m, hm, hjoin⟩ := h more rfl
      simp only [hm, hjoin]
    · rfl
  · rfl

section String

variable {start fuel : Nat} {rest : Text} {o : Nat} {acc : Text}

theorem string_plain {c : CodePoint} (hquote : c ≠ '"') (hslash : c ≠ '\\') (hcontrol : ¬ c.val ≤ 0x1f) :
    string start (fuel + 1) ⟨c :: rest, o⟩ acc = string start fuel ⟨rest, o + 1⟩ (c :: acc) := by
  simp [string, hquote, hslash, hcontrol, Rest.advance]

theorem string_sign {e c : CodePoint} (he : e ≠ 'u') (h : escapeOf? e = some c) :
    string start (fuel + 1) ⟨CodePoint.ofChar '\\' :: e :: rest, o⟩ acc =
      string start fuel ⟨rest, o + 2⟩ (c :: acc) := by
  simp [string, he, h, Rest.advance, show CodePoint.ofChar '\\' ≠ CodePoint.ofChar '"' by decide]

theorem string_unit {d : CodePoint} {n m : Nat} (h : unicodeEscape ⟨Text.hex 4 m ++ rest, o + 2⟩ = .ok (d, n)) :
    string start (fuel + 1) ⟨unit m ++ rest, o⟩ acc =
      string start fuel ⟨(Text.hex 4 m ++ rest).drop n, o + (2 + n)⟩ (d :: acc) := by
  have hunit : unit m ++ rest = CodePoint.ofChar '\\' :: CodePoint.ofChar 'u' :: (Text.hex 4 m ++ rest) := rfl
  rw [hunit]
  simp only [string]
  simp [Rest.advance, h, bind, Except.bind, show CodePoint.ofChar '\\' ≠ CodePoint.ofChar '"' by decide, Nat.add_comm 2]

/-- What follows does not begin with a number that joins with the code point. -/
def Apart (c : CodePoint) (rest : Text) : Prop :=
  ∀ more, rest = CodePoint.ofChar '\\' :: CodePoint.ofChar 'u' :: more →
    ∃ m, hex4? more = some m ∧ joinSurrogates? c.val m = none

/-- An escaped code point is read as itself. -/
theorem string_escape (start fuel o : Nat) (acc : Text) (c : CodePoint) (hrest : rest ≠ []) (h : Apart c rest) :
    ∃ o', string start (fuel + 1) ⟨escape c ++ rest, o⟩ acc = string start fuel ⟨rest, o'⟩ (c :: acc) := by
  rcases escape_cases c with ⟨he, hquote, hslash, hcontrol⟩ | ⟨e, he, hu, hsign⟩ | ⟨he, hc⟩ | ⟨high, low, he, -, -, hjoin⟩
  · rw [he]
    exact ⟨_, string_plain hquote hslash hcontrol⟩
  · rw [he]
    exact ⟨_, string_sign hu hsign⟩
  · rw [he]
    exact ⟨_, string_unit (unicodeEscape_alone hc hrest h _)⟩
  · rw [he, List.append_assoc]
    exact ⟨_, string_unit (unicodeEscape_pair hjoin hrest _)⟩

end String

theorem escape_surrogate {c : CodePoint} (hlo : 0xD800 ≤ c.val) (hhi : c.val < 0xE000) : escape c = unit c.val := by
  have hne : ∀ d : CodePoint, d.val < 0xD800 → c ≠ d := by
    rintro d hd rfl
    omega
  have hplain : c.within ' ' '~' = false := by
    simp only [CodePoint.within, Bool.and_eq_false_iff, decide_eq_false_iff_not, Char.reduceToNat]
    omega
  rw [escape, if_neg (hne _ (by decide)), if_neg (hne _ (by decide)), if_neg (hne _ (by decide)),
    if_neg (hne _ (by decide)), if_neg (hne _ (by decide)), if_neg (hne _ (by decide)), if_neg (hne _ (by decide)),
    hplain, if_neg (by simp), if_pos (by omega)]

theorem escape_ne_nil (c : CodePoint) : escape c ≠ [] := by
  rcases escape_cases c with ⟨he, -⟩ | ⟨e, he, -⟩ | ⟨he, -⟩ | ⟨high, low, he, -⟩ <;> simp [he, unit, text]

/-- What a code point is written with does not join with the code point before it, if the two do not. -/
theorem apart_escape {c d : CodePoint} (h : joinSurrogates? c.val d.val = none) {rest : Text} (hrest : rest ≠ []) :
    Apart c (escape d ++ rest) := by
  intro more hmore
  rcases escape_cases d with ⟨he, -, hslash, -⟩ | ⟨e, he, hu, -⟩ | ⟨he, hd⟩ | ⟨high, low, he, hhigh, -, -⟩
  · rw [he] at hmore
    exact absurd (List.cons.inj hmore).1 hslash
  · rw [he] at hmore
    exact absurd (List.cons.inj (List.cons.inj hmore).2).1 hu
  · rw [he] at hmore
    obtain rfl : Text.hex 4 d.val ++ rest = more := (List.cons.inj (List.cons.inj hmore).2).2
    exact ⟨_, hex4?_hex hd hrest, h⟩
  · rw [he] at hmore
    obtain rfl : Text.hex 4 high ++ (unit low ++ rest) = more := (List.cons.inj (List.cons.inj hmore).2).2
    refine ⟨high, hex4?_hex (by omega) (by simp [hrest]), ?_⟩
    cases hjoin : joinSurrogates? c.val high with
    | none => rfl
    | some e =>
      have := of_joinSurrogates?_eq_some hjoin
      omega

/-- A text begins with two surrogates that are one code point, or with another code point. -/
theorem joinedText_cases {motive : Text → Prop} (nil : motive []) (single : ∀ c, motive [c])
    (pair : ∀ c d t e, joinSurrogates? c.val d.val = some e → motive t → motive (c :: d :: t))
    (apart : ∀ c d t, joinSurrogates? c.val d.val = none → motive (d :: t) → motive (c :: d :: t)) : ∀ t, motive t
  | [] => nil
  | [c] => single c
  | c :: d :: t => by
    cases h : joinSurrogates? c.val d.val with
    | some e => exact pair c d t e h (joinedText_cases nil single pair apart t)
    | none => exact apart c d t h (joinedText_cases nil single pair apart (d :: t))

theorem joinedText_of_some {c d e : CodePoint} (h : joinSurrogates? c.val d.val = some e) (t : Text) :
    joinedText (c :: d :: t) = e :: joinedText t := by
  conv_lhs => unfold joinedText
  simp only [h]

theorem joinedText_of_none {c d : CodePoint} (h : joinSurrogates? c.val d.val = none) (t : Text) :
    joinedText (c :: d :: t) = c :: joinedText (d :: t) := by
  conv_lhs => unfold joinedText
  simp only [h]

/-- A text between quotes is read back. -/
theorem string_flatMap_escape (start : Nat) (t : Text) {fuel : Nat} (hf : (t.flatMap escape).length < fuel)
    (rest : Text) (o : Nat) (acc : Text) :
    ∃ o', string start fuel ⟨t.flatMap escape ++ CodePoint.ofChar '"' :: rest, o⟩ acc =
      .ok (acc.reverse ++ joinedText t, ⟨rest, o'⟩) := by
  obtain ⟨fuel, rfl⟩ := Nat.exists_eq_succ_of_ne_zero (Nat.ne_zero_of_lt hf)
  have hquote : ∀ fuel o acc, string start (fuel + 1) ⟨CodePoint.ofChar '"' :: rest, o⟩ acc =
      .ok (acc.reverse, ⟨rest, o + 1⟩) := by
    intro fuel o acc
    simp [string, Rest.advance]
  induction t using joinedText_cases generalizing fuel o acc with
  | pair c d t e he ih =>
    -- the two surrogates are read at once
    obtain ⟨hlo, hhi, hlo', hhi'⟩ := of_joinSurrogates?_eq_some he
    have hc := escape_surrogate hlo (by omega)
    have hd := escape_surrogate (by omega) hhi'
    have hlength : ∀ n, (unit n).length = 6 := fun _ => rfl
    simp only [List.flatMap_cons, hc, hd, List.length_append, hlength] at hf
    obtain ⟨fuel, rfl⟩ := Nat.exists_eq_succ_of_ne_zero (show fuel ≠ 0 by omega)
    rw [List.flatMap_cons, List.flatMap_cons, hc, hd, List.append_assoc, List.append_assoc,
      string_unit (unicodeEscape_pair he (by simp) _)]
    obtain ⟨o', ho'⟩ := ih (o + (2 + 10)) (e :: acc) fuel (by omega)
    rw [joinedText_of_some he]
    have hdrop : (Text.hex 4 c.val ++ (unit d.val ++ (t.flatMap escape ++ CodePoint.ofChar '"' :: rest))).drop 10 =
        t.flatMap escape ++ CodePoint.ofChar '"' :: rest := rfl
    exact ⟨o', by simpa [hdrop] using ho'⟩
  | apart c d t he ih =>
    have hpos := List.length_pos_iff.2 (escape_ne_nil c)
    rw [List.flatMap_cons, List.length_append] at hf
    obtain ⟨fuel, rfl⟩ := Nat.exists_eq_succ_of_ne_zero (show fuel ≠ 0 by omega)
    have hapart : Apart c ((d :: t).flatMap escape ++ CodePoint.ofChar '"' :: rest) := by
      rw [List.flatMap_cons, List.append_assoc]
      exact apart_escape he (by simp)
    obtain ⟨o₁, ho₁⟩ := string_escape start (fuel + 1) o acc c (by simp) hapart
    obtain ⟨o', ho'⟩ := ih o₁ (c :: acc) fuel (by omega)
    refine ⟨o', ?_⟩
    rw [joinedText_of_none he, List.flatMap_cons, List.append_assoc, ho₁, ho']
    simp
  | nil =>
    have hnil : joinedText [] = [] := rfl
    exact ⟨_, by simpa [hnil] using hquote fuel o acc⟩
  | single c =>
    have hpos := List.length_pos_iff.2 (escape_ne_nil c)
    simp only [List.flatMap_singleton] at hf
    obtain ⟨fuel, rfl⟩ := Nat.exists_eq_succ_of_ne_zero (show fuel ≠ 0 by omega)
    have hapart : Apart c (CodePoint.ofChar '"' :: rest) := fun more hmore => absurd (List.cons.inj hmore).1 (by decide)
    obtain ⟨o₁, ho₁⟩ := string_escape start (fuel + 1) o acc c (by simp) hapart
    refine ⟨o₁ + 1, ?_⟩
    have hsingle : joinedText [c] = [c] := rfl
    rw [List.flatMap_singleton, ho₁, hquote, hsingle]
    simp

/-! ## numbers -/

/-- What may follow a value. -/
def Follows (rest : Text) : Prop := ∀ c ∈ rest.head?, c ∈ text ",]\x7d\n"

theorem follows_cons {c : CodePoint} (h : c ∈ text ",]\x7d\n") (rest : Text) : Follows (c :: rest) := by
  intro d hd
  obtain rfl : c = d := by simpa using hd
  exact h

theorem isAsciiDigit_of_mem_ofNat {n : Nat} {c : CodePoint} (h : c ∈ Text.ofNat n) : c.isAsciiDigit = true := by
  obtain ⟨d, hd, rfl⟩ := List.mem_map.1 h
  have hdigit := Nat.isDigit_of_mem_toDigits (by decide) (by decide) hd
  simp only [Char.isDigit, Bool.and_eq_true, decide_eq_true_eq, ge_iff_le, UInt32.le_iff_toNat_le] at hdigit
  rw [CodePoint.isAsciiDigit, CodePoint.within, Bool.and_eq_true, decide_eq_true_eq, decide_eq_true_eq]
  exact hdigit

/-- A numeral starts with a digit. -/
theorem ne_of_ofNat_eq_cons {n : Nat} {c d : CodePoint} {cs : Text} (hcs : Text.ofNat n = c :: cs)
    (hd : d.isAsciiDigit = false) : c ≠ d := by
  rintro rfl
  have hdigit : c.isAsciiDigit = true := isAsciiDigit_of_mem_ofNat (n := n) (by simp [hcs])
  exact absurd hdigit (by simp [hd])

/-- Only the numeral of zero starts with a zero. -/
theorem eq_zero_of_head?_toDigits {n : Nat} (h : (Nat.toDigits 10 n).head? = some '0') : n = 0 := by
  induction n using Nat.strongRecOn with
  | _ n ih =>
    by_cases hn : n < 10
    · simpa [Nat.toDigits_of_lt_base hn] using h
    · rw [Nat.toDigits_of_base_le (by decide) (by omega), List.head?_append_of_ne_nil _ Nat.toDigits_ne_nil] at h
      have := ih (n / 10) (by omega) h
      omega

theorem decimal_ofNat (n : Nat) : decimal (Text.ofNat n) = n := by
  have h := Nat.ofDigitChars_ten_toDigits (n := n)
  simp only [Nat.ofDigitChars, Nat.mul_comm 10] at h
  rw [decimal, Text.ofNat, List.map_map, Text.ofDigits, List.foldl_map]
  exact h

section Number

variable {n : Nat} {c : CodePoint} {cs : Text} (hcs : Text.ofNat n = c :: cs) {rest : Text} (hrest : Follows rest)
include hcs hrest

/-- The digits in front of a point are the whole numeral. -/
theorem whole_ofNat :
    (if c = '0' then (c :: (cs ++ rest)).take 1 else digits (c :: (cs ++ rest))) = c :: cs := by
  split
  · next hc =>
    have hzero : n = 0 := by
      obtain ⟨d, ds, hds⟩ := List.exists_cons_of_ne_nil (Nat.toDigits_ne_nil (n := n) (b := 10))
      rw [Text.ofNat, hds] at hcs
      have hd : CodePoint.ofChar d = CodePoint.ofChar '0' := (List.cons.inj hcs).1.trans hc
      obtain rfl : d = '0' := Char.toNat_inj.1 (congrArg CodePoint.val hd)
      exact eq_zero_of_head?_toDigits (by rw [hds]; rfl)
    subst hzero
    obtain ⟨-, rfl⟩ := List.cons.inj hcs
    rfl
  · have hend : rest.takeWhile CodePoint.isAsciiDigit = [] := by
      cases rest with
      | nil => rfl
      | cons c rest =>
        have hc : ∀ c ∈ text ",]\x7d\n", c.isAsciiDigit = false := by decide
        rw [List.takeWhile_cons_of_neg (by simp [hc c (hrest c rfl)])]
    rw [← List.cons_append, ← hcs, digits, List.takeWhile_append_of_pos fun c hc => isAsciiDigit_of_mem_ofNat hc, hend,
      List.append_nil]

/-- A numeral is read as its number, behind a minus sign as the negative one. -/
theorem number_ofNat (hn : (Text.ofNat n).length ≤ Text.maxDigits) (o : Nat) :
    (∃ o', number ⟨c :: (cs ++ rest), o⟩ = .ok (.int n, ⟨rest, o'⟩)) ∧
      ∃ o', number ⟨CodePoint.ofChar '-' :: c :: (cs ++ rest), o⟩ = .ok (.int (-n), ⟨rest, o'⟩) := by
  have hwhole := whole_ofNat hcs hrest
  have hminus : c ≠ '-' := ne_of_ofNat_eq_cons hcs (by decide)
  have hdrop : (c :: (cs ++ rest)).drop (c :: cs).length = rest := by simp
  have hpoint : fraction rest = [] ∧ exponent? rest = none := by
    have hend : ∀ c ∈ text ",]\x7d\n", c ≠ '.' ∧ c ≠ 'e' ∧ c ≠ 'E' := by decide
    cases rest with
    | nil => exact ⟨rfl, rfl⟩
    | cons c rest =>
      obtain ⟨h1, h2, h3⟩ := hend c (hrest c rfl)
      simp [fraction, exponent?, h1, h2, h3]
  have hdecimal : decimal (c :: cs) = n := hcs ▸ decimal_ofNat n
  have hlength : ¬ (c :: cs).length > Text.maxDigits := hcs ▸ Nat.not_lt.2 hn
  refine ⟨⟨o + (c :: cs).length, ?_⟩, o + (1 + (c :: cs).length), ?_⟩
  · simp only [number, if_neg hminus, hwhole, hdrop, hpoint, hdecimal, if_true, Nat.add_zero, if_neg hlength]
    simp [Rest.advance]
  · simp only [number, hwhole, hdrop, hpoint, hdecimal, if_true, Nat.add_zero, if_neg hlength]
    simp [Rest.advance, Nat.add_comm 1]

end Number

theorem startsWith_cons_of_ne {a c : CodePoint} (h : a ≠ c) (word t : Text) :
    Text.startsWith (c :: t) (a :: word) = false := by
  simp [Text.startsWith, Text.after?, h]

theorem startsWith_cons_self (c : CodePoint) (word t : Text) :
    Text.startsWith (c :: t) (c :: word) = Text.startsWith t word := by
  simp [Text.startsWith, Text.after?]

/-- What begins with none of the words that are values is a number. -/
theorem atom_eq_number {r : Rest} (h : ∀ word ∈ [text "null", text "true", text "false", text "NaN", text "Infinity",
    text "-Infinity"], r.text.startsWith word = false) : atom r = number r := by
  simp only [List.forall_mem_cons, List.not_mem_nil, false_imp_iff, implies_true, and_true] at h
  simp only [atom, List.find?_cons, h, List.find?_nil]

/-- An integer is read back. -/
theorem atom_ofInt {n : Int} (hn : (Text.ofNat n.natAbs).length ≤ Text.maxDigits) {rest : Text} (hrest : Follows rest)
    (o : Nat) : ∃ o', atom ⟨Text.ofInt n ++ rest, o⟩ = .ok (.int n, ⟨rest, o'⟩) := by
  obtain ⟨c, cs, hcs⟩ := List.exists_cons_of_ne_nil (Source.ofNat_ne_nil n.natAbs)
  obtain ⟨hnat, hneg⟩ := number_ofNat hcs hrest hn o
  have hne : ∀ (a : CodePoint) (word t : Text), a.isAsciiDigit = false →
      Text.startsWith (c :: t) (a :: word) = false := by
    intro a word t ha
    exact startsWith_cons_of_ne (ne_of_ofNat_eq_cons hcs ha).symm word t
  have hletter : ∀ word ∈ [text "null", text "true", text "false", text "NaN", text "Infinity", text "-Infinity"],
      ∃ a rest, word = a :: rest ∧ a.isAsciiDigit = false ∧ (a = '-' → rest = text "Infinity") := by
    simp only [List.forall_mem_cons, List.not_mem_nil, false_imp_iff, implies_true, and_true]
    exact ⟨⟨_, _, rfl, by decide⟩, ⟨_, _, rfl, by decide⟩, ⟨_, _, rfl, by decide⟩, ⟨_, _, rfl, by decide⟩,
      ⟨_, _, rfl, by decide⟩, ⟨_, _, rfl, by decide⟩⟩
  cases n with
  | ofNat n =>
    have hword : atom ⟨c :: (cs ++ rest), o⟩ = number ⟨c :: (cs ++ rest), o⟩ := by
      refine atom_eq_number fun word hword => ?_
      obtain ⟨a, w, rfl, ha, -⟩ := hletter word hword
      exact hne a w _ ha
    rw [Text.ofInt, show Text.ofNat n = c :: cs from hcs, List.cons_append, hword]
    exact hnat
  | negSucc n =>
    have hword : atom ⟨CodePoint.ofChar '-' :: c :: (cs ++ rest), o⟩ =
        number ⟨CodePoint.ofChar '-' :: c :: (cs ++ rest), o⟩ := by
      refine atom_eq_number fun word hword => ?_
      obtain ⟨a, w, rfl, -, hminus⟩ := hletter word hword
      by_cases ha : a = '-'
      · rw [ha, startsWith_cons_self, hminus ha]
        exact hne 'I' (text "nfinity") _ (by decide)
      · exact startsWith_cons_of_ne ha w _
    rw [Text.ofInt, show Text.ofNat (n + 1) = c :: cs from hcs, List.cons_append, List.cons_append, hword]
    exact hneg

theorem startsWith_append (word t : Text) : (word ++ t).startsWith word = true := by
  rw [Text.startsWith, Text.after?_append]
  rfl

theorem atom_null (rest : Text) (o : Nat) : ∃ o', atom ⟨text "null" ++ rest, o⟩ = .ok (.null, ⟨rest, o'⟩) := by
  simp only [atom, List.find?_cons, startsWith_append]
  exact ⟨_, rfl⟩

theorem atom_bool (b : Bool) (rest : Text) (o : Nat) :
    ∃ o', atom ⟨text (if b then "true" else "false") ++ rest, o⟩ = .ok (.bool b, ⟨rest, o'⟩) := by
  cases b with
  | true =>
    have hnull : (text "true" ++ rest).startsWith (text "null") = false :=
      startsWith_cons_of_ne (by decide) (text "ull") (text "rue" ++ rest)
    simp only [atom, if_true, List.find?_cons, hnull, startsWith_append]
    exact ⟨_, rfl⟩
  | false =>
    have hnull : (text "false" ++ rest).startsWith (text "null") = false :=
      startsWith_cons_of_ne (by decide) (text "ull") (text "alse" ++ rest)
    have htrue : (text "false" ++ rest).startsWith (text "true") = false :=
      startsWith_cons_of_ne (by decide) (text "rue") (text "alse" ++ rest)
    simp only [atom, Bool.false_eq_true, if_false, List.find?_cons, hnull, htrue, startsWith_append]
    exact ⟨_, rfl⟩

/-! ## values -/

theorem Rest.skip_of_head {c : CodePoint} (hc : isSpace c = false) (t : Text) (o : Nat) :
    Rest.skip ⟨c :: t, o⟩ = ⟨c :: t, o⟩ := by
  simp [Rest.skip, Rest.advance, hc]

theorem Rest.skip_blank {c : CodePoint} (hc : isSpace c = false) (t : Text) (o : Nat) :
    Rest.skip ⟨CodePoint.ofChar ' ' :: c :: t, o⟩ = ⟨c :: t, o + 1⟩ := by
  simp [Rest.skip, Rest.advance, hc, show isSpace (CodePoint.ofChar ' ') = true by decide]

/-- A value that is neither a text, nor an array, nor an object. -/
theorem value_atom {fuel : Nat} {c : CodePoint} (hquote : c ≠ '"') (hopen : c ≠ '[') (hbrace : c ≠ '\x7b') (t : Text)
    (o : Nat) : value (fuel + 1) ⟨c :: t, o⟩ = atom ⟨c :: t, o⟩ := by
  simp [value, hquote, hopen, hbrace]

theorem writeText_append (t rest : Text) :
    writeText t ++ rest = CodePoint.ofChar '"' :: (t.flatMap escape ++ CodePoint.ofChar '"' :: rest) := by
  simp [writeText, text]

/-- A text is read back. -/
theorem string_writeText (start : Nat) (t rest : Text) (o : Nat) {fuel : Nat}
    (hf : (writeText t ++ rest).length ≤ fuel + 1) :
    ∃ o', string start fuel (Rest.advance ⟨writeText t ++ rest, o⟩ 1) [] = .ok (joinedText t, ⟨rest, o'⟩) := by
  rw [writeText_append] at hf ⊢
  have hlength : (t.flatMap escape).length < fuel := by
    simp only [List.length_cons, List.length_append] at hf
    omega
  exact string_flatMap_escape start t hlength rest (o + 1) []

theorem value_writeText (fuel : Nat) (t rest : Text) (o : Nat) :
    ∃ o', value (fuel + 1) ⟨writeText t ++ rest, o⟩ = .ok (.str (joinedText t), ⟨rest, o'⟩) := by
  have hf : (writeText t ++ rest).length ≤ (t.flatMap escape ++ CodePoint.ofChar '"' :: rest).length + 1 + 1 := by
    rw [writeText_append, List.length_cons]
    omega
  obtain ⟨o', ho'⟩ := string_writeText o t rest o hf
  refine ⟨o', ?_⟩
  rw [writeText_append] at ho' ⊢
  simp only [value, if_true]
  rw [ho']
  rfl

theorem value_open {fuel : Nat} {c : CodePoint} (hspace : isSpace c = false) (hclose : c ≠ ']') (t : Text) (o : Nat) :
    value (fuel + 1) ⟨CodePoint.ofChar '[' :: c :: t, o⟩ = elements fuel ⟨c :: t, o + 1⟩ [] := by
  have hskip : Rest.skip (Rest.advance ⟨CodePoint.ofChar '[' :: c :: t, o⟩ 1) = ⟨c :: t, o + 1⟩ :=
    Rest.skip_of_head hspace t (o + 1)
  simp [value, hskip, hclose, show CodePoint.ofChar '[' ≠ CodePoint.ofChar '"' by decide]

theorem value_brace {fuel : Nat} {c : CodePoint} (hspace : isSpace c = false) (hclose : c ≠ '\x7d') (t : Text) (o : Nat) :
    value (fuel + 1) ⟨CodePoint.ofChar '\x7b' :: c :: t, o⟩ = members fuel ⟨c :: t, o + 1⟩ [] := by
  have hskip : Rest.skip (Rest.advance ⟨CodePoint.ofChar '\x7b' :: c :: t, o⟩ 1) = ⟨c :: t, o + 1⟩ :=
    Rest.skip_of_head hspace t (o + 1)
  simp [value, hskip, hclose, show CodePoint.ofChar '\x7b' ≠ CodePoint.ofChar '"' by decide,
    show CodePoint.ofChar '\x7b' ≠ CodePoint.ofChar '[' by decide]

/-- A value begins with a code point that is not white space, not a bracket that closes, and not a byte order mark. -/
theorem Readable.exists_write {v : Json} (h : v.Readable) :
    ∃ c cs, v.write = c :: cs ∧ isSpace c = false ∧ c ≠ ']' ∧ c.val ≠ 0xFEFF := by
  cases v with
  | null => exact ⟨_, _, rfl, by decide⟩
  | bool b =>
    cases b with
    | true => exact ⟨_, _, rfl, by decide⟩
    | false => exact ⟨_, _, rfl, by decide⟩
  | int n =>
    cases n with
    | ofNat n =>
      obtain ⟨c, cs, hcs⟩ := List.exists_cons_of_ne_nil (Source.ofNat_ne_nil n)
      have hne : ∀ {d : CodePoint}, d.isAsciiDigit = false → c ≠ d := fun hd => ne_of_ofNat_eq_cons hcs hd
      refine ⟨c, cs, hcs, ?_, hne (by decide), ?_⟩
      · rw [← Bool.not_eq_true]
        intro hc
        have hspace : c ∈ text " \t\n\r" := by simpa [isSpace, text, or_assoc] using hc
        exact hne ((by decide : ∀ c ∈ text " \t\n\r", c.isAsciiDigit = false) c hspace) rfl
      · intro hc
        exact hne (d := c) (by simp [CodePoint.isAsciiDigit, CodePoint.within, hc]) rfl
    | negSucc n => exact ⟨_, _, rfl, by decide⟩
  | float x => exact absurd h (by simp [Readable])
  | str t => exact ⟨_, _, rfl, by decide⟩
  | arr items => exact ⟨_, _, rfl, by decide⟩
  | obj members => exact ⟨_, _, rfl, by decide⟩

theorem isSpace_signs : ∀ c ∈ text ",]\x7d:", isSpace c = false := by decide

section Steps

variable {fuel : Nat} {r : Rest} {v : Json} {o : Nat} {rest : Text}

/-- The last item of an array. -/
theorem elements_last (h : value fuel r = .ok (v, ⟨CodePoint.ofChar ']' :: rest, o⟩)) (read : List Json) :
    elements (fuel + 1) r read = .ok (.arr (read.reverse ++ [v]), ⟨rest, o + 1⟩) := by
  have hskip := Rest.skip_of_head (isSpace_signs ']' (by decide)) rest o
  simp [elements, h, bind, Except.bind, pure, Except.pure, hskip, Rest.advance]

/-- An item of an array that others follow. -/
theorem elements_more {c : CodePoint} (hc : isSpace c = false)
    (h : value fuel r = .ok (v, ⟨CodePoint.ofChar ',' :: CodePoint.ofChar ' ' :: c :: rest, o⟩)) (read : List Json) :
    elements (fuel + 1) r read = elements fuel ⟨c :: rest, o + 2⟩ (v :: read) := by
  have hskip := Rest.skip_of_head (isSpace_signs ',' (by decide)) (CodePoint.ofChar ' ' :: c :: rest) o
  have hblank := Rest.skip_blank hc rest (o + 1)
  have hclose : CodePoint.ofChar ',' ≠ CodePoint.ofChar ']' := by decide
  simp [elements, h, bind, Except.bind, hskip, hclose, Rest.advance, hblank]

/-- A member of an object, the last one or one that others follow. -/
theorem members_step {c : CodePoint} (hc : isSpace c = false) {sign : CodePoint} (hsign : sign = '\x7d' ∨ sign = ',')
    (k : Text) {t : Text} (h : ∀ o, ∃ o', value fuel ⟨c :: t, o⟩ = .ok (v, ⟨sign :: rest, o'⟩))
    (read : List (Text × Json)) (o : Nat) :
    ∃ o', members (fuel + 1) ⟨writeText k ++ (text ": " ++ c :: t), o⟩ read =
      if sign = '\x7d' then .ok (.obj (set (joinedText k) v read), ⟨rest, o'⟩)
      else members fuel (Rest.skip ⟨rest, o'⟩) (set (joinedText k) v read) := by
  obtain ⟨o₁, ho₁⟩ := string_writeText o k (text ": " ++ c :: t) o (Nat.le_succ _)
  obtain ⟨o₂, ho₂⟩ := h (o₁ + 1 + 1)
  have hquote : (writeText k ++ (text ": " ++ c :: t)).head? = some (CodePoint.ofChar '"') := rfl
  have hsep : text ": " ++ c :: t = CodePoint.ofChar ':' :: CodePoint.ofChar ' ' :: c :: t := rfl
  have hcolon := Rest.skip_of_head (isSpace_signs ':' (by decide)) (CodePoint.ofChar ' ' :: c :: t) o₁
  have hblank := Rest.skip_blank hc t (o₁ + 1)
  have hspace : isSpace sign = false := by
    rcases hsign with rfl | rfl
    · exact isSpace_signs _ (by decide)
    · exact isSpace_signs _ (by decide)
  have hskip := Rest.skip_of_head hspace rest o₂
  refine ⟨o₂ + 1, ?_⟩
  simp only [members, hquote, ho₁, if_true, bind, Except.bind, pure, Except.pure]
  rw [hsep, hcolon]
  simp only [Rest.advance, List.head?_cons, if_true, List.drop_one, List.tail_cons, hblank, ho₂, hskip]
  rcases hsign with rfl | rfl
  · rw [if_pos rfl, if_pos rfl]
  · rw [if_neg (by decide), if_pos rfl, if_neg (by decide)]

end Steps

theorem write_arr_append (items : List Json) (rest : Text) :
    (arr items).write ++ rest = CodePoint.ofChar '[' :: (writeItems items ++ CodePoint.ofChar ']' :: rest) := by
  simp [write, text]

theorem write_obj_append (ms : List (Text × Json)) (rest : Text) :
    (obj ms).write ++ rest = CodePoint.ofChar '\x7b' :: (writeMembers ms ++ CodePoint.ofChar '\x7d' :: rest) := by
  simp [write, text]

theorem writeItems_cons_append (v w : Json) (vs : List Json) (rest : Text) :
    writeItems (v :: w :: vs) ++ rest =
      v.write ++ CodePoint.ofChar ',' :: CodePoint.ofChar ' ' :: (writeItems (w :: vs) ++ rest) := by
  simp [writeItems, text]

theorem writeMembers_singleton_append (k : Text) (v : Json) (rest : Text) :
    writeMembers [(k, v)] ++ rest = writeText k ++ (text ": " ++ (v.write ++ rest)) := by
  simp [writeMembers]

theorem writeMembers_cons_append (k : Text) (v : Json) (m : Text × Json) (ms : List (Text × Json)) (rest : Text) :
    writeMembers ((k, v) :: m :: ms) ++ rest = writeText k ++ (text ": " ++
      (v.write ++ CodePoint.ofChar ',' :: CodePoint.ofChar ' ' :: (writeMembers (m :: ms) ++ rest))) := by
  simp [writeMembers, text]

theorem exists_writeItems {v : Json} (h : v.Readable) (vs : List Json) :
    ∃ c cs, writeItems (v :: vs) = c :: cs ∧ isSpace c = false ∧ c ≠ ']' := by
  obtain ⟨c, cs, hcs, hspace, hclose, -⟩ := h.exists_write
  cases vs with
  | nil => exact ⟨c, cs, hcs, hspace, hclose⟩
  | cons w vs =>
    refine ⟨c, cs ++ (text ", " ++ writeItems (w :: vs)), ?_, hspace, hclose⟩
    simp [writeItems, hcs]

theorem exists_writeMembers (m : Text × Json) (ms : List (Text × Json)) :
    ∃ cs, writeMembers (m :: ms) = CodePoint.ofChar '"' :: cs := by
  obtain ⟨k, v⟩ := m
  cases ms with
  | nil => exact ⟨_, rfl⟩
  | cons m ms => exact ⟨_, rfl⟩

mutual

/-- A value in front of what may follow it is read back. -/
theorem value_write : ∀ (v : Json), v.Readable → ∀ {fuel : Nat}, v.write.length ≤ fuel → ∀ {rest : Text},
    Follows rest → ∀ o, ∃ o', value fuel ⟨v.write ++ rest, o⟩ = .ok (v.joined, ⟨rest, o'⟩)
  | v, hv, 0, hf, _, _, _ => by
    obtain ⟨c, cs, hcs, -⟩ := hv.exists_write
    simp [hcs] at hf
  | .null, _, fuel + 1, _, rest, _, o => by
    have h : value (fuel + 1) ⟨text "null" ++ rest, o⟩ = _ :=
      value_atom (by decide) (by decide) (by decide) (text "ull" ++ rest) o
    rw [write, h]
    exact atom_null rest o
  | .bool b, _, fuel + 1, _, rest, _, o => by
    have h : value (fuel + 1) ⟨(bool b).write ++ rest, o⟩ = atom ⟨(bool b).write ++ rest, o⟩ := by
      cases b with
      | true => exact value_atom (by decide) (by decide) (by decide) (text "rue" ++ rest) o
      | false => exact value_atom (by decide) (by decide) (by decide) (text "alse" ++ rest) o
    rw [h]
    exact atom_bool b rest o
  | .int n, hv, fuel + 1, _, rest, hrest, o => by
    have h : value (fuel + 1) ⟨(int n).write ++ rest, o⟩ = atom ⟨(int n).write ++ rest, o⟩ := by
      cases n with
      | ofNat n =>
        obtain ⟨c, cs, hcs⟩ := List.exists_cons_of_ne_nil (Source.ofNat_ne_nil n)
        rw [show (int (.ofNat n)).write = c :: cs from hcs]
        exact value_atom (ne_of_ofNat_eq_cons hcs (by decide)) (ne_of_ofNat_eq_cons hcs (by decide))
          (ne_of_ofNat_eq_cons hcs (by decide)) (cs ++ rest) o
      | negSucc n => exact value_atom (by decide) (by decide) (by decide) (Text.ofNat (n + 1) ++ rest) o
    rw [h]
    exact atom_ofInt hv hrest o
  | .float x, hv, fuel + 1, _, _, _, _ => by
    simp [Readable] at hv
  | .str t, _, fuel + 1, _, rest, _, o => value_writeText fuel t rest o
  | .arr [], _, fuel + 1, _, rest, _, o => by
    have hskip := Rest.skip_of_head (isSpace_signs ']' (by decide)) rest (o + 1)
    have hquote : CodePoint.ofChar '[' ≠ CodePoint.ofChar '"' := by decide
    refine ⟨o + 2, ?_⟩
    rw [write_arr_append]
    simp [value, writeItems, Rest.advance, hskip, joined, joinedItems, hquote]
  | .arr (v :: vs), hv, fuel + 1, hf, rest, _, o => by
    obtain ⟨c, cs, hcs, hspace, hclose⟩ := exists_writeItems hv.1 vs
    have hlength : (writeItems (v :: vs)).length < fuel := by
      have h := congrArg List.length (write_arr_append (v :: vs) [])
      simp only [List.append_nil, List.length_cons, List.length_append, List.length_nil] at h
      omega
    obtain ⟨o', ho'⟩ := elements_writeItems v vs hv.1 hv.2 hlength rest [] (o + 1)
    refine ⟨o', ?_⟩
    rw [hcs, List.cons_append] at ho'
    rw [write_arr_append, hcs, List.cons_append, value_open hspace hclose, ho']
    rfl
  | .obj [], _, fuel + 1, _, rest, _, o => by
    have hskip := Rest.skip_of_head (isSpace_signs '\x7d' (by decide)) rest (o + 1)
    have hquote : CodePoint.ofChar '\x7b' ≠ CodePoint.ofChar '"' := by decide
    have hopen : CodePoint.ofChar '\x7b' ≠ CodePoint.ofChar '[' := by decide
    refine ⟨o + 2, ?_⟩
    rw [write_obj_append]
    simp [value, writeMembers, Rest.advance, hskip, joined, joinedMembers, hquote, hopen]
  | .obj ((k, v) :: ms), hv, fuel + 1, hf, rest, _, o => by
    obtain ⟨cs, hcs⟩ := exists_writeMembers (k, v) ms
    have hlength : (writeMembers ((k, v) :: ms)).length < fuel := by
      have h := congrArg List.length (write_obj_append ((k, v) :: ms) [])
      simp only [List.append_nil, List.length_cons, List.length_append, List.length_nil] at h
      omega
    obtain ⟨o', ho'⟩ := members_writeMembers k v ms hv.1 hv.2 hlength rest [] (o + 1)
    refine ⟨o', ?_⟩
    rw [hcs, List.cons_append] at ho'
    rw [write_obj_append, hcs, List.cons_append, value_brace (by decide) (by decide), ho']
    rfl

/-- The items of an array are read back. -/
theorem elements_writeItems : ∀ (v : Json) (vs : List Json), v.Readable → ReadableItems vs → ∀ {fuel : Nat},
    (writeItems (v :: vs)).length < fuel → ∀ (rest : Text) (read : List Json) (o : Nat),
    ∃ o', elements fuel ⟨writeItems (v :: vs) ++ CodePoint.ofChar ']' :: rest, o⟩ read =
      .ok (.arr (read.reverse ++ joinedItems (v :: vs)), ⟨rest, o'⟩)
  | v, vs, _, _, 0, hf, _, _, _ => absurd hf (Nat.not_lt_zero _)
  | v, [], hv, _, fuel + 1, hf, rest, read, o => by
    have hrest : Follows (CodePoint.ofChar ']' :: rest) := follows_cons (by decide) rest
    obtain ⟨o', ho'⟩ := value_write v hv (Nat.le_of_lt_succ hf) hrest o
    exact ⟨_, elements_last ho' read⟩
  | v, w :: vs, hv, hvs, fuel + 1, hf, rest, read, o => by
    obtain ⟨c, cs, hcs, hspace, -⟩ := exists_writeItems hvs.1 vs
    have hlength := congrArg List.length (writeItems_cons_append v w vs [])
    simp only [List.append_nil, List.length_cons, List.length_append] at hlength
    have hrest : Follows (CodePoint.ofChar ',' :: CodePoint.ofChar ' ' :: (writeItems (w :: vs) ++
        CodePoint.ofChar ']' :: rest)) := follows_cons (by decide) _
    obtain ⟨o₁, ho₁⟩ := value_write v hv (by omega : v.write.length ≤ fuel) hrest o
    obtain ⟨o', ho'⟩ := elements_writeItems w vs hvs.1 hvs.2 (by omega : _ < fuel) rest (v.joined :: read) (o₁ + 2)
    refine ⟨o', ?_⟩
    rw [hcs, List.cons_append] at ho₁ ho'
    rw [writeItems_cons_append, hcs, List.cons_append, elements_more hspace ho₁, ho']
    simp [joinedItems]

/-- The members of an object are read back. -/
theorem members_writeMembers : ∀ (k : Text) (v : Json) (ms : List (Text × Json)), v.Readable → ReadableMembers ms →
    ∀ {fuel : Nat}, (writeMembers ((k, v) :: ms)).length < fuel → ∀ (rest : Text) (read : List (Text × Json)) (o : Nat),
    ∃ o', members fuel ⟨writeMembers ((k, v) :: ms) ++ CodePoint.ofChar '\x7d' :: rest, o⟩ read =
      .ok (.obj (joinedMembers read ((k, v) :: ms)), ⟨rest, o'⟩)
  | k, v, ms, _, _, 0, hf, _, _, _ => absurd hf (Nat.not_lt_zero _)
  | k, v, [], hv, _, fuel + 1, hf, rest, read, o => by
    obtain ⟨c, cs, hcs, hspace, -⟩ := hv.exists_write
    have hlength := congrArg List.length (writeMembers_singleton_append k v [])
    simp only [List.append_nil, List.length_append] at hlength
    have hrest : Follows (CodePoint.ofChar '\x7d' :: rest) := follows_cons (by decide) rest
    have hvalue := value_write v hv (by omega : v.write.length ≤ fuel) hrest
    rw [hcs, List.cons_append] at hvalue
    obtain ⟨o', ho'⟩ := members_step hspace (.inl rfl) k hvalue read o
    refine ⟨o', ?_⟩
    rw [writeMembers_singleton_append, hcs, List.cons_append, ho', if_pos rfl]
    rfl
  | k, v, (k', w) :: ms, hv, hms, fuel + 1, hf, rest, read, o => by
    obtain ⟨c, cs, hcs, hspace, -⟩ := hv.exists_write
    obtain ⟨ds, hds⟩ := exists_writeMembers (k', w) ms
    have hlength := congrArg List.length (writeMembers_cons_append k v (k', w) ms [])
    simp only [List.append_nil, List.length_cons, List.length_append] at hlength
    have hrest : Follows (CodePoint.ofChar ',' :: CodePoint.ofChar ' ' :: (writeMembers ((k', w) :: ms) ++
        CodePoint.ofChar '\x7d' :: rest)) := follows_cons (by decide) _
    have hvalue := value_write v hv (by omega : v.write.length ≤ fuel) hrest
    rw [hcs, List.cons_append] at hvalue
    obtain ⟨o₁, ho₁⟩ := members_step hspace (.inr rfl) k hvalue read o
    obtain ⟨o', ho'⟩ := members_writeMembers k' w ms hms.1 hms.2 (by omega : _ < fuel) rest
      (set (joinedText k) v.joined read) (o₁ + 1)
    refine ⟨o', ?_⟩
    rw [hds, List.cons_append] at ho₁ ho'
    rw [writeMembers_cons_append, hcs, List.cons_append, hds, List.cons_append, ho₁, if_neg (by decide),
      Rest.skip_blank (by decide), ho']
    rfl

end

end TypeLint.Json
