import TypeLint.Source.Token
import TypeLint.Text.Digit

/-!
# Lexemes

A source is read lexeme by lexeme.  A lexeme is a token, a line end, a semicolon, or a *gap*: white space or
a comment.  Which tokens are possible depends on the place in the source, so `scan` takes the set of
terminals that are admitted.  A word that an admitted keyword spells is that keyword; where a keyword is not
admitted its word is a name like any other, and where names are not admitted a keyword is read even if
more letters follow.

Each scanner splits a text into a lexeme and the rest, or finds no lexeme of its kind at the start of it.
-/

namespace TypeLint.Source

/-- What a lexeme is. -/
inductive LexemeKind where
  | token (kind : Terminal)
  | lineEnd
  | semicolon
  | gap
deriving DecidableEq

/-! ## names, numbers and strings -/

/-- The first letter of a name. -/
def isNameStart (c : CodePoint) : Bool := c.isAsciiLetter || c = '_' || c = '$'

/-- A further letter of a name. -/
def isNamePart (c : CodePoint) : Bool := isNameStart c || c.isAsciiDigit

/-- A name: letters and digits of the ASCII block, `_` and `$`, the first one no digit. -/
def name? : Text → Option (Text × Text)
  | [] => none
  | c :: cs =>
    if isNameStart c then some (c :: cs.takeWhile isNamePart, cs.dropWhile isNamePart) else none

/-- Digits of any script. -/
def digits? : Text → Option (Text × Text)
  | [] => none
  | c :: cs =>
    if c.isDigit then some (c :: cs.takeWhile CodePoint.isDigit, cs.dropWhile CodePoint.isDigit) else none

/-- A point and the digits behind it. -/
def fraction? : Text → Option (Text × Text)
  | [] => none
  | c :: cs => if c = '.' then (digits? cs).map fun (ds, rest) => (c :: ds, rest) else none

/-- A number: digits, and possibly a point with more digits. -/
def number? (t : Text) : Option (Text × Text) :=
  (digits? t).map fun (ds, rest) =>
    match fraction? rest with
    | some (frac, rest) => (ds ++ frac, rest)
    | none => (ds, rest)

/-- The rest of a string up to its closing quote, which belongs to it.  A backslash keeps the code point
behind it from closing the string; no line ends in a string. -/
def stringTail? (q : CodePoint) : Text → Option (Text × Text)
  | [] => none
  | c :: cs =>
    if c = q then some ([c], cs)
    else if c = CodePoint.lineFeed then none
    else if c = '\\' then
      match cs with
      | [] => none
      | d :: ds =>
        if d = CodePoint.lineFeed then none
        else (stringTail? q ds).map fun (body, rest) => (c :: d :: body, rest)
    else (stringTail? q cs).map fun (body, rest) => (c :: body, rest)

/-- A string between two apostrophes or two double quotes. -/
def string? : Text → Option (Text × Text)
  | [] => none
  | c :: cs =>
    if c = '"' || c = '\'' then (stringTail? c cs).map fun (body, rest) => (c :: body, rest) else none

/-! ## gaps and line ends -/

/-- White space within a line. -/
def isGap (c : CodePoint) : Bool := c = ' ' || c = '\t' || c = '\x0c' || c = '\r'

/-- White space within a line. -/
def blanks? : Text → Option (Text × Text)
  | [] => none
  | c :: cs => if isGap c then some (c :: cs.takeWhile isGap, cs.dropWhile isGap) else none

/-- A comment up to the end of its line. -/
def lineComment? : Text → Option (Text × Text)
  | a :: b :: cs =>
    if a = '/' && b = '/' then
      some (a :: b :: cs.takeWhile (· ≠ CodePoint.lineFeed), cs.dropWhile (· ≠ CodePoint.lineFeed))
    else none
  | _ => none

/-- The rest of a comment up to the first `*/`, which belongs to it. -/
def commentTail? : Text → Option (Text × Text)
  | a :: b :: cs =>
    if a = '*' && b = '/' then some ([a, b], cs)
    else (commentTail? (b :: cs)).map fun (body, rest) => (a :: body, rest)
  | _ => none

/-- A comment between `/*` and `*/`. -/
def blockComment? : Text → Option (Text × Text)
  | a :: b :: cs =>
    if a = '/' && b = '*' then (commentTail? cs).map fun (body, rest) => (a :: b :: body, rest) else none
  | _ => none

/-- Further line ends, each possibly with a carriage return before it. -/
def lineEndTail : Text → Text × Text
  | [] => ([], [])
  | c :: cs =>
    if c = CodePoint.lineFeed then
      let (more, rest) := lineEndTail cs
      (c :: more, rest)
    else match cs with
      | d :: ds =>
        if c = '\r' && d = CodePoint.lineFeed then
          let (more, rest) := lineEndTail ds
          (c :: d :: more, rest)
        else ([], c :: d :: ds)
      | [] => ([], [c])

/-- One or more line ends. -/
def lineEnds? : Text → Option (Text × Text)
  | [] => none
  | c :: cs =>
    if c = CodePoint.lineFeed then
      let (more, rest) := lineEndTail cs
      some (c :: more, rest)
    else none

/-! ## fixed spellings -/

/-- The terminals with a fixed spelling, longer ones before those they start with. -/
def spellings : List (Text × Terminal) := [
  (text "function", .functionWord), (text "extends", .extendsWord), (text "return", .returnWord),
  (text "const", .binderWord), (text "class", .classWord), (text "let", .binderWord),
  (text "var", .binderWord), (text "new", .newWord), (text "=>", .arrow), (text "+", .addOp),
  (text "-", .addOp), (text "*", .mulOp), (text "/", .mulOp), (text "?", .question), (text "|", .bar),
  (text "[", .bracketOpen), (text "]", .bracketClose), (text "=", .equals), (text ":", .colon),
  (text ",", .comma), (text ".", .dot), (text "(", .parenOpen), (text ")", .parenClose),
  (text "\x7b", .braceOpen), (text "\x7d", .braceClose), (text "<", .angleOpen), (text ">", .angleClose)]

/-- The first admitted terminal with a fixed spelling that `t` starts with. -/
def spelled? (admits : Terminal → Bool) (t : Text) : Option (LexemeKind × Text × Text) :=
  spellings.findSome? fun (s, kind) =>
    if admits kind then (t.after? s).map fun rest => (.token kind, s, rest) else none

/-- A semicolon. -/
def semicolon? : Text → Option (Text × Text)
  | [] => none
  | c :: cs => if c = ';' then some ([c], cs) else none

/-- The terminal of a word: the admitted keyword it spells, or else a name. -/
def wordKind (admits : Terminal → Bool) (word : Text) : Terminal :=
  match spellings.find? fun (s, kind) => s = word && admits kind with
  | some (_, kind) => kind
  | none => .name

/-! ## one lexeme -/

/-- A scanner with the kind of its lexemes. -/
def tagged (kind : Text → LexemeKind) (scanner : Text → Option (Text × Text)) (t : Text) :
    Option (LexemeKind × Text × Text) :=
  (scanner t).map fun s => (kind s.1, s)

/-- A scanner that is used only if its terminal is admitted. -/
def onlyIf (admitted : Bool) (scanner : Text → Option (LexemeKind × Text × Text)) (t : Text) :
    Option (LexemeKind × Text × Text) :=
  if admitted then scanner t else none

/-- The scanners in the order in which they are tried. -/
def scanners (admits : Terminal → Bool) : List (Text → Option (LexemeKind × Text × Text)) := [
  onlyIf (admits .string) (tagged (fun _ => .token .string) string?),
  onlyIf (admits .name) (tagged (fun word => .token (wordKind admits word)) name?),
  tagged (fun _ => .gap) blockComment?,
  onlyIf (admits .number) (tagged (fun _ => .token .number) number?),
  tagged (fun _ => .gap) lineComment?,
  tagged (fun _ => .gap) blanks?,
  tagged (fun _ => .lineEnd) lineEnds?,
  tagged (fun _ => .semicolon) semicolon?,
  spelled? admits]

/-- The lexeme at the start of a text, if there is one there, and the rest of the text. -/
def scan (admits : Terminal → Bool) (t : Text) : Option (LexemeKind × Text × Text) :=
  (scanners admits).findSome? (· t)

/-! ## nothing is lost -/

/-- A split of `t` into a lexeme, which is not empty, and the rest. -/
def Splits (t : Text) (s : Text × Text) : Prop := t = s.1 ++ s.2 ∧ s.1 ≠ []

theorem splits_name? {t : Text} {s : Text × Text} (h : name? t = some s) : Splits t s := by
  cases t with
  | nil => simp [name?] at h
  | cons c cs =>
    simp only [name?] at h
    split at h
    · obtain rfl := Option.some.inj h
      simp [Splits, List.takeWhile_append_dropWhile]
    · simp at h

theorem splits_digits? {t : Text} {s : Text × Text} (h : digits? t = some s) : Splits t s := by
  cases t with
  | nil => simp [digits?] at h
  | cons c cs =>
    simp only [digits?] at h
    split at h
    · obtain rfl := Option.some.inj h
      simp [Splits, List.takeWhile_append_dropWhile]
    · simp at h

theorem splits_fraction? {t : Text} {s : Text × Text} (h : fraction? t = some s) : Splits t s := by
  cases t with
  | nil => simp [fraction?] at h
  | cons c cs =>
    simp only [fraction?] at h
    split at h
    · obtain ⟨u, hu, rfl⟩ := Option.map_eq_some_iff.1 h
      have hs := splits_digits? hu
      simp [Splits, hs.1]
    · simp at h

theorem splits_number? {t : Text} {s : Text × Text} (h : number? t = some s) : Splits t s := by
  obtain ⟨u, hu, hs⟩ := Option.map_eq_some_iff.1 h
  have hd := splits_digits? hu
  obtain ⟨ds, rest⟩ := u
  cases hf : fraction? rest with
  | none =>
    simp only [hf] at hs
    exact hs ▸ hd
  | some v =>
    simp only [hf] at hs
    have hr := (splits_fraction? hf).1
    subst hs
    exact ⟨by rw [hd.1, hr, List.append_assoc], by simp [hd.2]⟩

theorem splits_stringTail? {q : CodePoint} {t : Text} {s : Text × Text}
    (h : stringTail? q t = some s) : Splits t s := by
  fun_induction stringTail? q t generalizing s
  case case2 =>
    obtain rfl := Option.some.inj h
    simp [Splits]
  case case6 ih =>
    obtain ⟨u, hu, rfl⟩ := Option.map_eq_some_iff.1 h
    simp [Splits, (ih hu).1]
  case case7 ih =>
    obtain ⟨u, hu, rfl⟩ := Option.map_eq_some_iff.1 h
    simp [Splits, (ih hu).1]
  all_goals simp at h

theorem splits_string? {t : Text} {s : Text × Text} (h : string? t = some s) : Splits t s := by
  cases t with
  | nil => simp [string?] at h
  | cons c cs =>
    simp only [string?] at h
    split at h
    · obtain ⟨u, hu, rfl⟩ := Option.map_eq_some_iff.1 h
      simp [Splits, (splits_stringTail? hu).1]
    · simp at h

theorem splits_blanks? {t : Text} {s : Text × Text} (h : blanks? t = some s) : Splits t s := by
  cases t with
  | nil => simp [blanks?] at h
  | cons c cs =>
    simp only [blanks?] at h
    split at h
    · obtain rfl := Option.some.inj h
      simp [Splits, List.takeWhile_append_dropWhile]
    · simp at h

theorem splits_lineComment? {t : Text} {s : Text × Text} (h : lineComment? t = some s) : Splits t s := by
  match t with
  | [] | [_] => simp [lineComment?] at h
  | a :: b :: cs =>
    simp only [lineComment?] at h
    split at h
    · obtain rfl := Option.some.inj h
      simp [Splits, List.takeWhile_append_dropWhile]
    · simp at h

theorem splits_commentTail? {t : Text} {s : Text × Text} (h : commentTail? t = some s) : Splits t s := by
  fun_induction commentTail? t generalizing s
  case case1 =>
    obtain rfl := Option.some.inj h
    simp [Splits]
  case case2 ih =>
    obtain ⟨u, hu, rfl⟩ := Option.map_eq_some_iff.1 h
    simp [Splits, (ih hu).1]
  case case3 => simp at h

theorem splits_blockComment? {t : Text} {s : Text × Text} (h : blockComment? t = some s) :
    Splits t s := by
  match t with
  | [] | [_] => simp [blockComment?] at h
  | a :: b :: cs =>
    simp only [blockComment?] at h
    split at h
    · obtain ⟨u, hu, rfl⟩ := Option.map_eq_some_iff.1 h
      simp [Splits, (splits_commentTail? hu).1]
    · simp at h

theorem lineEndTail_append (t : Text) : (lineEndTail t).1 ++ (lineEndTail t).2 = t := by
  fun_induction lineEndTail t <;> simp_all

theorem splits_lineEnds? {t : Text} {s : Text × Text} (h : lineEnds? t = some s) : Splits t s := by
  cases t with
  | nil => simp [lineEnds?] at h
  | cons c cs =>
    simp only [lineEnds?] at h
    split at h
    · obtain rfl := Option.some.inj h
      simp [Splits, lineEndTail_append]
    · simp at h

theorem splits_semicolon? {t : Text} {s : Text × Text} (h : semicolon? t = some s) : Splits t s := by
  cases t with
  | nil => simp [semicolon?] at h
  | cons c cs =>
    simp only [semicolon?] at h
    split at h
    · obtain rfl := Option.some.inj h
      simp [Splits]
    · simp at h

theorem spellings_ne_nil : ∀ s ∈ spellings, s.1 ≠ [] := by decide

theorem splits_spelled? {admits : Terminal → Bool} {t : Text} {k : LexemeKind} {s : Text × Text}
    (h : spelled? admits t = some (k, s)) : Splits t s := by
  obtain ⟨⟨word, kind⟩, hp, hf⟩ := List.exists_of_findSome?_eq_some h
  dsimp only at hf
  split at hf
  · obtain ⟨rest, hr, he⟩ := Option.map_eq_some_iff.1 hf
    obtain ⟨-, rfl⟩ := Prod.mk.inj he
    exact ⟨Text.after?_eq_some hr, spellings_ne_nil _ hp⟩
  · simp at hf

theorem splits_tagged {kind : Text → LexemeKind} {scanner : Text → Option (Text × Text)}
    (hs : ∀ {t s}, scanner t = some s → Splits t s) {t : Text} {k : LexemeKind} {s : Text × Text}
    (h : tagged kind scanner t = some (k, s)) : Splits t s := by
  obtain ⟨u, hu, he⟩ := Option.map_eq_some_iff.1 h
  obtain ⟨-, rfl⟩ := Prod.mk.inj he
  exact hs hu

theorem eq_some_of_onlyIf {admitted : Bool} {scanner : Text → Option (LexemeKind × Text × Text)} {t : Text}
    {l : LexemeKind × Text × Text} (h : onlyIf admitted scanner t = some l) : scanner t = some l := by
  unfold onlyIf at h
  split at h
  · exact h
  · simp at h

/-- The lexeme and the rest make up the text. -/
theorem splits_scan {admits : Terminal → Bool} {t : Text} {k : LexemeKind} {s : Text × Text}
    (h : scan admits t = some (k, s)) : Splits t s := by
  obtain ⟨f, hf, hfs⟩ := List.exists_of_findSome?_eq_some h
  simp only [scanners, List.mem_cons, List.not_mem_nil, or_false] at hf
  rcases hf with rfl | rfl | rfl | rfl | rfl | rfl | rfl | rfl | rfl
  · exact splits_tagged splits_string? (eq_some_of_onlyIf hfs)
  · exact splits_tagged splits_name? (eq_some_of_onlyIf hfs)
  · exact splits_tagged splits_blockComment? hfs
  · exact splits_tagged splits_number? (eq_some_of_onlyIf hfs)
  · exact splits_tagged splits_lineComment? hfs
  · exact splits_tagged splits_blanks? hfs
  · exact splits_tagged splits_lineEnds? hfs
  · exact splits_tagged splits_semicolon? hfs
  · exact splits_spelled? hfs

/-- What follows a lexeme is shorter than the text with it. -/
theorem length_lt_of_scan {admits : Terminal → Bool} {t lexeme rest : Text} {k : LexemeKind}
    (h : scan admits t = some (k, lexeme, rest)) : rest.length < t.length := by
  have ht : t = lexeme ++ rest := (splits_scan h).1
  have : 0 < lexeme.length := List.length_pos_iff.2 (splits_scan h).2
  rw [ht, List.length_append]
  omega

end TypeLint.Source
