import Mathlib.Data.List.Forall2
import TypeLint.Lint.Linter
import TypeLint.Proofs.Lint.Merge

/-!
# Bans from flags and from documents

A ban is asked for by a flag, in which a message follows the name behind an equals sign, or by an entry of a document, in
which both stand in a list.  A flag is cut at the first equals sign, so as long as the name holds none, flag and entry are
two ways of writing the same.

* `BanEntry.flag`, `BanEntry.option` — an entry as a flag, and as it stands in a document;
* `cut_join`, `exists_cut` — what is put together with a sign in between is cut there again;
* `Config.entryOf_cases` — a flag is that of an entry, or it has no name;
* `Config.entriesOf_eq_ok_iff`, `Config.exists_entriesOf_iff` — what becomes of flags, one after the other;
* `Linter.ofConfig_flags` — flags and documents make the same linters.
-/

namespace TypeLint.Lint

open Rule

/-- A name to be banned, and maybe what to say about it. -/
structure BanEntry where
  name : Text
  message : Option Text := none

namespace BanEntry

/-- The texts of an entry. -/
def parts (e : BanEntry) : List Text := e.name :: e.message.toList

/-- An entry as a flag: the name, and the message behind an equals sign. -/
def flag (e : BanEntry) : Text := Text.join (text "=") e.parts

/-- An entry as it stands in a document. -/
def option (e : BanEntry) : Json := .arr (e.parts.map .str)

/-- There is a name, and it holds no equals sign. -/
def IsNamed (e : BanEntry) : Prop := e.name ≠ [] ∧ CodePoint.ofChar '=' ∉ e.name

end BanEntry

/-! ## cutting -/

/-- What follows the first separator is cut off again. -/
theorem cut_join {sep : CodePoint} {head : Text} (h : sep ∉ head) (tail : Option Text) :
    (Text.join [sep] (head :: tail.toList)).cut sep = (head, tail) := by
  induction head with
  | nil => cases tail <;> simp [Text.join, Text.cut]
  | cons c head ih =>
    rw [List.mem_cons, not_or] at h
    obtain ⟨hc, h⟩ := h
    have hjoin : Text.join [sep] ((c :: head) :: tail.toList) = c :: Text.join [sep] (head :: tail.toList) := by
      cases tail <;> rfl
    rw [hjoin, Text.cut, if_neg (Ne.symm hc), ih h]

theorem exists_cut (sep : CodePoint) (t : Text) :
    ∃ head tail, sep ∉ head ∧ t = Text.join [sep] (head :: Option.toList tail) := by
  induction t with
  | nil => exact ⟨[], none, by simp, rfl⟩
  | cons c t ih =>
    by_cases hc : c = sep
    · exact ⟨[], some t, by simp, by rw [hc]; rfl⟩
    · obtain ⟨head, tail, hsep, rfl⟩ := ih
      refine ⟨c :: head, tail, ?_, ?_⟩
      · rw [List.mem_cons, not_or]
        exact ⟨Ne.symm hc, hsep⟩
      · cases tail <;> rfl

namespace Config

/-! ## one flag -/

/-- A flag without a name. -/
def Nameless (flag : Text) : Prop := flag = [] ∨ flag.head? = some (CodePoint.ofChar '=')

theorem entryOf_flag {e : BanEntry} (h : e.IsNamed) : entryOf e.flag = .ok e.option := by
  obtain ⟨name, message⟩ := e
  obtain ⟨hname, hsign⟩ := h
  have hcut : Text.cut '=' (BanEntry.flag ⟨name, message⟩) = (name, message) := cut_join hsign message
  obtain ⟨c, name, rfl⟩ := List.exists_cons_of_ne_nil hname
  rw [entryOf, hcut]
  cases message <;> rfl

theorem not_nameless_flag {e : BanEntry} (h : e.IsNamed) : ¬ Nameless e.flag := by
  obtain ⟨name, message⟩ := e
  obtain ⟨hname, hsign⟩ := h
  obtain ⟨c, name, rfl⟩ := List.exists_cons_of_ne_nil hname
  have hc : c ≠ CodePoint.ofChar '=' := by
    rintro rfl
    exact hsign List.mem_cons_self
  cases message <;> simpa [Nameless, BanEntry.flag, BanEntry.parts, Text.join] using hc

theorem entryOf_nameless {flag : Text} (h : Nameless flag) : entryOf flag = .error (.emptyBan flag) := by
  cases flag with
  | nil => rfl
  | cons c t =>
    obtain rfl : c = CodePoint.ofChar '=' := by simpa [Nameless] using h
    simp [entryOf, Text.cut]

/-- A flag is that of an entry, or it has no name. -/
theorem entryOf_cases (flag : Text) : Nameless flag ∨ ∃ e : BanEntry, e.IsNamed ∧ flag = e.flag := by
  obtain ⟨name, message, hsign, hflag⟩ := exists_cut '=' flag
  by_cases hname : name = []
  · subst hname hflag
    cases message with
    | none => exact .inl (.inl rfl)
    | some message => exact .inl (.inr rfl)
  · exact .inr ⟨⟨name, message⟩, ⟨hname, hsign⟩, hflag⟩

theorem entryOf_eq_ok_iff {flag : Text} {option : Json} :
    entryOf flag = .ok option ↔ ∃ e : BanEntry, e.IsNamed ∧ flag = e.flag ∧ option = e.option := by
  constructor
  · intro h
    rcases entryOf_cases flag with hflag | ⟨e, he, rfl⟩
    · simp [entryOf_nameless hflag] at h
    · exact ⟨e, he, rfl, by simpa [entryOf_flag he, eq_comm] using h⟩
  · rintro ⟨e, he, rfl, rfl⟩
    exact entryOf_flag he

/-! ## flags, one after the other -/

theorem entriesOf_eq_ok_iff {flags : List Text} {options : List Json} : entriesOf flags = .ok options ↔
    List.Forall₂ (fun flag option => ∃ e : BanEntry, e.IsNamed ∧ flag = e.flag ∧ option = e.option) flags options := by
  simp only [← entryOf_eq_ok_iff]
  induction flags generalizing options with
  | nil => simp [entriesOf, eq_comm]
  | cons flag flags ih =>
    rw [List.forall₂_cons_left_iff]
    simp only [← ih]
    cases hflag : entryOf flag with
    | error fault => simp [entriesOf, hflag, bind, Except.bind]
    | ok option =>
      cases hrest : entriesOf flags <;> simp [entriesOf, hflag, hrest, bind, Except.bind, pure, Except.pure, eq_comm]

/-- Flags have entries exactly if each of them has a name. -/
theorem exists_entriesOf_iff {flags : List Text} :
    (∃ options, entriesOf flags = .ok options) ↔ ∀ flag ∈ flags, ¬ Nameless flag := by
  induction flags with
  | nil => simp [entriesOf]
  | cons flag flags ih =>
    rw [List.forall_mem_cons, ← ih]
    rcases entryOf_cases flag with hflag | ⟨e, he, rfl⟩
    · simp [entriesOf, entryOf_nameless hflag, hflag, bind, Except.bind]
    · cases hrest : entriesOf flags <;>
        simp [entriesOf, entryOf_flag he, not_nameless_flag he, hrest, bind, Except.bind, pure, Except.pure]

/-- The configuration of entries. -/
def ofEntries (options : List Json) : Config := ⟨[(BanTypes.id, { options })]⟩

/-- Flags give the configuration of their entries, without a rule if there are no flags. -/
theorem ofBans_eq_ok_iff {flags : List Text} {c : Config} : ofBans flags = .ok c ↔
    ∃ options, entriesOf flags = .ok options ∧ c = if options = [] then {} else ofEntries options := by
  unfold ofBans
  cases entriesOf flags with
  | error fault => simp [bind, Except.bind]
  | ok options =>
    simp only [bind, Except.bind, pure, Except.pure, Except.ok.injEq, List.isEmpty_iff, exists_eq_left']
    exact eq_comm

theorem exists_ofBans_error_iff {flags : List Text} :
    (∃ fault, ofBans flags = .error fault) ↔ ∃ flag ∈ flags, Nameless flag := by
  have hnames : (∃ options, entriesOf flags = .ok options) ↔ ∀ flag ∈ flags, ¬ Nameless flag := exists_entriesOf_iff
  cases hentries : entriesOf flags with
  | error fault =>
    refine iff_of_true ⟨fault, by simp [ofBans, hentries, bind, Except.bind]⟩ ?_
    simpa [hentries] using hnames
  | ok options =>
    refine iff_of_false (by simp [ofBans, hentries, bind, Except.bind, pure, Except.pure]) ?_
    simpa [hentries] using hnames

/-- The options of flags are their entries. -/
theorem options_ofBans {flags : List Text} {c : Config} (h : ofBans flags = .ok c) :
    entriesOf flags = .ok (c.options BanTypes.id) := by
  obtain ⟨options, hentries, rfl⟩ := ofBans_eq_ok_iff.1 h
  rw [hentries]
  by_cases hnone : options = []
  · subst hnone
    rfl
  · rw [if_neg hnone, Config.options, rule?, ofEntries]
    simp

theorem entriesOf_flags {entries : List BanEntry} (h : ∀ e ∈ entries, e.IsNamed) :
    entriesOf (entries.map BanEntry.flag) = .ok (entries.map BanEntry.option) := by
  rw [entriesOf_eq_ok_iff, List.forall₂_map_left_iff, List.forall₂_map_right_iff, List.forall₂_same]
  intro e he
  exact ⟨e, h e he, rfl, rfl⟩

end Config

namespace Linter

/-- A rule without options bans nothing, as does a configuration without rules. -/
theorem ofConfig_ofEntries (options : List Json) :
    ofConfig (if options = [] then {} else .ofEntries options) = ofConfig (.ofEntries options) := by
  by_cases h : options = []
  · subst h
    rfl
  · rw [if_neg h]

/-- Entries whose names hold no equals sign can be written as flags or in a document: both give configurations, and these
make no linters, for the same reason, or linters that find the same in each source.  Flags give no configuration exactly
if one of them has no name; else the options that they give are their texts, with an equals sign in between. -/
theorem ofConfig_flags :
    (∀ entries : List BanEntry, (∀ e ∈ entries, e.name ≠ [] ∧ CodePoint.ofChar '=' ∉ e.name) →
      ∃ c c', Config.ofBans (entries.map BanEntry.flag) = .ok c ∧
        Config.ofJson (.obj [(text "rules", .obj [(text "ban-types", .arr (entries.map BanEntry.option))])]) = .ok c' ∧
        ((∃ e, ofConfig c = .error e ∧ ofConfig c' = .error e) ∨
          ∃ l l', ofConfig c = .ok l ∧ ofConfig c' = .ok l' ∧
            ∀ file source, l.lintSource file source = l'.lintSource file source)) ∧
    ∀ flags : List Text,
      ((∃ fault, Config.ofBans flags = .error fault) ↔
        ∃ flag ∈ flags, flag = [] ∨ flag.head? = some (CodePoint.ofChar '=')) ∧
      ∀ c, Config.ofBans flags = .ok c → List.Forall₂ (fun flag option => ∃ e : BanEntry,
        (e.name ≠ [] ∧ CodePoint.ofChar '=' ∉ e.name) ∧ flag = Text.join (text "=") e.parts ∧ option = e.option)
          flags (c.options BanTypes.id) := by
  refine ⟨?_, ?_⟩
  · intro entries h
    have hflags := Config.ofBans_eq_ok_iff.2 ⟨_, Config.entriesOf_flags h, rfl⟩
    refine ⟨_, .ofEntries (entries.map BanEntry.option), hflags, rfl, ?_⟩
    rw [ofConfig_ofEntries]
    cases hl : ofConfig (.ofEntries (entries.map BanEntry.option)) with
    | error e => exact .inl ⟨e, rfl, rfl⟩
    | ok l => exact .inr ⟨l, l, rfl, rfl, fun _ _ => rfl⟩
  · intro flags
    refine ⟨Config.exists_ofBans_error_iff, ?_⟩
    intro c hc
    exact Config.entriesOf_eq_ok_iff.1 (Config.options_ofBans hc)

/-- A message with an equals sign in it, an empty message, and none; and a flag that begins with the sign. -/
theorem ofConfig_flags_signs :
    (∃ c c' l l', Config.ofBans [text "A=b=c", text "D=", text "E"] = .ok c ∧
      Config.ofJson (.obj [(text "rules", .obj [(text "ban-types", .arr [.arr [.str (text "A"), .str (text "b=c")],
        .arr [.str (text "D"), .str []], .arr [.str (text "E")]])])]) = .ok c' ∧
      ofConfig c = .ok l ∧ ofConfig c' = .ok l' ∧
      ∀ file source, l.lintSource file source = l'.lintSource file source) ∧
    ∃ fault, Config.ofBans [text "A", text "=b"] = .error fault := by
  obtain ⟨hsame, hflags⟩ := ofConfig_flags
  constructor
  · let entries : List BanEntry := [⟨text "A", some (text "b=c")⟩, ⟨text "D", some []⟩, ⟨text "E", none⟩]
    have hbans : Config.ofBans (entries.map BanEntry.flag) = .ok (.ofEntries (entries.map BanEntry.option)) := rfl
    obtain ⟨l₀, hl₀⟩ : ∃ l, ofConfig (.ofEntries (entries.map BanEntry.option)) = .ok l := ⟨_, rfl⟩
    obtain ⟨c, c', hc, hc', h⟩ := hsame entries (by decide)
    obtain rfl := Except.ok.inj (hbans.symm.trans hc)
    rcases h with ⟨e, he, -⟩ | ⟨l, l', hl, hl', hlint⟩
    · simp [hl₀] at he
    · exact ⟨_, c', l, l', hbans, hc', hl, hl', hlint⟩
  · exact (hflags [text "A", text "=b"]).1.2 ⟨text "=b", by simp, .inr rfl⟩

end Linter

end TypeLint.Lint
