import TypeLint.Command.Run
import TypeLint.Proofs.Pattern.Anchored
import TypeLint.Proofs.Rule.Entries
import TypeLint.Proofs.Tree.Literals

/-!
# When the command ends without an outcome

A source is a program, or is refused with a diagnostic, except that a program with a literal that has no value gives
neither.  A configuration makes a linter, or is told to be unusable, except for a file that is no text or holds too long
a number, and for a pattern that repeats too often to be counted.  These exceptions stop the whole command.

* `lintSource_outcome` — what becomes of a source, and of a run over many files;
* `linter_crash_iff` — the configurations that stop the command;
* `serve_unconfigured` — what the command does without a linter.
-/

namespace TypeLint.Command

open Files Lint Report Rule Source

/-! ## sources -/

theorem parseSource_of_error {source : Text} {e : SyntaxError} (h : Source.parse source = .error e)
    (file : Option Text) : parseSource source file = .ok (.refused (syntaxDiagnostic file e)) := by
  simp [parseSource, h]

theorem parseSource_of_ok {source : Text} {p : Program} (h : Source.parse source = .ok p) (file : Option Text) :
    parseSource source file = p.toNode.map .program := by
  simp [parseSource, h]

/-- A run over files gives findings exactly if each file does. -/
theorem lintFiles_ok_iff (t : FileTree) (l : Linter) (files : List Path) :
    (∃ ds, lintFiles t l files = .ok ds) ↔ ∀ p ∈ files, ∃ ds, l.lintFile t p = .ok ds := by
  induction files with
  | nil => simp [lintFiles]
  | cons p rest ih =>
    rw [List.forall_mem_cons, ← ih]
    cases hp : l.lintFile t p with
    | error e => cases e <;> simp [lintFiles, hp]
    | ok ds => cases hrest : lintFiles t l rest <;> simp [lintFiles, hp, hrest, Except.map]

/-- A source that the grammar refuses gives one diagnostic of the parser.  Any other gives a tree and its findings if
all its literals have values; else it gives nothing at all, and the first literal without a value is to blame.  A run
gives findings only if each of its files does. -/
theorem lintSource_outcome (l : Linter) (file : Option Text) (source : Text) :
    ((∃ e, Source.parse source = .error e ∧ (syntaxDiagnostic file e).phase = some (text "parser") ∧
        parseSource source file = .ok (.refused (syntaxDiagnostic file e)) ∧
        l.lintSource file source = .ok [syntaxDiagnostic file e]) ∨
      (∃ p root, Source.parse source = .ok p ∧ (∀ lit ∈ p.literals, lit.value.isOk = true) ∧
        parseSource source file = .ok (.program root) ∧
        l.lintSource file source = .ok (l.lintProgram file root)) ∨
      (∃ p lit e, Source.parse source = .ok p ∧ p.literals.find? (fun lit => !lit.value.isOk) = some lit ∧
        lit.value = .error e ∧ parseSource source file = .error e ∧ l.lintSource file source = .error e)) ∧
    ∀ (t : FileTree) (files : List Path),
      (∃ ds, lintFiles t l files = .ok ds) ↔ ∀ p ∈ files, ∃ ds, l.lintFile t p = .ok ds := by
  refine ⟨?_, fun t files => lintFiles_ok_iff t l files⟩
  cases hparse : Source.parse source with
  | error e =>
    have h := parseSource_of_error hparse file
    exact .inl ⟨e, rfl, rfl, h, by simp [Linter.lintSource, h]⟩
  | ok p =>
    have h := parseSource_of_ok hparse file
    cases hroot : p.toNode with
    | ok root =>
      have h : parseSource source file = .ok (.program root) := by rw [h, hroot]; rfl
      exact .inr (.inl ⟨p, root, rfl, Program.exists_toNode_iff.1 ⟨root, hroot⟩, h, by simp [Linter.lintSource, h]⟩)
    | error e =>
      have h : parseSource source file = .error e := by rw [h, hroot]; rfl
      obtain ⟨lit, hlit, he⟩ := Program.toNode_eq_error_iff.1 hroot
      exact .inr (.inr ⟨p, lit, e, rfl, hlit, he, h, by simp [Linter.lintSource, h]⟩)

theorem lintSource_outcome_escape :
    parseSource (text "let a = \"\\x\"") none = .error (.string .escape) ∧
      ∀ l : Linter, l.lintSource none (text "let a = \"\\x\"") = .error (.string .escape) := by
  obtain ⟨p, hp, hroot⟩ : ∃ p, Source.parse (text "let a = \"\\x\"") = .ok p ∧
      p.toNode = .error (.string .escape) := ⟨_, by cbv, by rfl⟩
  have h : parseSource (text "let a = \"\\x\"") none = .error (.string .escape) := by
    rw [parseSource_of_ok hp, hroot]
    rfl
  exact ⟨h, fun l => by simp only [Linter.lintSource, h]⟩

/-! ## configurations -/

/-- A file that stops the command when it is read as a configuration: no file can have its path, its bytes are no text,
or its text holds a whole number of too many digits. -/
def Unloadable (t : FileTree) (p : Path) : Prop :=
  t.read p = .error .invalidName ∨
    ∃ bytes, t.read p = .ok bytes ∧
      ((∃ e, Utf8.decode bytes = .error e) ∨
        ∃ content, Utf8.decode bytes = .ok content ∧ Json.read (unifyLineEnds content) = .error .tooManyDigits)

/-- An entry whose pattern repeats something too often to be counted. -/
def Uncountable (entry : Json) : Prop :=
  ∃ raw error, Ban.ofEntry entry = .error (.pattern raw error) ∧
    (error = .repeatTooLarge ∨ error = .tooManyDigits)

/-- A configuration that stops the command: the first of its rules that fails has options of the right form, and the
first of its entries that is no ban is one whose repetitions cannot be counted. -/
def Unbuildable (c : Config) : Prop :=
  ∃ rule, c.rules.find? (fun rule => !(Linter.addRule {} rule).isOk) = some rule ∧
    rule.1 = BanTypes.id ∧ validate rule.1 BanTypes.info.schema (.arr rule.2.options) = .ok () ∧
    ∃ entry, rule.2.options.find? (fun entry => !(Ban.ofEntry entry).isOk) = some entry ∧ Uncountable entry

theorem load_crash_iff {t : FileTree} {p : Path} :
    (∃ c, (Config.load t p).mapError Obstacle.ofLoad = .error (.crash c)) ↔ Unloadable t p := by
  unfold Unloadable Config.load FileTree.readText
  cases hread : t.read p with
  | error e => cases e <;> simp [Except.mapError, Obstacle.ofLoad]
  | ok bytes =>
    cases hdecode : Utf8.decode bytes with
    | error e => simp [Except.mapError, Obstacle.ofLoad, hdecode]
    | ok content =>
      cases hjson : Json.read (unifyLineEnds content) with
      | error e => cases e <;> simp [Except.mapError, Obstacle.ofLoad, hdecode, hjson]
      | ok v => cases hconfig : Config.ofJson v <;> simp [Except.mapError, Obstacle.ofLoad, hdecode, hjson, hconfig]

/-- The bans of entries fail with the first entry that is no ban. -/
theorem compileFrom_error_iff {i : Nat} {entries : List Json} {fault : EntryFault} :
    (∃ index, compileFrom i entries = .error ⟨index, fault⟩) ↔
      ∃ entry, entries.find? (fun entry => !(Ban.ofEntry entry).isOk) = some entry ∧
        Ban.ofEntry entry = .error fault := by
  have hok : ∀ b, (∃ ban, Ban.ofEntry b = .ok ban) ↔ (Ban.ofEntry b).isOk = true := by
    intro b
    cases Ban.ofEntry b <;> simp [Except.isOk, Except.toBool]
  simp only [compileFrom_eq_error_iff, List.find?_eq_some_iff_append, hok]
  constructor
  · rintro ⟨index, before, entry, behind, rfl, -, hbefore, hfault⟩
    refine ⟨entry, ⟨by simp [hfault, Except.isOk, Except.toBool], before, behind, rfl, ?_⟩, hfault⟩
    simpa using hbefore
  · rintro ⟨entry, ⟨-, before, behind, rfl, hbefore⟩, hfault⟩
    exact ⟨i + before.length, before, entry, behind, rfl, rfl, by simpa using hbefore, hfault⟩

theorem addRule_eq_error_iff {l : Linter} {rule : Text × RuleConfig} {e : SetupError} :
    l.addRule rule = .error e ↔ Linter.addRule {} rule = .error e := by
  unfold Linter.addRule
  split
  · rfl
  split
  · rfl
  split
  · rfl
  · simp

/-- A configuration fails with the first of its rules that does. -/
theorem ofConfig_error_iff {c : Config} {e : SetupError} : Linter.ofConfig c = .error e ↔
    ∃ rule, c.rules.find? (fun rule => !(Linter.addRule {} rule).isOk) = some rule ∧
      Linter.addRule {} rule = .error e := by
  have hfold : ∀ (rules : List (Text × RuleConfig)) (l : Linter), rules.foldlM Linter.addRule l = .error e ↔
      ∃ rule, rules.find? (fun rule => !(Linter.addRule {} rule).isOk) = some rule ∧
        Linter.addRule {} rule = .error e := by
    intro rules
    induction rules with
    | nil => simp [pure, Except.pure]
    | cons rule rest ih =>
      intro l
      cases hrule : Linter.addRule {} rule with
      | error e' =>
        have hl : l.addRule rule = .error e' := addRule_eq_error_iff.2 hrule
        simp [List.foldlM_cons, hl, hrule, bind, Except.bind, Except.isOk, Except.toBool]
      | ok l' =>
        rw [List.find?_cons_of_neg (by simp [hrule, Except.isOk, Except.toBool])]
        cases hl : l.addRule rule with
        | error e' =>
          have he := addRule_eq_error_iff.1 hl
          simp [hrule] at he
        | ok l'' => simpa [List.foldlM_cons, hl, bind, Except.bind] using ih l''
  exact hfold c.rules {}

theorem addRule_eq_bans_iff {rule : Text × RuleConfig} {b : BanError} :
    Linter.addRule {} rule = .error (.bans b) ↔ rule.1 = BanTypes.id ∧
      validate rule.1 BanTypes.info.schema (.arr rule.2.options) = .ok () ∧ compile rule.2.options = .error b := by
  obtain ⟨id, config⟩ := rule
  unfold Linter.addRule
  by_cases hid : id = BanTypes.id
  · subst hid
    cases hvalid : validate BanTypes.id BanTypes.info.schema (.arr config.options) with
    | error e => simp
    | ok u => cases compile config.options <;> simp
  · simp [hid]

theorem message?_of_ofConfig {c : Config} {e : OptionsError} (h : Linter.ofConfig c = .error (.options e)) :
    e.message? = some e.message := by
  obtain ⟨⟨id, rule⟩, -, he⟩ := ofConfig_error_iff.1 h
  unfold Linter.addRule at he
  split at he
  · simp at he
  split at he
  · next hvalid =>
    simp only [Except.error.injEq, SetupError.options.injEq] at he
    exact message?_of_validate (he ▸ hvalid)
  · split at he <;> simp at he

/-- The error of a ban that is not told is a number of repetitions: since the pattern of a ban begins with an anchor,
its options cannot conflict. -/
theorem message?_eq_none_iff {b : BanError} {entry : Json} (h : Ban.ofEntry entry = .error b.fault) :
    b.message? = none ↔ Uncountable entry := by
  unfold Uncountable BanError.message?
  rw [h]
  cases hfault : b.fault with
  | shape => simp
  | notText => simp
  | pattern raw error =>
    rw [hfault] at h
    cases error with
    | «at» fault pos => simp [BanError.reason?]
    | whole fault => simp [BanError.reason?]
    | repeatTooLarge => exact iff_of_true rfl ⟨raw, _, rfl, .inl rfl⟩
    | tooManyDigits => exact iff_of_true rfl ⟨raw, _, rfl, .inr rfl⟩
    | flagConflict =>
      have hne : Pattern.parse (Ban.anchored raw) ≠ .error .flagConflict :=
        Pattern.parse_anchor_ne_flagConflict (by simp [text])
      exact absurd (Ban.ofEntry_eq_pattern_iff.1 h).2 hne

theorem setup_crash_iff {c : Config} :
    (∃ k, (Linter.ofConfig c).mapError Obstacle.ofSetup = .error (.crash k)) ↔ Unbuildable c := by
  have hsetup : (∃ k, (Linter.ofConfig c).mapError Obstacle.ofSetup = .error (.crash k)) ↔
      ∃ b, Linter.ofConfig c = .error (.bans b) ∧ b.message? = none := by
    cases hc : Linter.ofConfig c with
    | ok l => simp [Except.mapError]
    | error e =>
      cases e with
      | config e => simp [Except.mapError, Obstacle.ofSetup]
      | options e => simp [Except.mapError, Obstacle.ofSetup, message?_of_ofConfig hc]
      | bans b =>
        cases hm : b.message? with
        | some m => simp [Except.mapError, Obstacle.ofSetup, hm]
        | none =>
          cases hf : b.fault with
          | shape => simp [BanError.message?, hf] at hm
          | notText => simp [BanError.message?, hf] at hm
          | pattern raw error => simp [Except.mapError, Obstacle.ofSetup, hm, hf]
  rw [hsetup]
  constructor
  · rintro ⟨b, hb, hm⟩
    obtain ⟨rule, hrule, he⟩ := ofConfig_error_iff.1 hb
    obtain ⟨hid, hvalid, hcompile⟩ := addRule_eq_bans_iff.1 he
    obtain ⟨entry, hentry, hfault⟩ := compileFrom_error_iff.1 ⟨b.index, hcompile⟩
    exact ⟨rule, hrule, hid, hvalid, entry, hentry, (message?_eq_none_iff hfault).1 hm⟩
  · rintro ⟨rule, hrule, hid, hvalid, entry, hentry, huncountable⟩
    obtain ⟨raw, error, hfault, -⟩ := id huncountable
    obtain ⟨index, hcompile⟩ := compileFrom_error_iff.2 ⟨entry, hentry, hfault⟩
    refine ⟨⟨index, .pattern raw error⟩, ?_, (message?_eq_none_iff hfault).2 huncountable⟩
    exact ofConfig_error_iff.2 ⟨rule, hrule, addRule_eq_bans_iff.2 ⟨hid, hvalid, hcompile⟩⟩

/-- The command stops without an outcome before it lints exactly if its configuration file cannot be loaded, or if the
file and the bans of the arguments together hold a pattern with a number of repetitions that cannot be counted. -/
theorem linter_crash_iff {t : FileTree} {r : Request} :
    (∃ c, linter t r = .error (.crash c)) ↔
      (∃ p, configPath t r = some p ∧ Unloadable t p) ∨ ∃ c, configuration t r = .ok c ∧ Unbuildable c := by
  have hbase : (∃ k, configuration t r = .error (.crash k)) ↔ ∃ p, configPath t r = some p ∧ Unloadable t p := by
    unfold configuration
    cases hpath : configPath t r with
    | none => cases Config.ofBans r.bans <;> simp [bind, Except.bind, pure, Except.pure]
    | some p =>
      simp only [Option.some.injEq, exists_eq_left', ← load_crash_iff]
      cases (Config.load t p).mapError Obstacle.ofLoad with
      | error o => simp [bind, Except.bind]
      | ok base => cases Config.ofBans r.bans <;> simp [bind, Except.bind, pure, Except.pure]
  unfold linter
  rw [← hbase]
  cases hc : configuration t r with
  | error o => simp [bind, Except.bind]
  | ok c => simpa [bind, Except.bind] using setup_crash_iff

/-- Without a linter the command tells why, as an error of the configuration, and ends with the code 2, except for
configurations that stop it without an outcome. -/
theorem serve_unconfigured (t : FileTree) (r : Request) :
    ((∃ c, serve t r = .error c ∧ linter t r = .error (.crash c)) ↔
      (∃ p, configPath t r = some p ∧ Unloadable t p) ∨ ∃ c, configuration t r = .ok c ∧ Unbuildable c) ∧
    ((∃ c, linter t r = .error (.crash c)) ∨ (∃ l, linter t r = .ok l) ∨
      ∃ message, linter t r = .error (.told message) ∧
        serve t r = .ok (failure r.json (text "configuration error: " ++ message)) ∧
        (failure r.json (text "configuration error: " ++ message)).code = 2) := by
  refine ⟨?_, ?_⟩
  · rw [← linter_crash_iff]
    unfold serve
    cases hl : linter t r with
    | ok l => simp
    | error o => cases o <;> simp
  · unfold serve
    cases hl : linter t r with
    | ok l => exact .inr (.inl ⟨l, rfl⟩)
    | error o =>
      cases o with
      | crash c => exact .inl ⟨c, rfl⟩
      | told message =>
        refine .inr (.inr ⟨message, rfl, rfl, ?_⟩)
        unfold failure
        split <;> rfl

theorem serve_unconfigured_bytes :
    (∃ e, serve ⟨.dir [(defaultConfig, .file [0xff])], []⟩ {} = .error (.load (.undecodable e))) ∧
      serve ⟨.dir [], []⟩ { bans := [text "a\x7b4294967295\x7d"] } = .error (.pattern .repeatTooLarge) := by
  refine ⟨⟨_, rfl⟩, ?_⟩
  let raw := text "a\x7b4294967295\x7d"
  have hc : configuration ⟨.dir [], []⟩ { bans := [raw] } = .ok ⟨[(BanTypes.id, { options := [.arr [.str raw]] })]⟩ :=
    rfl
  have hvalid : validate BanTypes.id BanTypes.info.schema (.arr [.arr [.str raw]]) = .ok () := rfl
  have hparse : Pattern.parse (Ban.anchored raw) = .error .repeatTooLarge := by
    have h : (Pattern.parse (Ban.anchored raw)).map (fun _ => ()) = .error .repeatTooLarge := by decide +kernel
    cases hp : Pattern.parse (Ban.anchored raw) <;> simp_all [Except.map]
  have hban : Ban.ofEntry (.arr [.str raw]) = .error (.pattern raw .repeatTooLarge) := by
    rw [Ban.ofEntry, Ban.ofPattern, hparse]
  have hlinter : linter ⟨.dir [], []⟩ { bans := [raw] } = .error (.crash (.pattern .repeatTooLarge)) := by
    simp [linter, hc, Linter.ofConfig, Linter.addRule, hvalid, compile, compileFrom, hban, bind, Except.bind,
      Except.mapError, Obstacle.ofSetup, BanError.message?, BanError.reason?]
  change serve ⟨.dir [], []⟩ { bans := [raw] } = _
  simp only [serve, hlinter]

end TypeLint.Command
