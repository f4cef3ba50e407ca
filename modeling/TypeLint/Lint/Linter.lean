import TypeLint.Lint.Config
import TypeLint.Rule.Visit
import TypeLint.Source.Parse
import TypeLint.Tree.Build

/-!
# Linting

A `Linter` is a configuration made ready: its options are checked and its patterns compiled once.  It lints
trees, sources and files.

* `Linter.ofConfig` — the linter of a configuration;
* `parseSource` — the tree of a source, or a diagnostic;
* `Linter.lintProgram`, `Linter.lintSource`, `Linter.lintFile` — the findings, sorted by their places;
* `Linter.examine` — the findings in a tree, step by step.
-/

namespace TypeLint.Lint

open Files Report Rule Source TypeLint.Tree

/-- Bans, and how grave their findings are. -/
structure Linter where
  bans : List Ban := []
  severity : Text := text "error"

/-- Why a configuration makes no linter. -/
inductive SetupError where
  | config (e : ConfigError)
  | options (e : OptionsError)
  | bans (e : BanError)

namespace Linter

/-- With one more rule. -/
def addRule (l : Linter) (rule : Text × RuleConfig) : Except SetupError Linter :=
  if rule.1 ≠ BanTypes.id then .error (.config ⟨.unknownRule rule.1, none⟩)
  else match validate rule.1 BanTypes.info.schema (.arr rule.2.options) with
    | .error e => .error (.options e)
    | .ok () =>
      match compile rule.2.options with
      | .error e => .error (.bans e)
      | .ok bans => .ok { l with bans, severity := rule.2.severity }

/-- The linter of a configuration. -/
def ofConfig (c : Config) : Except SetupError Linter := c.rules.foldlM addRule {}

/-- The linter of a single rule. -/
def ofRule (id : Text) (options : List Json) : Except SetupError Linter := ofConfig ⟨[(id, { options })]⟩

/-- Where the findings of a file go. -/
def reporter (l : Linter) (file : Option Text) : Reporter where
  rule := BanTypes.id
  info := BanTypes.info
  file := file
  severity := l.severity

/-- The findings in a tree, sorted by their places; findings at one place keep their order. -/
def lintProgram (l : Linter) (file : Option Text) (program : Node) : List Diagnostic :=
  ((BanTypes.inspect l.bans program).filterMap (·.diagnostic? (l.reporter file))).mergeSort
    fun a b => a.span.key.le b.span.key

/-- The same step by step: what a visit of the tree reports, or why it fails. -/
def examine (l : Linter) (file : Option Text) (program : Node) : Except BanTypes.Failure (List Diagnostic) :=
  match (l.reporter file).perform (program.traverse (BanTypes.handlers l.bans)) with
  | (.ok (), r) => .ok (r.diagnostics.mergeSort fun a b => a.span.key.le b.span.key)
  | (.error e, _) => .error e

end Linter

/-- The diagnostic of a source that is no program. -/
def syntaxDiagnostic (file : Option Text) (e : SyntaxError) : Diagnostic where
  message := text "syntax error: " ++ e.message
  phase := some (text "parser")
  span := .ofPlace file (.loc e.pos.toLoc)

/-- What becomes of a source. -/
inductive Parsed where
  | program (root : Node)
  | refused (d : Diagnostic)

/-- The tree of a source, or the diagnostic of its syntax error. -/
def parseSource (source : Text) (file : Option Text) : Except LiteralError Parsed :=
  match parse source with
  | .error e => .ok (.refused (syntaxDiagnostic file e))
  | .ok program => program.toNode.map .program

/-- The diagnostic of a file that cannot be read. -/
def unreadable (p : Path) (e : TextError) : Diagnostic where
  message := text "cannot read file: " ++ e.describe p
  phase := some (text "io")
  span := ⟨some p.toText, none, none, none⟩

/-- Why a file gives no diagnostics at all. -/
inductive FileError where
  | literal (e : LiteralError)
  /-- a path that no file can have -/
  | invalidPath

namespace Linter

/-- The findings in a source, or its syntax error. -/
def lintSource (l : Linter) (file : Option Text) (source : Text) : Except LiteralError (List Diagnostic) :=
  match parseSource source file with
  | .error e => .error e
  | .ok (.refused d) => .ok [d]
  | .ok (.program root) => .ok (l.lintProgram file root)

/-- The findings in a file, or why it cannot be looked at. -/
def lintFile (l : Linter) (t : FileTree) (p : Path) : Except FileError (List Diagnostic) :=
  match t.readText p with
  | .error (.unreadable .invalidName) => .error .invalidPath
  | .error e => .ok [unreadable p e]
  | .ok source =>
    match l.lintSource (some p.toText) source with
    | .ok ds => .ok ds
    | .error e => .error (.literal e)

end Linter

end TypeLint.Lint
