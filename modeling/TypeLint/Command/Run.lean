import TypeLint.Command.Arguments
import TypeLint.Command.Usage
import TypeLint.Json.Writer
import TypeLint.Lint.Linter

/-!
# Running the command

`execute` is the whole command: from the arguments and the file tree to the texts it writes and its exit code.
The code is 0 if nothing worse than a warning was found, 1 if there is an error, and 2 if the command could not
start to lint.
-/

namespace TypeLint.Command

open Files Lint Report

/-- What the command leaves behind. -/
structure Outcome where
  code : Nat
  out : Text := []
  err : Text := []

/-- What stops the command without an outcome. -/
inductive Crash where
  | literal (e : Source.LiteralError)
  | load (e : Config.LoadError)
  | options (e : Rule.OptionsError)
  | pattern (e : Pattern.Error)
  | invalidPath

/-- Why there is no linter: a reason that is told, or a crash. -/
inductive Obstacle where
  | told (message : Text)
  | crash (c : Crash)

namespace Obstacle

/-- A configuration that cannot be loaded. -/
def ofLoad : Config.LoadError → Obstacle
  | .config e => .told e.message
  | e => .crash (.load e)

/-- A configuration that makes no linter. -/
def ofSetup : SetupError → Obstacle
  | .config e => .told e.message
  | .options e =>
    match e.message? with
    | some message => .told message
    | none => .crash (.options e)
  | .bans e =>
    match e.message?, e.fault with
    | some message, _ => .told message
    | none, .pattern _ error => .crash (.pattern error)
    | none, _ => .told []

end Obstacle

/-- The configuration file that is taken if none is named. -/
def defaultConfig : Text := text "typeban.json"

/-- The file that the configuration is read from, if any. -/
def configPath (t : FileTree) (r : Request) : Option Path :=
  match r.config with
  | some p => some (.ofText p)
  | none =>
    let p := t.workingDirectory.child defaultConfig
    if t.isFile p then some p else none

/-- The configuration of a request: that of the file, then the bans of the arguments. -/
def configuration (t : FileTree) (r : Request) : Except Obstacle Config := do
  let base ← match configPath t r with
    | some p => (Config.load t p).mapError .ofLoad
    | none => .ok {}
  match Config.ofBans r.bans with
  | .ok bans => return base.merge bans
  | .error fault => .error (.told (ConfigError.message ⟨fault, none⟩))

/-- The linter of a request. -/
def linter (t : FileTree) (r : Request) : Except Obstacle Linter := do
  let config ← configuration t r
  (Linter.ofConfig config).mapError .ofSetup

/-- One line. -/
def line (t : Text) : Text := t ++ [CodePoint.lineFeed]

/-- The exit code and diagnostics as one line of JSON. -/
def jsonReport (code : Nat) (ds : List Diagnostic) : Text :=
  line (Json.obj [
    (text "exit_code", .int code), (text "diagnostics", .arr (ds.map Diagnostic.toJson))]).write

/-- The command could not start to lint. -/
def failure (json : Bool) (message : Text) : Outcome :=
  if json then { code := 2, out := jsonReport 2 [{ message, phase := some (text "config") }] }
  else { code := 2, err := line (name ++ text ": error: " ++ message) }

/-- The outcome of linting. -/
def report (json : Bool) (ds : List Diagnostic) : Outcome :=
  let code := if ds.any Diagnostic.isError then 1 else 0
  if json then { code, out := jsonReport code ds } else { code, err := ds.flatMap fun d => line d.format }

/-- The suffixes of the files that are linted in directories. -/
def suffixes (r : Request) : List Text := if r.extensions.isEmpty then [text ".ts"] else r.extensions

/-- The findings in files, one file after the other. -/
def lintFiles (t : FileTree) (l : Linter) : List Path → Except Crash (List Diagnostic)
  | [] => .ok []
  | p :: rest =>
    match l.lintFile t p with
    | .error (.literal e) => .error (.literal e)
    | .error .invalidPath => .error .invalidPath
    | .ok ds => (lintFiles t l rest).map (ds ++ ·)

/-- Carry out a request. -/
def serve (t : FileTree) (r : Request) : Except Crash Outcome :=
  match linter t r with
  | .error (.crash c) => .error c
  | .error (.told message) => .ok (failure r.json (text "configuration error: " ++ message))
  | .ok l =>
    match t.collect (r.paths.map Path.ofText) (suffixes r) with
    | [] => .ok (failure r.json (text "no source files found"))
    | files => (lintFiles t l files).map (report r.json)

/-- The command. -/
def execute (t : FileTree) (arguments : List Text) : Except Crash Outcome :=
  match Request.ofArguments arguments with
  | .error e => .ok { code := 2, err := usage ++ line (name ++ text ": error: " ++ e.message) }
  | .ok .help => .ok { code := 0, out := help }
  | .ok (.run r) => serve t r

end TypeLint.Command
