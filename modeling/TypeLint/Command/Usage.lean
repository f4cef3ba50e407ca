import TypeLint.Text.Basic

/-!
# Usage and help

The texts that say how the command is called.
-/

namespace TypeLint.Command

/-- The name of the command. -/
def name : Text := text "typeban"

/-- Lines, each with its end. -/
def linesText (lines : List String) : Text := lines.flatMap fun line => text line ++ [CodePoint.lineFeed]

/-- How the command is called. -/
def usage : Text := linesText [
  "usage: typeban [-h] [-c CONFIG] [--ban NAME[=MESSAGE]] [--ext .EXT] [--json]",
  "               [paths ...]"]

/-- What the command does, and what its arguments mean. -/
def help : Text := usage ++ linesText [
  "",
  "Report banned type names in type annotations",
  "",
  "positional arguments:",
  "  paths                 files or directories to lint (default: .)",
  "",
  "options:",
  "  -h, --help            show this help message and exit",
  "  -c CONFIG, --config CONFIG",
  "                        path to a JSON config file (default: ./typeban.json",
  "                        when present)",
  "  --ban NAME[=MESSAGE]  ban a type name pattern, with an optional message",
  "                        appended to the report (repeatable)",
  "  --ext .EXT            source file extension to collect from directories",
  "                        (repeatable; default: .ts)",
  "  --json                emit diagnostics as JSON",
  "                        (phase/rule/message/severity/file/line/column/data)"]

end TypeLint.Command
