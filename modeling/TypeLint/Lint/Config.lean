import TypeLint.Files.Tree
import TypeLint.Json.Reader
import TypeLint.Rule.BanTypes

/-!
# Configuration

A configuration gives each rule its options and a severity.  It is read from a JSON document, or made from the
bans of a command line; `Config.merge` puts two together, and the options of a rule in both stand one behind
the other.

* `Config.ofJson` — the configuration that a document holds;
* `Config.ofBans` — the configuration of `NAME` and `NAME=MESSAGE` flags;
* `Config.load` — the configuration in a file.
-/

namespace TypeLint.Lint

open Files

/-- The options of a rule, and how grave its findings are. -/
structure RuleConfig where
  options : List Json := []
  severity : Text := text "error"

/-- Rules with their options, in order, each rule once. -/
structure Config where
  rules : List (Text × RuleConfig) := []

/-- Why there is no configuration. -/
inductive ConfigFault where
  | notObject
  | unsupported
  | rulesNotObject
  | unknownRule (id : Text)
  | ruleNotUsable (id : Text)
  | optionsNotList (id : Text)
  | badSeverity (id : Text)
  | emptyBan (value : Text)
  | unreadable (e : ReadError)
  | notJson (reason : Text)

/-- A fault, and the file it is in. -/
structure ConfigError where
  fault : ConfigFault
  path : Option Path := none

namespace ConfigFault

/-- The severities that findings can have. -/
def severities : List Text := [text "error", text "warning"]

/-- The wording of a fault. -/
def message : ConfigFault → Text
  | .notObject => text "config must be a JSON object"
  | .unsupported => text "unsupported config format/version"
  | .rulesNotObject => text "rules must be a JSON object"
  | .unknownRule id => text "unknown rule " ++ id.quoted
  | .ruleNotUsable id => id ++ text ": expected an option list or an object"
  | .optionsNotList id => id ++ text ": options must be a list"
  | .badSeverity id => id ++ text ": severity must be one of " ++ Text.join (text ", ") severities
  | .emptyBan value => text "--ban value " ++ value.quoted ++ text " has an empty type name"
  | .unreadable e => text "cannot read config: " ++ e.reason
  | .notJson reason => text "invalid JSON: " ++ reason

end ConfigFault

/-- The wording of an error, behind its file. -/
def ConfigError.message (e : ConfigError) : Text :=
  match e.path with
  | some p => p.toText ++ text ": " ++ e.fault.message
  | none => e.fault.message

/-- The rules that exist. -/
def knownRules : List Text := [Rule.BanTypes.id]

namespace Config

/-! ## from a document -/

/-- The severity that a member gives. -/
def severityOf (id : Text) : Json → Except ConfigFault Text
  | .str s => if ConfigFault.severities.contains s then .ok s else .error (.badSeverity id)
  | _ => .error (.badSeverity id)

/-- The options and the severity of a rule: a list of options, or an object with both. -/
def ruleOf (id : Text) (v : Json) : Except ConfigFault RuleConfig :=
  match v with
  | .arr options => .ok { options }
  | .obj members => do
    let options ← match (Json.lookup (text "options") members).getD (.arr []) with
      | .arr options => .ok options
      | _ => .error (.optionsNotList id)
    let severity ← severityOf id ((Json.lookup (text "severity") members).getD (.str (text "error")))
    return { options, severity }
  | _ => .error (.ruleNotUsable id)

/-- The rules of the members of an object. -/
def rulesOf : List (Text × Json) → Except ConfigFault (List (Text × RuleConfig))
  | [] => .ok []
  | (id, v) :: rest => do
    if !knownRules.contains id then .error (.unknownRule id)
    let rule ← ruleOf id v
    return (id, rule) :: (← rulesOf rest)

/-- The mark of a document is right, or missing. -/
def isSupported (members : List (Text × Json)) : Bool :=
  (match Json.lookup (text "format") members with
    | some (.str t) => t = text "typeban"
    | some _ => false
    | none => true)
  && ((Json.lookup (text "version") members).getD (.int 0)).isZero

/-- The configuration that a value holds. -/
def ofJson (v : Json) : Except ConfigFault Config :=
  match v with
  | .obj members =>
    if !isSupported members then .error .unsupported
    else match (Json.lookup (text "rules") members).getD (.obj []) with
      | .obj rules => (rulesOf rules).map (⟨·⟩)
      | _ => .error .rulesNotObject
  | _ => .error .notObject

/-! ## from a command line -/

/-- The entry of a flag: a name, and behind an equals sign a message.  It is a tuple, where a document has lists. -/
def entryOf (flag : Text) : Except ConfigFault Json :=
  match flag.cut '=' with
  | ([], _) => .error (.emptyBan flag)
  | (name, none) => .ok (.arr [.str name])
  | (name, some message) => .ok (.arr [.str name, .str message])

/-- The entries of flags. -/
def entriesOf : List Text → Except ConfigFault (List Json)
  | [] => .ok []
  | flag :: rest => do
    let entry ← entryOf flag
    return entry :: (← entriesOf rest)

/-- The configuration of flags. -/
def ofBans (flags : List Text) : Except ConfigFault Config := do
  let entries ← entriesOf flags
  return if entries.isEmpty then {} else ⟨[(Rule.BanTypes.id, { options := entries })]⟩

/-! ## both together -/

/-- The rules with one more; a rule that is there keeps its place and its severity. -/
def addRule (id : Text) (rule : RuleConfig) : List (Text × RuleConfig) → List (Text × RuleConfig)
  | [] => [(id, rule)]
  | (key, old) :: rest =>
    if key = id then (key, { old with options := old.options ++ rule.options }) :: rest
    else (key, old) :: addRule id rule rest

/-- Two configurations together. -/
def merge (a b : Config) : Config :=
  ⟨b.rules.foldl (fun rules (id, rule) => addRule id rule rules) a.rules⟩

/-! ## from a file -/

/-- Why a file gives no configuration. -/
inductive LoadError where
  | config (e : ConfigError)
  | undecodable (e : Utf8.DecodeError)
  /-- a path that no file can have -/
  | invalidPath
  /-- a whole number of too many digits -/
  | tooManyDigits

/-- The configuration in a file. -/
def load (t : FileTree) (p : Path) : Except LoadError Config :=
  let fail := fun fault => Except.error (LoadError.config ⟨fault, some p⟩)
  match t.readText p with
  | .error (.unreadable .invalidName) => .error .invalidPath
  | .error (.unreadable e) => fail (.unreadable e)
  | .error (.undecodable e) => .error (.undecodable e)
  | .ok document =>
    match Json.read document with
    | .error .tooManyDigits => .error .tooManyDigits
    | .error (.fault f offset) => fail (.notJson (f.describe document offset))
    | .ok v =>
      match ofJson v with
      | .ok config => .ok config
      | .error fault => fail fault

end Config

end TypeLint.Lint
