import TypeLint.Text.Digit
import TypeLint.Text.Quoted

/-!
# Arguments of the command line

Arguments are options with or without a value, and paths.  A long option may be cut short as long as it is
clear which one is meant, and takes its value from the next argument or from behind an equals sign.  A short
option takes its value from the next argument or from what stands directly behind it.  Two dashes end the
options.  All paths stand together: what is no option behind an option that follows a path is refused.

* `classify` — how each argument is to be read;
* `Request.ofArguments` — what the arguments ask for.
-/

namespace TypeLint.Command

/-- The options. -/
inductive Flag where
  | help
  | config
  | ban
  | ext
  | json
deriving DecidableEq

namespace Flag

/-- The options, in the order in which they are listed. -/
def all : List Flag := [.help, .config, .ban, .ext, .json]

/-- How an option is written. -/
def names : Flag → List String
  | .help => ["-h", "--help"]
  | .config => ["-c", "--config"]
  | .ban => ["--ban"]
  | .ext => ["--ext"]
  | .json => ["--json"]

/-- Whether an option has a value. -/
def takesValue : Flag → Bool
  | .help | .json => false
  | .config | .ban | .ext => true

/-- How an option is named in a message. -/
def title (f : Flag) : Text := Text.join (text "/") (f.names.map text)

end Flag

/-- Why arguments ask for nothing. -/
inductive UsageError where
  | ambiguous (argument : Text) (names : List Text)
  | missingValue (flag : Flag)
  | needlessValue (flag : Flag) (value : Text)
  | unrecognized (arguments : List Text)

/-- The wording of an error. -/
def UsageError.message : UsageError → Text
  | .ambiguous a names =>
    text "ambiguous option: " ++ a ++ text " could match " ++ Text.join (text ", ") names
  | .missingValue f => text "argument " ++ f.title ++ text ": expected one argument"
  | .needlessValue f v => text "argument " ++ f.title ++ text ": ignored explicit argument " ++ v.quoted
  | .unrecognized as => text "unrecognized arguments: " ++ Text.join (text " ") as

/-- How an argument is to be read. -/
inductive Word where
  | plain (t : Text)
  /-- two dashes -/
  | separator
  /-- an option, under a short or a long name, with a value that belongs to the same argument -/
  | option (flag : Flag) (short : Bool) (value : Option Text)
  /-- an option that does not exist -/
  | unknown (t : Text)

/-! ## options -/

/-- The names of options, each with its option. -/
def namedFlags : List (Text × Flag) := Flag.all.flatMap fun f => f.names.map fun name => (text name, f)

/-- The option of that name. -/
def flagOf? (name : Text) : Option Flag := (namedFlags.find? (·.1 = name)).map (·.2)

/-- A name with one dash. -/
def isShort (name : Text) : Bool := !name.startsWith (text "--")

/-- A negative number is no option: a dash, digits, and a point with digits behind it. -/
def isNegativeNumber (t : Text) : Bool :=
  match t with
  | [] => false
  | dash :: rest =>
    let rest : Text := if rest.getLast? = some CodePoint.lineFeed then rest.dropLast else rest
    dash = '-' && match rest.cut '.' with
      | (whole, none) => !whole.isEmpty && whole.all CodePoint.isDigit
      | (whole, some frac) => whole.all CodePoint.isDigit && !frac.isEmpty && frac.all CodePoint.isDigit

/-- The options that an argument with dashes can mean, each with its name and the value in the argument. -/
def interpretations (a : Text) : List (Text × Flag × Option Text) :=
  if isShort a then
    (namedFlags.filter (·.1 = a.take 2)).map fun (name, f) => (name, f, some (a.drop 2))
  else
    let (name, value) := a.cut '='
    (namedFlags.filter (·.1.startsWith name)).map fun (full, f) => (full, f, value)

/-- How an argument that starts with a dash and is longer is to be read. -/
def readDashed (a : Text) : Except UsageError Word :=
  match flagOf? a with
  | some f => .ok (.option f (isShort a) none)
  | none =>
    match a.cut '=' with
    | (name, some value) =>
      match flagOf? name with
      | some f => .ok (.option f (isShort name) (some value))
      | none => guess a
    | (_, none) => guess a
where
  /-- An option cut short, or joined with its value. -/
  guess (a : Text) : Except UsageError Word :=
    match interpretations a with
    | [(name, f, value)] => .ok (.option f (isShort name) value)
    | [] =>
      if isNegativeNumber a || a.contains (CodePoint.ofChar ' ') then .ok (.plain a) else .ok (.unknown a)
    | several => .error (.ambiguous a (several.map (·.1)))

/-- How arguments are to be read. -/
def classify : List Text → Except UsageError (List Word)
  | [] => .ok []
  | a :: rest => do
    if a = text "--" then return .separator :: rest.map .plain
    let word ← match a with
      | dash :: _ :: _ => if dash = '-' then readDashed a else .ok (.plain a)
      | _ => .ok (.plain a)
    return word :: (← classify rest)

/-! ## requests -/

/-- What is asked for. -/
structure Request where
  paths : List Text := [text "."]
  config : Option Text := none
  bans : List Text := []
  extensions : List Text := []
  json : Bool := false

/-- What the arguments amount to. -/
inductive Command where
  | help
  | run (r : Request)

/-- A request of which some arguments have been read. -/
structure Reading where
  request : Request := {}
  /-- whether the paths have been read -/
  hasPaths : Bool := false
  /-- arguments that have no place -/
  extras : List Text := []

namespace Reading

/-- An option with its value. -/
def set (r : Reading) (f : Flag) (value : Text) : Reading :=
  match f with
  | .config => { r with request := { r.request with config := some value } }
  | .ban => { r with request := { r.request with bans := r.request.bans ++ [value] } }
  | .ext => { r with request := { r.request with extensions := r.request.extensions ++ [value] } }
  | .json => { r with request := { r.request with json := true } }
  | .help => r

/-- Arguments that are no options and stand together.  The first such arguments are the paths, without the
two dashes among them. -/
def place (r : Reading) (run : List Text) : Reading :=
  if run.isEmpty then r
  else if r.hasPaths then { r with extras := r.extras ++ run }
  else
    let paths := run.erase (text "--")
    { r with
      hasPaths := true
      request := if paths.isEmpty then r.request else { r.request with paths } }

/-- An argument that has no place. -/
def addExtra (r : Reading) (t : Text) : Reading := { r with extras := r.extras ++ [t] }

/-- The end of the arguments. -/
def finish (r : Reading) : Except UsageError Command :=
  if r.extras.isEmpty then .ok (.run r.request) else .error (.unrecognized r.extras)

end Reading

/-- The next word, if it can be the value of an option. -/
def valueOf? : List Word → Option (Text × List Word)
  | .plain t :: rest => some (t, rest)
  | _ => none

/-- Short options joined with the one for help, as far as they can be read; help comes first of them all. -/
def joined (tail : Text) (rest : List Word) : Except UsageError Command :=
  match tail with
  | [] => .ok .help
  | c :: more =>
    if c = 'h' then joined more rest
    else if c = 'c' then
      if more.isEmpty && (valueOf? rest).isNone then .error (.missingValue .config) else .ok .help
    else .error (.needlessValue .help (c :: more))

/-- The words from some place on.  `taken` are the arguments before it that are no options and stand
together. -/
def run (r : Reading) (taken : List Text) : (words : List Word) → Except UsageError Command
  | [] => (r.place taken).finish
  | .plain t :: rest => run r (taken ++ [t]) rest
  | .separator :: rest => run r (taken ++ [text "--"]) rest
  | .unknown t :: rest => run ((r.place taken).addExtra t) [] rest
  | .option f short (some v) :: rest =>
    if f.takesValue then run ((r.place taken).set f v) [] rest
    else if short && !v.isEmpty then joined v rest
    else .error (.needlessValue f v)
  | .option f _ none :: rest =>
    if f = .help then .ok .help
    else if f.takesValue then
      match rest with
      | .plain t :: rest => run ((r.place taken).set f t) [] rest
      | _ => .error (.missingValue f)
    else run ((r.place taken).set f []) [] rest

/-- What arguments ask for. -/
def Request.ofArguments (arguments : List Text) : Except UsageError Command := do
  run {} [] (← classify arguments)

end TypeLint.Command
