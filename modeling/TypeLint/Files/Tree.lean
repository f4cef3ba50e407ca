import TypeLint.Files.Path
import TypeLint.Text.Quoted
import TypeLint.Text.Utf8

/-!
# File trees

A `FileTree` is what a program sees of a file system: directories, files with their bytes, and the working
directory.

* `FileTree.find` — what a path leads to;
* `FileTree.readText` — the text of a file, with every line end as a line feed;
* `FileTree.collect` — the files that targets name, each once, in the order of their paths.
-/

namespace TypeLint.Files

/-- A file or a directory. -/
inductive Entry where
  | file (bytes : List UInt8)
  | dir (entries : List (Text × Entry))

namespace Entry

/-- An empty directory. -/
def empty : Entry := .dir []

/-- What a directory holds under a name. -/
def child? : Entry → Text → Option Entry
  | .file _, _ => none
  | .dir entries, name => (entries.find? (·.1 = name)).map (·.2)

/-- What names lead to. -/
def at? (e : Entry) : List Text → Option Entry
  | [] => some e
  | name :: names => (e.child? name).bind (·.at? names)

mutual

/-- The names that lead to the files of a directory, at any depth. -/
def files : Entry → List (List Text)
  | .file _ => []
  | .dir entries => filesIn entries

/-- The names that lead to the files among entries and below them. -/
def filesIn : List (Text × Entry) → List (List Text)
  | [] => []
  | (name, .file _) :: rest => [name] :: filesIn rest
  | (name, .dir entries) :: rest => (filesIn entries).map (name :: ·) ++ filesIn rest

end

/-- With an entry put where names lead; directories on the way are made. -/
def insert (e : Entry) (names : List Text) (new : Entry) : Entry :=
  match names, e with
  | [], _ => new
  | name :: names, .file _ => .dir [(name, insert empty names new)]
  | name :: names, .dir entries =>
    let inner := (entries.find? (·.1 = name)).map (·.2)
    let put := (name, insert (inner.getD empty) names new)
    match inner with
    | some _ => .dir (entries.map fun entry => if entry.1 = name then put else entry)
    | none => .dir (entries ++ [put])

end Entry

/-- Why a file cannot be read. -/
inductive ReadError where
  | missing
  | notDirectory
  | isDirectory
  /-- no file can have such a name -/
  | invalidName
deriving DecidableEq

namespace ReadError

/-- The number of an error. -/
def number : ReadError → Nat
  | .missing => 2
  | .notDirectory => 20
  | .isDirectory => 21
  | .invalidName => 22

/-- The wording of an error. -/
def reason : ReadError → Text
  | .missing => text "No such file or directory"
  | .notDirectory => text "Not a directory"
  | .isDirectory => text "Is a directory"
  | .invalidName => text "Invalid argument"

/-- An error with its number and the path. -/
def describe (e : ReadError) (p : Path) : Text :=
  text "[Errno " ++ .ofNat e.number ++ text "] " ++ e.reason ++ text ": " ++ p.toText.quoted

end ReadError

/-- What a program sees of a file system. -/
structure FileTree where
  root : Entry
  /-- the names that lead to the working directory -/
  cwd : List Text

namespace FileTree

/-- A name that no file can have. -/
def isInvalid (name : Text) : Bool := name.any fun c : CodePoint => c.val = 0

/-- One more name behind the names that lead to a directory. -/
def follow (t : FileTree) (names : List Text) (name : Text) : Except ReadError (List Text) :=
  match t.root.at? names with
  | none => .error .missing
  | some (.file _) => .error .notDirectory
  | some (.dir _) => .ok (if name = Path.up then names.dropLast else names ++ [name])

/-- What a path leads to. -/
def find (t : FileTree) (p : Path) : Except ReadError Entry := do
  if p.names.any isInvalid then .error .invalidName
  let names ← p.names.foldlM (follow t) (if p.root = .relative then t.cwd else [])
  match t.root.at? names with
  | some e => return e
  | none => .error .missing

/-- The bytes of a file. -/
def read (t : FileTree) (p : Path) : Except ReadError (List UInt8) := do
  match ← t.find p with
  | .file bytes => return bytes
  | .dir _ => .error .isDirectory

/-- Whether a path leads to a file. -/
def isFile (t : FileTree) (p : Path) : Bool := (t.read p).toOption.isSome

/-- The path of the working directory. -/
def workingDirectory (t : FileTree) : Path := ⟨.root, t.cwd⟩

/-- The files that a target names: the file itself, or the files with one of the suffixes in a directory. -/
def candidates (t : FileTree) (suffixes : List Text) (target : Path) : List Path :=
  match t.find target with
  | .ok (.file _) => [target]
  | .ok (.dir entries) =>
    ((Entry.filesIn entries).map fun names => { target with names := target.names ++ names }).filter
      fun p => suffixes.contains p.suffix
  | .error _ => []

/-- The first path to each file. -/
def firstPaths (t : FileTree) : (seen : List (List Text)) → List Path → List Path
  | _, [] => []
  | seen, p :: rest =>
    let place := p.resolve t.cwd
    if seen.contains place then firstPaths t seen rest else p :: firstPaths t (place :: seen) rest

/-- The files that targets name, each under the first path that leads to it, in the order of paths. -/
def collect (t : FileTree) (targets : List Path) (suffixes : List Text) : List Path :=
  (t.firstPaths [] (targets.flatMap (t.candidates suffixes))).mergeSort Path.le

end FileTree

/-! ## text files -/

/-- A carriage return, alone or before a line feed, is a line end. -/
def unifyLineEnds : Text → Text
  | [] => []
  | c :: rest =>
    if c = '\r' then
      match rest with
      | d :: rest' => if d = '\n' then '\n' :: unifyLineEnds rest' else '\n' :: unifyLineEnds (d :: rest')
      | [] => ['\n']
    else c :: unifyLineEnds rest

/-- Why a file has no text. -/
inductive TextError where
  | unreadable (e : ReadError)
  | undecodable (e : Utf8.DecodeError)

/-- The wording of an error. -/
def TextError.describe (e : TextError) (p : Path) : Text :=
  match e with
  | .unreadable e => e.describe p
  | .undecodable e => e.message

/-- The text of a file. -/
def FileTree.readText (t : FileTree) (p : Path) : Except TextError Text :=
  match t.read p with
  | .error e => .error (.unreadable e)
  | .ok bytes =>
    match Utf8.decode bytes with
    | .error e => .error (.undecodable e)
    | .ok content => .ok (unifyLineEnds content)

end TypeLint.Files
