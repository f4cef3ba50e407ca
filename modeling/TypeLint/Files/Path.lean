import TypeLint.Text.Basic

/-!
# Paths

A path is a sequence of names from a root or from the working directory.  Empty names and single dots are left
out when a path is read; double dots stay.  A path that starts with exactly two slashes keeps both.
-/

namespace TypeLint.Files

/-- Where a path starts. -/
inductive Root where
  | relative
  | root
  /-- two slashes -/
  | doubleRoot
deriving DecidableEq

/-- A path by its names. -/
structure Path where
  root : Root
  names : List Text
deriving DecidableEq

namespace Path

/-- The name of the directory above. -/
def up : Text := text ".."

/-- The start of a written path. -/
def rootOf (t : Text) : Root :=
  match (t.takeWhile fun c : CodePoint => c = '/').length with
  | 0 => .relative
  | 2 => .doubleRoot
  | _ => .root

/-- The path that a text writes. -/
def ofText (t : Text) : Path where
  root := rootOf t
  names := (t.split '/').filter fun name => !name.isEmpty && name ≠ text "."

/-- How the start of a path is written. -/
def Root.written : Root → Text
  | .relative => []
  | .root => text "/"
  | .doubleRoot => text "//"

/-- How a path is written; the working directory is a dot. -/
def toText (p : Path) : Text :=
  let t := Root.written p.root ++ Text.join (text "/") p.names
  if t.isEmpty then text "." else t

/-- A name below a path. -/
def child (p : Path) (name : Text) : Path := { p with names := p.names ++ [name] }

/-- What paths are sorted by: the root, if there is one, and the names. -/
def key (p : Path) : List Text :=
  if p.root = .relative then p.names else Root.written p.root :: p.names

/-- The order of lists by their items. -/
def keyLe : List Text → List Text → Bool
  | [], _ => true
  | _ :: _, [] => false
  | a :: s, b :: t => if a = b then keyLe s t else a.le b

/-- The order of paths, name by name. -/
def le (a b : Path) : Bool := keyLe a.key b.key

/-- The names from the root, for a path seen from the directory with the names `cwd`: each double dot takes
away the name before it. -/
def resolve (cwd : List Text) (p : Path) : List Text :=
  p.names.foldl (fun names name => if name = up then names.dropLast else names ++ [name])
    (if p.root = .relative then cwd else [])

/-- The last part of a name from its last dot on, unless the dot is the first or the last character. -/
def suffixOf (name : Text) : Text :=
  let ending := (name.reverse.takeWhile fun c : CodePoint => c ≠ '.').reverse
  let before := name.length - ending.length
  if ending.isEmpty || before ≤ 1 then [] else CodePoint.ofChar '.' :: ending

/-- The suffix of the last name of a path. -/
def suffix (p : Path) : Text := suffixOf (p.names.getLastD [])

end Path

end TypeLint.Files
