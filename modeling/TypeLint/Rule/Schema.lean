import TypeLint.Json.Basic
import TypeLint.Text.Digit

/-!
# Schemas of options

A schema says what shape the options of a rule have: the type of a value, and for a list its length and the
schemas of its items.

* `Schema.check` — the first value that does not fit, a list before its items and these from left to right;
* `Schema.ofJson`, `Schema.toJson` — a schema as a value.
-/

namespace TypeLint.Rule

/-- The types that a schema can ask for. -/
inductive ValueType where
  | array
  | string
  | object
  | boolean
  /-- a name that is no type -/
  | other (name : Text)
deriving DecidableEq

namespace ValueType

/-- The name of a type. -/
def name : ValueType → Text
  | .array => text "array"
  | .string => text "string"
  | .object => text "object"
  | .boolean => text "boolean"
  | .other t => t

/-- The type of that name. -/
def ofName (t : Text) : ValueType :=
  if t = text "array" then .array
  else if t = text "string" then .string
  else if t = text "object" then .object
  else if t = text "boolean" then .boolean
  else .other t

/-- Whether a value is of the type; none if the type is none. -/
def admits? : ValueType → Json → Option Bool
  | .array, .arr _ => some true
  | .string, .str _ => some true
  | .object, .obj _ => some true
  | .boolean, .bool _ => some true
  | .other _, _ => none
  | _, _ => some false

end ValueType

mutual

/-- What a value has to be. -/
inductive Schema where
  | mk (type : Option ValueType) (minItems maxItems : Option Int) (items : Items)

/-- What the items of a list have to be. -/
inductive Items where
  | any
  | each (schema : Schema)
  /-- by position; further items may be anything -/
  | positional (schemas : List Schema)

end

namespace Schema

/-- Everything fits. -/
def any : Schema := .mk none none none .any

/-- What is wrong with a value. -/
inductive Fault where
  | wrongType (expected : ValueType)
  | tooFew (least : Int)
  | tooMany (most : Int)
  /-- the schema asks for a type that is none -/
  | unknownType (name : Text)
deriving DecidableEq

/-- A fault that can be told. -/
def Fault.isTold : Fault → Bool
  | .wrongType _ => true
  | .tooFew n | .tooMany n => (Text.ofInt? n).isSome
  | .unknownType _ => false

/-- A fault and the way to the value, as the positions in the lists around it. -/
structure Violation where
  path : List Nat
  fault : Fault
deriving DecidableEq

/-- Check the items from position `i` on, up to the first violation. -/
def checkItems (check : Nat → Json → Except Violation Unit) : (i : Nat) → List Json → Except Violation Unit
  | _, [] => .ok ()
  | i, v :: vs => do
    check i v
    checkItems check (i + 1) vs

/-- The length of a list. -/
def checkLength (path : List Nat) (least most : Option Int) (n : Nat) : Except Violation Unit := do
  if let some l := least then
    if (n : Int) < l then .error ⟨path, .tooFew l⟩
  if let some m := most then
    if m < (n : Int) then .error ⟨path, .tooMany m⟩

/-- The type of a value. -/
def checkType (path : List Nat) (type : Option ValueType) (v : Json) : Except Violation Unit :=
  match type with
  | none => .ok ()
  | some t =>
    match t.admits? v with
    | some true => .ok ()
    | some false => .error ⟨path, .wrongType t⟩
    | none => .error ⟨path, .unknownType t.name⟩

mutual

/-- A value, found along `path`, fits a schema. -/
def check (path : List Nat) (v : Json) : Schema → Except Violation Unit
  | .mk type least most items => do
    checkType path type v
    match v with
    | .arr vs =>
      checkLength path least most vs.length
      checkList path vs items
    | _ => .ok ()

/-- The items of a list fit. -/
def checkList (path : List Nat) (vs : List Json) : Items → Except Violation Unit
  | .any => .ok ()
  | .each s => checkItems (fun i v => check (path ++ [i]) v s) 0 vs
  | .positional ss => checkPositions path 0 vs ss

/-- The items from position `i` on fit their schemas. -/
def checkPositions (path : List Nat) (i : Nat) (vs : List Json) : List Schema → Except Violation Unit
  | [] => .ok ()
  | s :: ss =>
    match vs with
    | [] => .ok ()
    | v :: vs => do
      check (path ++ [i]) v s
      checkPositions path (i + 1) vs ss

end

/-! ## schemas as values -/

/-- A whole number of a schema. -/
def bound? : Option Json → Option Int
  | some (.int n) => some n
  | _ => none

/-- A type of a schema. -/
def type? : Option Json → Option ValueType
  | some (.str t) => some (.ofName t)
  | _ => none

mutual

/-- The schema that a value describes. -/
def ofJson : Json → Schema
  | .obj members =>
    .mk (type? (Json.lookup (text "type") members)) (bound? (Json.lookup (text "minItems") members))
      (bound? (Json.lookup (text "maxItems") members)) (itemsOf members)
  | _ => .any

/-- The schemas that values describe. -/
def ofJsons : List Json → List Schema
  | [] => []
  | v :: vs => ofJson v :: ofJsons vs

/-- What the members of a schema say about items. -/
def itemsOf : List (Text × Json) → Items
  | [] => .any
  | (key, v) :: rest =>
    if key = text "items" then
      match v with
      | .obj members => .each (ofJson (.obj members))
      | .arr vs => .positional (ofJsons vs)
      | _ => .any
    else itemsOf rest

end

/-- A member that is there only with a value. -/
def member (key : String) (v : Option Json) : List (Text × Json) := v.toList.map fun v => (text key, v)

mutual

/-- The value that describes a schema. -/
def toJson : Schema → Json
  | .mk type least most items =>
    .obj (member "type" (type.map fun t => .str t.name) ++ itemsMember items
      ++ member "minItems" (least.map .int) ++ member "maxItems" (most.map .int))

/-- The member of a schema that describes items. -/
def itemsMember : Items → List (Text × Json)
  | .any => []
  | .each s => [(text "items", toJson s)]
  | .positional ss => [(text "items", .arr (toJsons ss))]

/-- The values that describe schemas. -/
def toJsons : List Schema → List Json
  | [] => []
  | s :: ss => toJson s :: toJsons ss

end

end Schema

/-- Options that do not fit the schema of their rule. -/
structure OptionsError where
  rule : Text
  violation : Schema.Violation

namespace OptionsError

/-- The way to a value: `options[0][1]`. -/
def place (path : List Nat) : Text :=
  text "options" ++ path.flatMap fun i => text "[" ++ .ofNat i ++ text "]"

/-- The wording of a violation, with its number in full. -/
def message (e : OptionsError) : Text :=
  e.rule ++ text ": " ++ place e.violation.path ++ match e.violation.fault with
    | .wrongType t => text " must be of type " ++ t.name
    | .tooFew n => text " must have at least " ++ .ofInt n ++ text " item(s)"
    | .tooMany n => text " must have at most " ++ .ofInt n ++ text " item(s)"
    | .unknownType name => text " has the unknown type " ++ name

/-- The wording of a violation as it is told.  A number of too many digits cannot be told, and neither can a type that
is none. -/
def message? (e : OptionsError) : Option Text := if e.violation.fault.isTold then some e.message else none

end OptionsError

/-- The options of a rule fit its schema. -/
def validate (rule : Text) (schema : Schema) (options : Json) : Except OptionsError Unit :=
  match schema.check [] options with
  | .ok () => .ok ()
  | .error v => .error ⟨rule, v⟩

end TypeLint.Rule
