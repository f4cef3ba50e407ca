import TypeLint.Source.Pending

/-!
# Places in a source

A `State` is the place between two tokens: what has just been read, and in which unfinished phrase.
`State.admits` is the set of terminals that are looked for in the text at that place.  It holds every
terminal that can come next, and sometimes more: behind a complete phrase it holds whatever can follow a
phrase of that kind anywhere.
-/

namespace TypeLint.Source

/-- How the place at the start of a statement or member was reached. -/
inductive Entry where
  /-- it is the first place of the list -/
  | opened
  /-- a terminator stands before it -/
  | terminated
deriving DecidableEq

/-- A place between two tokens. -/
inductive State where
  /-- before a statement, or at the end of the list -/
  | statement (entry : Entry) (scope : Scope)
  /-- behind a statement that a brace has closed -/
  | statementEnd (scope : Scope)
  /-- before the name of a variable -/
  | variable (vars : Variables) (scope : Scope)
  /-- behind the name of a variable -/
  | variableNamed (name : Ident) (vars : Variables) (scope : Scope)
  /-- behind `return` -/
  | returnWord (pos : Pos) (scope : Scope)
  /-- behind `function` at the start of a statement -/
  | functionWord (pos : Pos) (scope : Scope)
  /-- before the type parameters or parameters of a function -/
  | signature (target : Callable)
  /-- behind the opening parenthesis of parameters -/
  | parameters (params : Params)
  /-- behind a comma between parameters -/
  | parameter (params : Params)
  /-- behind the name of a parameter, or behind the question mark that follows it -/
  | parameterNamed (name : Ident) (optional : Bool) (params : Params)
  /-- behind the closing parenthesis of parameters -/
  | signatureEnd (target : Callable) (typeParams : List TypeParam) (params : List Param)
  /-- behind `class` at the start of a statement -/
  | classWord (pos : Pos) (scope : Scope)
  /-- behind the name of a class, or behind `class` in an expression -/
  | classHead (owner : ClassOwner)
  /-- behind `extends` before the base of a class -/
  | base (owner : ClassOwner) (typeParams : List TypeParam)
  /-- behind the base of a class -/
  | baseNamed (base : Ident) (owner : ClassOwner) (typeParams : List TypeParam)
  /-- behind the type arguments of the base of a class -/
  | heritageEnd (heritage : Heritage) (owner : ClassOwner) (typeParams : List TypeParam)
  /-- before a member, or at the end of the class body -/
  | member (entry : Entry) (members : Members)
  /-- behind a method -/
  | memberEnd (members : Members)
  /-- behind the name of a member -/
  | memberNamed (name : Ident) (members : Members)
  /-- behind the question mark of a property -/
  | propertyOptional (name : Ident) (members : Members)
  /-- before an expression -/
  | expression (slot : Slot)
  /-- behind the opening parenthesis of arguments -/
  | arguments (callee : Callee) (typeArgs : List TypeExpr) (operand : Operand)
  /-- behind the arrow of an arrow function -/
  | arrowBody (pos : Pos) (sig : Signature) (slot : Slot)
  /-- behind an operator -/
  | operand (operand : Operand)
  /-- behind an operand -/
  | operandEnd (e : Expr) (operand : Operand)
  /-- behind an arrow function that a brace has closed -/
  | expressionEnd (e : Expr) (slot : Slot)
  /-- behind the point before a member's name -/
  | property (object : Expr) (operand : Operand)
  /-- behind the type arguments of a call -/
  | calleeEnd (callee : Callee) (typeArgs : List TypeExpr) (operand : Operand)
  /-- behind `new` -/
  | newWord (pos : Pos) (operand : Operand)
  /-- behind a part of the name of the class of a `new` expression; the parts after the first one have the
  last one first -/
  | newNamed (pos : Pos) (head : Ident) (path : List Ident) (operand : Operand)
  /-- behind a point in that name -/
  | newPath (pos : Pos) (head : Ident) (path : List Ident) (operand : Operand)
  /-- before a type -/
  | type (slot : TypeSlot)
  /-- behind a bar between types -/
  | alternative (first : TypeExpr) (done : List TypeExpr) (slot : TypeSlot)
  /-- behind a part of the name of a type; the parts after the first one have the last one first -/
  | typeNamed (head : Ident) (path : List Ident) (alternative : Alternative)
  /-- behind a point in that name -/
  | typePath (head : Ident) (path : List Ident) (alternative : Alternative)
  /-- behind a type that is a literal or ends with a bracket; `applied` if type arguments end it -/
  | typeEnd (t : TypeExpr) (applied : Bool) (alternative : Alternative)
  /-- behind the opening bracket of an array type -/
  | bracket (element : TypeExpr) (alternative : Alternative)
  /-- before a type parameter -/
  | typeParam (generics : Generics)
  /-- behind the name of a type parameter -/
  | typeParamNamed (name : Ident) (generics : Generics)
  /-- behind type parameters -/
  | genericsEnd (target : Generic) (typeParams : List TypeParam)
  /-- behind the end of the source -/
  | complete (program : Program)

/-! ## what can start and follow phrases -/

/-- What can start an operand. -/
def operandStart : List Terminal := [.name, .number, .string, .classWord, .functionWord, .newWord]

/-- What can start an expression. -/
def expressionStart : List Terminal := operandStart ++ [.parenOpen, .angleOpen]

/-- What can start a statement. -/
def statementStart : List Terminal := expressionStart ++ [.binderWord, .returnWord]

/-- What can follow an operand or a closing brace. -/
def operandFollow : List Terminal :=
  [.addOp, .mulOp, .comma, .dot, .equals, .parenOpen, .angleOpen, .braceClose, .parenClose]

/-- What can start a type. -/
def typeStart : List Terminal := [.name, .number, .string, .parenOpen, .angleOpen]

/-- What can follow a member of a union. -/
def typeFollow : List Terminal :=
  [.bracketOpen, .arrow, .comma, .equals, .angleClose, .braceOpen, .bar, .braceClose, .parenClose]

/-- What can follow a point and a name, in a type or behind `new`. -/
def pathFollow : List Terminal := typeFollow ++ [.dot, .angleOpen, .parenOpen]

/-- The terminals that are looked for at a place. -/
def State.expected : State → List Terminal
  | .statement .opened (.program _) => statementStart
  | .statement .opened (.block ..) => statementStart ++ [.braceClose]
  | .statement .terminated _ => statementStart ++ [.braceClose]
  | .member .opened _ => [.name, .braceClose]
  | .member .terminated _ => statementStart ++ [.braceClose]
  | .statementEnd _ | .memberEnd _ | .operandEnd .. | .expressionEnd .. => operandFollow
  | .variable .. | .parameter _ | .base .. | .property .. | .newWord .. | .newPath .. | .typePath ..
  | .typeParam _ => [.name]
  | .variableNamed .. => [.colon, .comma, .equals, .braceClose]
  | .returnWord .. => expressionStart ++ [.braceClose]
  | .functionWord .. => [.name, .parenOpen, .angleOpen]
  | .signature _ => [.parenOpen, .angleOpen]
  | .parameters _ => [.name, .parenClose]
  | .parameterNamed _ false _ => [.question, .colon, .comma, .equals, .parenClose]
  | .parameterNamed _ true _ => [.colon, .comma, .equals, .parenClose]
  | .signatureEnd (.function (.arrow ..)) _ _ => [.arrow, .colon]
  | .signatureEnd (.function _) _ _ => [.colon, .braceOpen]
  | .signatureEnd (.type ..) _ _ => [.arrow]
  | .classWord .. => [.name, .extendsWord, .braceOpen, .angleOpen]
  | .classHead _ => [.extendsWord, .braceOpen, .angleOpen]
  | .baseNamed .. => [.braceOpen, .angleOpen]
  | .memberNamed .. => [.question, .colon, .equals, .parenOpen, .angleOpen, .braceClose]
  | .propertyOptional .. => [.colon, .equals, .braceClose]
  | .expression _ => expressionStart
  | .arguments .. => expressionStart ++ [.parenClose]
  | .arrowBody .. => expressionStart ++ [.braceOpen]
  | .operand _ => operandStart
  | .newNamed _ _ [] _ => [.dot, .parenOpen, .angleOpen]
  | .newNamed _ _ (_ :: _) _ => pathFollow
  | .type _ => typeStart
  | .alternative .. => [.name, .number, .string]
  | .typeNamed _ [] _ => typeFollow ++ [.dot, .angleOpen]
  | .typeNamed _ (_ :: _) _ => pathFollow
  | .typeEnd _ false _ => typeFollow
  | .typeEnd _ true _ | .calleeEnd .. | .heritageEnd .. => typeFollow ++ [.parenOpen]
  | .bracket .. => [.bracketClose]
  | .typeParamNamed .. => [.comma, .equals, .extendsWord, .angleClose]
  | .genericsEnd .. => [.extendsWord, .braceOpen, .parenOpen]
  | .complete _ => []

/-- Whether a terminal is looked for at a place. -/
def State.admits (s : State) (kind : Terminal) : Bool := s.expected.contains kind

end TypeLint.Source
