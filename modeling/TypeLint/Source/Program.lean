import TypeLint.Source.Token

/-!
# Programs

The program that a source text spells, one type for each kind of phrase.  A literal keeps its text; its
value is found later.  A list of type parameters or type arguments that is empty is one that is not written
at all, since none can be written empty.

A phrase stores a position only where its first token is not the first token of one of its parts.
-/

namespace TypeLint.Source

/-- A name where it stands. -/
structure Ident where
  text : Text
  pos : Pos
deriving DecidableEq

/-- The two kinds of literals. -/
inductive LiteralKind where
  | string
  | number
deriving DecidableEq

/-- A literal where it stands, as it is written. -/
structure Literal where
  kind : LiteralKind
  text : Text
  pos : Pos
deriving DecidableEq

mutual

/-- A type. -/
inductive TypeExpr where
  /-- `A`, `a.b.C`, `Map<K, V>` -/
  | named (head : Ident) (path : List Ident) (args : List TypeExpr)
  | literal (lit : Literal)
  /-- `T[]` -/
  | array (element : TypeExpr)
  /-- `A | B`: at least two -/
  | union (first : TypeExpr) (others : List TypeExpr)
  /-- `<T>(x: T) => R` -/
  | function (pos : Pos) (typeParams : List TypeParam) (params : List Param) (result : TypeExpr)

/-- A type parameter: `T extends B = D`. -/
inductive TypeParam where
  | mk (name : Ident) (bound default : Option TypeExpr)

/-- A parameter: `x?: T = e`. -/
inductive Param where
  | mk (name : Ident) (optional : Bool) (declared : Option TypeExpr) (default : Option Expr)

/-- Type parameters, parameters and return type of a function. -/
inductive Signature where
  | mk (typeParams : List TypeParam) (params : List Param) (result : Option TypeExpr)

/-- An expression. -/
inductive Expr where
  | name (id : Ident)
  | literal (lit : Literal)
  | member (object : Expr) (property : Ident)
  | call (callee : Expr) (typeArgs : List TypeExpr) (args : List Expr)
  /-- `new a.b.C<T>(x)` -/
  | new (pos : Pos) (head : Ident) (path : List Ident) (typeArgs : List TypeExpr) (args : List Expr)
  | assign (target value : Expr)
  | binary (left : Expr) (op : Ident) (right : Expr)
  | function (pos : Pos) (sig : Signature) (body : Block)
  | arrow (pos : Pos) (sig : Signature) (body : ArrowBody)
  | classExpr (pos : Pos) (shape : ClassShape)

/-- What an arrow function computes. -/
inductive ArrowBody where
  | block (b : Block)
  | expr (e : Expr)

/-- Statements between braces. -/
inductive Block where
  | mk (pos : Pos) (body : List Stmt)

/-- A statement. -/
inductive Stmt where
  | variables (pos : Pos) (binder : Text) (declarators : List Declarator)
  | function (pos : Pos) (name : Ident) (sig : Signature) (body : Block)
  | classDecl (pos : Pos) (name : Ident) (shape : ClassShape)
  | ret (pos : Pos) (value : Option Expr)
  | expr (e : Expr)

/-- A variable in a declaration: `x: T = e`. -/
inductive Declarator where
  | mk (name : Ident) (declared : Option TypeExpr) (init : Option Expr)

/-- A class behind its name. -/
inductive ClassShape where
  | mk (typeParams : List TypeParam) (heritage : Option Heritage) (members : List Member)

/-- The base of a class: `extends B<T>`. -/
inductive Heritage where
  | mk (name : Ident) (typeArgs : List TypeExpr)

/-- A member of a class. -/
inductive Member where
  | method (name : Ident) (sig : Signature) (body : Block)
  | property (name : Ident) (optional : Bool) (declared : Option TypeExpr) (value : Option Expr)

end

/-- The statements of a source. -/
structure Program where
  body : List Stmt

/-- The position of the first token of a type. -/
def TypeExpr.start : TypeExpr → Pos
  | .named head _ _ => head.pos
  | .literal lit => lit.pos
  | .array element => element.start
  | .union first _ => first.start
  | .function pos _ _ _ => pos

/-- The position of the first token of an expression. -/
def Expr.start : Expr → Pos
  | .name id => id.pos
  | .literal lit => lit.pos
  | .member object _ => object.start
  | .call callee _ _ => callee.start
  | .new pos _ _ _ _ => pos
  | .assign target _ => target.start
  | .binary left _ _ => left.start
  | .function pos _ _ => pos
  | .arrow pos _ _ => pos
  | .classExpr pos _ => pos

end TypeLint.Source
