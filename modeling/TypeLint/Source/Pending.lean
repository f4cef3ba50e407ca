import TypeLint.Source.Program

/-!
# Unfinished phrases

While a source is read, the phrases that are open around the current place are kept as a chain from the
innermost one outwards.  Each type below says where a phrase of one kind stands: what has been read of the
phrase around it, and where that one stands in turn.  Lists of finished parts have the last one first.

* `Scope` — where a statement stands;
* `Members` — where a member of a class stands;
* `Slot`, `Addend`, `Operand` — where an expression, a term, and an operand of a term stand;
* `TypeSlot`, `Alternative` — where a type and a member of a union stand;
* `Params`, `Generics` — where a parameter and a type parameter stand;
* `Owner`, `ClassOwner`, `Callable`, `Generic`, `Applied` — what a body, a class body, parameters, type
  parameters and type arguments belong to.
-/

namespace TypeLint.Source

/-- A declaration of variables as far as it is read. -/
structure Variables where
  pos : Pos
  binder : Text
  done : List Declarator

/-- What arguments are given to. -/
inductive Callee where
  | call (callee : Expr)
  | new (pos : Pos) (head : Ident) (path : List Ident)

/-- The call of a callee. -/
def Callee.apply (typeArgs : List TypeExpr) (args : List Expr) : Callee → Expr
  | .call callee => .call callee typeArgs args
  | .new pos head path => .new pos head path typeArgs args

mutual

/-- Where a statement stands. -/
inductive Scope where
  | program (done : List Stmt)
  | block (pos : Pos) (owner : Owner) (sig : Signature) (done : List Stmt)

/-- What a block is the body of. -/
inductive Owner where
  | declaration (pos : Pos) (name : Ident) (scope : Scope)
  | function (pos : Pos) (operand : Operand)
  | arrow (pos : Pos) (slot : Slot)
  | method (name : Ident) (members : Members)

/-- Where a member of a class stands. -/
inductive Members where
  | mk (owner : ClassOwner) (typeParams : List TypeParam) (heritage : Option Heritage) (done : List Member)

/-- What a class body belongs to. -/
inductive ClassOwner where
  | declaration (pos : Pos) (name : Ident) (scope : Scope)
  | expression (pos : Pos) (operand : Operand)

/-- Where an expression stands. -/
inductive Slot where
  | statement (scope : Scope)
  | returned (pos : Pos) (scope : Scope)
  | initial (name : Ident) (declared : Option TypeExpr) (vars : Variables) (scope : Scope)
  | default (name : Ident) (optional : Bool) (declared : Option TypeExpr) (params : Params)
  | property (name : Ident) (optional : Bool) (declared : Option TypeExpr) (members : Members)
  | argument (callee : Callee) (typeArgs : List TypeExpr) (done : List Expr) (operand : Operand)
  | assigned (target : Expr) (slot : Slot)
  | arrowBody (pos : Pos) (sig : Signature) (slot : Slot)

/-- Where a term of a sum stands. -/
inductive Addend where
  | first (slot : Slot)
  | next (left : Expr) (op : Ident) (slot : Slot)

/-- Where an operand of a term stands. -/
inductive Operand where
  | first (addend : Addend)
  | next (left : Expr) (op : Ident) (addend : Addend)

/-- Where a parameter stands. -/
inductive Params where
  | mk (target : Callable) (typeParams : List TypeParam) (done : List Param)

/-- What parameters belong to. -/
inductive Callable where
  | function (owner : Owner)
  | type (pos : Pos) (slot : TypeSlot)

/-- Where a type parameter stands. -/
inductive Generics where
  | mk (target : Generic) (done : List TypeParam)

/-- What type parameters belong to. -/
inductive Generic where
  | callable (target : Callable)
  | ofClass (owner : ClassOwner)

/-- Where a type stands. -/
inductive TypeSlot where
  | variable (name : Ident) (vars : Variables) (scope : Scope)
  | param (name : Ident) (optional : Bool) (params : Params)
  | property (name : Ident) (optional : Bool) (members : Members)
  | result (owner : Owner) (typeParams : List TypeParam) (params : List Param)
  | functionResult (pos : Pos) (typeParams : List TypeParam) (params : List Param) (slot : TypeSlot)
  | argument (target : Applied) (done : List TypeExpr)
  | bound (name : Ident) (generics : Generics)
  | default (name : Ident) (bound : Option TypeExpr) (generics : Generics)

/-- Where a member of a union stands. -/
inductive Alternative where
  | only (slot : TypeSlot)
  | next (first : TypeExpr) (done : List TypeExpr) (slot : TypeSlot)

/-- What type arguments are given to. -/
inductive Applied where
  | type (head : Ident) (path : List Ident) (alternative : Alternative)
  | callee (callee : Callee) (operand : Operand)
  | heritage (base : Ident) (owner : ClassOwner) (typeParams : List TypeParam)

end

/-- With one more statement. -/
def Scope.add (s : Stmt) : Scope → Scope
  | .program done => .program (s :: done)
  | .block pos owner sig done => .block pos owner sig (s :: done)

/-- With one more member. -/
def Members.add (m : Member) : Members → Members
  | .mk owner typeParams heritage done => .mk owner typeParams heritage (m :: done)

/-- With one more parameter. -/
def Params.add (p : Param) : Params → Params
  | .mk target typeParams done => .mk target typeParams (p :: done)

/-- With one more type parameter. -/
def Generics.add (p : TypeParam) : Generics → Generics
  | .mk target done => .mk target (p :: done)

/-- With one more variable. -/
def Variables.add (d : Declarator) (vars : Variables) : Variables := { vars with done := d :: vars.done }

/-- The declaration of these variables. -/
def Variables.toStmt (vars : Variables) : Stmt := .variables vars.pos vars.binder vars.done.reverse

/-- The operand with which an expression starts. -/
def Slot.operand (slot : Slot) : Operand := .first (.first slot)

/-- The sum that ends with the term `e`. -/
def Addend.sum (e : Expr) : Addend → Expr
  | .first _ => e
  | .next left op _ => .binary left op e

/-- Where the sum stands. -/
def Addend.slot : Addend → Slot
  | .first slot => slot
  | .next _ _ slot => slot

/-- The term that ends with the operand `e`. -/
def Operand.term (e : Expr) : Operand → Expr
  | .first _ => e
  | .next left op _ => .binary left op e

/-- Where the term stands. -/
def Operand.addend : Operand → Addend
  | .first addend => addend
  | .next _ _ addend => addend

/-- The type that ends with the alternative `t`. -/
def Alternative.whole (t : TypeExpr) : Alternative → TypeExpr
  | .only _ => t
  | .next first done _ => .union first (t :: done).reverse

/-- Where the whole type stands. -/
def Alternative.slot : Alternative → TypeSlot
  | .only slot => slot
  | .next _ _ slot => slot

end TypeLint.Source
