import TypeLint.Source.Program

/-!
# Moving phrases

`move f` puts each part of a phrase where `f` says, and changes nothing else.  A phrase that is written further down
in a source is the same phrase moved.
-/

namespace TypeLint.Source

/-- The name, moved. -/
def Ident.move (f : Pos → Pos) (id : Ident) : Ident := ⟨id.text, f id.pos⟩

/-- The literal, moved. -/
def Literal.move (f : Pos → Pos) (lit : Literal) : Literal := ⟨lit.kind, lit.text, f lit.pos⟩

/-- The token, moved. -/
def Token.move (f : Pos → Pos) (t : Token) : Token := ⟨t.kind, t.text, f t.pos⟩

mutual

/-- The type, moved. -/
def TypeExpr.move (f : Pos → Pos) : TypeExpr → TypeExpr
  | .named head path args => .named (head.move f) (path.map (Ident.move f)) (moveTypes f args)
  | .literal lit => .literal (lit.move f)
  | .array element => .array (element.move f)
  | .union first others => .union (first.move f) (moveTypes f others)
  | .function pos typeParams params result =>
    .function (f pos) (moveTypeParams f typeParams) (moveParams f params) (result.move f)

def moveTypes (f : Pos → Pos) : List TypeExpr → List TypeExpr
  | [] => []
  | ty :: tys => ty.move f :: moveTypes f tys

def moveType? (f : Pos → Pos) : Option TypeExpr → Option TypeExpr
  | none => none
  | some ty => some (ty.move f)

def TypeParam.move (f : Pos → Pos) : TypeParam → TypeParam
  | .mk name bound default => .mk (name.move f) (moveType? f bound) (moveType? f default)

def moveTypeParams (f : Pos → Pos) : List TypeParam → List TypeParam
  | [] => []
  | p :: ps => p.move f :: moveTypeParams f ps

def Param.move (f : Pos → Pos) : Param → Param
  | .mk name optional declared default =>
    .mk (name.move f) optional (moveType? f declared) (moveExpr? f default)

def moveParams (f : Pos → Pos) : List Param → List Param
  | [] => []
  | p :: ps => p.move f :: moveParams f ps

def Signature.move (f : Pos → Pos) : Signature → Signature
  | .mk typeParams params result => .mk (moveTypeParams f typeParams) (moveParams f params) (moveType? f result)

/-- The expression, moved. -/
def Expr.move (f : Pos → Pos) : Expr → Expr
  | .name id => .name (id.move f)
  | .literal lit => .literal (lit.move f)
  | .member object property => .member (object.move f) (property.move f)
  | .call callee typeArgs args => .call (callee.move f) (moveTypes f typeArgs) (moveExprs f args)
  | .new pos head path typeArgs args =>
    .new (f pos) (head.move f) (path.map (Ident.move f)) (moveTypes f typeArgs) (moveExprs f args)
  | .assign target value => .assign (target.move f) (value.move f)
  | .binary left op right => .binary (left.move f) (op.move f) (right.move f)
  | .function pos sig body => .function (f pos) (sig.move f) (body.move f)
  | .arrow pos sig body => .arrow (f pos) (sig.move f) (body.move f)
  | .classExpr pos shape => .classExpr (f pos) (shape.move f)

def moveExprs (f : Pos → Pos) : List Expr → List Expr
  | [] => []
  | e :: es => e.move f :: moveExprs f es

def moveExpr? (f : Pos → Pos) : Option Expr → Option Expr
  | none => none
  | some e => some (e.move f)

def ArrowBody.move (f : Pos → Pos) : ArrowBody → ArrowBody
  | .block b => .block (b.move f)
  | .expr e => .expr (e.move f)

def Block.move (f : Pos → Pos) : Block → Block
  | .mk pos body => .mk (f pos) (moveStmts f body)

/-- The statement, moved. -/
def Stmt.move (f : Pos → Pos) : Stmt → Stmt
  | .variables pos binder declarators => .variables (f pos) binder (moveDeclarators f declarators)
  | .function pos name sig body => .function (f pos) (name.move f) (sig.move f) (body.move f)
  | .classDecl pos name shape => .classDecl (f pos) (name.move f) (shape.move f)
  | .ret pos value => .ret (f pos) (moveExpr? f value)
  | .expr e => .expr (e.move f)

def moveStmts (f : Pos → Pos) : List Stmt → List Stmt
  | [] => []
  | s :: ss => s.move f :: moveStmts f ss

def Declarator.move (f : Pos → Pos) : Declarator → Declarator
  | .mk name declared init => .mk (name.move f) (moveType? f declared) (moveExpr? f init)

def moveDeclarators (f : Pos → Pos) : List Declarator → List Declarator
  | [] => []
  | d :: ds => d.move f :: moveDeclarators f ds

def ClassShape.move (f : Pos → Pos) : ClassShape → ClassShape
  | .mk typeParams heritage members =>
    .mk (moveTypeParams f typeParams) (moveHeritage? f heritage) (moveMembers f members)

def Heritage.move (f : Pos → Pos) : Heritage → Heritage
  | .mk name typeArgs => .mk (name.move f) (moveTypes f typeArgs)

def moveHeritage? (f : Pos → Pos) : Option Heritage → Option Heritage
  | none => none
  | some h => some (h.move f)

def Member.move (f : Pos → Pos) : Member → Member
  | .method name sig body => .method (name.move f) (sig.move f) (body.move f)
  | .property name optional declared value =>
    .property (name.move f) optional (moveType? f declared) (moveExpr? f value)

def moveMembers (f : Pos → Pos) : List Member → List Member
  | [] => []
  | m :: ms => m.move f :: moveMembers f ms

end

/-! ## words stay as they are -/

@[simp]
theorem Ident.text_move (f : Pos → Pos) (id : Ident) : (id.move f).text = id.text := rfl

@[simp]
theorem Ident.pos_move (f : Pos → Pos) (id : Ident) : (id.move f).pos = f id.pos := rfl

@[simp]
theorem Literal.text_move (f : Pos → Pos) (lit : Literal) : (lit.move f).text = lit.text := rfl

@[simp]
theorem Literal.pos_move (f : Pos → Pos) (lit : Literal) : (lit.move f).pos = f lit.pos := rfl

/-! ## lists are moved item by item -/

section Lists

variable (f : Pos → Pos)

@[simp]
theorem moveTypes_eq_map (tys : List TypeExpr) : moveTypes f tys = tys.map (TypeExpr.move f) := by
  induction tys with
  | nil => rfl
  | cons ty tys ih => rw [moveTypes, ih, List.map_cons]

@[simp]
theorem moveType?_eq_map (ty : Option TypeExpr) : moveType? f ty = ty.map (TypeExpr.move f) := by
  cases ty <;> rfl

@[simp]
theorem moveTypeParams_eq_map (ps : List TypeParam) : moveTypeParams f ps = ps.map (TypeParam.move f) := by
  induction ps with
  | nil => rfl
  | cons p ps ih => rw [moveTypeParams, ih, List.map_cons]

@[simp]
theorem moveParams_eq_map (ps : List Param) : moveParams f ps = ps.map (Param.move f) := by
  induction ps with
  | nil => rfl
  | cons p ps ih => rw [moveParams, ih, List.map_cons]

@[simp]
theorem moveExprs_eq_map (es : List Expr) : moveExprs f es = es.map (Expr.move f) := by
  induction es with
  | nil => rfl
  | cons e es ih => rw [moveExprs, ih, List.map_cons]

@[simp]
theorem moveExpr?_eq_map (e : Option Expr) : moveExpr? f e = e.map (Expr.move f) := by
  cases e <;> rfl

@[simp]
theorem moveStmts_eq_map (ss : List Stmt) : moveStmts f ss = ss.map (Stmt.move f) := by
  induction ss with
  | nil => rfl
  | cons s ss ih => rw [moveStmts, ih, List.map_cons]

@[simp]
theorem moveDeclarators_eq_map (ds : List Declarator) : moveDeclarators f ds = ds.map (Declarator.move f) := by
  induction ds with
  | nil => rfl
  | cons d ds ih => rw [moveDeclarators, ih, List.map_cons]

@[simp]
theorem moveHeritage?_eq_map (h : Option Heritage) : moveHeritage? f h = h.map (Heritage.move f) := by
  cases h <;> rfl

@[simp]
theorem moveMembers_eq_map (ms : List Member) : moveMembers f ms = ms.map (Member.move f) := by
  induction ms with
  | nil => rfl
  | cons m ms ih => rw [moveMembers, ih, List.map_cons]

end Lists

end TypeLint.Source
