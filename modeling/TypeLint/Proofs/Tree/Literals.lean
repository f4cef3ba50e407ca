import TypeLint.Tree.Build

/-!
# The literals of a program

A program has a tree if all its literals have values.  Its literals are listed in the order in which their values are
found, so that the first one without a value is the one that is told of.

* `Program.literals` — the literals of a program;
* `evaluate` — finding the values of literals, one after the other;
* `Evaluates` — what is computed fails exactly where these literals do;
* `Program.evaluates` — the tree of a program fails where its literals do.
-/

namespace TypeLint.Source

open TypeLint.Tree

/-! ## the literals of phrases -/

mutual

/-- The literals of a type. -/
def TypeExpr.literals : TypeExpr → List Literal
  | .named _ _ args => typeLiterals args
  | .literal lit => [lit]
  | .array element => element.literals
  | .union first others => first.literals ++ typeLiterals others
  | .function _ typeParams params result =>
    typeParamLiterals typeParams ++ (paramLiterals params ++ result.literals)

def typeLiterals : List TypeExpr → List Literal
  | [] => []
  | ty :: tys => ty.literals ++ typeLiterals tys

def typeLiterals? : Option TypeExpr → List Literal
  | none => []
  | some ty => ty.literals

/-- The literals of a type parameter. -/
def TypeParam.literals : TypeParam → List Literal
  | .mk _ bound default => typeLiterals? bound ++ typeLiterals? default

def typeParamLiterals : List TypeParam → List Literal
  | [] => []
  | p :: ps => p.literals ++ typeParamLiterals ps

/-- The literals of a parameter. -/
def Param.literals : Param → List Literal
  | .mk _ _ declared default => typeLiterals? declared ++ exprLiterals? default

def paramLiterals : List Param → List Literal
  | [] => []
  | p :: ps => p.literals ++ paramLiterals ps

/-- The literals of a signature. -/
def Signature.literals : Signature → List Literal
  | .mk typeParams params result =>
    typeParamLiterals typeParams ++ (paramLiterals params ++ typeLiterals? result)

/-- The literals of an expression. -/
def Expr.literals : Expr → List Literal
  | .name _ => []
  | .literal lit => [lit]
  | .member object _ => object.literals
  | .call callee typeArgs args => callee.literals ++ (typeLiterals typeArgs ++ exprLiterals args)
  | .new _ _ _ typeArgs args => typeLiterals typeArgs ++ exprLiterals args
  | .assign target value => target.literals ++ value.literals
  | .binary left _ right => left.literals ++ right.literals
  | .function _ sig body => sig.literals ++ body.literals
  | .arrow _ sig body => sig.literals ++ body.literals
  | .classExpr _ shape => shape.literals

def exprLiterals : List Expr → List Literal
  | [] => []
  | e :: es => e.literals ++ exprLiterals es

def exprLiterals? : Option Expr → List Literal
  | none => []
  | some e => e.literals

/-- The literals of the body of an arrow function. -/
def ArrowBody.literals : ArrowBody → List Literal
  | .block b => b.literals
  | .expr e => e.literals

/-- The literals of a block. -/
def Block.literals : Block → List Literal
  | .mk _ body => stmtLiterals body

/-- The literals of a statement. -/
def Stmt.literals : Stmt → List Literal
  | .variables _ _ declarators => declaratorLiterals declarators
  | .function _ _ sig body => sig.literals ++ body.literals
  | .classDecl _ _ shape => shape.literals
  | .ret _ value => exprLiterals? value
  | .expr e => e.literals

def stmtLiterals : List Stmt → List Literal
  | [] => []
  | s :: ss => s.literals ++ stmtLiterals ss

/-- The literals of a variable in a declaration. -/
def Declarator.literals : Declarator → List Literal
  | .mk _ declared init => typeLiterals? declared ++ exprLiterals? init

def declaratorLiterals : List Declarator → List Literal
  | [] => []
  | d :: ds => d.literals ++ declaratorLiterals ds

/-- The literals of a class, those of its type parameters last. -/
def ClassShape.literals : ClassShape → List Literal
  | .mk typeParams heritage members =>
    heritageLiterals? heritage ++ (memberLiterals members ++ typeParamLiterals typeParams)

/-- The literals of the base of a class. -/
def Heritage.literals : Heritage → List Literal
  | .mk _ typeArgs => typeLiterals typeArgs

def heritageLiterals? : Option Heritage → List Literal
  | none => []
  | some h => h.literals

/-- The literals of a member of a class. -/
def Member.literals : Member → List Literal
  | .method _ sig body => sig.literals ++ body.literals
  | .property _ _ declared value => typeLiterals? declared ++ exprLiterals? value

def memberLiterals : List Member → List Literal
  | [] => []
  | m :: ms => m.literals ++ memberLiterals ms

end

/-- The literals of a program. -/
def Program.literals (p : Program) : List Literal := stmtLiterals p.body

/-! ## finding their values -/

/-- The values of literals are found one after the other. -/
def evaluate : List Literal → Except LiteralError Unit
  | [] => .ok ()
  | lit :: lits =>
    match lit.value with
    | .ok _ => evaluate lits
    | .error e => .error e

theorem evaluate_append (l m : List Literal) : evaluate (l ++ m) = evaluate l >>= fun _ => evaluate m := by
  induction l with
  | nil => rfl
  | cons lit l ih =>
    simp only [List.cons_append, evaluate, ih]
    cases lit.value <;> rfl

theorem evaluate_eq_ok {lits : List Literal} : evaluate lits = .ok () ↔ ∀ lit ∈ lits, lit.value.isOk = true := by
  induction lits with
  | nil => simp [evaluate]
  | cons lit lits ih =>
    unfold evaluate
    cases hv : lit.value <;> simp [hv, ih, Except.isOk, Except.toBool]

/-- The failure is that of the first literal that has no value. -/
theorem evaluate_eq_error {lits : List Literal} {e : LiteralError} : evaluate lits = .error e ↔
    ∃ lit, lits.find? (fun lit => !lit.value.isOk) = some lit ∧ lit.value = .error e := by
  induction lits with
  | nil => simp [evaluate]
  | cons lit lits ih =>
    unfold evaluate
    cases hv : lit.value <;> simp [hv, ih, Except.isOk, Except.toBool]

/-- What is computed fails exactly where the values of these literals do, and in the same way. -/
def Evaluates {α : Type} (x : Except LiteralError α) (lits : List Literal) : Prop :=
  x.map (fun _ => ()) = evaluate lits

section Rules

variable {α β : Type} {x : Except LiteralError α} {l m : List Literal}

theorem Evaluates.pure (a : α) : Evaluates (Pure.pure a) [] := rfl

theorem Evaluates.literal (lit : Literal) : Evaluates lit.value [lit] := by
  unfold Evaluates evaluate
  cases lit.value <;> rfl

theorem Evaluates.bind {f : α → Except LiteralError β} (hx : Evaluates x l) (hf : ∀ a, Evaluates (f a) m) :
    Evaluates (x >>= f) (l ++ m) := by
  unfold Evaluates at hx
  rw [Evaluates, evaluate_append, ← hx]
  cases x with
  | error e => rfl
  | ok a => exact hf a

/-- Nothing can fail behind the last of them. -/
theorem Evaluates.last {f : α → β} (hx : Evaluates x l) : Evaluates (x >>= fun a => Pure.pure (f a)) l := by
  simpa using hx.bind fun a => .pure (f a)

end Rules

/-! ## trees -/

mutual

theorem TypeExpr.evaluates : ∀ ty : TypeExpr, Evaluates ty.toNode ty.literals
  | .named head path args => by
    rw [TypeExpr.toNode, TypeExpr.literals]
    cases path with
    | nil => exact (evaluates_typeNodes args).last
    | cons _ _ => exact (evaluates_typeNodes args).last
  | .literal lit => by
    rw [TypeExpr.toNode, TypeExpr.literals]
    exact (Evaluates.literal lit).last
  | .array element => by
    rw [TypeExpr.toNode, TypeExpr.literals]
    exact element.evaluates.last
  | .union first others => by
    rw [TypeExpr.toNode, TypeExpr.literals]
    exact first.evaluates.bind fun _ => (evaluates_typeNodes others).last
  | .function pos typeParams params result => by
    rw [TypeExpr.toNode, TypeExpr.literals]
    exact (evaluates_typeParamNodes typeParams).bind fun _ => (evaluates_paramNodes params).bind fun _ =>
      result.evaluates.last

theorem evaluates_typeNodes : ∀ tys : List TypeExpr, Evaluates (typeNodes tys) (typeLiterals tys)
  | [] => .pure []
  | ty :: tys => by
    rw [typeNodes, typeLiterals]
    exact ty.evaluates.bind fun _ => (evaluates_typeNodes tys).last

theorem evaluates_optionalTypeNode : ∀ ty : Option TypeExpr, Evaluates (optionalTypeNode ty) (typeLiterals? ty)
  | none => .pure none
  | some ty => by
    rw [optionalTypeNode, typeLiterals?]
    exact ty.evaluates.last

theorem TypeParam.evaluates : ∀ p : TypeParam, Evaluates p.toNode p.literals
  | .mk name bound default => by
    rw [TypeParam.toNode, TypeParam.literals]
    exact (evaluates_optionalTypeNode bound).bind fun _ => (evaluates_optionalTypeNode default).last

theorem evaluates_typeParamNodes : ∀ ps : List TypeParam, Evaluates (typeParamNodes ps) (typeParamLiterals ps)
  | [] => .pure []
  | p :: ps => by
    rw [typeParamNodes, typeParamLiterals]
    exact p.evaluates.bind fun _ => (evaluates_typeParamNodes ps).last

theorem Param.evaluates : ∀ p : Param, Evaluates p.toNode p.literals
  | .mk name optional declared default => by
    rw [Param.toNode, Param.literals]
    exact (evaluates_optionalTypeNode declared).bind fun _ => (evaluates_optionalExprNode default).last

theorem evaluates_paramNodes : ∀ ps : List Param, Evaluates (paramNodes ps) (paramLiterals ps)
  | [] => .pure []
  | p :: ps => by
    rw [paramNodes, paramLiterals]
    exact p.evaluates.bind fun _ => (evaluates_paramNodes ps).last

theorem Signature.evaluates : ∀ sig : Signature, Evaluates sig.nodes sig.literals
  | .mk typeParams params result => by
    rw [Signature.nodes, Signature.literals]
    exact (evaluates_typeParamNodes typeParams).bind fun _ => (evaluates_paramNodes params).bind fun _ =>
      (evaluates_optionalTypeNode result).last

theorem Expr.evaluates : ∀ e : Expr, Evaluates e.toNode e.literals
  | .name id => .pure id.toNode
  | .literal lit => by
    rw [Expr.toNode, Expr.literals]
    exact (Evaluates.literal lit).last
  | .member object property => by
    rw [Expr.toNode, Expr.literals]
    exact object.evaluates.last
  | .call callee typeArgs args => by
    rw [Expr.toNode, Expr.literals]
    exact callee.evaluates.bind fun _ => (evaluates_typeNodes typeArgs).bind fun _ => (evaluates_exprNodes args).last
  | .new pos head path typeArgs args => by
    rw [Expr.toNode, Expr.literals]
    exact (evaluates_typeNodes typeArgs).bind fun _ => (evaluates_exprNodes args).last
  | .assign target value => by
    rw [Expr.toNode, Expr.literals]
    exact target.evaluates.bind fun _ => value.evaluates.last
  | .binary left op right => by
    rw [Expr.toNode, Expr.literals]
    exact left.evaluates.bind fun _ => right.evaluates.last
  | .function pos sig body => by
    rw [Expr.toNode, Expr.literals]
    exact sig.evaluates.bind fun _ => body.evaluates.last
  | .arrow pos sig body => by
    rw [Expr.toNode, Expr.literals]
    exact sig.evaluates.bind fun _ => body.evaluates.last
  | .classExpr pos shape => by
    rw [Expr.toNode, Expr.literals]
    exact shape.evaluates.last

theorem evaluates_exprNodes : ∀ es : List Expr, Evaluates (exprNodes es) (exprLiterals es)
  | [] => .pure []
  | e :: es => by
    rw [exprNodes, exprLiterals]
    exact e.evaluates.bind fun _ => (evaluates_exprNodes es).last

theorem evaluates_optionalExprNode : ∀ e : Option Expr, Evaluates (optionalExprNode e) (exprLiterals? e)
  | none => .pure none
  | some e => by
    rw [optionalExprNode, exprLiterals?]
    exact e.evaluates.last

theorem ArrowBody.evaluates : ∀ b : ArrowBody, Evaluates b.toNode b.literals
  | .block b => by
    rw [ArrowBody.toNode, ArrowBody.literals]
    exact b.evaluates
  | .expr e => by
    rw [ArrowBody.toNode, ArrowBody.literals]
    exact e.evaluates

theorem Block.evaluates : ∀ b : Block, Evaluates b.toNode b.literals
  | .mk pos body => by
    rw [Block.toNode, Block.literals]
    exact (evaluates_stmtNodes body).last

theorem Stmt.evaluates : ∀ s : Stmt, Evaluates s.toNode s.literals
  | .variables pos binder declarators => by
    rw [Stmt.toNode, Stmt.literals]
    exact (evaluates_declaratorNodes declarators).last
  | .function pos name sig body => by
    rw [Stmt.toNode, Stmt.literals]
    exact sig.evaluates.bind fun _ => body.evaluates.last
  | .classDecl pos name shape => by
    rw [Stmt.toNode, Stmt.literals]
    exact shape.evaluates.last
  | .ret pos value => by
    rw [Stmt.toNode, Stmt.literals]
    exact (evaluates_optionalExprNode value).last
  | .expr e => by
    rw [Stmt.toNode, Stmt.literals]
    exact e.evaluates.last

theorem evaluates_stmtNodes : ∀ ss : List Stmt, Evaluates (stmtNodes ss) (stmtLiterals ss)
  | [] => .pure []
  | s :: ss => by
    rw [stmtNodes, stmtLiterals]
    exact s.evaluates.bind fun _ => (evaluates_stmtNodes ss).last

theorem Declarator.evaluates : ∀ d : Declarator, Evaluates d.toNode d.literals
  | .mk name declared init => by
    rw [Declarator.toNode, Declarator.literals]
    exact (evaluates_optionalTypeNode declared).bind fun _ => (evaluates_optionalExprNode init).last

theorem evaluates_declaratorNodes : ∀ ds : List Declarator, Evaluates (declaratorNodes ds) (declaratorLiterals ds)
  | [] => .pure []
  | d :: ds => by
    rw [declaratorNodes, declaratorLiterals]
    exact d.evaluates.bind fun _ => (evaluates_declaratorNodes ds).last

theorem ClassShape.evaluates : ∀ shape : ClassShape, Evaluates shape.nodes shape.literals
  | .mk typeParams heritage members => by
    rw [ClassShape.nodes, ClassShape.literals]
    exact (evaluates_optionalHeritageNode heritage).bind fun _ => (evaluates_memberNodes members).bind fun _ =>
      (evaluates_typeParamNodes typeParams).last

theorem Heritage.evaluates : ∀ h : Heritage, Evaluates h.toNode h.literals
  | .mk name typeArgs => by
    rw [Heritage.toNode, Heritage.literals]
    exact (evaluates_typeNodes typeArgs).last

theorem evaluates_optionalHeritageNode :
    ∀ h : Option Heritage, Evaluates (optionalHeritageNode h) (heritageLiterals? h)
  | none => .pure none
  | some h => by
    rw [optionalHeritageNode, heritageLiterals?]
    exact h.evaluates.last

theorem Member.evaluates : ∀ m : Member, Evaluates m.toNode m.literals
  | .method name sig body => by
    rw [Member.toNode, Member.literals]
    exact sig.evaluates.bind fun _ => body.evaluates.last
  | .property name optional declared value => by
    rw [Member.toNode, Member.literals]
    exact (evaluates_optionalTypeNode declared).bind fun _ => (evaluates_optionalExprNode value).last

theorem evaluates_memberNodes : ∀ ms : List Member, Evaluates (memberNodes ms) (memberLiterals ms)
  | [] => .pure []
  | m :: ms => by
    rw [memberNodes, memberLiterals]
    exact m.evaluates.bind fun _ => (evaluates_memberNodes ms).last

end

/-- The tree of a program fails where its literals do. -/
theorem Program.evaluates (p : Program) : Evaluates p.toNode p.literals :=
  (evaluates_stmtNodes p.body).last

theorem Program.exists_toNode_iff {p : Program} :
    (∃ root, p.toNode = .ok root) ↔ ∀ lit ∈ p.literals, lit.value.isOk = true := by
  rw [← evaluate_eq_ok, ← p.evaluates]
  cases p.toNode <;> simp [Except.map]

theorem Program.toNode_eq_error_iff {p : Program} {e : LiteralError} : p.toNode = .error e ↔
    ∃ lit, p.literals.find? (fun lit => !lit.value.isOk) = some lit ∧ lit.value = .error e := by
  rw [← evaluate_eq_error, ← p.evaluates]
  cases p.toNode <;> simp [Except.map]

end TypeLint.Source
