import TypeLint.Proofs.Source.Reading

/-!
# The names of types in a source

The *heads* of a phrase are the names with which its named types start, in the order in which they are read.

* `State.heads` — the heads of all that has been read before a place;
* `State.heads_step` — a token adds itself to them if it is a name where a type starts, and else nothing.
-/

namespace TypeLint.Source

mutual

/-- The heads of a type. -/
def TypeExpr.heads : TypeExpr → List Ident
  | .named head _ args => head :: typeHeads args
  | .literal _ => []
  | .array element => element.heads
  | .union first others => first.heads ++ typeHeads others
  | .function _ typeParams params result => typeParamHeads typeParams ++ paramHeads params ++ result.heads

def typeHeads : List TypeExpr → List Ident
  | [] => []
  | ty :: tys => ty.heads ++ typeHeads tys

def typeHeads? : Option TypeExpr → List Ident
  | none => []
  | some ty => ty.heads

def TypeParam.heads : TypeParam → List Ident
  | .mk _ bound default => typeHeads? bound ++ typeHeads? default

def typeParamHeads : List TypeParam → List Ident
  | [] => []
  | p :: ps => p.heads ++ typeParamHeads ps

def Param.heads : Param → List Ident
  | .mk _ _ declared default => typeHeads? declared ++ exprHeads? default

def paramHeads : List Param → List Ident
  | [] => []
  | p :: ps => p.heads ++ paramHeads ps

def Signature.heads : Signature → List Ident
  | .mk typeParams params result => typeParamHeads typeParams ++ paramHeads params ++ typeHeads? result

/-- The heads of an expression.  The class of a `new` expression is no type. -/
def Expr.heads : Expr → List Ident
  | .name _ | .literal _ => []
  | .member object _ => object.heads
  | .call callee typeArgs args => callee.heads ++ typeHeads typeArgs ++ exprHeads args
  | .new _ _ _ typeArgs args => typeHeads typeArgs ++ exprHeads args
  | .assign target value => target.heads ++ value.heads
  | .binary left _ right => left.heads ++ right.heads
  | .function _ sig body => sig.heads ++ body.heads
  | .arrow _ sig body => sig.heads ++ body.heads
  | .classExpr _ shape => shape.heads

def exprHeads : List Expr → List Ident
  | [] => []
  | e :: es => e.heads ++ exprHeads es

def exprHeads? : Option Expr → List Ident
  | none => []
  | some e => e.heads

def ArrowBody.heads : ArrowBody → List Ident
  | .block b => b.heads
  | .expr e => e.heads

def Block.heads : Block → List Ident
  | .mk _ body => stmtHeads body

def Stmt.heads : Stmt → List Ident
  | .variables _ _ declarators => declaratorHeads declarators
  | .function _ _ sig body => sig.heads ++ body.heads
  | .classDecl _ _ shape => shape.heads
  | .ret _ value => exprHeads? value
  | .expr e => e.heads

def stmtHeads : List Stmt → List Ident
  | [] => []
  | s :: ss => s.heads ++ stmtHeads ss

def Declarator.heads : Declarator → List Ident
  | .mk _ declared init => typeHeads? declared ++ exprHeads? init

def declaratorHeads : List Declarator → List Ident
  | [] => []
  | d :: ds => d.heads ++ declaratorHeads ds

def ClassShape.heads : ClassShape → List Ident
  | .mk typeParams heritage members => typeParamHeads typeParams ++ heritageHeads? heritage ++ memberHeads members

/-- The heads of the base of a class, which is itself no type. -/
def Heritage.heads : Heritage → List Ident
  | .mk _ typeArgs => typeHeads typeArgs

def heritageHeads? : Option Heritage → List Ident
  | none => []
  | some h => h.heads

def Member.heads : Member → List Ident
  | .method _ sig body => sig.heads ++ body.heads
  | .property _ _ declared value => typeHeads? declared ++ exprHeads? value

def memberHeads : List Member → List Ident
  | [] => []
  | m :: ms => m.heads ++ memberHeads ms

end

/-! ## heads of lists -/

@[simp]
theorem typeHeads_append (tys tys' : List TypeExpr) : typeHeads (tys ++ tys') = typeHeads tys ++ typeHeads tys' := by
  induction tys with
  | nil => rfl
  | cons ty tys ih => simp [typeHeads, ih]

@[simp]
theorem typeParamHeads_append (ps ps' : List TypeParam) :
    typeParamHeads (ps ++ ps') = typeParamHeads ps ++ typeParamHeads ps' := by
  induction ps with
  | nil => rfl
  | cons p ps ih => simp [typeParamHeads, ih]

@[simp]
theorem paramHeads_append (ps ps' : List Param) : paramHeads (ps ++ ps') = paramHeads ps ++ paramHeads ps' := by
  induction ps with
  | nil => rfl
  | cons p ps ih => simp [paramHeads, ih]

@[simp]
theorem exprHeads_append (es es' : List Expr) : exprHeads (es ++ es') = exprHeads es ++ exprHeads es' := by
  induction es with
  | nil => rfl
  | cons e es ih => simp [exprHeads, ih]

@[simp]
theorem stmtHeads_append (ss ss' : List Stmt) : stmtHeads (ss ++ ss') = stmtHeads ss ++ stmtHeads ss' := by
  induction ss with
  | nil => rfl
  | cons s ss ih => simp [stmtHeads, ih]

@[simp]
theorem declaratorHeads_append (ds ds' : List Declarator) :
    declaratorHeads (ds ++ ds') = declaratorHeads ds ++ declaratorHeads ds' := by
  induction ds with
  | nil => rfl
  | cons d ds ih => simp [declaratorHeads, ih]

@[simp]
theorem memberHeads_append (ms ms' : List Member) : memberHeads (ms ++ ms') = memberHeads ms ++ memberHeads ms' := by
  induction ms with
  | nil => rfl
  | cons m ms ih => simp [memberHeads, ih]

/-! ## heads of unfinished phrases -/

/-- The heads of a program. -/
def Program.heads (p : Program) : List Ident := stmtHeads p.body

/-- The heads of a declaration of variables as far as it is read. -/
def Variables.heads (vars : Variables) : List Ident := declaratorHeads vars.done.reverse

def Callee.heads : Callee → List Ident
  | .call callee => callee.heads
  | .new .. => []

mutual

/-- The heads before the next statement. -/
def Scope.heads : Scope → List Ident
  | .program done => stmtHeads done.reverse
  | .block _ owner sig done => owner.heads ++ sig.heads ++ stmtHeads done.reverse

/-- The heads before a body. -/
def Owner.heads : Owner → List Ident
  | .declaration _ _ scope => scope.heads
  | .function _ operand => operand.heads
  | .arrow _ slot => slot.heads
  | .method _ members => members.heads

def Members.heads : Members → List Ident
  | .mk owner typeParams heritage done =>
    owner.heads ++ typeParamHeads typeParams ++ heritageHeads? heritage ++ memberHeads done.reverse

def ClassOwner.heads : ClassOwner → List Ident
  | .declaration _ _ scope => scope.heads
  | .expression _ operand => operand.heads

/-- The heads before an expression. -/
def Slot.heads : Slot → List Ident
  | .statement scope => scope.heads
  | .returned _ scope => scope.heads
  | .initial _ declared vars scope => scope.heads ++ vars.heads ++ typeHeads? declared
  | .default _ _ declared params => params.heads ++ typeHeads? declared
  | .property _ _ declared members => members.heads ++ typeHeads? declared
  | .argument callee typeArgs done operand =>
    operand.heads ++ callee.heads ++ typeHeads typeArgs ++ exprHeads done.reverse
  | .assigned target slot => slot.heads ++ target.heads
  | .arrowBody _ sig slot => slot.heads ++ sig.heads

def Addend.heads : Addend → List Ident
  | .first slot => slot.heads
  | .next left _ slot => slot.heads ++ left.heads

/-- The heads before an operand. -/
def Operand.heads : Operand → List Ident
  | .first addend => addend.heads
  | .next left _ addend => addend.heads ++ left.heads

def Params.heads : Params → List Ident
  | .mk target typeParams done => target.heads ++ typeParamHeads typeParams ++ paramHeads done.reverse

def Callable.heads : Callable → List Ident
  | .function owner => owner.heads
  | .type _ slot => slot.heads

def Generics.heads : Generics → List Ident
  | .mk target done => target.heads ++ typeParamHeads done.reverse

def Generic.heads : Generic → List Ident
  | .callable target => target.heads
  | .ofClass owner => owner.heads

/-- The heads before a type. -/
def TypeSlot.heads : TypeSlot → List Ident
  | .variable _ vars scope => scope.heads ++ vars.heads
  | .param _ _ params => params.heads
  | .property _ _ members => members.heads
  | .result owner typeParams params => owner.heads ++ typeParamHeads typeParams ++ paramHeads params
  | .functionResult _ typeParams params slot => slot.heads ++ typeParamHeads typeParams ++ paramHeads params
  | .argument target done => target.heads ++ typeHeads done.reverse
  | .bound _ generics => generics.heads
  | .default _ bound generics => generics.heads ++ typeHeads? bound

def Alternative.heads : Alternative → List Ident
  | .only slot => slot.heads
  | .next first done slot => slot.heads ++ first.heads ++ typeHeads done.reverse

def Applied.heads : Applied → List Ident
  | .type head _ alternative => alternative.heads ++ [head]
  | .callee callee operand => operand.heads ++ callee.heads
  | .heritage _ owner typeParams => owner.heads ++ typeParamHeads typeParams

end

/-- The heads of all that has been read before a place. -/
def State.heads : State → List Ident
  | .statement _ scope | .statementEnd scope | .returnWord _ scope | .functionWord _ scope
  | .classWord _ scope => scope.heads
  | .variable vars scope | .variableNamed _ vars scope => scope.heads ++ vars.heads
  | .signature target => target.heads
  | .parameters params | .parameter params | .parameterNamed _ _ params => params.heads
  | .signatureEnd target typeParams params => target.heads ++ typeParamHeads typeParams ++ paramHeads params
  | .classHead owner => owner.heads
  | .base owner typeParams | .baseNamed _ owner typeParams => owner.heads ++ typeParamHeads typeParams
  | .heritageEnd heritage owner typeParams => owner.heads ++ typeParamHeads typeParams ++ heritage.heads
  | .member _ members | .memberEnd members | .memberNamed _ members | .propertyOptional _ members => members.heads
  | .expression slot => slot.heads
  | .arguments callee typeArgs place | .calleeEnd callee typeArgs place =>
    place.heads ++ callee.heads ++ typeHeads typeArgs
  | .arrowBody _ sig slot => slot.heads ++ sig.heads
  | .operand place | .newWord _ place | .newNamed _ _ _ place | .newPath _ _ _ place => place.heads
  | .operandEnd e place | .property e place => place.heads ++ e.heads
  | .expressionEnd e slot => slot.heads ++ e.heads
  | .type slot => slot.heads
  | .alternative first done slot => slot.heads ++ first.heads ++ typeHeads done.reverse
  | .typeNamed head _ place | .typePath head _ place => place.heads ++ [head]
  | .typeEnd ty _ place | .bracket ty place => place.heads ++ ty.heads
  | .typeParam generics | .typeParamNamed _ generics => generics.heads
  | .genericsEnd target typeParams => target.heads ++ typeParamHeads typeParams
  | .complete program => program.heads

/-- The heads of all that has been read before a token that is offered to a phrase. -/
def Focus.heads : Focus → List Ident
  | .statementEnd scope => scope.heads
  | .memberEnd members => members.heads
  | .variableEnd d vars scope => scope.heads ++ vars.heads ++ d.heads
  | .parameterEnd p params => params.heads ++ p.heads
  | .typeParamEnd p generics => generics.heads ++ p.heads
  | .operandBegin operand => operand.heads
  | .expressionBegin slot => slot.heads
  | .alternativeBegin alternative => alternative.heads
  | .typeBegin slot => slot.heads
  | .signatureBegin target => target.heads
  | .classHeadBegin owner => owner.heads
  | .expressionEnd e slot => slot.heads ++ e.heads
  | .operandEnd e operand => operand.heads ++ e.heads
  | .typeEnd ty slot => slot.heads ++ ty.heads
  | .alternativeEnd ty alternative => alternative.heads ++ ty.heads

section Parts

@[simp]
theorem Scope.heads_add (s : Stmt) (scope : Scope) : (scope.add s).heads = scope.heads ++ s.heads := by
  cases scope <;> simp [Scope.add, Scope.heads, stmtHeads]

@[simp]
theorem Members.heads_add (m : Member) (members : Members) : (members.add m).heads = members.heads ++ m.heads := by
  cases members
  simp [Members.add, Members.heads, memberHeads]

@[simp]
theorem Params.heads_add (p : Param) (params : Params) : (params.add p).heads = params.heads ++ p.heads := by
  cases params
  simp [Params.add, Params.heads, paramHeads]

@[simp]
theorem Generics.heads_add (p : TypeParam) (generics : Generics) :
    (generics.add p).heads = generics.heads ++ p.heads := by
  cases generics
  simp [Generics.add, Generics.heads, typeParamHeads]

@[simp]
theorem Variables.heads_add (d : Declarator) (vars : Variables) : (vars.add d).heads = vars.heads ++ d.heads := by
  simp [Variables.add, Variables.heads, declaratorHeads]

@[simp]
theorem Variables.heads_toStmt (vars : Variables) : vars.toStmt.heads = vars.heads := by
  simp [Variables.toStmt, Variables.heads, Stmt.heads]

@[simp]
theorem Callee.heads_apply (typeArgs : List TypeExpr) (args : List Expr) (callee : Callee) :
    (callee.apply typeArgs args).heads = callee.heads ++ typeHeads typeArgs ++ exprHeads args := by
  cases callee <;> simp [Callee.apply, Callee.heads, Expr.heads]

@[simp]
theorem Slot.heads_operand (slot : Slot) : slot.operand.heads = slot.heads := by
  simp [Slot.operand, Operand.heads, Addend.heads]

@[simp]
theorem Addend.heads_sum (e : Expr) (addend : Addend) :
    addend.slot.heads ++ (addend.sum e).heads = addend.heads ++ e.heads := by
  cases addend <;> simp [Addend.slot, Addend.sum, Addend.heads, Expr.heads]

@[simp]
theorem Operand.heads_term (e : Expr) (operand : Operand) :
    operand.addend.heads ++ (operand.term e).heads = operand.heads ++ e.heads := by
  cases operand <;> simp [Operand.addend, Operand.term, Operand.heads, Expr.heads]

@[simp]
theorem Alternative.heads_whole (ty : TypeExpr) (alternative : Alternative) :
    alternative.slot.heads ++ (alternative.whole ty).heads = alternative.heads ++ ty.heads := by
  cases alternative <;> simp [Alternative.slot, Alternative.whole, Alternative.heads, TypeExpr.heads, typeHeads]

end Parts

/-! ## one token -/

section Step

attribute [local simp] State.heads Scope.heads Owner.heads Members.heads ClassOwner.heads Slot.heads Addend.heads
  Operand.heads Params.heads Callable.heads Generics.heads Generic.heads TypeSlot.heads Alternative.heads
  Applied.heads Callee.heads Program.heads TypeExpr.heads typeHeads typeHeads? TypeParam.heads typeParamHeads
  Param.heads paramHeads Signature.heads Expr.heads exprHeads exprHeads? ArrowBody.heads Block.heads Stmt.heads
  stmtHeads Declarator.heads ClassShape.heads Heritage.heads heritageHeads? Member.heads memberHeads

variable {t : Token} {k : Terminal} {s s' : State} {f g : Focus}

/-- The head that a token is where a type starts. -/
def Token.heads (t : Token) : List Ident := if t.kind = .name then [t.ident] else []

theorem Owner.heads_close (sig : Signature) (body : Block) (owner : Owner) :
    (owner.close sig body).heads = owner.heads ++ sig.heads ++ body.heads := by
  cases owner <;> simp [Owner.close]

theorem Members.heads_close (members : Members) : members.close.heads = members.heads := by
  obtain ⟨owner, typeParams, heritage, done⟩ := members
  cases owner <;> simp [Members.close]

theorem Params.heads_close (params : Params) : params.close.heads = params.heads := by
  cases params
  simp [Params.close]

theorem Generics.heads_close (generics : Generics) : generics.close.heads = generics.heads := by
  cases generics
  simp [Generics.close]

theorem Applied.heads_close (args : List TypeExpr) (target : Applied) :
    (target.close args).heads = target.heads ++ typeHeads args := by
  cases target <;> simp [Applied.close]

attribute [local simp] Focus.heads

theorem Focus.Passes.heads_eq (h : f.Passes k g) : g.heads = f.heads := by
  cases h <;> simp

theorem State.Offers.heads_eq (h : s.Offers k f) : f.heads = s.heads := by
  cases h <;> simp

theorem Focus.Consumes.heads_eq (h : f.Consumes t s) : s.heads = f.heads ∨ s.heads = f.heads ++ t.heads := by
  cases h with
  | typeName hk => simp [Token.heads, hk]
  | blockEnd =>
    rw [Owner.heads_close]
    simp
  | membersEnd =>
    rw [Members.heads_close]
    simp
  | parametersEnd =>
    rw [Params.heads_close]
    simp
  | typeParamsEnd =>
    rw [Generics.heads_close]
    simp
  | typeArgsEnd =>
    rw [Applied.heads_close]
    simp
  | _ => simp [blockBegin, classBegin]

theorem State.Consumes.heads_eq (h : s.Consumes t s') : s'.heads = s.heads := by
  cases h with
  | binderWord => simp [Variables.heads, declaratorHeads]
  | noParameters =>
    rw [Params.heads_close]
    simp
  | _ => simp [blockBegin, classBegin]

theorem Focus.Steps.heads_eq (h : f.Steps t s) : s.heads = f.heads ∨ s.heads = f.heads ++ t.heads := by
  induction h with
  | consume consumes => exact consumes.heads_eq
  | pass passes _ ih => rwa [passes.heads_eq] at ih

/-- A token adds nothing to the heads, or itself where a type starts. -/
theorem State.heads_step (h : s.step t = some s') : s'.heads = s.heads ∨ s'.heads = s.heads ++ t.heads := by
  obtain consumes | ⟨f, offers, steps⟩ := State.step_iff.1 h
  · exact .inl consumes.heads_eq
  · rw [← offers.heads_eq]
    exact steps.heads_eq

end Step

end TypeLint.Source
