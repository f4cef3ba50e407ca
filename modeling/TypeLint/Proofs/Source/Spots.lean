import TypeLint.Proofs.Source.Reading

/-!
# What phrases keep of their tokens

A phrase keeps the names, numbers and strings of its text, and the positions of some of the other tokens.  The *spots*
of a phrase list all this in the order in which it is read; an operator is not among them.

* `Spot`, `Token.spot` — a word with its place, or the place of another token;
* `State.spots` — the spots of all that has been read before a place;
* `State.spots_step` — a token adds its spot to them, or nothing if it is no word.
-/

namespace TypeLint.Source

/-- The terminals that are words: names, numbers and strings. -/
def Terminal.isWord : Terminal → Bool
  | .name | .number | .string => true
  | _ => false

/-- What a phrase keeps of a token. -/
inductive Spot where
  | word (kind : Terminal) (text : Text) (pos : Pos)
  /-- the place of a token that is no word -/
  | sign (pos : Pos)

/-- Where a spot is. -/
def Spot.pos : Spot → Pos
  | .word _ _ pos => pos
  | .sign pos => pos

/-- The spot of a token. -/
def Token.spot (t : Token) : Spot := if t.kind.isWord then .word t.kind t.text t.pos else .sign t.pos

/-- The spot of a name. -/
def Ident.spot (id : Ident) : Spot := .word .name id.text id.pos

/-- The terminal of a literal. -/
def LiteralKind.terminal : LiteralKind → Terminal
  | .string => .string
  | .number => .number

/-- The spot of a literal. -/
def Literal.spot (lit : Literal) : Spot := .word lit.kind.terminal lit.text lit.pos

mutual

/-- The spots of a type. -/
def TypeExpr.spots : TypeExpr → List Spot
  | .named head path args => head.spot :: (path.map Ident.spot ++ typeSpots args)
  | .literal lit => [lit.spot]
  | .array element => element.spots
  | .union first others => first.spots ++ typeSpots others
  | .function pos typeParams params result =>
    .sign pos :: (typeParamSpots typeParams ++ (paramSpots params ++ result.spots))

def typeSpots : List TypeExpr → List Spot
  | [] => []
  | ty :: tys => ty.spots ++ typeSpots tys

def typeSpots? : Option TypeExpr → List Spot
  | none => []
  | some ty => ty.spots

def TypeParam.spots : TypeParam → List Spot
  | .mk name bound default => name.spot :: (typeSpots? bound ++ typeSpots? default)

def typeParamSpots : List TypeParam → List Spot
  | [] => []
  | p :: ps => p.spots ++ typeParamSpots ps

def Param.spots : Param → List Spot
  | .mk name _ declared default => name.spot :: (typeSpots? declared ++ exprSpots? default)

def paramSpots : List Param → List Spot
  | [] => []
  | p :: ps => p.spots ++ paramSpots ps

def Signature.spots : Signature → List Spot
  | .mk typeParams params result => typeParamSpots typeParams ++ (paramSpots params ++ typeSpots? result)

/-- The spots of an expression. -/
def Expr.spots : Expr → List Spot
  | .name id => [id.spot]
  | .literal lit => [lit.spot]
  | .member object property => object.spots ++ [property.spot]
  | .call callee typeArgs args => callee.spots ++ (typeSpots typeArgs ++ exprSpots args)
  | .new pos head path typeArgs args =>
    .sign pos :: head.spot :: (path.map Ident.spot ++ (typeSpots typeArgs ++ exprSpots args))
  | .assign target value => target.spots ++ value.spots
  | .binary left _ right => left.spots ++ right.spots
  | .function pos sig body => .sign pos :: (sig.spots ++ body.spots)
  | .arrow pos sig body => .sign pos :: (sig.spots ++ body.spots)
  | .classExpr pos shape => .sign pos :: shape.spots

def exprSpots : List Expr → List Spot
  | [] => []
  | e :: es => e.spots ++ exprSpots es

def exprSpots? : Option Expr → List Spot
  | none => []
  | some e => e.spots

def ArrowBody.spots : ArrowBody → List Spot
  | .block b => b.spots
  | .expr e => e.spots

def Block.spots : Block → List Spot
  | .mk pos body => .sign pos :: stmtSpots body

/-- The spots of a statement. -/
def Stmt.spots : Stmt → List Spot
  | .variables pos _ declarators => .sign pos :: declaratorSpots declarators
  | .function pos name sig body => .sign pos :: name.spot :: (sig.spots ++ body.spots)
  | .classDecl pos name shape => .sign pos :: name.spot :: shape.spots
  | .ret pos value => .sign pos :: exprSpots? value
  | .expr e => e.spots

def stmtSpots : List Stmt → List Spot
  | [] => []
  | s :: ss => s.spots ++ stmtSpots ss

def Declarator.spots : Declarator → List Spot
  | .mk name declared init => name.spot :: (typeSpots? declared ++ exprSpots? init)

def declaratorSpots : List Declarator → List Spot
  | [] => []
  | d :: ds => d.spots ++ declaratorSpots ds

def ClassShape.spots : ClassShape → List Spot
  | .mk typeParams heritage members => typeParamSpots typeParams ++ (heritageSpots? heritage ++ memberSpots members)

def Heritage.spots : Heritage → List Spot
  | .mk name typeArgs => name.spot :: typeSpots typeArgs

def heritageSpots? : Option Heritage → List Spot
  | none => []
  | some h => h.spots

def Member.spots : Member → List Spot
  | .method name sig body => name.spot :: (sig.spots ++ body.spots)
  | .property name _ declared value => name.spot :: (typeSpots? declared ++ exprSpots? value)

def memberSpots : List Member → List Spot
  | [] => []
  | m :: ms => m.spots ++ memberSpots ms

end

/-- The spots of a program. -/
def Program.spots (p : Program) : List Spot := stmtSpots p.body

/-! ## spots of lists -/

@[simp]
theorem typeSpots_append (tys tys' : List TypeExpr) : typeSpots (tys ++ tys') = typeSpots tys ++ typeSpots tys' := by
  induction tys with
  | nil => rfl
  | cons ty tys ih => simp [typeSpots, ih]

@[simp]
theorem typeParamSpots_append (ps ps' : List TypeParam) :
    typeParamSpots (ps ++ ps') = typeParamSpots ps ++ typeParamSpots ps' := by
  induction ps with
  | nil => rfl
  | cons p ps ih => simp [typeParamSpots, ih]

@[simp]
theorem paramSpots_append (ps ps' : List Param) : paramSpots (ps ++ ps') = paramSpots ps ++ paramSpots ps' := by
  induction ps with
  | nil => rfl
  | cons p ps ih => simp [paramSpots, ih]

@[simp]
theorem exprSpots_append (es es' : List Expr) : exprSpots (es ++ es') = exprSpots es ++ exprSpots es' := by
  induction es with
  | nil => rfl
  | cons e es ih => simp [exprSpots, ih]

@[simp]
theorem stmtSpots_append (ss ss' : List Stmt) : stmtSpots (ss ++ ss') = stmtSpots ss ++ stmtSpots ss' := by
  induction ss with
  | nil => rfl
  | cons s ss ih => simp [stmtSpots, ih]

@[simp]
theorem declaratorSpots_append (ds ds' : List Declarator) :
    declaratorSpots (ds ++ ds') = declaratorSpots ds ++ declaratorSpots ds' := by
  induction ds with
  | nil => rfl
  | cons d ds ih => simp [declaratorSpots, ih]

@[simp]
theorem memberSpots_append (ms ms' : List Member) : memberSpots (ms ++ ms') = memberSpots ms ++ memberSpots ms' := by
  induction ms with
  | nil => rfl
  | cons m ms ih => simp [memberSpots, ih]

/-! ## spots of unfinished phrases -/

/-- The spots of a declaration of variables as far as it is read. -/
def Variables.spots (vars : Variables) : List Spot := .sign vars.pos :: declaratorSpots vars.done.reverse

def Callee.spots : Callee → List Spot
  | .call callee => callee.spots
  | .new pos head path => .sign pos :: head.spot :: path.map Ident.spot

@[simp]
theorem Callee.spots_call (callee : Expr) : (Callee.call callee).spots = callee.spots := rfl

@[simp]
theorem Callee.spots_new (pos : Pos) (head : Ident) (path : List Ident) :
    (Callee.new pos head path).spots = .sign pos :: head.spot :: path.map Ident.spot :=
  rfl

mutual

/-- The spots before the next statement. -/
def Scope.spots : Scope → List Spot
  | .program done => stmtSpots done.reverse
  | .block pos owner sig done => owner.spots ++ (sig.spots ++ .sign pos :: stmtSpots done.reverse)

/-- The spots before the signature of what has a body. -/
def Owner.spots : Owner → List Spot
  | .declaration pos name scope => scope.spots ++ [.sign pos, name.spot]
  | .function pos operand => operand.spots ++ [.sign pos]
  | .arrow pos slot => slot.spots ++ [.sign pos]
  | .method name members => members.spots ++ [name.spot]

/-- The spots before the next member of a class. -/
def Members.spots : Members → List Spot
  | .mk owner typeParams heritage done =>
    owner.spots ++ (typeParamSpots typeParams ++ (heritageSpots? heritage ++ memberSpots done.reverse))

def ClassOwner.spots : ClassOwner → List Spot
  | .declaration pos name scope => scope.spots ++ [.sign pos, name.spot]
  | .expression pos operand => operand.spots ++ [.sign pos]

/-- The spots before an expression. -/
def Slot.spots : Slot → List Spot
  | .statement scope => scope.spots
  | .returned pos scope => scope.spots ++ [.sign pos]
  | .initial name declared vars scope => scope.spots ++ (vars.spots ++ name.spot :: typeSpots? declared)
  | .default name _ declared params => params.spots ++ name.spot :: typeSpots? declared
  | .property name _ declared members => members.spots ++ name.spot :: typeSpots? declared
  | .argument callee typeArgs done operand =>
    operand.spots ++ (callee.spots ++ (typeSpots typeArgs ++ exprSpots done.reverse))
  | .assigned target slot => slot.spots ++ target.spots
  | .arrowBody pos sig slot => slot.spots ++ .sign pos :: sig.spots

def Addend.spots : Addend → List Spot
  | .first slot => slot.spots
  | .next left _ slot => slot.spots ++ left.spots

/-- The spots before an operand. -/
def Operand.spots : Operand → List Spot
  | .first addend => addend.spots
  | .next left _ addend => addend.spots ++ left.spots

def Params.spots : Params → List Spot
  | .mk target typeParams done => target.spots ++ (typeParamSpots typeParams ++ paramSpots done.reverse)

def Callable.spots : Callable → List Spot
  | .function owner => owner.spots
  | .type pos slot => slot.spots ++ [.sign pos]

def Generics.spots : Generics → List Spot
  | .mk target done => target.spots ++ typeParamSpots done.reverse

def Generic.spots : Generic → List Spot
  | .callable target => target.spots
  | .ofClass owner => owner.spots

/-- The spots before a type. -/
def TypeSlot.spots : TypeSlot → List Spot
  | .variable name vars scope => scope.spots ++ (vars.spots ++ [name.spot])
  | .param name _ params => params.spots ++ [name.spot]
  | .property name _ members => members.spots ++ [name.spot]
  | .result owner typeParams params => owner.spots ++ (typeParamSpots typeParams ++ paramSpots params)
  | .functionResult pos typeParams params slot =>
    slot.spots ++ .sign pos :: (typeParamSpots typeParams ++ paramSpots params)
  | .argument target done => target.spots ++ typeSpots done.reverse
  | .bound name generics => generics.spots ++ [name.spot]
  | .default name bound generics => generics.spots ++ name.spot :: typeSpots? bound

def Alternative.spots : Alternative → List Spot
  | .only slot => slot.spots
  | .next first done slot => slot.spots ++ (first.spots ++ typeSpots done.reverse)

/-- The spots before type arguments. -/
def Applied.spots : Applied → List Spot
  | .type head path alternative => alternative.spots ++ head.spot :: path.reverse.map Ident.spot
  | .callee callee operand => operand.spots ++ callee.spots
  | .heritage base owner typeParams => owner.spots ++ (typeParamSpots typeParams ++ [base.spot])

end

/-- The spots of all that has been read before a place. -/
def State.spots : State → List Spot
  | .statement _ scope | .statementEnd scope => scope.spots
  | .variable vars scope => scope.spots ++ vars.spots
  | .variableNamed name vars scope => scope.spots ++ (vars.spots ++ [name.spot])
  | .returnWord pos scope | .functionWord pos scope | .classWord pos scope => scope.spots ++ [.sign pos]
  | .signature target => target.spots
  | .parameters params | .parameter params => params.spots
  | .parameterNamed name _ params => params.spots ++ [name.spot]
  | .signatureEnd target typeParams params => target.spots ++ (typeParamSpots typeParams ++ paramSpots params)
  | .classHead owner => owner.spots
  | .base owner typeParams => owner.spots ++ typeParamSpots typeParams
  | .baseNamed root owner typeParams => owner.spots ++ (typeParamSpots typeParams ++ [root.spot])
  | .heritageEnd heritage owner typeParams => owner.spots ++ (typeParamSpots typeParams ++ heritage.spots)
  | .member _ members | .memberEnd members => members.spots
  | .memberNamed name members | .propertyOptional name members => members.spots ++ [name.spot]
  | .expression slot => slot.spots
  | .arguments callee typeArgs place | .calleeEnd callee typeArgs place =>
    place.spots ++ (callee.spots ++ typeSpots typeArgs)
  | .arrowBody pos sig slot => slot.spots ++ .sign pos :: sig.spots
  | .operand place => place.spots
  | .operandEnd e place | .property e place => place.spots ++ e.spots
  | .expressionEnd e slot => slot.spots ++ e.spots
  | .newWord pos place => place.spots ++ [.sign pos]
  | .newNamed pos head path place | .newPath pos head path place =>
    place.spots ++ .sign pos :: head.spot :: path.reverse.map Ident.spot
  | .type slot => slot.spots
  | .alternative first done slot => slot.spots ++ (first.spots ++ typeSpots done.reverse)
  | .typeNamed head path place | .typePath head path place =>
    place.spots ++ head.spot :: path.reverse.map Ident.spot
  | .typeEnd ty _ place | .bracket ty place => place.spots ++ ty.spots
  | .typeParam generics => generics.spots
  | .typeParamNamed name generics => generics.spots ++ [name.spot]
  | .genericsEnd target typeParams => target.spots ++ typeParamSpots typeParams
  | .complete program => program.spots

/-- The spots of all that has been read before a token that is offered to a phrase. -/
def Focus.spots : Focus → List Spot
  | .statementEnd scope => scope.spots
  | .memberEnd members => members.spots
  | .variableEnd d vars scope => scope.spots ++ (vars.spots ++ d.spots)
  | .parameterEnd p params => params.spots ++ p.spots
  | .typeParamEnd p generics => generics.spots ++ p.spots
  | .operandBegin operand => operand.spots
  | .expressionBegin slot => slot.spots
  | .alternativeBegin alternative => alternative.spots
  | .typeBegin slot => slot.spots
  | .signatureBegin target => target.spots
  | .classHeadBegin owner => owner.spots
  | .expressionEnd e slot => slot.spots ++ e.spots
  | .operandEnd e operand => operand.spots ++ e.spots
  | .typeEnd ty slot => slot.spots ++ ty.spots
  | .alternativeEnd ty alternative => alternative.spots ++ ty.spots

section Parts

@[simp]
theorem Scope.spots_add (s : Stmt) (scope : Scope) : (scope.add s).spots = scope.spots ++ s.spots := by
  cases scope <;> simp [Scope.add, Scope.spots, stmtSpots]

@[simp]
theorem Members.spots_add (m : Member) (members : Members) : (members.add m).spots = members.spots ++ m.spots := by
  cases members
  simp [Members.add, Members.spots, memberSpots]

@[simp]
theorem Params.spots_add (p : Param) (params : Params) : (params.add p).spots = params.spots ++ p.spots := by
  cases params
  simp [Params.add, Params.spots, paramSpots]

@[simp]
theorem Generics.spots_add (p : TypeParam) (generics : Generics) :
    (generics.add p).spots = generics.spots ++ p.spots := by
  cases generics
  simp [Generics.add, Generics.spots, typeParamSpots]

@[simp]
theorem Variables.spots_add (d : Declarator) (vars : Variables) : (vars.add d).spots = vars.spots ++ d.spots := by
  simp [Variables.add, Variables.spots, declaratorSpots]

@[simp]
theorem Variables.spots_toStmt (vars : Variables) : vars.toStmt.spots = vars.spots := by
  simp [Variables.toStmt, Variables.spots, Stmt.spots]

@[simp]
theorem Callee.spots_apply (typeArgs : List TypeExpr) (args : List Expr) (callee : Callee) :
    (callee.apply typeArgs args).spots = callee.spots ++ (typeSpots typeArgs ++ exprSpots args) := by
  cases callee <;> simp [Callee.apply, Expr.spots]

@[simp]
theorem Slot.spots_operand (slot : Slot) : slot.operand.spots = slot.spots := by
  simp [Slot.operand, Operand.spots, Addend.spots]

@[simp]
theorem Params.spots_close (params : Params) : params.close.spots = params.spots := by
  cases params
  simp [Params.close, Params.spots, State.spots]

@[simp]
theorem Generics.spots_close (generics : Generics) : generics.close.spots = generics.spots := by
  cases generics
  simp [Generics.close, Generics.spots, State.spots]

@[simp]
theorem Members.spots_close (members : Members) : members.close.spots = members.spots := by
  obtain ⟨owner, typeParams, heritage, done⟩ := members
  cases owner <;>
    simp [Members.close, Members.spots, ClassOwner.spots, State.spots, Stmt.spots, Expr.spots, ClassShape.spots]

theorem Addend.spots_sum (e : Expr) (addend : Addend) :
    addend.slot.spots ++ (addend.sum e).spots = addend.spots ++ e.spots := by
  cases addend <;> simp [Addend.slot, Addend.sum, Addend.spots, Expr.spots]

theorem Operand.spots_term (e : Expr) (operand : Operand) :
    operand.addend.spots ++ (operand.term e).spots = operand.spots ++ e.spots := by
  cases operand <;> simp [Operand.addend, Operand.term, Operand.spots, Expr.spots]

theorem Alternative.spots_whole (ty : TypeExpr) (alternative : Alternative) :
    alternative.slot.spots ++ (alternative.whole ty).spots = alternative.spots ++ ty.spots := by
  cases alternative <;> simp [Alternative.slot, Alternative.whole, Alternative.spots, TypeExpr.spots, typeSpots]

end Parts

/-! ## one token -/

/-- A token adds its spot, or nothing if it is no word. -/
def Token.Adds (t : Token) (before behind : List Spot) : Prop :=
  behind = before ++ [t.spot] ∨ t.kind.isWord = false ∧ behind = before

section Step

attribute [local simp] Token.Adds Token.spot Terminal.isWord Token.ident Ident.spot Literal.spot LiteralKind.terminal
  State.spots Scope.spots Owner.spots ClassOwner.spots Slot.spots Addend.spots Operand.spots Params.spots Callable.spots
  Generics.spots Generic.spots TypeSlot.spots Alternative.spots Applied.spots Variables.spots
  Program.spots TypeExpr.spots typeSpots typeSpots? TypeParam.spots typeParamSpots Param.spots paramSpots
  Signature.spots Expr.spots exprSpots exprSpots? ArrowBody.spots Block.spots Stmt.spots stmtSpots Declarator.spots
  declaratorSpots Heritage.spots heritageSpots? Member.spots memberSpots Members.spots

variable {t : Token} {k : Terminal} {s s' : State} {f g : Focus}

theorem Owner.spots_close (sig : Signature) (body : Block) (owner : Owner) :
    (owner.close sig body).spots = owner.spots ++ (sig.spots ++ body.spots) := by
  cases owner <;> simp [Owner.close]

theorem Applied.spots_close (args : List TypeExpr) (target : Applied) :
    (target.close args).spots = target.spots ++ typeSpots args := by
  cases target <;> simp [Applied.close]

attribute [local simp] Focus.spots

theorem Focus.Passes.spots_eq (h : f.Passes k g) : g.spots = f.spots := by
  cases h with
  | sum => rw [Focus.spots, Addend.spots_sum, Operand.spots_term, Focus.spots]
  | union => rw [Focus.spots, Alternative.spots_whole, Focus.spots]
  | declaration => simp [-Variables.spots]
  | _ => simp

theorem State.Offers.spots_eq (h : s.Offers k f) : f.spots = s.spots := by
  cases h <;> simp

theorem Focus.Consumes.spots_adds (h : f.Consumes t s) : t.Adds f.spots s.spots := by
  cases h with
  | blockEnd hk => exact .inr ⟨by simp [hk], by simp [Owner.spots_close, -State.spots]⟩
  | membersEnd hk => exact .inr ⟨by simp [hk], by rw [Members.spots_close, Focus.spots]⟩
  | parametersEnd hk => exact .inr ⟨by simp [hk], by rw [Params.spots_close, Params.spots_add, Focus.spots]⟩
  | typeParamsEnd hk => exact .inr ⟨by simp [hk], by rw [Generics.spots_close, Generics.spots_add, Focus.spots]⟩
  | typeArgsEnd hk => exact .inr ⟨by simp [hk], by simp [Applied.spots_close, -State.spots]⟩
  | variableComma hk => simp [hk, -Variables.spots]
  | mulOp hk | addOp hk => simp [hk, Operand.spots_term, Addend.spots_sum]
  | _ hk => simp [hk, blockBegin, classBegin]

theorem State.Consumes.spots_adds (h : s.Consumes t s') : t.Adds s.spots s'.spots := by
  cases h with
  | noParameters hk => exact .inr ⟨by simp [hk], by rw [Params.spots_close, State.spots]⟩
  | _ hk => simp [hk, blockBegin, classBegin]

theorem Focus.Steps.spots_adds (h : f.Steps t s) : t.Adds f.spots s.spots := by
  induction h with
  | consume consumes => exact consumes.spots_adds
  | pass passes _ ih => rwa [passes.spots_eq] at ih

/-- A token adds its spot to what has been read, or nothing if it is no word. -/
theorem State.spots_step (h : s.step t = some s') : t.Adds s.spots s'.spots := by
  obtain consumes | ⟨f, offers, steps⟩ := State.step_iff.1 h
  · exact consumes.spots_adds
  · rw [← offers.spots_eq]
    exact steps.spots_adds

end Step

end TypeLint.Source
