import TypeLint.Source.State

/-!
# Reading one token

`State.step` is the place behind one more token, or nothing if the token cannot stand there.  A token that
does not continue the innermost phrase completes it, and is then read by the phrase around it; the functions
`…End` below complete a phrase of their kind with the token behind it.
-/

namespace TypeLint.Source

/-- The name that a token spells. -/
def Token.ident (t : Token) : Ident := ⟨t.text, t.pos⟩

/-! ## completing statements and members -/

/-- A block is complete. -/
def Owner.close (sig : Signature) (body : Block) : Owner → State
  | .declaration pos name scope => .statementEnd (scope.add (.function pos name sig body))
  | .function pos operand => .operandEnd (.function pos sig body) operand
  | .arrow pos slot => .expressionEnd (.arrow pos sig (.block body)) slot
  | .method name members => .memberEnd (members.add (.method name sig body))

/-- A closing brace behind the statements of a scope. -/
def Scope.close : Scope → Option State
  | .program _ => none
  | .block pos owner sig done => some (owner.close sig (.mk pos done.reverse))

/-- The end of the source behind the statements of a scope. -/
def Scope.finish : Scope → Option State
  | .program done => some (.complete ⟨done.reverse⟩)
  | .block .. => none

/-- A token behind a complete statement, which the scope already holds. -/
def Scope.statementEnd (scope : Scope) (t : Token) : Option State :=
  match t.kind with
  | .terminator => some (.statement .terminated scope)
  | .braceClose => scope.close
  | .finish => scope.finish
  | _ => none

/-- A closing brace behind the members of a class. -/
def Members.close : Members → State
  | .mk owner typeParams heritage done =>
    let shape := ClassShape.mk typeParams heritage done.reverse
    match owner with
    | .declaration pos name scope => .statementEnd (scope.add (.classDecl pos name shape))
    | .expression pos operand => .operandEnd (.classExpr pos shape) operand

/-- A token behind a complete member, which the class already holds. -/
def Members.memberEnd (members : Members) (t : Token) : Option State :=
  match t.kind with
  | .terminator => some (.member .terminated members)
  | .braceClose => some members.close
  | _ => none

/-- A token behind a complete variable of a declaration. -/
def variableEnd (d : Declarator) (vars : Variables) (scope : Scope) (t : Token) : Option State :=
  let vars := vars.add d
  match t.kind with
  | .comma => some (.variable vars scope)
  | _ => (scope.add vars.toStmt).statementEnd t

/-! ## completing parameters -/

/-- The closing parenthesis of parameters. -/
def Params.close : Params → State
  | .mk target typeParams done => .signatureEnd target typeParams done.reverse

/-- A token behind a complete parameter. -/
def parameterEnd (p : Param) (params : Params) (t : Token) : Option State :=
  match t.kind with
  | .comma => some (.parameter (params.add p))
  | .parenClose => some (params.add p).close
  | _ => none

/-- The closing bracket of type parameters. -/
def Generics.close : Generics → State
  | .mk target done => .genericsEnd target done.reverse

/-- A token behind a complete type parameter. -/
def typeParamEnd (p : TypeParam) (generics : Generics) (t : Token) : Option State :=
  match t.kind with
  | .comma => some (.typeParam (generics.add p))
  | .angleClose => some (generics.add p).close
  | _ => none

/-! ## starting phrases -/

/-- The first token of an operand. -/
def operandBegin (operand : Operand) (t : Token) : Option State :=
  match t.kind with
  | .name => some (.operandEnd (.name t.ident) operand)
  | .number => some (.operandEnd (.literal ⟨.number, t.text, t.pos⟩) operand)
  | .string => some (.operandEnd (.literal ⟨.string, t.text, t.pos⟩) operand)
  | .newWord => some (.newWord t.pos operand)
  | .functionWord => some (.signature (.function (.function t.pos operand)))
  | .classWord => some (.classHead (.expression t.pos operand))
  | _ => none

/-- The first token of an expression. -/
def expressionBegin (slot : Slot) (t : Token) : Option State :=
  match t.kind with
  | .parenOpen => some (.parameters (.mk (.function (.arrow t.pos slot)) [] []))
  | .angleOpen => some (.typeParam (.mk (.callable (.function (.arrow t.pos slot))) []))
  | _ => operandBegin slot.operand t

/-- The first token of a member of a union. -/
def alternativeBegin (alternative : Alternative) (t : Token) : Option State :=
  match t.kind with
  | .name => some (.typeNamed t.ident [] alternative)
  | .number => some (.typeEnd (.literal ⟨.number, t.text, t.pos⟩) false alternative)
  | .string => some (.typeEnd (.literal ⟨.string, t.text, t.pos⟩) false alternative)
  | _ => none

/-- The first token of a type. -/
def typeBegin (slot : TypeSlot) (t : Token) : Option State :=
  match t.kind with
  | .parenOpen => some (.parameters (.mk (.type t.pos slot) [] []))
  | .angleOpen => some (.typeParam (.mk (.callable (.type t.pos slot)) []))
  | _ => alternativeBegin (.only slot) t

/-- The first token behind what parameters belong to. -/
def signatureBegin (target : Callable) (t : Token) : Option State :=
  match t.kind with
  | .parenOpen => some (.parameters (.mk target [] []))
  | .angleOpen => some (.typeParam (.mk (.callable target) []))
  | _ => none

/-- The opening brace of a class body. -/
def classBegin (owner : ClassOwner) (typeParams : List TypeParam) (heritage : Option Heritage) : State :=
  .member .opened (.mk owner typeParams heritage [])

/-- The first token behind the name of a class, or where the name could stand. -/
def classHeadBegin (owner : ClassOwner) (t : Token) : Option State :=
  match t.kind with
  | .angleOpen => some (.typeParam (.mk (.ofClass owner) []))
  | .extendsWord => some (.base owner [])
  | .braceOpen => some (classBegin owner [] none)
  | _ => none

/-- The opening brace of a block. -/
def blockBegin (owner : Owner) (sig : Signature) (t : Token) : State :=
  .statement .opened (.block t.pos owner sig [])

/-! ## completing expressions -/

/-- A token behind a complete expression. -/
def expressionEnd (e : Expr) (slot : Slot) (t : Token) : Option State :=
  match slot with
  | .statement scope => (scope.add (.expr e)).statementEnd t
  | .returned pos scope => (scope.add (.ret pos (some e))).statementEnd t
  | .initial name declared vars scope => variableEnd (.mk name declared (some e)) vars scope t
  | .default name optional declared params =>
    parameterEnd (.mk name optional declared (some e)) params t
  | .property name optional declared members =>
    (members.add (.property name optional declared (some e))).memberEnd t
  | .argument callee typeArgs done operand =>
    match t.kind with
    | .comma => some (.expression (.argument callee typeArgs (e :: done) operand))
    | .parenClose => some (.operandEnd (callee.apply typeArgs (e :: done).reverse) operand)
    | _ => none
  | .assigned target slot => expressionEnd (.assign target e) slot t
  | .arrowBody pos sig slot => expressionEnd (.arrow pos sig (.expr e)) slot t

/-- A token behind an operand that does not continue it.  Only an expression that is a single operand can be
assigned to. -/
def operandEnd (e : Expr) (operand : Operand) (t : Token) : Option State :=
  let term := operand.term e
  let addend := operand.addend
  match t.kind, operand with
  | .mulOp, _ => some (.operand (.next term t.ident addend))
  | .addOp, _ => some (.operand (.first (.next (addend.sum term) t.ident addend.slot)))
  | .equals, .first (.first slot) => some (.expression (.assigned e slot))
  | _, _ => expressionEnd (addend.sum term) addend.slot t

/-! ## completing types -/

/-- The closing bracket of type arguments. -/
def Applied.close (args : List TypeExpr) : Applied → State
  | .type head path alternative => .typeEnd (.named head path.reverse args) true alternative
  | .callee target operand => .calleeEnd target args operand
  | .heritage base owner typeParams => .heritageEnd (.mk base args) owner typeParams

/-- A token behind a complete type. -/
def typeEnd (ty : TypeExpr) (slot : TypeSlot) (t : Token) : Option State :=
  match slot with
  | .variable name vars scope =>
    match t.kind with
    | .equals => some (.expression (.initial name (some ty) vars scope))
    | _ => variableEnd (.mk name (some ty) none) vars scope t
  | .param name optional params =>
    match t.kind with
    | .equals => some (.expression (.default name optional (some ty) params))
    | _ => parameterEnd (.mk name optional (some ty) none) params t
  | .property name optional members =>
    match t.kind with
    | .equals => some (.expression (.property name optional (some ty) members))
    | _ => (members.add (.property name optional (some ty) none)).memberEnd t
  | .result (.arrow pos slot) typeParams params =>
    match t.kind with
    | .arrow => some (.arrowBody pos (.mk typeParams params (some ty)) slot)
    | _ => none
  | .result owner typeParams params =>
    match t.kind with
    | .braceOpen => some (blockBegin owner (.mk typeParams params (some ty)) t)
    | _ => none
  | .functionResult pos typeParams params slot => typeEnd (.function pos typeParams params ty) slot t
  | .argument target done =>
    match t.kind with
    | .comma => some (.type (.argument target (ty :: done)))
    | .angleClose => some (target.close (ty :: done).reverse)
    | _ => none
  | .bound name generics =>
    match t.kind with
    | .equals => some (.type (.default name (some ty) generics))
    | _ => typeParamEnd (.mk name (some ty) none) generics t
  | .default name bound generics => typeParamEnd (.mk name bound (some ty)) generics t

/-- A token behind a complete member of a union. -/
def alternativeEnd (ty : TypeExpr) (alternative : Alternative) (t : Token) : Option State :=
  match t.kind, alternative with
  | .bracketOpen, _ => some (.bracket ty alternative)
  | .bar, .only slot => some (.alternative ty [] slot)
  | .bar, .next first done slot => some (.alternative first (ty :: done) slot)
  | _, _ => typeEnd (alternative.whole ty) alternative.slot t

/-! ## the step -/

/-- The place behind one more token. -/
def State.step (s : State) (t : Token) : Option State :=
  match s with
  | .statement _ scope =>
    match t.kind with
    | .terminator => some (.statement .terminated scope)
    | .braceClose => scope.close
    | .finish => scope.finish
    | .binderWord => some (.variable ⟨t.pos, t.text, []⟩ scope)
    | .returnWord => some (.returnWord t.pos scope)
    | .functionWord => some (.functionWord t.pos scope)
    | .classWord => some (.classWord t.pos scope)
    | _ => expressionBegin (.statement scope) t
  | .statementEnd scope => scope.statementEnd t
  | .variable vars scope =>
    match t.kind with
    | .name => some (.variableNamed t.ident vars scope)
    | _ => none
  | .variableNamed name vars scope =>
    match t.kind with
    | .colon => some (.type (.variable name vars scope))
    | .equals => some (.expression (.initial name none vars scope))
    | _ => variableEnd (.mk name none none) vars scope t
  | .returnWord pos scope =>
    match t.kind with
    | .terminator | .braceClose | .finish => (scope.add (.ret pos none)).statementEnd t
    | _ => expressionBegin (.returned pos scope) t
  | .functionWord pos scope =>
    match t.kind with
    | .name => some (.signature (.function (.declaration pos t.ident scope)))
    | _ => signatureBegin (.function (.function pos (Slot.statement scope).operand)) t
  | .signature target => signatureBegin target t
  | .parameters params =>
    match t.kind with
    | .name => some (.parameterNamed t.ident false params)
    | .parenClose => some params.close
    | _ => none
  | .parameter params =>
    match t.kind with
    | .name => some (.parameterNamed t.ident false params)
    | _ => none
  | .parameterNamed name optional params =>
    match t.kind, optional with
    | .question, false => some (.parameterNamed name true params)
    | .colon, _ => some (.type (.param name optional params))
    | .equals, _ => some (.expression (.default name optional none params))
    | _, _ => parameterEnd (.mk name optional none none) params t
  | .signatureEnd target typeParams params =>
    match t.kind, target with
    | .colon, .function owner => some (.type (.result owner typeParams params))
    | .arrow, .function (.arrow pos slot) => some (.arrowBody pos (.mk typeParams params none) slot)
    | .arrow, .type pos slot => some (.type (.functionResult pos typeParams params slot))
    | .braceOpen, .function (.arrow ..) => none
    | .braceOpen, .function owner => some (blockBegin owner (.mk typeParams params none) t)
    | _, _ => none
  | .classWord pos scope =>
    match t.kind with
    | .name => some (.classHead (.declaration pos t.ident scope))
    | _ => classHeadBegin (.expression pos (Slot.statement scope).operand) t
  | .classHead owner => classHeadBegin owner t
  | .base owner typeParams =>
    match t.kind with
    | .name => some (.baseNamed t.ident owner typeParams)
    | _ => none
  | .baseNamed root owner typeParams =>
    match t.kind with
    | .angleOpen => some (.type (.argument (.heritage root owner typeParams) []))
    | .braceOpen => some (classBegin owner typeParams (some (.mk root [])))
    | _ => none
  | .heritageEnd heritage owner typeParams =>
    match t.kind with
    | .braceOpen => some (classBegin owner typeParams (some heritage))
    | _ => none
  | .member _ members =>
    match t.kind with
    | .name => some (.memberNamed t.ident members)
    | _ => members.memberEnd t
  | .memberEnd members => members.memberEnd t
  | .memberNamed name members =>
    match t.kind with
    | .parenOpen | .angleOpen => signatureBegin (.function (.method name members)) t
    | .question => some (.propertyOptional name members)
    | .colon => some (.type (.property name false members))
    | .equals => some (.expression (.property name false none members))
    | _ => (members.add (.property name false none none)).memberEnd t
  | .propertyOptional name members =>
    match t.kind with
    | .colon => some (.type (.property name true members))
    | .equals => some (.expression (.property name true none members))
    | _ => (members.add (.property name true none none)).memberEnd t
  | .expression slot => expressionBegin slot t
  | .arguments callee typeArgs place =>
    match t.kind with
    | .parenClose => some (.operandEnd (callee.apply typeArgs []) place)
    | _ => expressionBegin (.argument callee typeArgs [] place) t
  | .arrowBody pos sig slot =>
    match t.kind with
    | .braceOpen => some (blockBegin (.arrow pos slot) sig t)
    | _ => expressionBegin (.arrowBody pos sig slot) t
  | .operand place => operandBegin place t
  | .operandEnd e place =>
    match t.kind with
    | .dot => some (.property e place)
    | .parenOpen => some (.arguments (.call e) [] place)
    | .angleOpen => some (.type (.argument (.callee (.call e) place) []))
    | _ => Source.operandEnd e place t
  | .expressionEnd e slot => Source.expressionEnd e slot t
  | .property object place =>
    match t.kind with
    | .name => some (.operandEnd (.member object t.ident) place)
    | _ => none
  | .calleeEnd callee typeArgs place =>
    match t.kind with
    | .parenOpen => some (.arguments callee typeArgs place)
    | _ => none
  | .newWord pos place =>
    match t.kind with
    | .name => some (.newNamed pos t.ident [] place)
    | _ => none
  | .newNamed pos head path place =>
    match t.kind with
    | .dot => some (.newPath pos head path place)
    | .parenOpen => some (.arguments (.new pos head path.reverse) [] place)
    | .angleOpen => some (.type (.argument (.callee (.new pos head path.reverse) place) []))
    | _ => none
  | .newPath pos head path place =>
    match t.kind with
    | .name => some (.newNamed pos head (t.ident :: path) place)
    | _ => none
  | .type slot => typeBegin slot t
  | .alternative first done slot => alternativeBegin (.next first done slot) t
  | .typeNamed head path place =>
    match t.kind with
    | .dot => some (.typePath head path place)
    | .angleOpen => some (.type (.argument (.type head path place) []))
    | _ => alternativeEnd (.named head path.reverse []) place t
  | .typePath head path place =>
    match t.kind with
    | .name => some (.typeNamed head (t.ident :: path) place)
    | _ => none
  | .typeEnd ty _ place => alternativeEnd ty place t
  | .bracket element place =>
    match t.kind with
    | .bracketClose => some (.typeEnd (.array element) false place)
    | _ => none
  | .typeParam generics =>
    match t.kind with
    | .name => some (.typeParamNamed t.ident generics)
    | _ => none
  | .typeParamNamed name generics =>
    match t.kind with
    | .extendsWord => some (.type (.bound name generics))
    | .equals => some (.type (.default name none generics))
    | _ => typeParamEnd (.mk name none none) generics t
  | .genericsEnd target typeParams =>
    match t.kind, target with
    | .parenOpen, .callable target => some (.parameters (.mk target typeParams []))
    | .extendsWord, .ofClass owner => some (.base owner typeParams)
    | .braceOpen, .ofClass owner => some (classBegin owner typeParams none)
    | _, _ => none
  | .complete _ => none

end TypeLint.Source
