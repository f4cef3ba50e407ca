import TypeLint.Source.Step

/-!
# What one token does

A place consumes a token, or offers it to a phrase that starts with it or that it stands behind.  A phrase that the
token does not belong to passes it on to another one; the phrase that consumes it leads to the next place.  This is
stated once here, case by case, and what a token keeps of a place is shown for these cases.

* `State.Consumes`, `State.Offers` — a place consumes a token, and offers it to a phrase;
* `Focus` — a phrase that a token is offered to;
* `Focus.Consumes`, `Focus.Passes` — a phrase consumes a token, and passes it on;
* `Focus.Steps` — a token is passed on until a phrase consumes it;
* `State.step_iff` — these are the steps.
-/

namespace TypeLint.Source

/-- A phrase that starts with a token, or a complete phrase that the token stands behind. -/
inductive Focus where
  | statementEnd (scope : Scope)
  | memberEnd (members : Members)
  | variableEnd (d : Declarator) (vars : Variables) (scope : Scope)
  | parameterEnd (p : Param) (params : Params)
  | typeParamEnd (p : TypeParam) (generics : Generics)
  | operandBegin (operand : Operand)
  | expressionBegin (slot : Slot)
  | alternativeBegin (alternative : Alternative)
  | typeBegin (slot : TypeSlot)
  | signatureBegin (target : Callable)
  | classHeadBegin (owner : ClassOwner)
  | expressionEnd (e : Expr) (slot : Slot)
  | operandEnd (e : Expr) (operand : Operand)
  | typeEnd (ty : TypeExpr) (slot : TypeSlot)
  | alternativeEnd (ty : TypeExpr) (alternative : Alternative)

/-- The place behind a token that is offered to a phrase. -/
def Focus.step : Focus → Token → Option State
  | .statementEnd scope, t => scope.statementEnd t
  | .memberEnd members, t => members.memberEnd t
  | .variableEnd d vars scope, t => Source.variableEnd d vars scope t
  | .parameterEnd p params, t => Source.parameterEnd p params t
  | .typeParamEnd p generics, t => Source.typeParamEnd p generics t
  | .operandBegin operand, t => Source.operandBegin operand t
  | .expressionBegin slot, t => Source.expressionBegin slot t
  | .alternativeBegin alternative, t => Source.alternativeBegin alternative t
  | .typeBegin slot, t => Source.typeBegin slot t
  | .signatureBegin target, t => Source.signatureBegin target t
  | .classHeadBegin owner, t => Source.classHeadBegin owner t
  | .expressionEnd e slot, t => Source.expressionEnd e slot t
  | .operandEnd e operand, t => Source.operandEnd e operand t
  | .typeEnd ty slot, t => Source.typeEnd ty slot t
  | .alternativeEnd ty alternative, t => Source.alternativeEnd ty alternative t

/-! ## places -/

/-- A place consumes a token and leads to another one. -/
inductive State.Consumes (t : Token) : State → State → Prop
  -- statements
  | binderWord {entry scope} (hk : t.kind = .binderWord) :
      Consumes t (.statement entry scope) (.variable ⟨t.pos, t.text, []⟩ scope)
  | returnWord {entry scope} (hk : t.kind = .returnWord) :
      Consumes t (.statement entry scope) (.returnWord t.pos scope)
  | functionWord {entry scope} (hk : t.kind = .functionWord) :
      Consumes t (.statement entry scope) (.functionWord t.pos scope)
  | classWord {entry scope} (hk : t.kind = .classWord) :
      Consumes t (.statement entry scope) (.classWord t.pos scope)
  -- variables
  | variableName {vars scope} (hk : t.kind = .name) :
      Consumes t (.variable vars scope) (.variableNamed t.ident vars scope)
  | variableColon {name vars scope} (hk : t.kind = .colon) :
      Consumes t (.variableNamed name vars scope) (.type (.variable name vars scope))
  | variableEquals {name vars scope} (hk : t.kind = .equals) :
      Consumes t (.variableNamed name vars scope) (.expression (.initial name none vars scope))
  -- functions and their parameters
  | functionName {pos scope} (hk : t.kind = .name) :
      Consumes t (.functionWord pos scope) (.signature (.function (.declaration pos t.ident scope)))
  | firstParameter {params} (hk : t.kind = .name) :
      Consumes t (.parameters params) (.parameterNamed t.ident false params)
  | noParameters {params} (hk : t.kind = .parenClose) : Consumes t (.parameters params) params.close
  | parameterName {params} (hk : t.kind = .name) :
      Consumes t (.parameter params) (.parameterNamed t.ident false params)
  | parameterQuestion {name params} (hk : t.kind = .question) :
      Consumes t (.parameterNamed name false params) (.parameterNamed name true params)
  | parameterColon {name optional params} (hk : t.kind = .colon) :
      Consumes t (.parameterNamed name optional params) (.type (.param name optional params))
  | parameterEquals {name optional params} (hk : t.kind = .equals) :
      Consumes t (.parameterNamed name optional params) (.expression (.default name optional none params))
  | resultColon {owner typeParams params} (hk : t.kind = .colon) :
      Consumes t (.signatureEnd (.function owner) typeParams params) (.type (.result owner typeParams params))
  | arrow {pos slot typeParams params} (hk : t.kind = .arrow) :
      Consumes t (.signatureEnd (.function (.arrow pos slot)) typeParams params)
        (.arrowBody pos (.mk typeParams params none) slot)
  | typeArrow {pos slot typeParams params} (hk : t.kind = .arrow) :
      Consumes t (.signatureEnd (.type pos slot) typeParams params)
        (.type (.functionResult pos typeParams params slot))
  | blockBrace {owner typeParams params} (hk : t.kind = .braceOpen) (hno : ∀ pos slot, owner ≠ .arrow pos slot) :
      Consumes t (.signatureEnd (.function owner) typeParams params)
        (blockBegin owner (.mk typeParams params none) t)
  | arrowBlock {pos sig slot} (hk : t.kind = .braceOpen) :
      Consumes t (.arrowBody pos sig slot) (blockBegin (.arrow pos slot) sig t)
  -- type parameters
  | typeParamName {generics} (hk : t.kind = .name) :
      Consumes t (.typeParam generics) (.typeParamNamed t.ident generics)
  | typeParamExtends {name generics} (hk : t.kind = .extendsWord) :
      Consumes t (.typeParamNamed name generics) (.type (.bound name generics))
  | typeParamEquals {name generics} (hk : t.kind = .equals) :
      Consumes t (.typeParamNamed name generics) (.type (.default name none generics))
  | genericsParen {target typeParams} (hk : t.kind = .parenOpen) :
      Consumes t (.genericsEnd (.callable target) typeParams) (.parameters (.mk target typeParams []))
  | genericsExtends {owner typeParams} (hk : t.kind = .extendsWord) :
      Consumes t (.genericsEnd (.ofClass owner) typeParams) (.base owner typeParams)
  | genericsBrace {owner typeParams} (hk : t.kind = .braceOpen) :
      Consumes t (.genericsEnd (.ofClass owner) typeParams) (classBegin owner typeParams none)
  -- classes
  | className {pos scope} (hk : t.kind = .name) :
      Consumes t (.classWord pos scope) (.classHead (.declaration pos t.ident scope))
  | baseName {owner typeParams} (hk : t.kind = .name) :
      Consumes t (.base owner typeParams) (.baseNamed t.ident owner typeParams)
  | baseAngle {root owner typeParams} (hk : t.kind = .angleOpen) :
      Consumes t (.baseNamed root owner typeParams) (.type (.argument (.heritage root owner typeParams) []))
  | baseBrace {root owner typeParams} (hk : t.kind = .braceOpen) :
      Consumes t (.baseNamed root owner typeParams) (classBegin owner typeParams (some (.mk root [])))
  | heritageBrace {heritage owner typeParams} (hk : t.kind = .braceOpen) :
      Consumes t (.heritageEnd heritage owner typeParams) (classBegin owner typeParams (some heritage))
  -- members
  | memberName {entry members} (hk : t.kind = .name) :
      Consumes t (.member entry members) (.memberNamed t.ident members)
  | propertyQuestion {name members} (hk : t.kind = .question) :
      Consumes t (.memberNamed name members) (.propertyOptional name members)
  | propertyColon {name members} (hk : t.kind = .colon) :
      Consumes t (.memberNamed name members) (.type (.property name false members))
  | propertyEquals {name members} (hk : t.kind = .equals) :
      Consumes t (.memberNamed name members) (.expression (.property name false none members))
  | optionalColon {name members} (hk : t.kind = .colon) :
      Consumes t (.propertyOptional name members) (.type (.property name true members))
  | optionalEquals {name members} (hk : t.kind = .equals) :
      Consumes t (.propertyOptional name members) (.expression (.property name true none members))
  -- expressions
  | dot {e operand} (hk : t.kind = .dot) : Consumes t (.operandEnd e operand) (.property e operand)
  | propertyName {object operand} (hk : t.kind = .name) :
      Consumes t (.property object operand) (.operandEnd (.member object t.ident) operand)
  | callParen {e operand} (hk : t.kind = .parenOpen) :
      Consumes t (.operandEnd e operand) (.arguments (.call e) [] operand)
  | callAngle {e operand} (hk : t.kind = .angleOpen) :
      Consumes t (.operandEnd e operand) (.type (.argument (.callee (.call e) operand) []))
  | calleeParen {callee typeArgs operand} (hk : t.kind = .parenOpen) :
      Consumes t (.calleeEnd callee typeArgs operand) (.arguments callee typeArgs operand)
  | newName {pos operand} (hk : t.kind = .name) :
      Consumes t (.newWord pos operand) (.newNamed pos t.ident [] operand)
  | newDot {pos head path operand} (hk : t.kind = .dot) :
      Consumes t (.newNamed pos head path operand) (.newPath pos head path operand)
  | newPathName {pos head path operand} (hk : t.kind = .name) :
      Consumes t (.newPath pos head path operand) (.newNamed pos head (t.ident :: path) operand)
  | newParen {pos head path operand} (hk : t.kind = .parenOpen) :
      Consumes t (.newNamed pos head path operand) (.arguments (.new pos head path.reverse) [] operand)
  | newAngle {pos head path operand} (hk : t.kind = .angleOpen) :
      Consumes t (.newNamed pos head path operand)
        (.type (.argument (.callee (.new pos head path.reverse) operand) []))
  | noArguments {callee typeArgs operand} (hk : t.kind = .parenClose) :
      Consumes t (.arguments callee typeArgs operand) (.operandEnd (callee.apply typeArgs []) operand)
  -- types
  | typeDot {head path alternative} (hk : t.kind = .dot) :
      Consumes t (.typeNamed head path alternative) (.typePath head path alternative)
  | typePathName {head path alternative} (hk : t.kind = .name) :
      Consumes t (.typePath head path alternative) (.typeNamed head (t.ident :: path) alternative)
  | typeArgsAngle {head path alternative} (hk : t.kind = .angleOpen) :
      Consumes t (.typeNamed head path alternative) (.type (.argument (.type head path alternative) []))
  | bracketClose {element alternative} (hk : t.kind = .bracketClose) :
      Consumes t (.bracket element alternative) (.typeEnd (.array element) false alternative)

/-- A place offers a token of some kind to a phrase. -/
inductive State.Offers (k : Terminal) : State → Focus → Prop
  | noStatement {entry scope} (hk : k = .terminator ∨ k = .braceClose ∨ k = .finish) :
      Offers k (.statement entry scope) (.statementEnd scope)
  | exprStatement {entry scope} (hk : k ∉ [.terminator, .braceClose, .finish, .binderWord, .returnWord, .functionWord,
      .classWord]) : Offers k (.statement entry scope) (.expressionBegin (.statement scope))
  | statement {scope} : Offers k (.statementEnd scope) (.statementEnd scope)
  | variableNamed {name vars scope} (hk : k ∉ [.colon, .equals]) :
      Offers k (.variableNamed name vars scope) (.variableEnd (.mk name none none) vars scope)
  | returnNothing {pos scope} (hk : k = .terminator ∨ k = .braceClose ∨ k = .finish) :
      Offers k (.returnWord pos scope) (.statementEnd (scope.add (.ret pos none)))
  | returned {pos scope} (hk : k ∉ [.terminator, .braceClose, .finish]) :
      Offers k (.returnWord pos scope) (.expressionBegin (.returned pos scope))
  | functionExpression {pos scope} (hk : k ≠ .name) :
      Offers k (.functionWord pos scope)
        (.signatureBegin (.function (.function pos (Slot.statement scope).operand)))
  | signature {target} : Offers k (.signature target) (.signatureBegin target)
  | parameterNamed {name optional params} (hk : k ∉ [.colon, .equals]) (hq : k = .question → optional = true) :
      Offers k (.parameterNamed name optional params) (.parameterEnd (.mk name optional none none) params)
  | classExpression {pos scope} (hk : k ≠ .name) :
      Offers k (.classWord pos scope) (.classHeadBegin (.expression pos (Slot.statement scope).operand))
  | classHead {owner} : Offers k (.classHead owner) (.classHeadBegin owner)
  | noMember {entry members} (hk : k ≠ .name) : Offers k (.member entry members) (.memberEnd members)
  | member {members} : Offers k (.memberEnd members) (.memberEnd members)
  | method {name members} (hk : k = .parenOpen ∨ k = .angleOpen) :
      Offers k (.memberNamed name members) (.signatureBegin (.function (.method name members)))
  | property {name members} (hk : k ∉ [.parenOpen, .angleOpen, .question, .colon, .equals]) :
      Offers k (.memberNamed name members) (.memberEnd (members.add (.property name false none none)))
  | optionalProperty {name members} (hk : k ∉ [.colon, .equals]) :
      Offers k (.propertyOptional name members) (.memberEnd (members.add (.property name true none none)))
  | expression {slot} : Offers k (.expression slot) (.expressionBegin slot)
  | argument {callee typeArgs operand} (hk : k ≠ .parenClose) :
      Offers k (.arguments callee typeArgs operand) (.expressionBegin (.argument callee typeArgs [] operand))
  | arrowExpression {pos sig slot} (hk : k ≠ .braceOpen) :
      Offers k (.arrowBody pos sig slot) (.expressionBegin (.arrowBody pos sig slot))
  | operand {operand} : Offers k (.operand operand) (.operandBegin operand)
  | operandEnd {e operand} (hk : k ∉ [.dot, .parenOpen, .angleOpen]) :
      Offers k (.operandEnd e operand) (.operandEnd e operand)
  | expressionEnd {e slot} : Offers k (.expressionEnd e slot) (.expressionEnd e slot)
  | type {slot} : Offers k (.type slot) (.typeBegin slot)
  | alternative {first done slot} :
      Offers k (.alternative first done slot) (.alternativeBegin (.next first done slot))
  | typeNamed {head path alternative} (hk : k ∉ [.dot, .angleOpen]) :
      Offers k (.typeNamed head path alternative) (.alternativeEnd (.named head path.reverse []) alternative)
  | typeEnd {ty applied alternative} :
      Offers k (.typeEnd ty applied alternative) (.alternativeEnd ty alternative)
  | typeParamNamed {name generics} (hk : k ∉ [.extendsWord, .equals]) :
      Offers k (.typeParamNamed name generics) (.typeParamEnd (.mk name none none) generics)

/-! ## phrases -/

/-- A phrase consumes a token and leads to a place. -/
inductive Focus.Consumes (t : Token) : Focus → State → Prop
  -- statements
  | terminator {scope} (hk : t.kind = .terminator) : Consumes t (.statementEnd scope) (.statement .terminated scope)
  | blockEnd {pos owner sig done} (hk : t.kind = .braceClose) :
      Consumes t (.statementEnd (.block pos owner sig done)) (owner.close sig (.mk pos done.reverse))
  | finish {done} (hk : t.kind = .finish) :
      Consumes t (.statementEnd (.program done)) (.complete ⟨done.reverse⟩)
  -- variables
  | typedVariableEquals {ty name vars scope} (hk : t.kind = .equals) :
      Consumes t (.typeEnd ty (.variable name vars scope)) (.expression (.initial name (some ty) vars scope))
  | variableComma {d vars scope} (hk : t.kind = .comma) :
      Consumes t (.variableEnd d vars scope) (.variable (vars.add d) scope)
  -- functions and their parameters
  | signatureParen {target} (hk : t.kind = .parenOpen) :
      Consumes t (.signatureBegin target) (.parameters (.mk target [] []))
  | signatureAngle {target} (hk : t.kind = .angleOpen) :
      Consumes t (.signatureBegin target) (.typeParam (.mk (.callable target) []))
  | typedParameterEquals {ty name optional params} (hk : t.kind = .equals) :
      Consumes t (.typeEnd ty (.param name optional params)) (.expression (.default name optional (some ty) params))
  | parameterComma {p params} (hk : t.kind = .comma) : Consumes t (.parameterEnd p params) (.parameter (params.add p))
  | parametersEnd {p params} (hk : t.kind = .parenClose) : Consumes t (.parameterEnd p params) (params.add p).close
  | typedArrow {ty pos slot typeParams params} (hk : t.kind = .arrow) :
      Consumes t (.typeEnd ty (.result (.arrow pos slot) typeParams params))
        (.arrowBody pos (.mk typeParams params (some ty)) slot)
  | typedBlockBrace {ty owner typeParams params} (hk : t.kind = .braceOpen)
      (hno : ∀ pos slot, owner ≠ .arrow pos slot) :
      Consumes t (.typeEnd ty (.result owner typeParams params))
        (blockBegin owner (.mk typeParams params (some ty)) t)
  -- type parameters
  | boundEquals {ty name generics} (hk : t.kind = .equals) :
      Consumes t (.typeEnd ty (.bound name generics)) (.type (.default name (some ty) generics))
  | typeParamComma {p generics} (hk : t.kind = .comma) :
      Consumes t (.typeParamEnd p generics) (.typeParam (generics.add p))
  | typeParamsEnd {p generics} (hk : t.kind = .angleClose) :
      Consumes t (.typeParamEnd p generics) (generics.add p).close
  -- classes
  | classAngle {owner} (hk : t.kind = .angleOpen) :
      Consumes t (.classHeadBegin owner) (.typeParam (.mk (.ofClass owner) []))
  | classExtends {owner} (hk : t.kind = .extendsWord) : Consumes t (.classHeadBegin owner) (.base owner [])
  | classBrace {owner} (hk : t.kind = .braceOpen) : Consumes t (.classHeadBegin owner) (classBegin owner [] none)
  -- members
  | typedPropertyEquals {ty name optional members} (hk : t.kind = .equals) :
      Consumes t (.typeEnd ty (.property name optional members))
        (.expression (.property name optional (some ty) members))
  | memberTerminator {members} (hk : t.kind = .terminator) :
      Consumes t (.memberEnd members) (.member .terminated members)
  | membersEnd {members} (hk : t.kind = .braceClose) : Consumes t (.memberEnd members) members.close
  -- expressions
  | nameOperand {operand} (hk : t.kind = .name) :
      Consumes t (.operandBegin operand) (.operandEnd (.name t.ident) operand)
  | numberOperand {operand} (hk : t.kind = .number) :
      Consumes t (.operandBegin operand) (.operandEnd (.literal ⟨.number, t.text, t.pos⟩) operand)
  | stringOperand {operand} (hk : t.kind = .string) :
      Consumes t (.operandBegin operand) (.operandEnd (.literal ⟨.string, t.text, t.pos⟩) operand)
  | newOperand {operand} (hk : t.kind = .newWord) : Consumes t (.operandBegin operand) (.newWord t.pos operand)
  | functionOperand {operand} (hk : t.kind = .functionWord) :
      Consumes t (.operandBegin operand) (.signature (.function (.function t.pos operand)))
  | classOperand {operand} (hk : t.kind = .classWord) :
      Consumes t (.operandBegin operand) (.classHead (.expression t.pos operand))
  | arrowParen {slot} (hk : t.kind = .parenOpen) :
      Consumes t (.expressionBegin slot) (.parameters (.mk (.function (.arrow t.pos slot)) [] []))
  | arrowAngle {slot} (hk : t.kind = .angleOpen) :
      Consumes t (.expressionBegin slot) (.typeParam (.mk (.callable (.function (.arrow t.pos slot))) []))
  | argumentComma {e callee typeArgs done operand} (hk : t.kind = .comma) :
      Consumes t (.expressionEnd e (.argument callee typeArgs done operand))
        (.expression (.argument callee typeArgs (e :: done) operand))
  | argumentsEnd {e callee typeArgs done operand} (hk : t.kind = .parenClose) :
      Consumes t (.expressionEnd e (.argument callee typeArgs done operand))
        (.operandEnd (callee.apply typeArgs (e :: done).reverse) operand)
  | mulOp {e operand} (hk : t.kind = .mulOp) :
      Consumes t (.operandEnd e operand) (.operand (.next (operand.term e) t.ident operand.addend))
  | addOp {e operand} (hk : t.kind = .addOp) :
      Consumes t (.operandEnd e operand)
        (.operand (.first (.next (operand.addend.sum (operand.term e)) t.ident operand.addend.slot)))
  | assignment {e slot} (hk : t.kind = .equals) :
      Consumes t (.operandEnd e (.first (.first slot))) (.expression (.assigned e slot))
  -- types
  | typeName {alternative} (hk : t.kind = .name) :
      Consumes t (.alternativeBegin alternative) (.typeNamed t.ident [] alternative)
  | numberType {alternative} (hk : t.kind = .number) :
      Consumes t (.alternativeBegin alternative) (.typeEnd (.literal ⟨.number, t.text, t.pos⟩) false alternative)
  | stringType {alternative} (hk : t.kind = .string) :
      Consumes t (.alternativeBegin alternative) (.typeEnd (.literal ⟨.string, t.text, t.pos⟩) false alternative)
  | typeParen {slot} (hk : t.kind = .parenOpen) :
      Consumes t (.typeBegin slot) (.parameters (.mk (.type t.pos slot) [] []))
  | typeAngle {slot} (hk : t.kind = .angleOpen) :
      Consumes t (.typeBegin slot) (.typeParam (.mk (.callable (.type t.pos slot)) []))
  | typeArgComma {ty target done} (hk : t.kind = .comma) :
      Consumes t (.typeEnd ty (.argument target done)) (.type (.argument target (ty :: done)))
  | typeArgsEnd {ty target done} (hk : t.kind = .angleClose) :
      Consumes t (.typeEnd ty (.argument target done)) (target.close (ty :: done).reverse)
  | bracketOpen {ty alternative} (hk : t.kind = .bracketOpen) :
      Consumes t (.alternativeEnd ty alternative) (.bracket ty alternative)
  | firstBar {ty slot} (hk : t.kind = .bar) : Consumes t (.alternativeEnd ty (.only slot)) (.alternative ty [] slot)
  | nextBar {ty first done slot} (hk : t.kind = .bar) :
      Consumes t (.alternativeEnd ty (.next first done slot)) (.alternative first (ty :: done) slot)

/-- A phrase passes a token of some kind on to another one. -/
inductive Focus.Passes (k : Terminal) : Focus → Focus → Prop
  -- from the start of a phrase to the start of its first part
  | operandOfExpression {slot} (hk : k ∉ [.parenOpen, .angleOpen]) :
      Passes k (.expressionBegin slot) (.operandBegin slot.operand)
  | alternativeOfType {slot} (hk : k ∉ [.parenOpen, .angleOpen]) :
      Passes k (.typeBegin slot) (.alternativeBegin (.only slot))
  -- from a complete phrase to the phrase that it completes
  | declaration {d vars scope} (hk : k ≠ .comma) :
      Passes k (.variableEnd d vars scope) (.statementEnd (scope.add (vars.add d).toStmt))
  | statementOfExpression {e scope} :
      Passes k (.expressionEnd e (.statement scope)) (.statementEnd (scope.add (.expr e)))
  | returnOfExpression {e pos scope} :
      Passes k (.expressionEnd e (.returned pos scope)) (.statementEnd (scope.add (.ret pos (some e))))
  | variableOfExpression {e name declared vars scope} :
      Passes k (.expressionEnd e (.initial name declared vars scope))
        (.variableEnd (.mk name declared (some e)) vars scope)
  | parameterOfExpression {e name optional declared params} :
      Passes k (.expressionEnd e (.default name optional declared params))
        (.parameterEnd (.mk name optional declared (some e)) params)
  | propertyOfExpression {e name optional declared members} :
      Passes k (.expressionEnd e (.property name optional declared members))
        (.memberEnd (members.add (.property name optional declared (some e))))
  | assignment {e target slot} :
      Passes k (.expressionEnd e (.assigned target slot)) (.expressionEnd (.assign target e) slot)
  | arrow {e pos sig slot} :
      Passes k (.expressionEnd e (.arrowBody pos sig slot)) (.expressionEnd (.arrow pos sig (.expr e)) slot)
  | sum {e operand} (hk : k ∉ [.mulOp, .addOp]) (he : k = .equals → ∀ slot, operand ≠ .first (.first slot)) :
      Passes k (.operandEnd e operand) (.expressionEnd (operand.addend.sum (operand.term e)) operand.addend.slot)
  | variableOfType {ty name vars scope} (hk : k ≠ .equals) :
      Passes k (.typeEnd ty (.variable name vars scope)) (.variableEnd (.mk name (some ty) none) vars scope)
  | parameterOfType {ty name optional params} (hk : k ≠ .equals) :
      Passes k (.typeEnd ty (.param name optional params)) (.parameterEnd (.mk name optional (some ty) none) params)
  | propertyOfType {ty name optional members} (hk : k ≠ .equals) :
      Passes k (.typeEnd ty (.property name optional members))
        (.memberEnd (members.add (.property name optional (some ty) none)))
  | functionType {ty pos typeParams params slot} :
      Passes k (.typeEnd ty (.functionResult pos typeParams params slot))
        (.typeEnd (.function pos typeParams params ty) slot)
  | bound {ty name generics} (hk : k ≠ .equals) :
      Passes k (.typeEnd ty (.bound name generics)) (.typeParamEnd (.mk name (some ty) none) generics)
  | default {ty name bound generics} :
      Passes k (.typeEnd ty (.default name bound generics)) (.typeParamEnd (.mk name bound (some ty)) generics)
  | union {ty alternative} (hk : k ∉ [.bracketOpen, .bar]) :
      Passes k (.alternativeEnd ty alternative) (.typeEnd (alternative.whole ty) alternative.slot)

/-- A token is passed on until a phrase consumes it and leads to a place. -/
inductive Focus.Steps (t : Token) (s : State) : Focus → Prop
  | consume {f} (consumes : f.Consumes t s) : Steps t s f
  | pass {f g} (passes : f.Passes t.kind g) (steps : g.Steps t s) : Steps t s f

/-! ## the step, case by case -/

section Step

variable {t : Token} {s s' : State} {f g : Focus}

attribute [local simp] Focus.step State.step Scope.statementEnd Scope.close Scope.finish Members.memberEnd variableEnd
  parameterEnd typeParamEnd operandBegin expressionBegin alternativeBegin typeBegin signatureBegin classHeadBegin
  expressionEnd operandEnd typeEnd alternativeEnd

theorem Focus.Consumes.step_eq (h : f.Consumes t s) : f.step t = some s := by
  cases h <;> simp [*]

theorem Focus.Passes.step_eq (h : f.Passes t.kind g) : f.step t = g.step t := by
  cases h <;> simp_all

theorem State.Consumes.step_eq (h : s.Consumes t s') : s.step t = some s' := by
  cases h <;> simp [*]

theorem State.Offers.step_eq (h : s.Offers t.kind f) : s.step t = f.step t := by
  cases h with
  | noStatement hk | returnNothing hk => obtain hk | hk | hk := hk <;> simp [hk]
  | method hk => obtain hk | hk := hk <;> simp [hk]
  | _ => simp_all

/-- A phrase that reads a token consumes it or passes it on. -/
theorem Focus.step_cases (h : f.step t = some s) : f.Consumes t s ∨ ∃ g, f.Passes t.kind g := by
  cases f with
  | statementEnd scope =>
    simp only [step, Scope.statementEnd] at h
    split at h
    · next hk =>
      obtain rfl := Option.some.inj h
      exact .inl (.terminator hk)
    · next hk =>
      cases scope with
      | program done => simp at h
      | block pos owner sig done =>
        obtain rfl := Option.some.inj h
        exact .inl (.blockEnd hk)
    · next hk =>
      cases scope with
      | program done =>
        obtain rfl := Option.some.inj h
        exact .inl (.finish hk)
      | block pos owner sig done => simp at h
    · simp at h
  | expressionEnd e slot =>
    cases slot with
    | argument callee typeArgs done operand =>
      simp only [step, Source.expressionEnd] at h
      split at h
      case h_3 => simp at h
      all_goals
        obtain rfl := Option.some.inj h
        exact .inl (by constructor; assumption)
    | _ => exact .inr ⟨_, by constructor⟩
  | operandEnd e operand =>
    simp only [step, Source.operandEnd] at h
    split at h
    case h_4 => exact .inr ⟨_, .sum (by simp_all) (by simp_all)⟩
    all_goals
      obtain rfl := Option.some.inj h
      exact .inl (by constructor; assumption)
  | typeEnd ty slot =>
    cases slot with
    | functionResult | default => exact .inr ⟨_, by constructor⟩
    | result owner typeParams params =>
      cases owner
      all_goals
        simp only [step, Source.typeEnd] at h
        split at h
      all_goals first
        | obtain rfl := Option.some.inj h
          exact .inl (by constructor <;> simp [*])
        | simp at h
    | _ =>
      simp only [step, Source.typeEnd] at h
      split at h
      all_goals first
        | obtain rfl := Option.some.inj h
          exact .inl (by constructor; assumption)
        | apply Or.inr
          apply Exists.intro
          constructor
          assumption
        | simp at h
  | alternativeEnd ty alternative =>
    simp only [step, Source.alternativeEnd] at h
    split at h
    case h_4 =>
      refine .inr ⟨_, .union ?_⟩
      grind [cases Alternative]
    all_goals
      obtain rfl := Option.some.inj h
      exact .inl (by constructor; assumption)
  | _ =>
    simp only [step, Members.memberEnd, Source.variableEnd, Source.parameterEnd, Source.typeParamEnd,
      Source.operandBegin, Source.expressionBegin, Source.alternativeBegin, Source.typeBegin, Source.signatureBegin,
      Source.classHeadBegin] at h
    split at h
    all_goals first
      | obtain rfl := Option.some.inj h
        exact .inl (by constructor; assumption)
      | apply Or.inr
        apply Exists.intro
        constructor <;> simp_all
      | simp at h

/-- A place that reads a token consumes it or offers it to a phrase. -/
theorem State.step_cases (h : s.step t = some s') : s.Consumes t s' ∨ ∃ f, s.Offers t.kind f := by
  cases s with
  | statement entry scope =>
    simp only [step] at h
    split at h
    case h_1 | h_2 | h_3 => exact .inr ⟨_, .noStatement (by simp [*])⟩
    case h_8 => exact .inr ⟨_, .exprStatement (by simp_all)⟩
    all_goals
      obtain rfl := Option.some.inj h
      exact .inl (by constructor; assumption)
  | returnWord pos scope =>
    simp only [step] at h
    split at h
    case h_4 => exact .inr ⟨_, .returned (by simp_all)⟩
    all_goals exact .inr ⟨_, .returnNothing (by simp [*])⟩
  | memberNamed name members =>
    simp only [step] at h
    split at h
    case h_1 | h_2 => exact .inr ⟨_, .method (by simp [*])⟩
    case h_6 => exact .inr ⟨_, .property (by simp_all)⟩
    all_goals
      obtain rfl := Option.some.inj h
      exact .inl (by constructor; assumption)
  | complete program => simp [step] at h
  | statementEnd | signature | classHead | memberEnd | expression | operand | expressionEnd | type | alternative
  | typeEnd => exact .inr ⟨_, by constructor⟩
  | _ =>
    simp only [step] at h
    split at h
    all_goals first
      | obtain rfl := Option.some.inj h
        exact .inl (by constructor <;> assumption)
      | apply Or.inr
        apply Exists.intro
        constructor <;> simp_all
      | simp at h

/-- Bounds how often a token is passed on. -/
private noncomputable def Focus.rank : Focus → Nat
  | .statementEnd _ | .memberEnd _ | .parameterEnd .. | .typeParamEnd .. | .operandBegin _ | .alternativeBegin _
  | .signatureBegin _ | .classHeadBegin _ => 0
  | .variableEnd .. | .expressionBegin _ | .typeBegin _ => 1
  | .expressionEnd _ slot => sizeOf slot + 2
  | .typeEnd _ slot => sizeOf slot + 2
  | .operandEnd _ operand => sizeOf operand + 3
  | .alternativeEnd _ alternative => sizeOf alternative + 3

private theorem Focus.Passes.rank_lt {k : Terminal} (h : f.Passes k g) : g.rank < f.rank := by
  cases h with
  | sum =>
    next operand _ _ =>
    cases operand with
    | first addend | next _ _ addend => cases addend <;> simp [rank, Operand.addend, Addend.slot] <;> omega
  | union =>
    next alternative _ =>
    cases alternative <;> simp [rank, Alternative.slot] <;> omega
  | _ => simp [rank] <;> omega

theorem Focus.Steps.of_step {f : Focus} (h : f.step t = some s) : f.Steps t s := by
  obtain consumes | ⟨g, passes⟩ := step_cases h
  · exact .consume consumes
  · exact .pass passes (Steps.of_step (passes.step_eq.symm.trans h))
termination_by f.rank
decreasing_by exact passes.rank_lt

theorem Focus.Steps.step_eq (h : f.Steps t s) : f.step t = some s := by
  induction h with
  | consume consumes => exact consumes.step_eq
  | pass passes _ ih => exact passes.step_eq.trans ih

/-- A place consumes a token, or a phrase to which it offers the token leads to the next place. -/
theorem State.step_iff : s.step t = some s' ↔ s.Consumes t s' ∨ ∃ f, s.Offers t.kind f ∧ f.Steps t s' := by
  constructor
  · intro h
    obtain consumes | ⟨f, offers⟩ := step_cases h
    · exact .inl consumes
    · exact .inr ⟨f, offers, .of_step (offers.step_eq.symm.trans h)⟩
  · rintro (consumes | ⟨f, offers, steps⟩)
    · exact consumes.step_eq
    · exact offers.step_eq.trans steps.step_eq

end Step

end TypeLint.Source
