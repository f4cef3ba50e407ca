import Mathlib.Algebra.Order.GroupWithZero.Unbundled.Defs
import TypeLint.Proofs.Source.Focus
import TypeLint.Proofs.Source.Grammar

/-!
# What has been read

Each place in a source has a language: the words of terminals that can have led to it, as far as the grammar is
concerned.  It is put together from the unfinished phrases around the place, from the outermost one inwards.  A token
adds one terminal to the word that has been read, and the longer word belongs to the language of the next place.

* `Scope.past`, …, `State.past` — the language of a place;
* `State.past_step` — a token leads from a word of one place to a word of the next.
-/

namespace TypeLint.Source

open scoped Computability

-- found here once, and not at every product of languages that is compared below
instance : MulPosMono (Language Terminal) := inferInstance

instance : PosMulMono (Language Terminal) := inferInstance

/-! ## parts of phrases -/

/-- Words that may be absent. -/
def optional (l : Language Terminal) : Language Terminal := 1 + l

/-- Phrases with a comma behind each. -/
def listing (n : Nonterminal) : Language Terminal := (n.language * one .comma)∗

/-- Phrases with terminators behind each, and possibly more terminators before them. -/
def linesBefore (n : Nonterminal) : Language Terminal :=
  (one .terminator)∗ * (n.language * (one .terminator * (one .terminator)∗))∗

/-- A name with more names behind points. -/
def dottedName : Language Terminal := Phrase.dotted.language Nonterminal.language

/-- Type parameters and parameters. -/
def parameterPart : Language Terminal := Phrase.parameters.language Nonterminal.language

/-- A declaration of variables up to one of them. -/
def variablePart : Language Terminal := Nonterminal.varKind.language * listing .declarator

/-- What arguments are given to. -/
def Callee.words : Callee → Language Terminal
  | .call _ => Nonterminal.operand.language
  | .new .. => one .newWord * dottedName

/-- What stands between a signature and a body. -/
def Owner.arrowMark : Owner → Language Terminal
  | .arrow .. => one .arrow
  | _ => 1

/-! ## unfinished phrases -/

mutual

/-- What can have been read before a statement. -/
def Scope.past : Scope → Language Terminal
  | .program _ => linesBefore .stmt
  | .block _ owner _ _ =>
    owner.past * parameterPart * optional Nonterminal.declaredType.language * owner.arrowMark * one .braceOpen
      * linesBefore .stmt

/-- What can have been read before the parameters of what has a body. -/
def Owner.past : Owner → Language Terminal
  | .declaration _ _ scope => scope.past * one .functionWord * one .name
  | .function _ operand => operand.past * one .functionWord
  | .arrow _ slot => slot.past
  | .method _ members => members.past * one .name

/-- What can have been read before a member of a class. -/
def Members.past : Members → Language Terminal
  | .mk owner _ _ _ =>
    owner.past * optional Nonterminal.typeParams.language * optional Nonterminal.heritage.language * one .braceOpen
      * linesBefore .member

/-- What can have been read before the type parameters of a class. -/
def ClassOwner.past : ClassOwner → Language Terminal
  | .declaration _ _ scope => scope.past * one .classWord * one .name
  | .expression _ operand => operand.past * one .classWord

/-- What can have been read before an expression. -/
def Slot.past : Slot → Language Terminal
  | .statement scope => scope.past
  | .returned _ scope => scope.past * one .returnWord
  | .initial _ _ _ scope =>
    scope.past * variablePart * one .name * optional Nonterminal.declaredType.language * one .equals
  | .default _ _ _ params =>
    params.past * one .name * optional (one .question) * optional Nonterminal.declaredType.language * one .equals
  | .property _ _ _ members =>
    members.past * one .name * optional (one .question) * optional Nonterminal.declaredType.language * one .equals
  | .argument callee _ _ operand =>
    operand.past * callee.words * optional Nonterminal.typeArgs.language * one .parenOpen * listing .expr
  | .assigned _ slot => slot.past * Nonterminal.operand.language * one .equals
  | .arrowBody _ _ slot =>
    slot.past * parameterPart * optional Nonterminal.declaredType.language * one .arrow

/-- What can have been read before a term. -/
def Addend.past : Addend → Language Terminal
  | .first slot => slot.past
  | .next _ _ slot => slot.past * Nonterminal.sum.language * one .addOp

/-- What can have been read before an operand. -/
def Operand.past : Operand → Language Terminal
  | .first addend => addend.past
  | .next _ _ addend => addend.past * Nonterminal.term.language * one .mulOp

/-- What can have been read before a parameter. -/
def Params.past : Params → Language Terminal
  | .mk target _ _ =>
    target.past * optional Nonterminal.typeParams.language * one .parenOpen * listing .param

/-- What can have been read before parameters. -/
def Callable.past : Callable → Language Terminal
  | .function owner => owner.past
  | .type _ slot => slot.past

/-- What can have been read before a type parameter. -/
def Generics.past : Generics → Language Terminal
  | .mk target _ => target.past * one .angleOpen * listing .typeParam

/-- What can have been read before type parameters. -/
def Generic.past : Generic → Language Terminal
  | .callable target => target.past
  | .ofClass owner => owner.past

/-- What can have been read before a type. -/
def TypeSlot.past : TypeSlot → Language Terminal
  | .variable _ _ scope => scope.past * variablePart * one .name * one .colon
  | .param _ _ params => params.past * one .name * optional (one .question) * one .colon
  | .property _ _ members => members.past * one .name * optional (one .question) * one .colon
  | .result owner _ _ => owner.past * parameterPart * one .colon
  | .functionResult _ _ _ slot => slot.past * parameterPart * one .arrow
  | .argument target _ => target.past * one .angleOpen * listing .type
  | .bound _ generics => generics.past * one .name * one .extendsWord
  | .default _ _ generics =>
    generics.past * one .name * optional Nonterminal.typeConstraint.language * one .equals

/-- What can have been read before a member of a union. -/
def Alternative.past : Alternative → Language Terminal
  | .only slot => slot.past
  | .next _ _ slot => slot.past * Nonterminal.unionType.language * one .bar

/-- What can have been read before type arguments. -/
def Applied.past : Applied → Language Terminal
  | .type _ _ alternative => alternative.past * dottedName
  | .callee callee operand => operand.past * callee.words
  | .heritage _ owner _ =>
    owner.past * optional Nonterminal.typeParams.language * one .extendsWord * one .name

end

/-- What can have been read at a place. -/
def State.past : State → Language Terminal
  | .statement _ scope => scope.past
  | .statementEnd scope => scope.past * Nonterminal.stmt.language
  | .variable _ scope => scope.past * variablePart
  | .variableNamed _ _ scope => scope.past * variablePart * one .name
  | .returnWord _ scope => scope.past * one .returnWord
  | .functionWord _ scope => scope.past * one .functionWord
  | .signature target => target.past
  | .parameters (.mk target _ _) => target.past * optional Nonterminal.typeParams.language * one .parenOpen
  | .parameter params => params.past
  | .parameterNamed _ false params => params.past * one .name
  | .parameterNamed _ true params => params.past * one .name * one .question
  | .signatureEnd target _ _ => target.past * parameterPart
  | .classWord _ scope => scope.past * one .classWord
  | .classHead owner => owner.past
  | .base owner _ => owner.past * optional Nonterminal.typeParams.language * one .extendsWord
  | .baseNamed _ owner _ => owner.past * optional Nonterminal.typeParams.language * one .extendsWord * one .name
  | .heritageEnd _ owner _ =>
    owner.past * optional Nonterminal.typeParams.language * Nonterminal.heritage.language
  | .member _ members => members.past
  | .memberEnd members => members.past * Nonterminal.member.language
  | .memberNamed _ members => members.past * one .name
  | .propertyOptional _ members => members.past * one .name * one .question
  | .expression slot => slot.past
  | .arguments callee _ place =>
    place.past * callee.words * optional Nonterminal.typeArgs.language * one .parenOpen
  | .arrowBody _ _ slot => slot.past * parameterPart * optional Nonterminal.declaredType.language * one .arrow
  | .operand place => place.past
  | .operandEnd _ place => place.past * Nonterminal.operand.language
  | .expressionEnd _ slot => slot.past * Nonterminal.expr.language
  | .property _ place => place.past * Nonterminal.operand.language * one .dot
  | .calleeEnd callee _ place => place.past * callee.words * Nonterminal.typeArgs.language
  | .newWord _ place => place.past * one .newWord
  | .newNamed _ _ _ place => place.past * one .newWord * dottedName
  | .newPath _ _ _ place => place.past * one .newWord * dottedName * one .dot
  | .type slot => slot.past
  | .alternative _ _ slot => slot.past * Nonterminal.unionType.language * one .bar
  | .typeNamed _ _ place => place.past * dottedName
  | .typePath _ _ place => place.past * dottedName * one .dot
  | .typeEnd _ _ place => place.past * Nonterminal.arrayType.language
  | .bracket _ place => place.past * Nonterminal.arrayType.language * one .bracketOpen
  | .typeParam generics => generics.past
  | .typeParamNamed _ generics => generics.past * one .name
  | .genericsEnd target _ => target.past * Nonterminal.typeParams.language
  | .complete _ => Nonterminal.program.language * one .finish

/-- What can have been read before a token that is offered to a phrase. -/
def Focus.past : Focus → Language Terminal
  -- there may be no statement and no member
  | .statementEnd scope => scope.past * optional Nonterminal.stmt.language
  | .memberEnd members => members.past * optional Nonterminal.member.language
  | .variableEnd _ _ scope => scope.past * variablePart * Nonterminal.declarator.language
  | .parameterEnd _ params => params.past * Nonterminal.param.language
  | .typeParamEnd _ generics => generics.past * Nonterminal.typeParam.language
  | .operandBegin operand => operand.past
  | .expressionBegin slot => slot.past
  | .alternativeBegin alternative => alternative.past
  | .typeBegin slot => slot.past
  | .signatureBegin target => target.past
  | .classHeadBegin owner => owner.past
  | .expressionEnd _ slot => slot.past * Nonterminal.expr.language
  | .operandEnd _ operand => operand.past * Nonterminal.operand.language
  | .typeEnd _ slot => slot.past * Nonterminal.type.language
  | .alternativeEnd _ alternative => alternative.past * Nonterminal.arrayType.language

/-! ## what the rules say of the parts -/

section Laws

variable {l : Language Terminal} {n : Nonterminal}

theorem le_optional (l : Language Terminal) : l ≤ optional l := fun _ h => .inr h

theorem one_le_optional (l : Language Terminal) : 1 ≤ optional l := fun _ h => .inl h

theorem le_mul_optional (l m : Language Terminal) : l ≤ l * optional m :=
  (mul_one l).symm.le.trans (mul_le_mul_right (one_le_optional m) l)

theorem le_optional_mul (l m : Language Terminal) : l ≤ optional m * l :=
  (one_mul l).symm.le.trans (mul_le_mul_left (one_le_optional m) l)

theorem Nonterminal.le_language (h : l ≤ n.phrase.language Nonterminal.language) : l ≤ n.language :=
  h.trans n.phrase_le

/-- Phrases with something behind each are phrases with something before each but the first. -/
theorem kstar_mul_le_mul_kstar (a b : Language Terminal) : (a * b)∗ * a ≤ a * (b * a)∗ := by
  apply kstar_mul_le
  · calc a = a * 1 := (mul_one a).symm
      _ ≤ a * (b * a)∗ := by
        gcongr
        exact one_le_kstar
  · calc a * b * (a * (b * a)∗) = a * (b * a * (b * a)∗) := by simp only [mul_assoc]
      _ ≤ a * (b * a)∗ := by
        gcongr
        exact mul_kstar_le_kstar

/-! ### lists -/

theorem one_le_listing (n : Nonterminal) : 1 ≤ listing n := one_le_kstar

theorem le_mul_listing (l : Language Terminal) (n : Nonterminal) : l ≤ l * listing n :=
  (mul_one l).symm.le.trans (mul_le_mul_right (one_le_listing n) l)

theorem listing_comma_le (n : Nonterminal) : listing n * (n.language * one .comma) ≤ listing n :=
  kstar_mul_le_kstar

theorem listing_le (n : Nonterminal) : listing n * n.language ≤ (Phrase.listed n).language Nonterminal.language :=
  kstar_mul_le_mul_kstar ..

theorem linesBefore_mul_optional (n : Nonterminal) :
    linesBefore n * optional n.language = (Phrase.lines n).language Nonterminal.language := by
  rw [linesBefore, mul_assoc]
  rfl

theorem one_le_linesBefore (n : Nonterminal) : 1 ≤ linesBefore n := by
  calc (1 : Language Terminal) = 1 * 1 := (mul_one 1).symm
    _ ≤ linesBefore n := by
      unfold linesBefore
      gcongr <;> exact one_le_kstar

theorem linesBefore_terminator_le (n : Nonterminal) : linesBefore n * one .terminator ≤ linesBefore n := by
  unfold linesBefore
  generalize one .terminator = t
  generalize hx : n.language * (t * t∗) = x
  -- behind a line one more terminator changes nothing
  have hxt : x * t ≤ x := by
    simp only [← hx, mul_assoc]
    gcongr
    exact kstar_mul_le_kstar
  calc t∗ * x∗ * t = t∗ * ((1 + x∗ * x) * t) := by rw [mul_assoc, one_add_kstar_mul]
    _ = t∗ * t * 1 + t∗ * (x∗ * (x * t)) := by simp only [add_mul, mul_add, one_mul, mul_one, mul_assoc]
    _ ≤ t∗ * x∗ + t∗ * x∗ := by
      gcongr
      · exact kstar_mul_le_kstar
      · exact one_le_kstar
      · grw [hxt]
        exact kstar_mul_le_kstar
    _ = t∗ * x∗ := add_idem _

theorem linesBefore_line_le (n : Nonterminal) :
    linesBefore n * (n.language * one .terminator) ≤ linesBefore n := by
  unfold linesBefore
  rw [mul_assoc]
  gcongr
  refine le_trans ?_ kstar_mul_le_kstar
  gcongr
  calc one .terminator = one .terminator * 1 := (mul_one _).symm
    _ ≤ one .terminator * (one .terminator)∗ := by
      gcongr
      exact one_le_kstar

theorem linesBefore_le (n : Nonterminal) :
    linesBefore n * (optional n.language * one .terminator) ≤ linesBefore n := by
  rw [optional, add_mul, mul_add, one_mul]
  exact add_le (linesBefore_terminator_le n) (linesBefore_line_le n)

/-! ### statements -/

theorem stmts_le : linesBefore .stmt * optional Nonterminal.stmt.language ≤ Nonterminal.stmts.language :=
  Nonterminal.le_language (linesBefore_mul_optional .stmt).le

theorem program_le : linesBefore .stmt * optional Nonterminal.stmt.language ≤ Nonterminal.program.language :=
  Nonterminal.le_language stmts_le

theorem block_le :
    one .braceOpen * (linesBefore .stmt * (optional Nonterminal.stmt.language * one .braceClose)) ≤
      Nonterminal.block.language := by
  refine Nonterminal.le_language (n := .block) ?_
  calc _ = one .braceOpen * (linesBefore .stmt * optional Nonterminal.stmt.language * one .braceClose) := by
        simp only [mul_assoc]
    _ ≤ one .braceOpen * (Nonterminal.stmts.language * one .braceClose) := by
        gcongr
        exact stmts_le

theorem functionDecl_le :
    one .functionWord * (one .name * (parameterPart * (optional Nonterminal.declaredType.language *
      Nonterminal.block.language))) ≤ Nonterminal.stmt.language :=
  (Nonterminal.phrase_le .functionDecl).trans fun _ h => .rule (.right (.left h))

theorem classDecl_le :
    one .classWord * (one .name * (optional Nonterminal.typeParams.language *
      (optional Nonterminal.heritage.language * Nonterminal.classBody.language))) ≤ Nonterminal.stmt.language :=
  (Nonterminal.phrase_le .classDecl).trans fun _ h => .rule (.right (.right (.left h)))

theorem returnStmt_le :
    one .returnWord * optional Nonterminal.expr.language ≤ Nonterminal.stmt.language :=
  (Nonterminal.phrase_le .returnStmt).trans fun _ h => .rule (.right (.right (.right (.left h))))

theorem exprStmt_le : Nonterminal.expr.language ≤ Nonterminal.stmt.language :=
  (Nonterminal.phrase_le .exprStmt).trans fun _ h => .rule (.right (.right (.right (.right h))))

theorem binderWord_le : one .binderWord ≤ variablePart := by
  calc one .binderWord = one .binderWord * 1 := (mul_one _).symm
    _ ≤ variablePart := by
      unfold variablePart
      gcongr
      · exact Nonterminal.phrase_le .varKind
      · exact one_le_listing _

theorem variablePart_comma_le :
    variablePart * (Nonterminal.declarator.language * one .comma) ≤ variablePart := by
  rw [variablePart, mul_assoc]
  gcongr
  exact listing_comma_le _

theorem variablePart_le : variablePart * Nonterminal.declarator.language ≤ Nonterminal.stmt.language := by
  refine le_trans ?_ ((Nonterminal.phrase_le .varDecl).trans fun _ h => .rule (.left h))
  rw [variablePart, mul_assoc]
  exact mul_le_mul_right (listing_le .declarator) _

theorem declarator_le :
    one .name * (optional Nonterminal.declaredType.language *
      optional (one .equals * Nonterminal.expr.language)) ≤ Nonterminal.declarator.language :=
  Nonterminal.phrase_le .declarator

/-! ### classes -/

theorem classBody_le :
    one .braceOpen * (linesBefore .member * (optional Nonterminal.member.language * one .braceClose)) ≤
      Nonterminal.classBody.language := by
  refine Nonterminal.le_language (n := .classBody) ?_
  calc _ = one .braceOpen * (linesBefore .member * optional Nonterminal.member.language * one .braceClose) := by
        simp only [mul_assoc]
    _ ≤ one .braceOpen * (Nonterminal.members.language * one .braceClose) := by
        gcongr
        exact Nonterminal.le_language (n := .members) (linesBefore_mul_optional .member).le

theorem heritage_le :
    one .extendsWord * (one .name * optional Nonterminal.typeArgs.language) ≤ Nonterminal.heritage.language :=
  Nonterminal.phrase_le .heritage

theorem methodDef_le :
    one .name * (parameterPart * (optional Nonterminal.declaredType.language * Nonterminal.block.language)) ≤
      Nonterminal.member.language :=
  (Nonterminal.phrase_le .methodDef).trans fun _ h => .rule (.left h)

theorem propertyDef_le :
    one .name * (optional (one .question) * (optional Nonterminal.declaredType.language *
      optional (one .equals * Nonterminal.expr.language))) ≤ Nonterminal.member.language :=
  (Nonterminal.phrase_le .propertyDef).trans fun _ h => .rule (.right h)

/-! ### parameters -/

theorem param_le :
    one .name * (optional (one .question) * (optional Nonterminal.declaredType.language *
      optional (one .equals * Nonterminal.expr.language))) ≤ Nonterminal.param.language :=
  Nonterminal.phrase_le .param

theorem params_le : listing .param * Nonterminal.param.language ≤ Nonterminal.params.language :=
  Nonterminal.le_language (listing_le .param)

theorem parameterPart_eq :
    parameterPart = optional Nonterminal.typeParams.language * (one .parenOpen *
      (optional Nonterminal.params.language * one .parenClose)) := rfl

theorem typeParam_le :
    one .name * (optional Nonterminal.typeConstraint.language * optional Nonterminal.typeDefault.language) ≤
      Nonterminal.typeParam.language :=
  Nonterminal.phrase_le .typeParam

theorem typeConstraint_le :
    one .extendsWord * Nonterminal.type.language ≤ Nonterminal.typeConstraint.language :=
  Nonterminal.phrase_le .typeConstraint

theorem typeDefault_le : one .equals * Nonterminal.type.language ≤ Nonterminal.typeDefault.language :=
  Nonterminal.phrase_le .typeDefault

theorem typeParams_le :
    one .angleOpen * (listing .typeParam * (Nonterminal.typeParam.language * one .angleClose)) ≤
      Nonterminal.typeParams.language := by
  refine Nonterminal.le_language (n := .typeParams) ?_
  rw [← mul_assoc (listing _)]
  exact mul_le_mul_right (mul_le_mul_left (listing_le .typeParam) _) _

/-! ### expressions -/

theorem expr_eq : Nonterminal.expr.language = Nonterminal.assign.language := by
  refine le_antisymm ?_ (Nonterminal.phrase_le .expr)
  intro w hw
  cases hw with
  | rule h => exact h

theorem sum_le : Nonterminal.sum.language ≤ Nonterminal.expr.language := by
  rw [expr_eq]
  exact fun _ h => .rule (.left h)

theorem assign_le :
    Nonterminal.operand.language * (one .equals * Nonterminal.expr.language) ≤ Nonterminal.expr.language := by
  rw [expr_eq]
  exact le_trans (fun _ h => .inr (.inl h)) (Nonterminal.phrase_le .assign)

theorem arrowFn_le :
    parameterPart * (optional Nonterminal.declaredType.language * (one .arrow *
      Nonterminal.arrowBody.language)) ≤ Nonterminal.expr.language := by
  rw [expr_eq]
  exact (Nonterminal.phrase_le .arrowFn).trans fun _ h => .rule (.right (.right h))

theorem arrowBlock_le : Nonterminal.block.language ≤ Nonterminal.arrowBody.language := fun _ h => .rule (.left h)

theorem arrowExpr_le : Nonterminal.expr.language ≤ Nonterminal.arrowBody.language := by
  rw [expr_eq]
  exact fun _ h => .rule (.right h)

theorem term_le_sum : Nonterminal.term.language ≤ Nonterminal.sum.language := fun _ h => .rule (.left h)

theorem sum_addOp_le :
    Nonterminal.sum.language * (one .addOp * Nonterminal.term.language) ≤ Nonterminal.sum.language :=
  le_trans (fun _ h => .inr h) (Nonterminal.phrase_le .sum)

theorem operand_le_term : Nonterminal.operand.language ≤ Nonterminal.term.language := fun _ h => .rule (.left h)

theorem term_mulOp_le :
    Nonterminal.term.language * (one .mulOp * Nonterminal.operand.language) ≤ Nonterminal.term.language :=
  le_trans (fun _ h => .inr h) (Nonterminal.phrase_le .term)

theorem primary_le : Nonterminal.primary.language ≤ Nonterminal.operand.language := fun _ h => .rule (.left h)

theorem member_le :
    Nonterminal.operand.language * (one .dot * one .name) ≤ Nonterminal.operand.language :=
  le_trans (fun _ h => .inr (.inl h)) (Nonterminal.phrase_le .operand)

theorem args_le : listing .expr * Nonterminal.expr.language ≤ Nonterminal.args.language :=
  Nonterminal.le_language (listing_le .expr)

/-- A callee with arguments is an operand. -/
theorem Callee.words_le (callee : Callee) :
    callee.words * (optional Nonterminal.typeArgs.language * (one .parenOpen *
      (optional Nonterminal.args.language * one .parenClose))) ≤ Nonterminal.operand.language := by
  cases callee with
  | call => exact le_trans (fun _ h => .inr (.inr h)) (Nonterminal.phrase_le .operand)
  | new =>
    refine le_trans ?_ (le_trans (Nonterminal.phrase_le .newExpr) ?_)
    · simp only [Callee.words, mul_assoc]
      refine mul_le_mul_right ?_ _
      exact mul_le_mul_left (Nonterminal.phrase_le .newCallee) _
    · exact fun _ h => primary_le (.rule (.right (.right (.right (.left h)))))

theorem name_le_operand : one .name ≤ Nonterminal.operand.language :=
  le_trans (le_trans (fun _ h => .inl h) (Nonterminal.phrase_le .primary)) primary_le

theorem number_le_operand : one .number ≤ Nonterminal.operand.language :=
  le_trans (le_trans (fun _ h => .inr (.inl h)) (Nonterminal.phrase_le .primary)) primary_le

theorem string_le_operand : one .string ≤ Nonterminal.operand.language :=
  le_trans (le_trans (fun _ h => .inr (.inr (.inl h))) (Nonterminal.phrase_le .primary)) primary_le

theorem functionExpr_le :
    one .functionWord * (parameterPart * (optional Nonterminal.declaredType.language *
      Nonterminal.block.language)) ≤ Nonterminal.operand.language :=
  (Nonterminal.phrase_le .functionExpr).trans fun _ h =>
    primary_le (.rule (.right (.right (.right (.right (.left h))))))

theorem classExpr_le :
    one .classWord * (optional Nonterminal.typeParams.language *
      (optional Nonterminal.heritage.language * Nonterminal.classBody.language)) ≤ Nonterminal.operand.language :=
  (Nonterminal.phrase_le .classExpr).trans fun _ h =>
    primary_le (.rule (.right (.right (.right (.right (.right h))))))

theorem name_le_dottedName : one .name ≤ dottedName := by
  calc one .name = one .name * 1 := (mul_one _).symm
    _ ≤ dottedName := mul_le_mul_right one_le_kstar _

theorem dottedName_dot_le : dottedName * (one .dot * one .name) ≤ dottedName := by
  rw [dottedName]
  refine le_trans (mul_assoc _ _ _).le ?_
  exact mul_le_mul_right kstar_mul_le_kstar _

/-! ### types -/

theorem declaredType_le :
    one .colon * Nonterminal.type.language ≤ Nonterminal.declaredType.language :=
  Nonterminal.phrase_le .declaredType

theorem fnType_le : parameterPart * (one .arrow * Nonterminal.type.language) ≤ Nonterminal.type.language :=
  (Nonterminal.phrase_le .fnType).trans fun _ h => .rule (.left h)

theorem unionType_le : Nonterminal.unionType.language ≤ Nonterminal.type.language := fun _ h => .rule (.right h)

theorem arrayType_le : Nonterminal.arrayType.language ≤ Nonterminal.unionType.language := fun _ h => .rule (.left h)

theorem unionType_bar_le :
    Nonterminal.unionType.language * (one .bar * Nonterminal.arrayType.language) ≤ Nonterminal.unionType.language :=
  le_trans (fun _ h => .inr h) (Nonterminal.phrase_le .unionType)

theorem typeRef_le : dottedName * optional Nonterminal.typeArgs.language ≤ Nonterminal.arrayType.language :=
  (Nonterminal.phrase_le .typeRef).trans fun _ h => .rule (.left h)

theorem string_le_arrayType : one .string ≤ Nonterminal.arrayType.language :=
  le_trans (le_trans (fun _ h => .inl h) (Nonterminal.phrase_le .literalType)) fun _ h => .rule (.right (.left h))

theorem number_le_arrayType : one .number ≤ Nonterminal.arrayType.language :=
  le_trans (le_trans (fun _ h => .inr h) (Nonterminal.phrase_le .literalType)) fun _ h => .rule (.right (.left h))

theorem arrayType_bracket_le :
    Nonterminal.arrayType.language * (one .bracketOpen * one .bracketClose) ≤ Nonterminal.arrayType.language :=
  le_trans (fun _ h => .inr (.inr h)) (Nonterminal.phrase_le .arrayType)

theorem typeArgs_le :
    one .angleOpen * (listing .type * (Nonterminal.type.language * one .angleClose)) ≤
      Nonterminal.typeArgs.language := by
  refine Nonterminal.le_language (n := .typeArgs) ?_
  rw [← mul_assoc (listing _)]
  exact mul_le_mul_right (mul_le_mul_left (listing_le .type) _) _

end Laws

/-! ## what is built keeps its past -/

@[simp]
theorem Scope.past_add (s : Stmt) (scope : Scope) : (scope.add s).past = scope.past := by
  cases scope <;> simp [Scope.add, Scope.past]

@[simp]
theorem Members.past_add (m : Member) (members : Members) : (members.add m).past = members.past := by
  cases members
  simp [Members.add, Members.past]

@[simp]
theorem Params.past_add (p : Param) (params : Params) : (params.add p).past = params.past := by
  cases params
  simp [Params.add, Params.past]

@[simp]
theorem Generics.past_add (p : TypeParam) (generics : Generics) : (generics.add p).past = generics.past := by
  cases generics
  simp [Generics.add, Generics.past]

@[simp]
theorem Slot.past_operand (slot : Slot) : slot.operand.past = slot.past := by
  simp [Slot.operand, Operand.past, Addend.past]

/-- A term that ends with an operand. -/
theorem Operand.past_mul_le (operand : Operand) :
    operand.past * Nonterminal.operand.language ≤ operand.addend.past * Nonterminal.term.language := by
  cases operand with
  | first addend =>
    simp only [Operand.past, Operand.addend]
    gcongr
    exact operand_le_term
  | next left op addend =>
    simp only [Operand.past, Operand.addend, mul_assoc]
    gcongr
    exact term_mulOp_le

/-- A sum that ends with a term. -/
theorem Addend.past_mul_le (addend : Addend) :
    addend.past * Nonterminal.term.language ≤ addend.slot.past * Nonterminal.sum.language := by
  cases addend with
  | first slot =>
    simp only [Addend.past, Addend.slot]
    gcongr
    exact term_le_sum
  | next left op slot =>
    simp only [Addend.past, Addend.slot, mul_assoc]
    gcongr
    exact sum_addOp_le

/-- A union that ends with one of its members. -/
theorem Alternative.past_mul_le (alternative : Alternative) :
    alternative.past * Nonterminal.arrayType.language ≤
      alternative.slot.past * Nonterminal.unionType.language := by
  cases alternative with
  | only slot =>
    simp only [Alternative.past, Alternative.slot]
    gcongr
    exact arrayType_le
  | next first done slot =>
    simp only [Alternative.past, Alternative.slot, mul_assoc]
    gcongr
    exact unionType_bar_le

/-! ## one token -/

section Step

variable {t : Token} {k : Terminal} {s s' : State} {f g : Focus}

-- the equations of these functions are made here, once for all the proofs that follow
attribute [local simp] State.past Focus.past Scope.past Owner.past Members.past ClassOwner.past Slot.past Addend.past
  Operand.past Params.past Callable.past Generics.past Generic.past TypeSlot.past Alternative.past Applied.past

/-! ### complete phrases -/

theorem Focus.Passes.past_le (h : f.Passes k g) : f.past ≤ g.past := by
  cases h with
  | operandOfExpression => rw [Focus.past, Focus.past, Slot.past_operand]
  | alternativeOfType => rfl
  | declaration =>
    simp only [Focus.past, Scope.past_add, mul_assoc]
    grw [variablePart_le, ← le_optional]
  | statementOfExpression =>
    simp only [Focus.past, Slot.past, Scope.past_add]
    grw [exprStmt_le, ← le_optional]
  | returnOfExpression =>
    simp only [Focus.past, Slot.past, Scope.past_add, mul_assoc]
    grw [le_optional Nonterminal.expr.language, returnStmt_le, ← le_optional]
  | variableOfExpression =>
    simp only [Focus.past, Slot.past, mul_assoc]
    grw [le_optional (one .equals * Nonterminal.expr.language), declarator_le]
  | parameterOfExpression =>
    simp only [Focus.past, Slot.past, mul_assoc]
    grw [le_optional (one .equals * Nonterminal.expr.language), param_le]
  | propertyOfExpression =>
    simp only [Focus.past, Slot.past, Members.past_add, mul_assoc]
    grw [le_optional (one .equals * Nonterminal.expr.language), propertyDef_le, ← le_optional]
  | assignment =>
    simp only [Focus.past, Slot.past, mul_assoc]
    grw [assign_le]
  | arrow =>
    simp only [Focus.past, Slot.past, mul_assoc]
    grw [arrowExpr_le, arrowFn_le]
  | sum =>
    next e operand _ _ =>
    rw [Focus.past, Focus.past]
    grw [operand.past_mul_le, operand.addend.past_mul_le, sum_le]
  | variableOfType =>
    simp only [Focus.past, TypeSlot.past, mul_assoc]
    grw [declaredType_le, ← declarator_le, ← le_mul_optional, ← le_optional]
  | parameterOfType =>
    simp only [Focus.past, TypeSlot.past, mul_assoc]
    grw [declaredType_le, ← param_le, ← le_mul_optional _ (one .equals * _),
      ← le_optional Nonterminal.declaredType.language]
  | propertyOfType =>
    simp only [Focus.past, TypeSlot.past, Members.past_add, mul_assoc]
    grw [declaredType_le, ← le_optional Nonterminal.member.language, ← propertyDef_le,
      ← le_mul_optional _ (one .equals * _), ← le_optional Nonterminal.declaredType.language]
  | functionType =>
    simp only [Focus.past, TypeSlot.past, mul_assoc]
    grw [fnType_le]
  | bound =>
    simp only [Focus.past, TypeSlot.past, mul_assoc]
    grw [typeConstraint_le, ← typeParam_le, ← le_mul_optional _ Nonterminal.typeDefault.language, ← le_optional]
  | default =>
    simp only [Focus.past, TypeSlot.past, mul_assoc]
    grw [typeDefault_le, le_optional Nonterminal.typeDefault.language, typeParam_le]
  | union =>
    next ty alternative _ =>
    rw [Focus.past, Focus.past]
    grw [alternative.past_mul_le, unionType_le]

/-! ### tokens that a phrase consumes -/

theorem Scope.past_terminator (scope : Scope) :
    scope.past * (optional Nonterminal.stmt.language * one .terminator) ≤ scope.past := by
  cases scope with
  | program done => exact linesBefore_le .stmt
  | block pos owner sig done =>
    simp only [Scope.past, mul_assoc]
    grw [linesBefore_le]

theorem Members.past_terminator (members : Members) :
    members.past * (optional Nonterminal.member.language * one .terminator) ≤ members.past := by
  obtain ⟨owner, typeParams, heritage, done⟩ := members
  simp only [Members.past, mul_assoc]
  grw [linesBefore_le]

theorem Owner.past_close (sig : Signature) (body : Block) (owner : Owner) :
    owner.past * (parameterPart * (optional Nonterminal.declaredType.language * (owner.arrowMark *
      Nonterminal.block.language))) ≤ (owner.close sig body).past := by
  cases owner with
  | declaration pos name scope =>
    simp only [Owner.past, Owner.arrowMark, Owner.close, State.past, Scope.past_add, mul_assoc, one_mul]
    grw [functionDecl_le]
  | function pos operand =>
    simp only [Owner.past, Owner.arrowMark, Owner.close, State.past, mul_assoc, one_mul]
    grw [functionExpr_le]
  | arrow pos slot =>
    simp only [Owner.past, Owner.arrowMark, Owner.close, State.past]
    grw [arrowBlock_le, arrowFn_le]
  | method name members =>
    simp only [Owner.past, Owner.arrowMark, Owner.close, State.past, Members.past_add, mul_assoc, one_mul]
    grw [methodDef_le]

theorem Members.past_close (members : Members) :
    members.past * (optional Nonterminal.member.language * one .braceClose) ≤ members.close.past := by
  obtain ⟨owner, typeParams, heritage, done⟩ := members
  cases owner with
  | declaration pos name scope =>
    simp only [Members.past, ClassOwner.past, Members.close, State.past, Scope.past_add, mul_assoc]
    grw [classBody_le, classDecl_le]
  | expression pos operand =>
    simp only [Members.past, ClassOwner.past, Members.close, State.past, mul_assoc]
    grw [classBody_le, classExpr_le]

theorem Applied.past_close (args : List TypeExpr) (target : Applied) :
    target.past * Nonterminal.typeArgs.language ≤ (target.close args).past := by
  cases target with
  | type head path alternative =>
    simp only [Applied.past, Applied.close, State.past, mul_assoc]
    grw [le_optional Nonterminal.typeArgs.language, typeRef_le]
  | callee callee operand => rfl
  | heritage base owner typeParams =>
    simp only [Applied.past, Applied.close, State.past, mul_assoc]
    grw [le_optional Nonterminal.typeArgs.language, heritage_le]

theorem past_blockBegin (owner : Owner) (sig : Signature) (t : Token) :
    owner.past * (parameterPart * (optional Nonterminal.declaredType.language * (owner.arrowMark *
      one .braceOpen))) ≤ (blockBegin owner sig t).past := by
  simp only [blockBegin, State.past, Scope.past, ← mul_assoc]
  exact (mul_one _).symm.le.trans (mul_le_mul_right (one_le_linesBefore .stmt) _)

theorem past_classBegin (owner : ClassOwner) (typeParams : List TypeParam) (heritage : Option Heritage) :
    owner.past * (optional Nonterminal.typeParams.language * (optional Nonterminal.heritage.language *
      one .braceOpen)) ≤ (classBegin owner typeParams heritage).past := by
  simp only [classBegin, State.past, Members.past, ← mul_assoc]
  exact (mul_one _).symm.le.trans (mul_le_mul_right (one_le_linesBefore .member) _)

theorem Owner.arrowMark_eq_one {owner : Owner} (h : ∀ pos slot, owner ≠ .arrow pos slot) : owner.arrowMark = 1 := by
  cases owner with
  | arrow pos slot => exact (h _ _ rfl).elim
  | _ => rfl

theorem Focus.Consumes.past_le (h : f.Consumes t s) : f.past * one t.kind ≤ s.past := by
  cases h with
  | terminator hk =>
    rw [hk, Focus.past, mul_assoc]
    exact Scope.past_terminator _
  | blockEnd hk =>
    simp only [hk, Focus.past, Scope.past, mul_assoc]
    grw [block_le, Owner.past_close]
  | finish hk =>
    simp only [hk, Focus.past, Scope.past, State.past]
    grw [program_le]
  | memberTerminator hk =>
    rw [hk, Focus.past, mul_assoc]
    exact Members.past_terminator _
  | membersEnd hk =>
    rw [hk, Focus.past, mul_assoc]
    exact Members.past_close _
  | typedVariableEquals hk | typedParameterEquals hk | typedPropertyEquals hk =>
    simp only [hk, Focus.past, TypeSlot.past, State.past, Slot.past]
    grw [← le_optional Nonterminal.declaredType.language, ← declaredType_le]
    simp only [mul_assoc, le_refl]
  | variableComma hk =>
    simp only [hk, Focus.past, State.past, mul_assoc]
    grw [variablePart_comma_le]
  | signatureParen hk | arrowParen hk | typeParen hk =>
    simp only [hk, Focus.past, State.past, Callable.past, Owner.past]
    grw [← le_mul_optional]
  | signatureAngle hk | arrowAngle hk | typeAngle hk | classAngle hk =>
    simp only [hk, Focus.past, State.past, Generics.past, Generic.past, Callable.past, Owner.past]
    exact le_mul_listing ..
  | parameterComma hk =>
    next p params =>
    cases params
    simp only [hk, Focus.past, State.past, Params.past_add, Params.past, mul_assoc]
    grw [listing_comma_le]
  | parametersEnd hk =>
    next p params =>
    cases params
    simp only [hk, Focus.past, Params.add, Params.close, State.past, Params.past, parameterPart_eq, mul_assoc]
    grw [← le_optional Nonterminal.params.language, ← params_le]
    simp only [mul_assoc, le_refl]
  | typedArrow hk =>
    simp only [hk, Focus.past, TypeSlot.past, Owner.past, State.past]
    grw [← le_optional Nonterminal.declaredType.language, ← declaredType_le]
    simp only [mul_assoc, le_refl]
  | typedBlockBrace hk hno =>
    rw [hk, Focus.past, TypeSlot.past]
    grw [← past_blockBegin, Owner.arrowMark_eq_one hno, ← le_optional, ← declaredType_le]
    simp only [mul_assoc, one_mul, le_refl]
  | boundEquals hk =>
    simp only [hk, Focus.past, State.past, TypeSlot.past]
    grw [← le_optional Nonterminal.typeConstraint.language, ← typeConstraint_le]
    simp only [mul_assoc, le_refl]
  | typeParamComma hk =>
    next p generics =>
    cases generics
    simp only [hk, Focus.past, State.past, Generics.past_add, Generics.past, mul_assoc]
    grw [listing_comma_le]
  | typeParamsEnd hk =>
    next p generics =>
    cases generics
    simp only [hk, Focus.past, Generics.add, Generics.close, State.past, Generics.past, mul_assoc]
    grw [typeParams_le]
  | classExtends hk =>
    rw [hk, Focus.past, State.past]
    grw [← le_mul_optional]
  | classBrace hk =>
    rw [hk, Focus.past]
    grw [← past_classBegin, ← le_optional_mul, ← le_optional_mul]
  | nameOperand hk =>
    rw [hk, Focus.past, State.past]
    grw [name_le_operand]
  | numberOperand hk =>
    rw [hk, Focus.past, State.past]
    grw [number_le_operand]
  | stringOperand hk =>
    rw [hk, Focus.past, State.past]
    grw [string_le_operand]
  | newOperand hk | functionOperand hk | classOperand hk =>
    simp only [hk, Focus.past, State.past, Callable.past, Owner.past, ClassOwner.past, le_refl]
  | argumentComma hk =>
    simp only [hk, Focus.past, State.past, Slot.past, mul_assoc]
    grw [listing_comma_le]
  | argumentsEnd hk =>
    next e callee typeArgs done operand =>
    simp only [hk, Focus.past, State.past, Slot.past, mul_assoc]
    grw [← callee.words_le, ← le_optional Nonterminal.args.language, ← args_le]
    simp only [mul_assoc, le_refl]
  | mulOp hk =>
    next e operand =>
    simp only [hk, Focus.past, State.past, Operand.past]
    grw [operand.past_mul_le]
  | addOp hk =>
    next e operand =>
    simp only [hk, Focus.past, State.past, Operand.past, Addend.past]
    grw [operand.past_mul_le, operand.addend.past_mul_le]
  | assignment hk => simp only [hk, Focus.past, State.past, Operand.past, Addend.past, Slot.past, le_refl]
  | typeName hk =>
    rw [hk, Focus.past, State.past]
    grw [name_le_dottedName]
  | numberType hk =>
    rw [hk, Focus.past, State.past]
    grw [number_le_arrayType]
  | stringType hk =>
    rw [hk, Focus.past, State.past]
    grw [string_le_arrayType]
  | typeArgComma hk =>
    simp only [hk, Focus.past, State.past, TypeSlot.past, mul_assoc]
    grw [listing_comma_le]
  | typeArgsEnd hk =>
    next ty target done =>
    simp only [hk, Focus.past, TypeSlot.past, mul_assoc]
    grw [typeArgs_le, target.past_close]
  | bracketOpen hk => rw [hk, Focus.past, State.past]
  | firstBar hk | nextBar hk =>
    rw [hk, Focus.past, State.past]
    grw [Alternative.past_mul_le]
    rfl

/-! ### tokens that a place offers -/

theorem State.past_parameterNamed_le (name : Ident) (optional : Bool) (params : Params) :
    (State.parameterNamed name optional params).past ≤
      params.past * (one .name * Source.optional (one .question)) := by
  cases optional with
  | false =>
    rw [State.past]
    grw [← le_mul_optional]
  | true =>
    rw [State.past, mul_assoc]
    grw [← le_optional]

theorem State.Offers.past_le (h : s.Offers k f) : s.past ≤ f.past := by
  cases h with
  | noStatement | noMember => exact le_mul_optional ..
  | statement | member =>
    rw [State.past, Focus.past]
    grw [← le_optional]
  | variableNamed =>
    simp only [State.past, Focus.past, mul_assoc]
    grw [← declarator_le, ← le_mul_optional (optional _) (one .equals * _), ← le_mul_optional (one .name)]
  | returnNothing =>
    simp only [State.past, Focus.past, Scope.past_add]
    grw [← le_optional, ← returnStmt_le, ← le_mul_optional]
  | parameterNamed =>
    rw [Focus.past]
    grw [State.past_parameterNamed_le, ← param_le, ← le_mul_optional (optional _) (one .equals * _),
      ← le_mul_optional (optional _) Nonterminal.declaredType.language]
  | property =>
    simp only [State.past, Focus.past, Members.past_add]
    grw [← le_optional Nonterminal.member.language, ← propertyDef_le, ← le_mul_optional (optional _) (one .equals * _),
      ← le_mul_optional (optional _), ← le_mul_optional (one .name)]
  | optionalProperty =>
    simp only [State.past, Focus.past, Members.past_add, mul_assoc]
    grw [← le_optional Nonterminal.member.language, ← propertyDef_le, ← le_mul_optional (optional _) (one .equals * _),
      ← le_mul_optional (optional _), ← le_optional (one .question)]
  | argument =>
    simp only [State.past, Focus.past, Slot.past]
    exact le_mul_listing ..
  | typeNamed =>
    rw [State.past, Focus.past]
    grw [← typeRef_le, ← le_mul_optional]
  | typeParamNamed =>
    rw [State.past, Focus.past]
    grw [← typeParam_le, ← le_mul_optional (optional _), ← le_mul_optional (one .name)]
  | _ =>
    simp only [State.past, Focus.past, Slot.past, Callable.past, Owner.past, ClassOwner.past, Alternative.past,
      Slot.past_operand, le_refl]

/-! ### tokens that a place consumes -/

theorem State.Consumes.past_le (h : s.Consumes t s') : s.past * one t.kind ≤ s'.past := by
  cases h with
  | binderWord hk =>
    rw [hk, State.past, State.past]
    grw [binderWord_le]
  | variableEquals hk | propertyColon hk | typeParamEquals hk | arrow hk =>
    simp only [hk, State.past, Slot.past, TypeSlot.past, Callable.past, Owner.past]
    grw [← le_mul_optional]
  | firstParameter hk =>
    next params =>
    cases params
    simp only [hk, State.past, Params.past]
    grw [← le_mul_listing]
  | noParameters hk =>
    next params =>
    cases params
    simp only [hk, State.past, Params.close, parameterPart_eq, mul_assoc]
    grw [← le_optional_mul _ Nonterminal.params.language]
  | parameterColon hk =>
    grw [State.past_parameterNamed_le]
    simp only [hk, State.past, TypeSlot.past, mul_assoc, le_refl]
  | parameterEquals hk =>
    grw [State.past_parameterNamed_le]
    simp only [hk, State.past, Slot.past, mul_assoc]
    grw [← le_optional_mul _ Nonterminal.declaredType.language]
  | blockBrace hk hno =>
    rw [hk, State.past, Callable.past, mul_assoc]
    grw [← past_blockBegin, ← le_optional_mul _ Nonterminal.declaredType.language, Owner.arrowMark_eq_one hno,
      one_mul]
  | arrowBlock hk =>
    rw [hk, State.past]
    grw [← past_blockBegin]
    simp only [Owner.past, Owner.arrowMark, mul_assoc, le_refl]
  | genericsParen hk | genericsExtends hk =>
    simp only [hk, State.past, Generic.past]
    grw [← le_optional]
  | genericsBrace hk =>
    rw [hk, State.past, Generic.past, mul_assoc]
    grw [← past_classBegin, ← le_optional, ← le_optional_mul]
  | baseBrace hk =>
    rw [hk, State.past]
    grw [← past_classBegin, ← le_optional Nonterminal.heritage.language, ← heritage_le,
      ← le_mul_optional (one .name)]
    simp only [mul_assoc, le_refl]
  | heritageBrace hk =>
    rw [hk, State.past, mul_assoc, mul_assoc]
    grw [← past_classBegin, ← le_optional Nonterminal.heritage.language]
  | baseAngle hk | callAngle hk | newAngle hk | typeArgsAngle hk =>
    simp only [hk, State.past, TypeSlot.past, Applied.past, Callee.words, ← mul_assoc]
    exact le_mul_listing ..
  | propertyEquals hk =>
    simp only [hk, State.past, Slot.past]
    grw [← le_mul_optional, ← le_mul_optional]
  | optionalColon hk =>
    simp only [hk, State.past, TypeSlot.past]
    grw [← le_optional (one .question)]
  | optionalEquals hk =>
    simp only [hk, State.past, Slot.past]
    grw [← le_optional (one .question), ← le_mul_optional]
  | propertyName hk =>
    simp only [hk, State.past, mul_assoc]
    grw [member_le]
  | callParen hk | newParen hk =>
    simp only [hk, State.past, Callee.words, ← mul_assoc]
    grw [← le_mul_optional]
  | calleeParen hk =>
    simp only [hk, State.past]
    grw [← le_optional Nonterminal.typeArgs.language]
  | noArguments hk =>
    next callee typeArgs operand =>
    simp only [hk, State.past, mul_assoc]
    grw [← callee.words_le, ← le_optional_mul _ Nonterminal.args.language]
  | newName hk =>
    rw [hk, State.past, State.past]
    grw [name_le_dottedName]
  | newPathName hk | typePathName hk =>
    simp only [hk, State.past, mul_assoc]
    grw [dottedName_dot_le]
  | bracketClose hk =>
    simp only [hk, State.past, mul_assoc]
    grw [arrayType_bracket_le]
  | _ hk => simp only [hk, State.past, TypeSlot.past, Callable.past, Owner.past, ClassOwner.past, le_refl]

/-! ### tokens -/

theorem Focus.Steps.past_le (h : f.Steps t s) : f.past * one t.kind ≤ s.past := by
  induction h with
  | consume consumes => exact consumes.past_le
  | pass passes _ ih => exact (mul_le_mul_left passes.past_le _).trans ih

/-- A token leads from a word of one place to a word of the next. -/
theorem State.past_step (h : s.step t = some s') : s.past * one t.kind ≤ s'.past := by
  obtain consumes | ⟨f, offers, steps⟩ := State.step_iff.1 h
  · exact consumes.past_le
  · exact (mul_le_mul_left offers.past_le _).trans steps.past_le

end Step

end TypeLint.Source
