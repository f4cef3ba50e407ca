import TypeLint.Proofs.Source.Reading
import TypeLint.Proofs.Source.Scan

/-!
# Phrases that bind as they are written

A phrase can hold any other phrase of the kind that its field asks for, but not all of these are read from a source: an
operand is never a sum, the element of an array type never a union.  The *proper* phrases are those whose parts bind at
least as tightly as their place demands.

* `TypeExpr.isPlain`, `Expr.isSum`, `Expr.isTerm`, `Expr.isOperand` — how tightly a phrase binds;
* `TypeExpr.Proper`, …, `Program.Proper` — proper phrases;
* `State.Proper` — places at which all that has been read is proper;
* `State.proper_step` — one token keeps a place proper;
* `proper_of_parse` — the program of a source is proper.
-/

namespace TypeLint.Source

/-! ## how tightly phrases bind -/

/-- The operators of a sum. -/
def signs : List Text := [text "+", text "-"]

/-- The operators of a term. -/
def factors : List Text := [text "*", text "/"]

/-- Types that can stand between bars and before brackets. -/
def TypeExpr.isPlain : TypeExpr → Bool
  | .named .. | .literal _ | .array _ => true
  | .union .. | .function .. => false

/-- Expressions that can stand left of a sign. -/
def Expr.isSum : Expr → Bool
  | .assign .. | .arrow .. => false
  | _ => true

/-- Expressions that can stand right of a sign. -/
def Expr.isTerm : Expr → Bool
  | .assign .. | .arrow .. => false
  | .binary _ op _ => factors.contains op.text
  | _ => true

/-- Expressions that can be called, and that can stand before a point. -/
def Expr.isOperand : Expr → Bool
  | .assign .. | .arrow .. | .binary .. => false
  | _ => true

theorem Expr.isTerm_of_isOperand {e : Expr} (h : e.isOperand = true) : e.isTerm = true := by
  cases e <;> simp_all [Expr.isOperand, Expr.isTerm]

theorem Expr.isSum_of_isTerm {e : Expr} (h : e.isTerm = true) : e.isSum = true := by
  cases e <;> simp_all [Expr.isTerm, Expr.isSum]

/-- What binds as the operation demands: a factor binds tighter than a sign, and both bind to the left. -/
def Binds (left : Expr) (op : Ident) (right : Expr) : Prop :=
  op.text ∈ factors ∧ left.isTerm = true ∧ right.isOperand = true ∨
    op.text ∈ signs ∧ left.isSum = true ∧ right.isTerm = true

mutual

/-- Types in which the members of unions and the elements of arrays are plain. -/
def TypeExpr.Proper : TypeExpr → Prop
  | .named _ _ args => ProperTypes args
  | .literal _ => True
  | .array element => element.isPlain = true ∧ element.Proper
  | .union first others =>
    (first.isPlain = true ∧ first.Proper) ∧ others ≠ [] ∧ (∀ ty ∈ others, ty.isPlain = true) ∧ ProperTypes others
  | .function _ typeParams params result => ProperTypeParams typeParams ∧ ProperParams params ∧ result.Proper

def ProperTypes : List TypeExpr → Prop
  | [] => True
  | ty :: tys => ty.Proper ∧ ProperTypes tys

def ProperType? : Option TypeExpr → Prop
  | none => True
  | some ty => ty.Proper

def TypeParam.Proper : TypeParam → Prop
  | .mk _ bound default => ProperType? bound ∧ ProperType? default

def ProperTypeParams : List TypeParam → Prop
  | [] => True
  | p :: ps => p.Proper ∧ ProperTypeParams ps

def Param.Proper : Param → Prop
  | .mk _ _ declared default => ProperType? declared ∧ ProperExpr? default

def ProperParams : List Param → Prop
  | [] => True
  | p :: ps => p.Proper ∧ ProperParams ps

def Signature.Proper : Signature → Prop
  | .mk typeParams params result => ProperTypeParams typeParams ∧ ProperParams params ∧ ProperType? result

/-- Expressions in which operators, calls and assignments find operands that bind tightly enough. -/
def Expr.Proper : Expr → Prop
  | .name _ | .literal _ => True
  | .member object _ => object.isOperand = true ∧ object.Proper
  | .call callee typeArgs args => (callee.isOperand = true ∧ callee.Proper) ∧ ProperTypes typeArgs ∧ ProperExprs args
  | .new _ _ _ typeArgs args => ProperTypes typeArgs ∧ ProperExprs args
  | .assign target value => (target.isOperand = true ∧ target.Proper) ∧ value.Proper
  | .binary left op right => Binds left op right ∧ left.Proper ∧ right.Proper
  | .function _ sig body => sig.Proper ∧ body.Proper
  | .arrow _ sig body => sig.Proper ∧ body.Proper
  | .classExpr _ shape => shape.Proper

def ProperExprs : List Expr → Prop
  | [] => True
  | e :: es => e.Proper ∧ ProperExprs es

def ProperExpr? : Option Expr → Prop
  | none => True
  | some e => e.Proper

def ArrowBody.Proper : ArrowBody → Prop
  | .block b => b.Proper
  | .expr e => e.Proper

def Block.Proper : Block → Prop
  | .mk _ body => ProperStmts body

/-- Statements of proper phrases; a declaration has at least one variable. -/
def Stmt.Proper : Stmt → Prop
  | .variables _ _ declarators => declarators ≠ [] ∧ ProperDeclarators declarators
  | .function _ _ sig body => sig.Proper ∧ body.Proper
  | .classDecl _ _ shape => shape.Proper
  | .ret _ value => ProperExpr? value
  | .expr e => e.Proper

def ProperStmts : List Stmt → Prop
  | [] => True
  | s :: ss => s.Proper ∧ ProperStmts ss

def Declarator.Proper : Declarator → Prop
  | .mk _ declared init => ProperType? declared ∧ ProperExpr? init

def ProperDeclarators : List Declarator → Prop
  | [] => True
  | d :: ds => d.Proper ∧ ProperDeclarators ds

def ClassShape.Proper : ClassShape → Prop
  | .mk typeParams heritage members => ProperTypeParams typeParams ∧ ProperHeritage? heritage ∧ ProperMembers members

def Heritage.Proper : Heritage → Prop
  | .mk _ typeArgs => ProperTypes typeArgs

def ProperHeritage? : Option Heritage → Prop
  | none => True
  | some h => h.Proper

def Member.Proper : Member → Prop
  | .method _ sig body => sig.Proper ∧ body.Proper
  | .property _ _ declared value => ProperType? declared ∧ ProperExpr? value

def ProperMembers : List Member → Prop
  | [] => True
  | m :: ms => m.Proper ∧ ProperMembers ms

end

/-- Programs of proper statements. -/
def Program.Proper (p : Program) : Prop := ProperStmts p.body

/-! ## proper lists -/

/-- Halves of a mutual recursion on lists that ask the same of every item. -/
theorem forall_mem_of_eqns {α : Type} {P : α → Prop} {Q : List α → Prop} (nil : Q [] = True)
    (cons : ∀ x xs, Q (x :: xs) = (P x ∧ Q xs)) (xs : List α) : Q xs ↔ ∀ x ∈ xs, P x := by
  induction xs with
  | nil => simp [nil]
  | cons x xs ih => simp [cons, ih]

theorem properTypes_iff (tys : List TypeExpr) : ProperTypes tys ↔ ∀ ty ∈ tys, ty.Proper :=
  forall_mem_of_eqns (by simp only [ProperTypes]) (fun _ _ => by simp only [ProperTypes]) tys

theorem properTypeParams_iff (ps : List TypeParam) : ProperTypeParams ps ↔ ∀ p ∈ ps, p.Proper :=
  forall_mem_of_eqns (by simp only [ProperTypeParams]) (fun _ _ => by simp only [ProperTypeParams]) ps

theorem properParams_iff (ps : List Param) : ProperParams ps ↔ ∀ p ∈ ps, p.Proper :=
  forall_mem_of_eqns (by simp only [ProperParams]) (fun _ _ => by simp only [ProperParams]) ps

theorem properExprs_iff (es : List Expr) : ProperExprs es ↔ ∀ e ∈ es, e.Proper :=
  forall_mem_of_eqns (by simp only [ProperExprs]) (fun _ _ => by simp only [ProperExprs]) es

theorem properStmts_iff (ss : List Stmt) : ProperStmts ss ↔ ∀ s ∈ ss, s.Proper :=
  forall_mem_of_eqns (by simp only [ProperStmts]) (fun _ _ => by simp only [ProperStmts]) ss

theorem properDeclarators_iff (ds : List Declarator) : ProperDeclarators ds ↔ ∀ d ∈ ds, d.Proper :=
  forall_mem_of_eqns (by simp only [ProperDeclarators]) (fun _ _ => by simp only [ProperDeclarators]) ds

theorem properMembers_iff (ms : List Member) : ProperMembers ms ↔ ∀ m ∈ ms, m.Proper :=
  forall_mem_of_eqns (by simp only [ProperMembers]) (fun _ _ => by simp only [ProperMembers]) ms

/-! ## proper places -/

/-- What is called binds tightly enough. -/
def Callee.Proper : Callee → Prop
  | .call callee => callee.isOperand = true ∧ callee.Proper
  | .new .. => True

mutual

/-- Places of statements at which all that has been read is proper. -/
def Scope.Proper : Scope → Prop
  | .program done => ProperStmts done
  | .block _ owner sig done => owner.Proper ∧ sig.Proper ∧ ProperStmts done

def Owner.Proper : Owner → Prop
  | .declaration _ _ scope => scope.Proper
  | .function _ operand => operand.Proper
  | .arrow _ slot => slot.Proper
  | .method _ members => members.Proper

def Members.Proper : Members → Prop
  | .mk owner typeParams heritage done =>
    owner.Proper ∧ ProperTypeParams typeParams ∧ ProperHeritage? heritage ∧ ProperMembers done

def ClassOwner.Proper : ClassOwner → Prop
  | .declaration _ _ scope => scope.Proper
  | .expression _ operand => operand.Proper

def Slot.Proper : Slot → Prop
  | .statement scope => scope.Proper
  | .returned _ scope => scope.Proper
  | .initial _ declared vars scope => ProperType? declared ∧ ProperDeclarators vars.done ∧ scope.Proper
  | .default _ _ declared params => ProperType? declared ∧ params.Proper
  | .property _ _ declared members => ProperType? declared ∧ members.Proper
  | .argument callee typeArgs done operand =>
    callee.Proper ∧ ProperTypes typeArgs ∧ ProperExprs done ∧ operand.Proper
  | .assigned target slot => (target.isOperand = true ∧ target.Proper) ∧ slot.Proper
  | .arrowBody _ sig slot => sig.Proper ∧ slot.Proper

/-- Left of a sign stands a sum. -/
def Addend.Proper : Addend → Prop
  | .first slot => slot.Proper
  | .next left op slot => (op.text ∈ signs ∧ left.isSum = true ∧ left.Proper) ∧ slot.Proper

/-- Left of a factor stands a term. -/
def Operand.Proper : Operand → Prop
  | .first addend => addend.Proper
  | .next left op addend => (op.text ∈ factors ∧ left.isTerm = true ∧ left.Proper) ∧ addend.Proper

def Params.Proper : Params → Prop
  | .mk target typeParams done => target.Proper ∧ ProperTypeParams typeParams ∧ ProperParams done

def Callable.Proper : Callable → Prop
  | .function owner => owner.Proper
  | .type _ slot => slot.Proper

def Generics.Proper : Generics → Prop
  | .mk target done => target.Proper ∧ ProperTypeParams done

def Generic.Proper : Generic → Prop
  | .callable target => target.Proper
  | .ofClass owner => owner.Proper

def TypeSlot.Proper : TypeSlot → Prop
  | .variable _ vars scope => ProperDeclarators vars.done ∧ scope.Proper
  | .param _ _ params => params.Proper
  | .property _ _ members => members.Proper
  | .result owner typeParams params => owner.Proper ∧ ProperTypeParams typeParams ∧ ProperParams params
  | .functionResult _ typeParams params slot => ProperTypeParams typeParams ∧ ProperParams params ∧ slot.Proper
  | .argument target done => target.Proper ∧ ProperTypes done
  | .bound _ generics => generics.Proper
  | .default _ bound generics => ProperType? bound ∧ generics.Proper

/-- Left of a bar stand plain types. -/
def Alternative.Proper : Alternative → Prop
  | .only slot => slot.Proper
  | .next first done slot =>
    ((first.isPlain = true ∧ first.Proper) ∧ (∀ ty ∈ done, ty.isPlain = true) ∧ ProperTypes done) ∧ slot.Proper

def Applied.Proper : Applied → Prop
  | .type _ _ alternative => alternative.Proper
  | .callee callee operand => callee.Proper ∧ operand.Proper
  | .heritage _ owner typeParams => owner.Proper ∧ ProperTypeParams typeParams

end

/-- Places at which all that has been read is proper. -/
def State.Proper : State → Prop
  | .statement _ scope | .statementEnd scope => scope.Proper
  | .variable vars scope | .variableNamed _ vars scope => ProperDeclarators vars.done ∧ scope.Proper
  | .returnWord _ scope | .functionWord _ scope | .classWord _ scope => scope.Proper
  | .signature target => target.Proper
  | .parameters params | .parameter params | .parameterNamed _ _ params => params.Proper
  | .signatureEnd target typeParams params => target.Proper ∧ ProperTypeParams typeParams ∧ ProperParams params
  | .classHead owner => owner.Proper
  | .base owner typeParams | .baseNamed _ owner typeParams => owner.Proper ∧ ProperTypeParams typeParams
  | .heritageEnd heritage owner typeParams => heritage.Proper ∧ owner.Proper ∧ ProperTypeParams typeParams
  | .member _ members | .memberEnd members | .memberNamed _ members | .propertyOptional _ members => members.Proper
  | .expression slot => slot.Proper
  | .arguments callee typeArgs place | .calleeEnd callee typeArgs place =>
    callee.Proper ∧ ProperTypes typeArgs ∧ place.Proper
  | .arrowBody _ sig slot => sig.Proper ∧ slot.Proper
  | .operand place => place.Proper
  | .operandEnd e place | .property e place => (e.isOperand = true ∧ e.Proper) ∧ place.Proper
  | .expressionEnd e slot => e.Proper ∧ slot.Proper
  | .newWord _ place | .newNamed _ _ _ place | .newPath _ _ _ place => place.Proper
  | .type slot => slot.Proper
  | .alternative first done slot => (Alternative.next first done slot).Proper
  | .typeNamed _ _ place | .typePath _ _ place => place.Proper
  | .typeEnd ty _ place | .bracket ty place => (ty.isPlain = true ∧ ty.Proper) ∧ place.Proper
  | .typeParam generics | .typeParamNamed _ generics => generics.Proper
  | .genericsEnd target typeParams => target.Proper ∧ ProperTypeParams typeParams
  | .complete program => program.Proper

/-- Phrases with a token offered to them such that all that has been read is proper. -/
def Focus.Proper : Focus → Prop
  | .statementEnd scope => scope.Proper
  | .memberEnd members => members.Proper
  | .variableEnd d vars scope => d.Proper ∧ ProperDeclarators vars.done ∧ scope.Proper
  | .parameterEnd p params => p.Proper ∧ params.Proper
  | .typeParamEnd p generics => p.Proper ∧ generics.Proper
  | .operandBegin operand => operand.Proper
  | .expressionBegin slot => slot.Proper
  | .alternativeBegin alternative => alternative.Proper
  | .typeBegin slot => slot.Proper
  | .signatureBegin target => target.Proper
  | .classHeadBegin owner => owner.Proper
  | .expressionEnd e slot => e.Proper ∧ slot.Proper
  | .operandEnd e operand => (e.isOperand = true ∧ e.Proper) ∧ operand.Proper
  | .typeEnd ty slot => ty.Proper ∧ slot.Proper
  | .alternativeEnd ty alternative => (ty.isPlain = true ∧ ty.Proper) ∧ alternative.Proper

section Step

attribute [local simp] properTypes_iff properTypeParams_iff properParams_iff properExprs_iff properStmts_iff
  properDeclarators_iff properMembers_iff TypeExpr.Proper ProperType? TypeParam.Proper Param.Proper Signature.Proper
  Expr.Proper ProperExpr? ArrowBody.Proper Block.Proper Stmt.Proper Declarator.Proper ClassShape.Proper Heritage.Proper
  ProperHeritage? Member.Proper Program.Proper Callee.Proper Scope.Proper Owner.Proper Members.Proper ClassOwner.Proper
  Slot.Proper Addend.Proper Operand.Proper Params.Proper Callable.Proper Generics.Proper Generic.Proper TypeSlot.Proper
  Alternative.Proper Applied.Proper State.Proper Focus.Proper

variable {t : Token} {k : Terminal} {s s' : State} {f g : Focus}

@[simp]
theorem Scope.proper_add (stmt : Stmt) (scope : Scope) : (scope.add stmt).Proper ↔ stmt.Proper ∧ scope.Proper := by
  cases scope <;> simp [Scope.add, and_left_comm]

@[simp]
theorem Members.proper_add (m : Member) (members : Members) : (members.add m).Proper ↔ m.Proper ∧ members.Proper := by
  cases members
  simp [Members.add, and_left_comm]

@[simp]
theorem Params.proper_add (p : Param) (params : Params) : (params.add p).Proper ↔ p.Proper ∧ params.Proper := by
  cases params
  simp [Params.add, and_left_comm]

@[simp]
theorem Generics.proper_add (p : TypeParam) (generics : Generics) :
    (generics.add p).Proper ↔ p.Proper ∧ generics.Proper := by
  cases generics
  simp [Generics.add, and_left_comm]

theorem Variables.proper_add {d : Declarator} {vars : Variables} (hd : d.Proper) (hv : ProperDeclarators vars.done) :
    ProperDeclarators (vars.add d).done := by
  rw [properDeclarators_iff] at *
  exact List.forall_mem_cons.2 ⟨hd, hv⟩

theorem Variables.proper_toStmt {d : Declarator} {vars : Variables} (h : ProperDeclarators (vars.add d).done) :
    (vars.add d).toStmt.Proper := by
  simpa [Variables.toStmt, Variables.add, or_imp, forall_and, and_comm] using h

theorem Owner.proper_close {sig : Signature} {body : Block} {owner : Owner} (ho : owner.Proper) (hs : sig.Proper)
    (hb : body.Proper) : (owner.close sig body).Proper := by
  cases owner <;> simp_all [Owner.close, Expr.isOperand]

theorem Members.proper_close {members : Members} (hm : members.Proper) : members.close.Proper := by
  obtain ⟨owner, typeParams, heritage, done⟩ := members
  cases owner <;> simp_all [Members.close, Expr.isOperand]

theorem Params.proper_close {params : Params} (hp : params.Proper) : params.close.Proper := by
  cases params
  simpa [Params.close] using hp

theorem Generics.proper_close {generics : Generics} (hg : generics.Proper) : generics.close.Proper := by
  cases generics
  simpa [Generics.close] using hg

theorem Applied.proper_close {args : List TypeExpr} {target : Applied} (ht : target.Proper) (ha : ProperTypes args) :
    (target.close args).Proper := by
  cases target <;> simp_all [Applied.close, TypeExpr.isPlain]

/-! ## completed expressions and types -/

theorem Callee.proper_apply {typeArgs : List TypeExpr} {args : List Expr} {callee : Callee} (hc : callee.Proper)
    (ht : ProperTypes typeArgs) (ha : ProperExprs args) :
    (callee.apply typeArgs args).isOperand = true ∧ (callee.apply typeArgs args).Proper := by
  cases callee <;> simp_all [Callee.apply, Expr.isOperand]

/-- The term that ends with an operand, and the place where it stands. -/
theorem Operand.proper_term {e : Expr} {operand : Operand} (he : e.isOperand = true ∧ e.Proper)
    (ho : operand.Proper) :
    ((operand.term e).isTerm = true ∧ (operand.term e).Proper) ∧ operand.addend.Proper := by
  cases operand with
  | first addend => exact ⟨⟨Expr.isTerm_of_isOperand he.1, he.2⟩, by simpa [Operand.addend] using ho⟩
  | next left op addend =>
    simp only [Operand.Proper] at ho
    obtain ⟨⟨hop, hterm, hleft⟩, ha⟩ := ho
    exact ⟨⟨by simpa [Operand.term, Expr.isTerm] using hop, by simp [Operand.term, Binds, hop, hterm, hleft, he]⟩, ha⟩

/-- The sum that ends with a term, and the place where it stands. -/
theorem Addend.proper_sum {e : Expr} {addend : Addend} (he : e.isTerm = true ∧ e.Proper) (ha : addend.Proper) :
    ((addend.sum e).isSum = true ∧ (addend.sum e).Proper) ∧ addend.slot.Proper := by
  cases addend with
  | first slot => exact ⟨⟨Expr.isSum_of_isTerm he.1, he.2⟩, by simpa [Addend.slot] using ha⟩
  | next left op slot =>
    simp only [Addend.Proper] at ha
    obtain ⟨⟨hop, hsum, hleft⟩, hs⟩ := ha
    exact ⟨⟨rfl, by simp [Addend.sum, Binds, hop, hsum, hleft, he]⟩, hs⟩

theorem Alternative.proper_whole {ty : TypeExpr} {alternative : Alternative} (hty : ty.isPlain = true ∧ ty.Proper)
    (ha : alternative.Proper) : (alternative.whole ty).Proper ∧ alternative.slot.Proper := by
  cases alternative <;> simp_all [Alternative.whole, Alternative.slot, or_imp]

/-! ## one token -/

theorem Focus.Passes.proper (h : f.Passes k g) (hf : f.Proper) : g.Proper := by
  cases h with
  | declaration =>
    obtain ⟨hd, hv, hs⟩ := hf
    exact (Scope.proper_add ..).2 ⟨Variables.proper_toStmt (Variables.proper_add hd hv), hs⟩
  | sum =>
    obtain ⟨hterm, ha⟩ := Operand.proper_term hf.1 hf.2
    obtain ⟨hsum, hs⟩ := Addend.proper_sum hterm ha
    exact ⟨hsum.2, hs⟩
  | union => exact Alternative.proper_whole hf.1 hf.2
  | operandOfExpression => simpa [Slot.operand] using hf
  | _ => simp_all

theorem State.Offers.proper (h : s.Offers k f) (hs : s.Proper) : f.Proper := by
  cases h with
  | functionExpression | classExpression => simpa [Slot.operand] using hs
  | _ => simp_all [TypeExpr.isPlain]

/-- A token is spelled as its kind demands. -/
def Token.Spelled (t : Token) : Prop :=
  (t.kind = .addOp → t.text ∈ signs) ∧ (t.kind = .mulOp → t.text ∈ factors)

theorem Focus.Consumes.proper (ht : t.Spelled) (h : f.Consumes t s) (hf : f.Proper) : s.Proper := by
  cases h with
  | blockEnd => 
    obtain ⟨ho, hsig, hdone⟩ := hf
    exact Owner.proper_close ho hsig (by simpa using hdone)
  | membersEnd => exact Members.proper_close hf
  | parametersEnd => exact Params.proper_close ((Params.proper_add ..).2 hf)
  | typeParamsEnd => exact Generics.proper_close ((Generics.proper_add ..).2 hf)
  | variableComma => exact ⟨Variables.proper_add hf.1 hf.2.1, hf.2.2⟩
  | argumentsEnd =>
    obtain ⟨he, hc, hta, hd, ho⟩ := hf
    refine ⟨Callee.proper_apply hc hta ?_, ho⟩
    simp_all [or_imp]
  | mulOp hk =>
    obtain ⟨hterm, ha⟩ := Operand.proper_term hf.1 hf.2
    exact ⟨⟨ht.2 hk, hterm⟩, ha⟩
  | addOp hk =>
    obtain ⟨hterm, ha⟩ := Operand.proper_term hf.1 hf.2
    obtain ⟨hsum, hs⟩ := Addend.proper_sum hterm ha
    exact ⟨⟨ht.1 hk, hsum⟩, hs⟩
  | typeArgsEnd => exact Applied.proper_close hf.2.1 (by simp_all [or_imp])
  | _ => simp_all [blockBegin, classBegin, Expr.isOperand, TypeExpr.isPlain]

theorem State.Consumes.proper (h : s.Consumes t s') (hs : s.Proper) : s'.Proper := by
  cases h with
  | noParameters => exact Params.proper_close hs
  | noArguments => exact ⟨Callee.proper_apply hs.1 hs.2.1 (by simp), hs.2.2⟩
  | _ => simp_all [blockBegin, classBegin, Expr.isOperand, TypeExpr.isPlain]

theorem Focus.Steps.proper (ht : t.Spelled) (h : f.Steps t s) (hf : f.Proper) : s.Proper := by
  induction h with
  | consume consumes => exact consumes.proper ht hf
  | pass passes _ ih => exact ih (passes.proper hf)

/-- One token keeps a place proper. -/
theorem State.proper_step (ht : t.Spelled) (hs : s.Proper) (h : s.step t = some s') : s'.Proper := by
  obtain consumes | ⟨f, offers, steps⟩ := State.step_iff.1 h
  · exact consumes.proper hs
  · exact steps.proper ht (offers.proper hs)

end Step

/-! ## reading -/

theorem spellings_addOp : ∀ s ∈ spellings, s.2 = .addOp → s.1 ∈ signs := by decide

theorem spellings_mulOp : ∀ s ∈ spellings, s.2 = .mulOp → s.1 ∈ factors := by decide

/-- A lexeme that is neither a name nor a number nor a string has one of the fixed spellings. -/
theorem mem_spellings_of_scan {admits : Terminal → Bool} {t lexeme rest : Text} {k : Terminal}
    (h : scan admits t = some (.token k, lexeme, rest)) (hk : k ≠ .name ∧ k ≠ .number ∧ k ≠ .string) :
    (lexeme, k) ∈ spellings := by
  rcases scan_token_cases h with ⟨hstring, -⟩ | ⟨rfl, -⟩ | ⟨hnumber, -⟩ | ⟨hmem, -⟩
  · exact absurd hstring hk.2.2
  · exact ((wordKind_eq admits lexeme).resolve_left hk.1).2
  · exact absurd hnumber hk.2.1
  · exact hmem

theorem spelled_of_scan {admits : Terminal → Bool} {t lexeme rest : Text} {k : Terminal}
    (h : scan admits t = some (.token k, lexeme, rest)) (pos : Pos) : Token.Spelled ⟨k, lexeme, pos⟩ := by
  constructor
  · rintro rfl
    exact spellings_addOp _ (mem_spellings_of_scan h (by decide)) rfl
  · rintro rfl
    exact spellings_mulOp _ (mem_spellings_of_scan h (by decide)) rfl

theorem Token.IsMark.spelled {t : Token} (h : t.IsMark) : t.Spelled := by
  rcases h with hk | hk <;> simp [Token.Spelled, hk]

theorem State.proper_terminated? {s s' : State} (hs : s.Proper) (h : s.terminated? = some s') : s'.Proper :=
  State.proper_step (Token.IsMark.spelled (.inl rfl)) hs h

/-- What is read keeps a place proper. -/
theorem State.Reads.proper {s s' : State} {pos : Pos} {t : Text} (h : s.Reads pos t s') (hs : s.Proper) :
    s'.Proper := by
  induction h with
  | nil => exact hs
  | @cons s s₁ s' pos t lexeme rest kind scanned read reads ih =>
    refine ih ?_
    cases kind with
    | gap =>
      obtain rfl := Option.some.inj read
      exact hs
    | lineEnd =>
      simp only [State.read, State.lineEnded?] at read
      split at read
      · exact State.proper_terminated? hs read
      · obtain rfl := Option.some.inj read
        exact hs
    | semicolon => exact State.proper_terminated? hs read
    | token k => exact State.proper_step (spelled_of_scan scanned pos) hs read

/-- The program of a source is proper. -/
theorem proper_of_parse {source : Text} {p : Program} (h : parse source = .ok p) : p.Proper := by
  obtain ⟨s, hr, hs⟩ := parse_eq_ok_iff.1 h
  have hstart : State.start.Proper := by simp [State.start, State.Proper, Scope.Proper, ProperStmts]
  have hproper := hr.proper hstart
  obtain ⟨s', hs', hf⟩ := State.conclude?_eq_some.1 hs
  have hend : s'.Proper := by
    split at hs'
    · exact State.proper_terminated? hproper hs'
    · rwa [← Option.some.inj hs']
  exact State.proper_step (Token.IsMark.spelled (.inr rfl)) hend hf

end TypeLint.Source
