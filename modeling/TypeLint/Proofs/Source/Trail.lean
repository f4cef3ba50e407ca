import TypeLint.Proofs.Source.Reading

/-!
# The statements and classes behind a place

The *trail* of a place marks each statement of the program that is complete there, and where the body of a class that
is such a statement has begun, and the name of each of its members.  A token only adds marks.

* `Mark`, `State.trail` — the marks behind a place;
* `State.trail_step`, `State.trail_read` — what is read makes the trail longer;
* `stage` — how many statements and class bodies a trail marks.
-/

namespace TypeLint.Source

/-- What can be marked in a program. -/
inductive Mark where
  /-- a statement is complete -/
  | statement
  /-- the body of a class begins -/
  | body
  /-- a member of the class has this name -/
  | member (name : Text)
deriving DecidableEq

/-- The name of a member. -/
def Member.name : Member → Ident
  | .method name _ _ => name
  | .property name _ _ _ => name

/-- The mark of a member. -/
def Member.mark (m : Member) : Mark := .member m.name.text

@[simp]
theorem Member.mark_method (name : Ident) (sig : Signature) (body : Block) :
    (Member.method name sig body).mark = .member name.text :=
  rfl

@[simp]
theorem Member.mark_property (name : Ident) (optional : Bool) (declared : Option TypeExpr) (value : Option Expr) :
    (Member.property name optional declared value).mark = .member name.text :=
  rfl

/-- The marks of a statement. -/
def Stmt.marks : Stmt → List Mark
  | .classDecl _ _ (.mk _ _ members) => .body :: members.map Member.mark ++ [.statement]
  | _ => [.statement]

/-! ## the trail of unfinished phrases -/

mutual

/-- The marks before a statement. -/
def Scope.trail : Scope → List Mark
  | .program done => done.reverse.flatMap Stmt.marks
  | .block _ owner _ _ => owner.trail

/-- The marks inside the body of a class that is a statement, where the body has these. -/
def Scope.trailInClass (body : List Mark) : Scope → List Mark
  | .program done => done.reverse.flatMap Stmt.marks ++ .body :: body
  | .block _ owner _ _ => owner.trail

/-- The marks before a body. -/
def Owner.trail : Owner → List Mark
  | .declaration _ _ scope => scope.trail
  | .function _ operand => operand.trail
  | .arrow _ slot => slot.trail
  | .method name members => members.trail [.member name.text]

/-- The marks at a member of a class, if the member itself has these. -/
def Members.trail (current : List Mark) : Members → List Mark
  | .mk owner _ _ done => owner.trailInBody (done.reverse.map Member.mark ++ current)

/-- The marks before the body of a class. -/
def ClassOwner.trail : ClassOwner → List Mark
  | .declaration _ _ scope => scope.trail
  | .expression _ operand => operand.trail

/-- The marks inside the body of a class, where the body has these. -/
def ClassOwner.trailInBody (body : List Mark) : ClassOwner → List Mark
  | .declaration _ _ scope => scope.trailInClass body
  | .expression _ operand => operand.trail

/-- The marks before an expression. -/
def Slot.trail : Slot → List Mark
  | .statement scope => scope.trail
  | .returned _ scope => scope.trail
  | .initial _ _ _ scope => scope.trail
  | .default _ _ _ params => params.trail
  | .property name _ _ members => members.trail [.member name.text]
  | .argument _ _ _ operand => operand.trail
  | .assigned _ slot => slot.trail
  | .arrowBody _ _ slot => slot.trail

/-- The marks before a term. -/
def Addend.trail : Addend → List Mark
  | .first slot => slot.trail
  | .next _ _ slot => slot.trail

/-- The marks before an operand. -/
def Operand.trail : Operand → List Mark
  | .first addend => addend.trail
  | .next _ _ addend => addend.trail

/-- The marks before a parameter. -/
def Params.trail : Params → List Mark
  | .mk target _ _ => target.trail

/-- The marks before parameters. -/
def Callable.trail : Callable → List Mark
  | .function owner => owner.trail
  | .type _ slot => slot.trail

/-- The marks before a type parameter. -/
def Generics.trail : Generics → List Mark
  | .mk target _ => target.trail

/-- The marks before type parameters. -/
def Generic.trail : Generic → List Mark
  | .callable target => target.trail
  | .ofClass owner => owner.trail

/-- The marks before a type. -/
def TypeSlot.trail : TypeSlot → List Mark
  | .variable _ _ scope => scope.trail
  | .param _ _ params => params.trail
  | .property name _ members => members.trail [.member name.text]
  | .result owner _ _ => owner.trail
  | .functionResult _ _ _ slot => slot.trail
  | .argument target _ => target.trail
  | .bound _ generics => generics.trail
  | .default _ _ generics => generics.trail

/-- The marks before a member of a union. -/
def Alternative.trail : Alternative → List Mark
  | .only slot => slot.trail
  | .next _ _ slot => slot.trail

/-- The marks before type arguments. -/
def Applied.trail : Applied → List Mark
  | .type _ _ alternative => alternative.trail
  | .callee _ operand => operand.trail
  | .heritage _ owner _ => owner.trail

end

/-- The marks behind a place. -/
def State.trail : State → List Mark
  | .statement _ scope | .statementEnd scope | .variable _ scope | .variableNamed _ _ scope
  | .returnWord _ scope | .functionWord _ scope | .classWord _ scope => scope.trail
  | .signature target | .signatureEnd target _ _ => target.trail
  | .parameters params | .parameter params | .parameterNamed _ _ params => params.trail
  | .classHead owner | .base owner _ | .baseNamed _ owner _ | .heritageEnd _ owner _ => owner.trail
  | .member _ members | .memberEnd members => members.trail []
  | .memberNamed name members | .propertyOptional name members => members.trail [.member name.text]
  | .expression slot | .arrowBody _ _ slot | .expressionEnd _ slot => slot.trail
  | .arguments _ _ place => place.trail
  | .operand place | .operandEnd _ place | .property _ place | .calleeEnd _ _ place | .newWord _ place
  | .newNamed _ _ _ place | .newPath _ _ _ place => place.trail
  | .type slot | .alternative _ _ slot => slot.trail
  | .typeNamed _ _ place | .typePath _ _ place | .typeEnd _ _ place | .bracket _ place => place.trail
  | .typeParam generics | .typeParamNamed _ generics => generics.trail
  | .genericsEnd target _ => target.trail
  | .complete program => program.body.flatMap Stmt.marks

/-- The marks behind a phrase that a token is offered to. -/
def Focus.trail : Focus → List Mark
  | .statementEnd scope | .variableEnd _ _ scope => scope.trail
  | .memberEnd members => members.trail []
  | .parameterEnd _ params => params.trail
  | .typeParamEnd _ generics => generics.trail
  | .operandBegin operand | .operandEnd _ operand => operand.trail
  | .expressionBegin slot | .expressionEnd _ slot => slot.trail
  | .alternativeBegin alternative | .alternativeEnd _ alternative => alternative.trail
  | .typeBegin slot | .typeEnd _ slot => slot.trail
  | .signatureBegin target => target.trail
  | .classHeadBegin owner => owner.trail

/-! ## what is complete is marked -/

theorem Scope.trail_add (s : Stmt) (scope : Scope) : scope.trail <+: (scope.add s).trail := by
  cases scope with
  | program done => simp [Scope.add, Scope.trail]
  | block pos owner sig done => simp [Scope.add, Scope.trail]

@[simp]
theorem Members.trail_add (m : Member) (members : Members) :
    (members.add m).trail [] = members.trail [m.mark] := by
  cases members
  simp [Members.add, Members.trail]

@[simp]
theorem Params.trail_add (p : Param) (params : Params) : (params.add p).trail = params.trail := by
  cases params
  simp [Params.add, Params.trail]

@[simp]
theorem Generics.trail_add (p : TypeParam) (generics : Generics) : (generics.add p).trail = generics.trail := by
  cases generics
  simp [Generics.add, Generics.trail]

theorem Scope.trailInClass_mono {body body' : List Mark} (h : body <+: body') (scope : Scope) :
    scope.trailInClass body <+: scope.trailInClass body' := by
  cases scope with
  | program done => simpa [Scope.trailInClass] using h
  | block pos owner sig done => simp [Scope.trailInClass]

theorem Members.trail_nil_le (current : List Mark) (members : Members) :
    members.trail [] <+: members.trail current := by
  obtain ⟨owner, typeParams, heritage, done⟩ := members
  cases owner with
  | declaration pos name scope =>
    refine Scope.trailInClass_mono ?_ scope
    simp
  | expression pos operand => simp [Members.trail, ClassOwner.trailInBody]

theorem Members.trail_close (members : Members) : members.trail [] <+: members.close.trail := by
  obtain ⟨owner, typeParams, heritage, done⟩ := members
  cases owner with
  | declaration pos name scope =>
    cases scope with
    | program stmts =>
      simp [Members.close, State.trail, Members.trail, ClassOwner.trailInBody, Scope.trailInClass, Scope.trail,
        Scope.add, Stmt.marks]
    | block pos owner sig stmts =>
      simp [Members.close, State.trail, Members.trail, ClassOwner.trailInBody, Scope.trailInClass, Scope.trail,
        Scope.add]
  | expression pos operand =>
    simp [Members.close, State.trail, Members.trail, ClassOwner.trailInBody]

theorem classBegin_trail (owner : ClassOwner) (typeParams : List TypeParam) (heritage : Option Heritage) :
    owner.trail <+: (classBegin owner typeParams heritage).trail := by
  cases owner with
  | declaration pos name scope =>
    cases scope <;>
      simp [classBegin, State.trail, Members.trail, ClassOwner.trail, ClassOwner.trailInBody, Scope.trail,
        Scope.trailInClass]
  | expression pos operand => simp [classBegin, State.trail, Members.trail, ClassOwner.trail, ClassOwner.trailInBody]

@[simp]
theorem Slot.trail_operand (slot : Slot) : slot.operand.trail = slot.trail := by
  simp [Slot.operand, Operand.trail, Addend.trail]

@[simp]
theorem Addend.trail_slot (addend : Addend) : addend.slot.trail = addend.trail := by
  cases addend <;> simp [Addend.slot, Addend.trail]

@[simp]
theorem Operand.trail_addend (operand : Operand) : operand.addend.trail = operand.trail := by
  cases operand <;> simp [Operand.addend, Operand.trail]

@[simp]
theorem Alternative.trail_slot (alternative : Alternative) : alternative.slot.trail = alternative.trail := by
  cases alternative <;> simp [Alternative.slot, Alternative.trail]

/-! ## one token -/

section Step

attribute [local simp] State.trail Focus.trail Owner.trail ClassOwner.trail Slot.trail Addend.trail Operand.trail
  Params.trail Callable.trail Generics.trail Generic.trail TypeSlot.trail Alternative.trail Applied.trail

variable {t : Token} {k : Terminal} {s s' : State} {f g : Focus}

theorem Owner.trail_close (sig : Signature) (body : Block) (owner : Owner) :
    owner.trail <+: (owner.close sig body).trail := by
  cases owner with
  | declaration pos name scope => exact scope.trail_add _
  | function | arrow | method => simp [Owner.close]

theorem Params.trail_close (params : Params) : params.close.trail = params.trail := by
  cases params
  simp [Params.close]

theorem Generics.trail_close (generics : Generics) : generics.close.trail = generics.trail := by
  cases generics
  simp [Generics.close]

theorem Applied.trail_close (args : List TypeExpr) (target : Applied) : (target.close args).trail = target.trail := by
  cases target <;> simp [Applied.close]

theorem Focus.Passes.trail_le (h : f.Passes k g) : f.trail <+: g.trail := by
  cases h with
  | declaration | statementOfExpression | returnOfExpression => exact Scope.trail_add ..
  | _ => simp

theorem State.Offers.trail_le (h : s.Offers k f) : s.trail <+: f.trail := by
  cases h with
  | returnNothing => exact Scope.trail_add ..
  | _ => simp

theorem Focus.Consumes.trail_le (h : f.Consumes t s) : f.trail <+: s.trail := by
  cases h with
  | blockEnd => exact Owner.trail_close ..
  | finish => simp [Scope.trail]
  | membersEnd => exact Members.trail_close _
  | classBrace => exact classBegin_trail ..
  | parametersEnd =>
    rw [Params.trail_close]
    simp
  | typeParamsEnd =>
    rw [Generics.trail_close]
    simp
  | typeArgsEnd =>
    rw [Applied.trail_close]
    simp
  | _ => simp [blockBegin, Scope.trail]

theorem State.Consumes.trail_le (h : s.Consumes t s') : s.trail <+: s'.trail := by
  cases h with
  | noParameters =>
    rw [Params.trail_close]
    simp
  | genericsBrace | baseBrace | heritageBrace => exact classBegin_trail ..
  | memberName => exact Members.trail_nil_le ..
  | _ => simp [blockBegin, Scope.trail]

theorem Focus.Steps.trail_le (h : f.Steps t s) : f.trail <+: s.trail := by
  induction h with
  | consume consumes => exact consumes.trail_le
  | pass passes _ ih => exact passes.trail_le.trans ih

/-- A token only adds marks to the trail. -/
theorem State.trail_step (h : s.step t = some s') : s.trail <+: s'.trail := by
  obtain consumes | ⟨f, offers, steps⟩ := State.step_iff.1 h
  · exact consumes.trail_le
  · exact offers.trail_le.trans steps.trail_le

end Step

/-! ## one lexeme -/

theorem State.trail_lineEnded? {s s' : State} (h : s.lineEnded? = some s') : s.trail <+: s'.trail := by
  unfold State.lineEnded? at h
  split at h
  · exact State.trail_step h
  · obtain rfl := Option.some.inj h
    exact List.prefix_rfl

theorem State.trail_read {s s' : State} {pos : Pos} {kind : LexemeKind} {lexeme : Text}
    (h : s.read pos kind lexeme = some s') : s.trail <+: s'.trail := by
  cases kind with
  | gap =>
    obtain rfl := Option.some.inj h
    exact List.prefix_rfl
  | lineEnd => exact State.trail_lineEnded? h
  | semicolon => exact State.trail_step (t := ⟨.terminator, [], .start⟩) h
  | token k => exact State.trail_step (t := ⟨k, lexeme, pos⟩) h

/-! ## stages -/

/-- A mark that is not a member. -/
def Mark.isBorder : Mark → Bool
  | .member _ => false
  | _ => true

/-- The number of statements that are complete and of class bodies that have begun. -/
def stage (marks : List Mark) : Nat := marks.countP Mark.isBorder

@[simp]
theorem stage_nil : stage [] = 0 := rfl

@[simp]
theorem stage_statement (marks : List Mark) : stage (.statement :: marks) = stage marks + 1 :=
  List.countP_cons_of_pos rfl

@[simp]
theorem stage_body (marks : List Mark) : stage (.body :: marks) = stage marks + 1 := List.countP_cons_of_pos rfl

@[simp]
theorem stage_append (marks marks' : List Mark) : stage (marks ++ marks') = stage marks + stage marks' :=
  List.countP_append

theorem stage_le {marks marks' : List Mark} (h : marks <+: marks') : stage marks ≤ stage marks' :=
  h.sublist.countP_le

end TypeLint.Source
