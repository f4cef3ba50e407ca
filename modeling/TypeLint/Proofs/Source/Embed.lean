import TypeLint.Proofs.Source.Move
import TypeLint.Proofs.Source.Trail

/-!
# Reading a source inside another

A source that is written inside another one is read in the same way: the chain of unfinished phrases ends with a
scope of the outer source in place of the program, and all positions are moved.  The members of a class can also be
written inside another class; then the chain ends with that class, and the reading goes on in the same way until the
inner class is closed.

* `Embedding` — where the inner source is written;
* `State.embed` — a place of the inner source as a place of the outer one;
* `State.step_embed` — a token leads from embedded places to embedded places.
-/

namespace TypeLint.Source

/-- Where a source is written inside another one. -/
structure Embedding where
  /-- where the positions of the inner source are in the outer one -/
  move : Pos → Pos
  /-- the scope that the statements of the inner source belong to, the last one first -/
  scope : List Stmt → Scope
  add_scope : ∀ (s : Stmt) (done : List Stmt), (scope done).add s = scope (s :: done)
  /-- the statements stand directly in a program or block -/
  brackets_scope : ∀ done : List Stmt, (scope done).brackets.1 = .empty
  /-- the class that the members of the classes of the inner program are written in, if it is not their own -/
  body : Option Members := none

theorem Scope.add_program (s : Stmt) (done : List Stmt) : (Scope.program done).add s = .program (s :: done) := rfl

theorem Scope.brackets_program (done : List Stmt) : (Scope.program done).brackets.1 = .empty := rfl

/-- The members of a class behind those of another one. -/
def Members.behind : Members → Members → Members
  | .mk owner typeParams heritage before, .mk _ _ _ done => .mk owner typeParams heritage (done ++ before)

/-- Members of the inner source where they are written in the outer one. -/
def Embedding.place (c : Embedding) (owner : ClassOwner) (members : Members) : Members :=
  match owner with
  | .declaration _ _ (.program _) =>
    match c.body with
    | some outer => outer.behind members
    | none => members
  | _ => members

/-- A declaration of variables, moved. -/
def Variables.move (f : Pos → Pos) (vars : Variables) : Variables :=
  ⟨f vars.pos, vars.binder, vars.done.map (Declarator.move f)⟩

/-- A callee, moved. -/
def Callee.move (f : Pos → Pos) : Callee → Callee
  | .call callee => .call (callee.move f)
  | .new pos head path => .new (f pos) (head.move f) (path.map (Ident.move f))

variable (c : Embedding)

mutual

/-- The scope inside the outer source. -/
def Scope.embed : Scope → Scope
  | .program done => c.scope (done.map (Stmt.move c.move))
  | .block pos owner sig done =>
    .block (c.move pos) owner.embed (sig.move c.move) (done.map (Stmt.move c.move))

/-- The owner of a body inside the outer source. -/
def Owner.embed : Owner → Owner
  | .declaration pos name scope => .declaration (c.move pos) (name.move c.move) scope.embed
  | .function pos operand => .function (c.move pos) operand.embed
  | .arrow pos slot => .arrow (c.move pos) slot.embed
  | .method name members => .method (name.move c.move) members.embed

/-- The members of a class inside the outer source. -/
def Members.embed : Members → Members
  | .mk owner typeParams heritage done =>
    c.place owner (.mk owner.embed (typeParams.map (TypeParam.move c.move)) (heritage.map (Heritage.move c.move))
      (done.map (Member.move c.move)))

/-- The owner of a class body inside the outer source. -/
def ClassOwner.embed : ClassOwner → ClassOwner
  | .declaration pos name scope => .declaration (c.move pos) (name.move c.move) scope.embed
  | .expression pos operand => .expression (c.move pos) operand.embed

/-- The place of an expression inside the outer source. -/
def Slot.embed : Slot → Slot
  | .statement scope => .statement scope.embed
  | .returned pos scope => .returned (c.move pos) scope.embed
  | .initial name declared vars scope =>
    .initial (name.move c.move) (declared.map (TypeExpr.move c.move)) (vars.move c.move) scope.embed
  | .default name optional declared params =>
    .default (name.move c.move) optional (declared.map (TypeExpr.move c.move)) params.embed
  | .property name optional declared members =>
    .property (name.move c.move) optional (declared.map (TypeExpr.move c.move)) members.embed
  | .argument callee typeArgs done operand =>
    .argument (callee.move c.move) (typeArgs.map (TypeExpr.move c.move)) (done.map (Expr.move c.move))
      operand.embed
  | .assigned target slot => .assigned (target.move c.move) slot.embed
  | .arrowBody pos sig slot => .arrowBody (c.move pos) (sig.move c.move) slot.embed

/-- The place of a term inside the outer source. -/
def Addend.embed : Addend → Addend
  | .first slot => .first slot.embed
  | .next left op slot => .next (left.move c.move) (op.move c.move) slot.embed

/-- The place of an operand inside the outer source. -/
def Operand.embed : Operand → Operand
  | .first addend => .first addend.embed
  | .next left op addend => .next (left.move c.move) (op.move c.move) addend.embed

/-- The place of a parameter inside the outer source. -/
def Params.embed : Params → Params
  | .mk target typeParams done =>
    .mk target.embed (typeParams.map (TypeParam.move c.move)) (done.map (Param.move c.move))

/-- What has parameters, inside the outer source. -/
def Callable.embed : Callable → Callable
  | .function owner => .function owner.embed
  | .type pos slot => .type (c.move pos) slot.embed

/-- The place of a type parameter inside the outer source. -/
def Generics.embed : Generics → Generics
  | .mk target done => .mk target.embed (done.map (TypeParam.move c.move))

/-- What has type parameters, inside the outer source. -/
def Generic.embed : Generic → Generic
  | .callable target => .callable target.embed
  | .ofClass owner => .ofClass owner.embed

/-- The place of a type inside the outer source. -/
def TypeSlot.embed : TypeSlot → TypeSlot
  | .variable name vars scope => .variable (name.move c.move) (vars.move c.move) scope.embed
  | .param name optional params => .param (name.move c.move) optional params.embed
  | .property name optional members => .property (name.move c.move) optional members.embed
  | .result owner typeParams params =>
    .result owner.embed (typeParams.map (TypeParam.move c.move)) (params.map (Param.move c.move))
  | .functionResult pos typeParams params slot =>
    .functionResult (c.move pos) (typeParams.map (TypeParam.move c.move)) (params.map (Param.move c.move))
      slot.embed
  | .argument target done => .argument target.embed (done.map (TypeExpr.move c.move))
  | .bound name generics => .bound (name.move c.move) generics.embed
  | .default name bound generics =>
    .default (name.move c.move) (bound.map (TypeExpr.move c.move)) generics.embed

/-- The place of a member of a union inside the outer source. -/
def Alternative.embed : Alternative → Alternative
  | .only slot => .only slot.embed
  | .next first done slot => .next (first.move c.move) (done.map (TypeExpr.move c.move)) slot.embed

/-- What has type arguments, inside the outer source. -/
def Applied.embed : Applied → Applied
  | .type head path alternative =>
    .type (head.move c.move) (path.map (Ident.move c.move)) alternative.embed
  | .callee callee operand => .callee (callee.move c.move) operand.embed
  | .heritage base owner typeParams =>
    .heritage (base.move c.move) owner.embed (typeParams.map (TypeParam.move c.move))

end

/-- A place of the inner source as a place of the outer one. -/
def State.embed : State → State
  | .statement entry scope => .statement entry (scope.embed c)
  | .statementEnd scope => .statementEnd (scope.embed c)
  | .variable vars scope => .variable (vars.move c.move) (scope.embed c)
  | .variableNamed name vars scope => .variableNamed (name.move c.move) (vars.move c.move) (scope.embed c)
  | .returnWord pos scope => .returnWord (c.move pos) (scope.embed c)
  | .functionWord pos scope => .functionWord (c.move pos) (scope.embed c)
  | .signature target => .signature (target.embed c)
  | .parameters params => .parameters (params.embed c)
  | .parameter params => .parameter (params.embed c)
  | .parameterNamed name optional params => .parameterNamed (name.move c.move) optional (params.embed c)
  | .signatureEnd target typeParams params =>
    .signatureEnd (target.embed c) (typeParams.map (TypeParam.move c.move)) (params.map (Param.move c.move))
  | .classWord pos scope => .classWord (c.move pos) (scope.embed c)
  | .classHead owner => .classHead (owner.embed c)
  | .base owner typeParams => .base (owner.embed c) (typeParams.map (TypeParam.move c.move))
  | .baseNamed root owner typeParams =>
    .baseNamed (root.move c.move) (owner.embed c) (typeParams.map (TypeParam.move c.move))
  | .heritageEnd heritage owner typeParams =>
    .heritageEnd (heritage.move c.move) (owner.embed c) (typeParams.map (TypeParam.move c.move))
  | .member entry members => .member entry (members.embed c)
  | .memberEnd members => .memberEnd (members.embed c)
  | .memberNamed name members => .memberNamed (name.move c.move) (members.embed c)
  | .propertyOptional name members => .propertyOptional (name.move c.move) (members.embed c)
  | .expression slot => .expression (slot.embed c)
  | .arguments callee typeArgs place =>
    .arguments (callee.move c.move) (typeArgs.map (TypeExpr.move c.move)) (place.embed c)
  | .arrowBody pos sig slot => .arrowBody (c.move pos) (sig.move c.move) (slot.embed c)
  | .operand place => .operand (place.embed c)
  | .operandEnd e place => .operandEnd (e.move c.move) (place.embed c)
  | .expressionEnd e slot => .expressionEnd (e.move c.move) (slot.embed c)
  | .property object place => .property (object.move c.move) (place.embed c)
  | .calleeEnd callee typeArgs place =>
    .calleeEnd (callee.move c.move) (typeArgs.map (TypeExpr.move c.move)) (place.embed c)
  | .newWord pos place => .newWord (c.move pos) (place.embed c)
  | .newNamed pos head path place =>
    .newNamed (c.move pos) (head.move c.move) (path.map (Ident.move c.move)) (place.embed c)
  | .newPath pos head path place =>
    .newPath (c.move pos) (head.move c.move) (path.map (Ident.move c.move)) (place.embed c)
  | .type slot => .type (slot.embed c)
  | .alternative first done slot =>
    .alternative (first.move c.move) (done.map (TypeExpr.move c.move)) (slot.embed c)
  | .typeNamed head path place => .typeNamed (head.move c.move) (path.map (Ident.move c.move)) (place.embed c)
  | .typePath head path place => .typePath (head.move c.move) (path.map (Ident.move c.move)) (place.embed c)
  | .typeEnd t applied place => .typeEnd (t.move c.move) applied (place.embed c)
  | .bracket element place => .bracket (element.move c.move) (place.embed c)
  | .typeParam generics => .typeParam (generics.embed c)
  | .typeParamNamed name generics => .typeParamNamed (name.move c.move) (generics.embed c)
  | .genericsEnd target typeParams => .genericsEnd (target.embed c) (typeParams.map (TypeParam.move c.move))
  | .complete program => .complete program

/-- A phrase of the inner source as a phrase of the outer one. -/
def Focus.embed : Focus → Focus
  | .statementEnd scope => .statementEnd (scope.embed c)
  | .memberEnd members => .memberEnd (members.embed c)
  | .variableEnd d vars scope => .variableEnd (d.move c.move) (vars.move c.move) (scope.embed c)
  | .parameterEnd p params => .parameterEnd (p.move c.move) (params.embed c)
  | .typeParamEnd p generics => .typeParamEnd (p.move c.move) (generics.embed c)
  | .operandBegin operand => .operandBegin (operand.embed c)
  | .expressionBegin slot => .expressionBegin (slot.embed c)
  | .alternativeBegin alternative => .alternativeBegin (alternative.embed c)
  | .typeBegin slot => .typeBegin (slot.embed c)
  | .signatureBegin target => .signatureBegin (target.embed c)
  | .classHeadBegin owner => .classHeadBegin (owner.embed c)
  | .expressionEnd e slot => .expressionEnd (e.move c.move) (slot.embed c)
  | .operandEnd e operand => .operandEnd (e.move c.move) (operand.embed c)
  | .typeEnd ty slot => .typeEnd (ty.move c.move) (slot.embed c)
  | .alternativeEnd ty alternative => .alternativeEnd (ty.move c.move) (alternative.embed c)

/-! ## brackets -/

theorem Members.brackets_fst (members : Members) : members.brackets.1 = .empty := by
  cases members
  rfl

mutual

theorem Scope.brackets_embed : ∀ scope : Scope, (scope.embed c).brackets.1 = scope.brackets.1
  | .program done => by simp [Scope.embed, Scope.brackets, c.brackets_scope, Brackets.none]
  | .block .. => by simp [Scope.embed, Scope.brackets, Brackets.openBrace]

theorem Owner.brackets_embed : ∀ owner : Owner, (owner.embed c).brackets.1 = owner.brackets.1
  | .declaration _ _ scope => by simp [Owner.embed, Owner.brackets, Scope.brackets_embed scope]
  | .function _ operand => by simp [Owner.embed, Owner.brackets, Operand.brackets_embed operand]
  | .arrow _ slot => by simp [Owner.embed, Owner.brackets, Slot.brackets_embed slot]
  | .method _ members => by simp [Owner.embed, Owner.brackets, Members.brackets_embed members]

theorem Members.brackets_embed : ∀ members : Members, (members.embed c).brackets.1 = members.brackets.1
  | members => by rw [Members.brackets_fst, Members.brackets_fst]

theorem ClassOwner.brackets_embed : ∀ owner : ClassOwner, (owner.embed c).brackets.1 = owner.brackets.1
  | .declaration _ _ scope => by simp [ClassOwner.embed, ClassOwner.brackets, Scope.brackets_embed scope]
  | .expression _ operand => by simp [ClassOwner.embed, ClassOwner.brackets, Operand.brackets_embed operand]

theorem Slot.brackets_embed : ∀ slot : Slot, (slot.embed c).brackets.1 = slot.brackets.1
  | .statement scope | .returned _ scope | .initial _ _ _ scope => by
    simp [Slot.embed, Slot.brackets, Scope.brackets_embed scope]
  | .default _ _ _ params => by simp [Slot.embed, Slot.brackets, Params.brackets_embed params]
  | .property _ _ _ members => by simp [Slot.embed, Slot.brackets, Members.brackets_embed members]
  | .argument _ _ _ operand => by
    simp [Slot.embed, Slot.brackets, Brackets.openParen, Operand.brackets_embed operand]
  | .assigned _ slot | .arrowBody _ _ slot => by simp [Slot.embed, Slot.brackets, Slot.brackets_embed slot]

theorem Addend.brackets_embed : ∀ addend : Addend, (addend.embed c).brackets.1 = addend.brackets.1
  | .first slot | .next _ _ slot => by simp [Addend.embed, Addend.brackets, Slot.brackets_embed slot]

theorem Operand.brackets_embed : ∀ operand : Operand, (operand.embed c).brackets.1 = operand.brackets.1
  | .first addend | .next _ _ addend => by
    simp [Operand.embed, Operand.brackets, Addend.brackets_embed addend]

theorem Params.brackets_embed : ∀ params : Params, (params.embed c).brackets.1 = params.brackets.1
  | .mk target _ _ => by simp [Params.embed, Params.brackets, Brackets.openParen, Callable.brackets_embed target]

theorem Callable.brackets_embed : ∀ target : Callable, (target.embed c).brackets.1 = target.brackets.1
  | .function owner => by simp [Callable.embed, Callable.brackets, Owner.brackets_embed owner]
  | .type _ slot => by simp [Callable.embed, Callable.brackets, TypeSlot.brackets_embed slot]

theorem Generics.brackets_embed : ∀ generics : Generics, (generics.embed c).brackets.1 = generics.brackets.1
  | .mk target _ => by
    simp [Generics.embed, Generics.brackets, Brackets.openAngle, Generic.brackets_embed target]

theorem Generic.brackets_embed : ∀ target : Generic, (target.embed c).brackets.1 = target.brackets.1
  | .callable target => by simp [Generic.embed, Generic.brackets, Callable.brackets_embed target]
  | .ofClass owner => by simp [Generic.embed, Generic.brackets, ClassOwner.brackets_embed owner]

theorem TypeSlot.brackets_embed : ∀ slot : TypeSlot, (slot.embed c).brackets.1 = slot.brackets.1
  | .variable _ _ scope => by simp [TypeSlot.embed, TypeSlot.brackets, Scope.brackets_embed scope]
  | .param _ _ params => by simp [TypeSlot.embed, TypeSlot.brackets, Params.brackets_embed params]
  | .property _ _ members => by simp [TypeSlot.embed, TypeSlot.brackets, Members.brackets_embed members]
  | .result owner _ _ => by simp [TypeSlot.embed, TypeSlot.brackets, Owner.brackets_embed owner]
  | .functionResult _ _ _ slot => by simp [TypeSlot.embed, TypeSlot.brackets, TypeSlot.brackets_embed slot]
  | .argument target _ => by
    simp [TypeSlot.embed, TypeSlot.brackets, Brackets.openAngle, Applied.brackets_embed target]
  | .bound _ generics | .default _ _ generics => by
    simp [TypeSlot.embed, TypeSlot.brackets, Generics.brackets_embed generics]

theorem Alternative.brackets_embed : ∀ alternative : Alternative,
    (alternative.embed c).brackets.1 = alternative.brackets.1
  | .only slot | .next _ _ slot => by
    simp [Alternative.embed, Alternative.brackets, TypeSlot.brackets_embed slot]

theorem Applied.brackets_embed : ∀ target : Applied, (target.embed c).brackets.1 = target.brackets.1
  | .type _ _ alternative => by simp [Applied.embed, Applied.brackets, Alternative.brackets_embed alternative]
  | .callee _ operand => by simp [Applied.embed, Applied.brackets, Operand.brackets_embed operand]
  | .heritage _ owner _ => by simp [Applied.embed, Applied.brackets, ClassOwner.brackets_embed owner]

end

theorem State.brackets_embed (s : State) : (s.embed c).brackets.1 = s.brackets.1 := by
  cases s <;>
    simp [State.embed, State.brackets, Brackets.openParen, Scope.brackets_embed, Members.brackets_embed,
      ClassOwner.brackets_embed, Slot.brackets_embed, Operand.brackets_embed, Params.brackets_embed,
      Callable.brackets_embed, Generics.brackets_embed, Generic.brackets_embed, TypeSlot.brackets_embed,
      Alternative.brackets_embed]

theorem State.canEnd_embed (s : State) : (s.embed c).canEnd = s.canEnd := by
  cases s with
  | signature target =>
    cases target with
    | function owner => cases owner <;> rfl
    | type pos slot => rfl
  | classHead owner => cases owner <;> rfl
  | _ => rfl

/-! ## what is built is embedded part by part -/

section Parts

variable {c}

@[simp]
theorem Token.kind_move (f : Pos → Pos) (t : Token) : (t.move f).kind = t.kind := rfl

@[simp]
theorem Token.text_move (f : Pos → Pos) (t : Token) : (t.move f).text = t.text := rfl

@[simp]
theorem Token.pos_move (f : Pos → Pos) (t : Token) : (t.move f).pos = f t.pos := rfl

@[simp]
theorem Token.ident_move (f : Pos → Pos) (t : Token) : (t.move f).ident = t.ident.move f := rfl

@[simp]
theorem Scope.embed_add (s : Stmt) (scope : Scope) :
    (scope.add s).embed c = (scope.embed c).add (s.move c.move) := by
  cases scope with
  | program done => rw [Scope.add, Scope.embed, Scope.embed, c.add_scope, List.map_cons]
  | block pos owner sig done => simp [Scope.add, Scope.embed]

@[simp]
theorem Members.embed_add (m : Member) (members : Members) :
    (members.add m).embed c = (members.embed c).add (m.move c.move) := by
  obtain ⟨owner, typeParams, heritage, done⟩ := members
  rw [Members.add, Members.embed, Members.embed, List.map_cons]
  unfold Embedding.place
  split
  · cases c.body with
    | none => rfl
    | some outer =>
      cases outer
      rfl
  · rfl

@[simp]
theorem Params.embed_add (p : Param) (params : Params) :
    (params.add p).embed c = (params.embed c).add (p.move c.move) := by
  cases params
  simp [Params.add, Params.embed]

@[simp]
theorem Generics.embed_add (p : TypeParam) (generics : Generics) :
    (generics.add p).embed c = (generics.embed c).add (p.move c.move) := by
  cases generics
  simp [Generics.add, Generics.embed]

@[simp]
theorem Variables.move_add (f : Pos → Pos) (d : Declarator) (vars : Variables) :
    (vars.add d).move f = (vars.move f).add (d.move f) := by
  simp [Variables.add, Variables.move]

@[simp]
theorem Variables.move_toStmt (f : Pos → Pos) (vars : Variables) :
    vars.toStmt.move f = (vars.move f).toStmt := by
  simp [Variables.toStmt, Variables.move, Stmt.move]

@[simp]
theorem Callee.move_apply (f : Pos → Pos) (typeArgs : List TypeExpr) (args : List Expr) (callee : Callee) :
    (callee.apply typeArgs args).move f =
      (callee.move f).apply (typeArgs.map (TypeExpr.move f)) (args.map (Expr.move f)) := by
  cases callee <;> simp [Callee.apply, Callee.move, Expr.move]

@[simp]
theorem Slot.embed_operand (slot : Slot) : slot.operand.embed c = (slot.embed c).operand := by
  simp [Slot.operand, Operand.embed, Addend.embed]

@[simp]
theorem Addend.embed_slot (addend : Addend) : addend.slot.embed c = (addend.embed c).slot := by
  cases addend <;> simp [Addend.slot, Addend.embed]

@[simp]
theorem Addend.move_sum (e : Expr) (addend : Addend) :
    (addend.sum e).move c.move = (addend.embed c).sum (e.move c.move) := by
  cases addend <;> simp [Addend.sum, Addend.embed, Expr.move]

@[simp]
theorem Operand.embed_addend (operand : Operand) : operand.addend.embed c = (operand.embed c).addend := by
  cases operand <;> simp [Operand.addend, Operand.embed]

@[simp]
theorem Operand.move_term (e : Expr) (operand : Operand) :
    (operand.term e).move c.move = (operand.embed c).term (e.move c.move) := by
  cases operand <;> simp [Operand.term, Operand.embed, Expr.move]

@[simp]
theorem Alternative.embed_slot (alternative : Alternative) :
    alternative.slot.embed c = (alternative.embed c).slot := by
  cases alternative <;> simp [Alternative.slot, Alternative.embed]

@[simp]
theorem Alternative.move_whole (ty : TypeExpr) (alternative : Alternative) :
    (alternative.whole ty).move c.move = (alternative.embed c).whole (ty.move c.move) := by
  cases alternative <;> simp [Alternative.whole, Alternative.embed, TypeExpr.move]

end Parts

/-! ## one token -/

section Step

attribute [local simp] Scope.embed Owner.embed ClassOwner.embed Slot.embed Addend.embed
  Operand.embed Params.embed Callable.embed Generics.embed Generic.embed TypeSlot.embed Alternative.embed
  Applied.embed Literal.move TypeExpr.move TypeParam.move Param.move Signature.move Expr.move ArrowBody.move
  Block.move Stmt.move Declarator.move ClassShape.move Heritage.move Member.move

variable {c} {t : Token} {k : Terminal} {s s' : State} {f g : Focus}

/-! ### the body of a class -/

theorem Embedding.place_of_body_eq_none (hc : c.body = none) (owner : ClassOwner) (members : Members) :
    c.place owner members = members := by
  unfold Embedding.place
  rw [hc]
  split <;> rfl

-- Where the members of a class are written in another one, the class itself must be neither opened nor closed.
theorem classBegin_embed {owner : ClassOwner} {typeParams : List TypeParam} {heritage : Option Heritage}
    (hc : c.body = none ∨ stage (classBegin owner typeParams heritage).trail = stage owner.trail) :
    (classBegin owner typeParams heritage).embed c =
      classBegin (owner.embed c) (typeParams.map (TypeParam.move c.move)) (heritage.map (Heritage.move c.move)) := by
  rw [classBegin, State.embed, Members.embed, classBegin]
  rcases hc with hc | hc
  · rw [Embedding.place_of_body_eq_none hc, List.map_nil]
  · cases owner with
    | declaration pos name scope =>
      cases scope with
      | program done =>
        simp [classBegin, State.trail, Members.trail, ClassOwner.trailInBody, Scope.trailInClass, ClassOwner.trail,
          Scope.trail] at hc
      | block => rfl
    | expression => rfl

theorem Members.close_embed {members : Members}
    (hc : c.body = none ∨ stage members.close.trail = stage (members.trail [])) :
    members.close.embed c = (members.embed c).close := by
  obtain ⟨owner, typeParams, heritage, done⟩ := members
  rw [Members.embed]
  rcases hc with hc | hc
  · rw [Embedding.place_of_body_eq_none hc]
    cases owner <;> simp [State.embed, Members.close]
  · cases owner with
    | declaration pos name scope =>
      cases scope with
      | program stmts =>
        simp [Members.close, State.trail, Members.trail, ClassOwner.trailInBody, Scope.trailInClass, Scope.trail,
          Scope.add, Stmt.marks, ← Nat.add_assoc] at hc
      | block => simp [State.embed, Members.close, Embedding.place]
    | expression => simp [State.embed, Members.close, Embedding.place]

/-! ### what is closed -/

theorem Owner.close_embed (sig : Signature) (body : Block) (owner : Owner) :
    (owner.close sig body).embed c = (owner.embed c).close (sig.move c.move) (body.move c.move) := by
  cases owner <;> simp [State.embed, Owner.close]

theorem Params.close_embed (params : Params) : params.close.embed c = (params.embed c).close := by
  cases params
  simp [State.embed, Params.close]

theorem Generics.close_embed (generics : Generics) : generics.close.embed c = (generics.embed c).close := by
  cases generics
  simp [State.embed, Generics.close]

theorem Applied.close_embed (args : List TypeExpr) (target : Applied) :
    (target.close args).embed c = (target.embed c).close (args.map (TypeExpr.move c.move)) := by
  cases target <;> simp [State.embed, Applied.close]

theorem blockBegin_embed (owner : Owner) (sig : Signature) (t : Token) :
    (blockBegin owner sig t).embed c = blockBegin (owner.embed c) (sig.move c.move) (t.move c.move) := by
  simp [State.embed, blockBegin]

theorem Owner.embed_ne_arrow {owner : Owner} (h : ∀ pos slot, owner ≠ .arrow pos slot) (pos : Pos) (slot : Slot) :
    owner.embed c ≠ .arrow pos slot := by
  cases owner with
  | arrow pos' slot' => exact (h _ _ rfl).elim
  | _ => simp

/-! ### phrases -/

theorem Focus.Passes.embed (h : f.Passes k g) : (f.embed c).Passes k (g.embed c) := by
  cases h with
  | sum hk he =>
    next e operand =>
    rw [Focus.embed, Focus.embed, Addend.move_sum, Operand.move_term, Addend.embed_slot, Operand.embed_addend]
    refine .sum hk fun heq slot => ?_
    -- what is embedded is a whole expression only if it was one
    rcases operand with (slot | _) | _ <;> simp_all
  | _ =>
    -- the parts are embedded one by one, and the same case applies to them
    simp [Focus.embed]
    constructor <;> assumption

theorem State.Offers.embed (h : s.Offers k f) : (s.embed c).Offers k (f.embed c) := by
  cases h <;>
  · simp [State.embed, Focus.embed]
    constructor <;> assumption

-- only the outer source has an end
theorem Focus.Consumes.embed (hf : t.kind ≠ .finish) (hc : c.body = none ∨ stage s.trail = stage f.trail)
    (h : f.Consumes t s) : (f.embed c).Consumes (t.move c.move) (s.embed c) := by
  cases h with
  | finish hk => exact absurd hk hf
  | blockEnd hk =>
    rw [Owner.close_embed, Block.move, moveStmts_eq_map, List.map_reverse]
    exact .blockEnd hk
  | membersEnd hk =>
    rw [Members.close_embed hc]
    exact .membersEnd hk
  | parametersEnd hk =>
    rw [Params.close_embed, Params.embed_add]
    exact .parametersEnd hk
  | typeParamsEnd hk =>
    rw [Generics.close_embed, Generics.embed_add]
    exact .typeParamsEnd hk
  | typeArgsEnd hk =>
    rw [Applied.close_embed, List.map_reverse, List.map_cons, Focus.embed, TypeSlot.embed]
    exact .typeArgsEnd hk
  | argumentsEnd hk =>
    rw [State.embed, Callee.move_apply, List.map_reverse, List.map_cons, Focus.embed, Slot.embed]
    exact .argumentsEnd hk
  | classBrace hk =>
    rw [classBegin_embed hc]
    exact .classBrace hk
  | typedBlockBrace hk hno =>
    rw [blockBegin_embed, Signature.move, moveTypeParams_eq_map, moveParams_eq_map, moveType?_eq_map, Option.map_some,
      Focus.embed, TypeSlot.embed]
    exact .typedBlockBrace hk (Owner.embed_ne_arrow hno)
  | _ =>
    simp [State.embed, Focus.embed]
    constructor <;> assumption

theorem State.Consumes.embed (hc : c.body = none ∨ stage s'.trail = stage s.trail) (h : s.Consumes t s') :
    (s.embed c).Consumes (t.move c.move) (s'.embed c) := by
  cases h with
  | noParameters hk =>
    rw [Params.close_embed]
    exact .noParameters hk
  | genericsBrace hk =>
    rw [classBegin_embed hc]
    exact .genericsBrace hk
  | baseBrace hk =>
    rw [classBegin_embed hc, Option.map_some, Heritage.move]
    exact .baseBrace hk
  | heritageBrace hk =>
    rw [classBegin_embed hc]
    exact .heritageBrace hk
  | blockBrace hk hno =>
    rw [blockBegin_embed, Signature.move, moveTypeParams_eq_map, moveParams_eq_map, State.embed, Callable.embed]
    exact .blockBrace hk (Owner.embed_ne_arrow hno)
  | arrowBlock hk =>
    rw [blockBegin_embed]
    exact .arrowBlock hk
  | newParen hk =>
    rw [State.embed, State.embed, Callee.move, List.map_reverse]
    exact .newParen hk
  | newAngle hk =>
    rw [State.embed, State.embed, TypeSlot.embed, Applied.embed, Callee.move, List.map_reverse]
    exact .newAngle hk
  | _ =>
    simp [State.embed]
    constructor <;> assumption

/-- Where a token leaves the stage as it is, it does so all the way. -/
theorem stage_eq_of_between {marks marks' marks'' : List Mark} (h : marks <+: marks') (h' : marks' <+: marks'')
    (he : stage marks'' = stage marks) : stage marks'' = stage marks' :=
  Nat.le_antisymm (he ▸ stage_le h) (stage_le h')

theorem Focus.Steps.embed (hf : t.kind ≠ .finish) (hc : c.body = none ∨ stage s.trail = stage f.trail)
    (h : f.Steps t s) : (f.embed c).Steps (t.move c.move) (s.embed c) := by
  induction h with
  | consume consumes => exact .consume (consumes.embed hf hc)
  | pass passes steps ih =>
    exact .pass passes.embed (ih (hc.imp_right (stage_eq_of_between passes.trail_le steps.trail_le)))

/-- A token leads from embedded places to embedded places. -/
theorem State.step_embed (hf : t.kind ≠ .finish) (hc : c.body = none ∨ stage s'.trail = stage s.trail)
    (h : s.step t = some s') : (s.embed c).step (t.move c.move) = some (s'.embed c) := by
  obtain consumes | ⟨f, offers, steps⟩ := State.step_iff.1 h
  · exact (consumes.embed hc).step_eq
  · have hcf := hc.imp_right (stage_eq_of_between offers.trail_le steps.trail_le)
    exact State.step_iff.2 (.inr ⟨f.embed c, offers.embed, steps.embed hf hcf⟩)

end Step

end TypeLint.Source
