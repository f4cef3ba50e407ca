import TypeLint.Proofs.Source.Focus
import TypeLint.Source.Layout

/-!
# The layout of a place

The layout of a source is kept beside the state that reads its tokens, but it says nothing that the state does
not know: the open brackets are those of the unfinished phrases, and whether a statement can end depends on the
token that has led to the place.

* `State.brackets`, `State.canEnd` — the brackets that are open at a place, and whether the token before it can be
  the last one of a statement;
* `State.layout` — both together;
* `State.layout_step` — a token changes the layout of the state as it changes the layout of the source.
-/

namespace TypeLint.Source

/-- The brackets open since the innermost open brace, and those outside of each open brace. -/
abbrev Brackets := Frame × List Frame

namespace Brackets

/-- No open bracket. -/
def none : Brackets := (.empty, [])

/-- With one more parenthesis. -/
def openParen (b : Brackets) : Brackets := ({ b.1 with parens := b.1.parens + 1 }, b.2)

/-- With one more angle bracket. -/
def openAngle (b : Brackets) : Brackets := ({ b.1 with angles := b.1.angles + 1 }, b.2)

/-- With one more brace. -/
def openBrace (b : Brackets) : Brackets := (.empty, b.1 :: b.2)

/-- The layout behind a token. -/
def behind (b : Brackets) (kind : Terminal) : Layout := (Layout.step ⟨b.1, b.2, false⟩ kind.role).2

end Brackets

/-! ## the brackets of unfinished phrases -/

mutual

/-- The brackets open around the statements of a scope. -/
def Scope.brackets : Scope → Brackets
  | .program _ => .none
  | .block _ owner _ _ => owner.brackets.openBrace

/-- The brackets open around what has a body. -/
def Owner.brackets : Owner → Brackets
  | .declaration _ _ scope => scope.brackets
  | .function _ operand => operand.brackets
  | .arrow _ slot => slot.brackets
  | .method _ members => members.brackets

/-- The brackets open around the members of a class. -/
def Members.brackets : Members → Brackets
  | .mk owner _ _ _ => owner.brackets.openBrace

/-- The brackets open around a class. -/
def ClassOwner.brackets : ClassOwner → Brackets
  | .declaration _ _ scope => scope.brackets
  | .expression _ operand => operand.brackets

/-- The brackets open around an expression. -/
def Slot.brackets : Slot → Brackets
  | .statement scope => scope.brackets
  | .returned _ scope => scope.brackets
  | .initial _ _ _ scope => scope.brackets
  | .default _ _ _ params => params.brackets
  | .property _ _ _ members => members.brackets
  | .argument _ _ _ operand => operand.brackets.openParen
  | .assigned _ slot => slot.brackets
  | .arrowBody _ _ slot => slot.brackets

/-- The brackets open around a term. -/
def Addend.brackets : Addend → Brackets
  | .first slot => slot.brackets
  | .next _ _ slot => slot.brackets

/-- The brackets open around an operand. -/
def Operand.brackets : Operand → Brackets
  | .first addend => addend.brackets
  | .next _ _ addend => addend.brackets

/-- The brackets open around a parameter. -/
def Params.brackets : Params → Brackets
  | .mk target _ _ => target.brackets.openParen

/-- The brackets open around what has parameters. -/
def Callable.brackets : Callable → Brackets
  | .function owner => owner.brackets
  | .type _ slot => slot.brackets

/-- The brackets open around a type parameter. -/
def Generics.brackets : Generics → Brackets
  | .mk target _ => target.brackets.openAngle

/-- The brackets open around what has type parameters. -/
def Generic.brackets : Generic → Brackets
  | .callable target => target.brackets
  | .ofClass owner => owner.brackets

/-- The brackets open around a type. -/
def TypeSlot.brackets : TypeSlot → Brackets
  | .variable _ _ scope => scope.brackets
  | .param _ _ params => params.brackets
  | .property _ _ members => members.brackets
  | .result owner _ _ => owner.brackets
  | .functionResult _ _ _ slot => slot.brackets
  | .argument target _ => target.brackets.openAngle
  | .bound _ generics => generics.brackets
  | .default _ _ generics => generics.brackets

/-- The brackets open around a member of a union. -/
def Alternative.brackets : Alternative → Brackets
  | .only slot => slot.brackets
  | .next _ _ slot => slot.brackets

/-- The brackets open around what has type arguments. -/
def Applied.brackets : Applied → Brackets
  | .type _ _ alternative => alternative.brackets
  | .callee _ operand => operand.brackets
  | .heritage _ owner _ => owner.brackets

end

/-- The brackets open at a place. -/
def State.brackets : State → Brackets
  | .statement _ scope | .statementEnd scope | .variable _ scope | .variableNamed _ _ scope
  | .returnWord _ scope | .functionWord _ scope | .classWord _ scope => scope.brackets
  | .signature target | .signatureEnd target _ _ => target.brackets
  | .parameters params | .parameter params | .parameterNamed _ _ params => params.brackets
  | .classHead owner | .base owner _ | .baseNamed _ owner _ | .heritageEnd _ owner _ => owner.brackets
  | .member _ members | .memberEnd members | .memberNamed _ members | .propertyOptional _ members =>
    members.brackets
  | .expression slot | .arrowBody _ _ slot | .expressionEnd _ slot => slot.brackets
  | .arguments _ _ place => place.brackets.openParen
  | .operand place | .operandEnd _ place | .property _ place | .calleeEnd _ _ place | .newWord _ place
  | .newNamed _ _ _ place | .newPath _ _ _ place => place.brackets
  | .type slot | .alternative _ _ slot => slot.brackets
  | .typeNamed _ _ place | .typePath _ _ place | .typeEnd _ _ place | .bracket _ place => place.brackets
  | .typeParam generics | .typeParamNamed _ generics => generics.brackets
  | .genericsEnd target _ => target.brackets
  | .complete _ => .none

/-- The token that has led to a place can be the last one of a statement. -/
def State.canEnd : State → Bool
  | .statementEnd _ | .variableNamed .. | .returnWord .. | .signatureEnd .. | .baseNamed .. | .heritageEnd ..
  | .memberEnd _ | .memberNamed .. | .operandEnd .. | .expressionEnd .. | .calleeEnd .. | .newNamed ..
  | .typeNamed .. | .typeEnd .. | .typeParamNamed .. | .genericsEnd .. => true
  | .parameterNamed _ optional _ => !optional
  -- behind the name of a declaration, or behind the word that opens an expression
  | .signature (.function (.declaration ..)) | .classHead (.declaration ..) => true
  | _ => false

/-- The layout at a place. -/
def State.layout (s : State) : Layout := ⟨s.brackets.1, s.brackets.2, s.canEnd⟩

/-! ## what is built keeps its brackets -/

@[simp]
theorem Scope.brackets_add (s : Stmt) (scope : Scope) : (scope.add s).brackets = scope.brackets := by
  cases scope <;> simp [Scope.add, Scope.brackets]

@[simp]
theorem Members.brackets_add (m : Member) (members : Members) : (members.add m).brackets = members.brackets := by
  cases members
  simp [Members.add, Members.brackets]

@[simp]
theorem Params.brackets_add (p : Param) (params : Params) : (params.add p).brackets = params.brackets := by
  cases params
  simp [Params.add, Params.brackets]

@[simp]
theorem Generics.brackets_add (p : TypeParam) (generics : Generics) :
    (generics.add p).brackets = generics.brackets := by
  cases generics
  simp [Generics.add, Generics.brackets]

@[simp]
theorem Slot.brackets_operand (slot : Slot) : slot.operand.brackets = slot.brackets := by
  simp [Slot.operand, Operand.brackets, Addend.brackets]

@[simp]
theorem Addend.brackets_slot (addend : Addend) : addend.slot.brackets = addend.brackets := by
  cases addend <;> simp [Addend.slot, Addend.brackets]

@[simp]
theorem Operand.brackets_addend (operand : Operand) : operand.addend.brackets = operand.brackets := by
  cases operand <;> simp [Operand.addend, Operand.brackets]

@[simp]
theorem Alternative.brackets_slot (alternative : Alternative) :
    alternative.slot.brackets = alternative.brackets := by
  cases alternative <;> simp [Alternative.slot, Alternative.brackets]

/-- The brackets open around a phrase that a token is offered to. -/
def Focus.brackets : Focus → Brackets
  | .statementEnd scope | .variableEnd _ _ scope => scope.brackets
  | .memberEnd members => members.brackets
  | .parameterEnd _ params => params.brackets
  | .typeParamEnd _ generics => generics.brackets
  | .operandBegin operand | .operandEnd _ operand => operand.brackets
  | .expressionBegin slot | .expressionEnd _ slot => slot.brackets
  | .alternativeBegin alternative | .alternativeEnd _ alternative => alternative.brackets
  | .typeBegin slot | .typeEnd _ slot => slot.brackets
  | .signatureBegin target => target.brackets
  | .classHeadBegin owner => owner.brackets

/-! ## one token -/

section Step

variable {t : Token} {s s' : State} {f g : Focus}

section Parts

attribute [local simp] State.brackets Focus.brackets Slot.brackets TypeSlot.brackets Alternative.brackets
  Callable.brackets Owner.brackets ClassOwner.brackets

theorem Focus.Passes.brackets_eq {k : Terminal} (h : f.Passes k g) : g.brackets = f.brackets := by
  cases h <;> simp

theorem State.Offers.brackets_eq {k : Terminal} (h : s.Offers k f) : f.brackets = s.brackets := by
  cases h <;> simp

end Parts

attribute [local simp] State.layout State.brackets State.canEnd Brackets.behind Layout.step Layout.brackets
  Terminal.role Role.canEnd Brackets.openParen Brackets.openAngle Brackets.openBrace

theorem Owner.layout_close (sig : Signature) (body : Block) (owner : Owner) :
    (owner.close sig body).layout = owner.brackets.openBrace.behind .braceClose := by
  cases owner <;> simp [Owner.close, Owner.brackets]

theorem Members.layout_close (members : Members) : members.close.layout = members.brackets.behind .braceClose := by
  obtain ⟨owner, typeParams, heritage, done⟩ := members
  cases owner <;> simp [Members.close, Members.brackets, ClassOwner.brackets]

theorem Applied.layout_close (args : List TypeExpr) (target : Applied) :
    (target.close args).layout = target.brackets.openAngle.behind .angleClose := by
  cases target <;> simp [Applied.close, Applied.brackets]

attribute [local simp] Focus.brackets Scope.brackets Owner.brackets Members.brackets ClassOwner.brackets Slot.brackets
  Addend.brackets Operand.brackets Params.brackets Callable.brackets Generics.brackets Generic.brackets
  TypeSlot.brackets Alternative.brackets Applied.brackets

theorem Focus.Consumes.layout_eq (h : f.Consumes t s) : s.layout = f.brackets.behind t.kind := by
  cases h with
  | blockEnd hk => rw [Owner.layout_close, hk, Focus.brackets, Scope.brackets]
  | membersEnd hk => rw [Members.layout_close, hk, Focus.brackets]
  | typeArgsEnd hk => rw [Applied.layout_close, hk, Focus.brackets, TypeSlot.brackets]
  | parametersEnd hk =>
    next p params =>
    cases params
    simp [hk, Params.add, Params.close]
  | typeParamsEnd hk =>
    next p generics =>
    cases generics
    simp [hk, Generics.add, Generics.close]
  | _ hk => simp [hk, blockBegin, classBegin]

theorem State.Consumes.layout_eq (h : s.Consumes t s') : s'.layout = s.brackets.behind t.kind := by
  cases h with
  | noParameters hk =>
    next params =>
    cases params
    simp [hk, Params.close]
  | _ hk => simp [hk, blockBegin, classBegin]

theorem Focus.Steps.layout_eq (h : f.Steps t s) : s.layout = f.brackets.behind t.kind := by
  induction h with
  | consume consumes => exact consumes.layout_eq
  | pass passes _ ih => rw [ih, passes.brackets_eq]

theorem State.layout_of_step (h : s.step t = some s') : s'.layout = s.brackets.behind t.kind := by
  obtain consumes | ⟨f, offers, steps⟩ := State.step_iff.1 h
  · exact consumes.layout_eq
  · rw [steps.layout_eq, offers.brackets_eq]

/-- A token changes the layout of a place as it changes the layout of a source. -/
theorem State.layout_step (h : s.step t = some s') :
    s.layout.step t.kind.role = (.pass, s'.layout) := by
  rw [State.layout_of_step h]
  cases t.kind <;> rfl

end Step

end TypeLint.Source
