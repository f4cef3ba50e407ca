import TypeLint.Proofs.Source.Proper
import TypeLint.Proofs.Tree.Shape

/-!
# Trees that bind as they are written

The tree of a proper program has no sum below a factor, no union below an array, and no list of types or of variables
that is empty where the source cannot write it empty.

* `Node.Bound` — what holds at one node of such a tree;
* `Program.bound` — it holds at every node of the tree of a proper program.
-/

namespace TypeLint.Tree

open Source (signs factors)

/-- The kinds of types that can stand between bars and before brackets. -/
def NodeKind.isPlainType : NodeKind → Bool
  | .typeReference | .qualifiedTypeReference | .literalType | .arrayType => true
  | _ => false

/-- Neither an assignment nor an arrow function. -/
def NodeKind.isSum (k : NodeKind) : Bool := k ≠ .assignmentExpression && k ≠ .arrowFunctionExpression

/-- Neither an operation nor an assignment nor an arrow function. -/
def NodeKind.isOperand (k : NodeKind) : Bool := k ≠ .binaryExpression && k.isSum

/-- An operation with one of these operators. -/
def Node.isOperation (n : Node) (ops : List Text) : Prop :=
  n.kind = .binaryExpression ∧ ∃ op ∈ ops, n.get .op = .text op

/-- An identifier under members. -/
inductive Node.IsDotted : Node → Prop
  | identifier {n : Node} (isIdentifier : n.kind = .identifier) : n.IsDotted
  | member {n object : Node} (isMember : n.kind = .memberExpression) (has : n.child? .object = some object) :
      object.IsDotted → n.IsDotted

/-- A list of nodes that is absent if it is empty. -/
def Value.IsWritten (v : Value) : Prop := v = .null ∨ ∃ ns : List Node, ns ≠ [] ∧ v = .list (ns.map .node)

/-- A factor binds tighter than a sign, and both bind to the left. -/
structure BindsAt (left : Node) (op : Text) (right : Node) : Prop where
  isOperator : op ∈ signs ++ factors
  leftIsSum : left.kind.isSum = true
  rightIsSum : right.kind.isSum = true
  rightOfSign : ¬ right.isOperation signs
  rightOfFactor : op ∈ factors → right.kind ≠ .binaryExpression
  leftOfFactor : op ∈ factors → ¬ left.isOperation signs

/-- What holds at a node whose parts bind as they are written. -/
def Node.Bound (n : Node) : Prop :=
  (∃ line column : Nat, n.loc = some ⟨some line, some column⟩) ∧ (n.get .typeParams).IsWritten ∧
  match n.kind with
  | .unionType =>
    ∃ ms : List Node, n.get .types = .list (ms.map .node) ∧ 2 ≤ ms.length ∧ ∀ m ∈ ms, m.kind.isPlainType = true
  | .arrayType => ∃ m, n.child? .element = some m ∧ m.kind.isPlainType = true
  | .qualifiedTypeReference => ∃ parts : List Text, n.get .path = .list (parts.map .text) ∧ 2 ≤ parts.length
  | .functionType => (n.child? .returnType).isSome = true
  | .variableDeclaration => ∃ ds : List Node, n.get .declarations = .list (ds.map .node) ∧ ds ≠ []
  | .classHeritage => (n.get .typeArgs).IsWritten
  | .callExpression => (n.get .typeArgs).IsWritten ∧ ∃ m, n.child? .callee = some m ∧ m.kind.isOperand = true
  | .newExpression => (n.get .typeArgs).IsWritten ∧ ∃ m, n.child? .callee = some m ∧ m.IsDotted
  | .memberExpression => ∃ m, n.child? .object = some m ∧ m.kind.isOperand = true
  | .assignmentExpression => ∃ m, n.child? .target = some m ∧ m.kind.isOperand = true
  | .binaryExpression =>
    ∃ left op right, n.get .op = .text op ∧ n.child? .left = some left ∧ n.child? .right = some right ∧
      BindsAt left op right
  | _ => True

/-- What holds at every node of a tree. -/
def Node.AllBound (n : Node) : Prop := ∀ m ∈ n.preorder, m.Bound

theorem Node.allBound_iff (n : Node) : n.AllBound ↔ n.Bound ∧ ∀ c ∈ n.children, c.AllBound := by
  unfold Node.AllBound
  rw [Node.preorder_eq]
  simp only [List.forall_mem_cons, List.mem_flatMap]
  constructor
  · rintro ⟨hn, h⟩
    exact ⟨hn, fun c hc m hm => h m ⟨c, hc, hm⟩⟩
  · rintro ⟨hn, h⟩
    refine ⟨hn, ?_⟩
    rintro m ⟨c, hc, hm⟩
    exact h c hc m hm

end TypeLint.Tree

namespace TypeLint.Source

open TypeLint.Tree

/-! ## the kinds of nodes -/

section Kinds

variable {n : Node}

theorem TypeExpr.isPlainType {ty : TypeExpr} (hty : ty.isPlain = true) (h : ty.toNode = .ok n) :
    n.kind.isPlainType = true := by
  cases ty with
  | named head path args =>
    simp only [TypeExpr.toNode, bind_eq_ok] at h
    obtain ⟨ns, -, h⟩ := h
    cases path <;> obtain rfl := Except.ok.inj h <;> rfl
  | literal lit =>
    simp only [TypeExpr.toNode, bind_eq_ok, pure_eq_ok] at h
    obtain ⟨v, -, rfl⟩ := h
    rfl
  | array element =>
    simp only [TypeExpr.toNode, bind_eq_ok, pure_eq_ok] at h
    obtain ⟨m, -, rfl⟩ := h
    rfl
  | union | function => simp [TypeExpr.isPlain] at hty

theorem isPlainType_typeNodes {ns : List Node} : ∀ {tys : List TypeExpr}, (∀ ty ∈ tys, ty.isPlain = true) →
    typeNodes tys = .ok ns → ∀ n ∈ ns, n.kind.isPlainType = true
  | [], _, h => by
    obtain rfl := Except.ok.inj h
    simp
  | ty :: tys, hty, h => by
    simp only [typeNodes, bind_eq_ok, pure_eq_ok] at h
    obtain ⟨m, hm, ms, hms, rfl⟩ := h
    obtain ⟨hfirst, hothers⟩ := List.forall_mem_cons.1 hty
    exact List.forall_mem_cons.2 ⟨ty.isPlainType hfirst hm, isPlainType_typeNodes hothers hms⟩

/-- The kinds of expressions are those of their trees. -/
theorem Expr.kind_toNode {e : Expr} (h : e.toNode = .ok n) :
    n.kind.isOperand = e.isOperand ∧ n.kind.isSum = e.isSum ∧
      (n.kind = .binaryExpression → ∃ left op right, e = .binary left op right ∧ n.get .op = .text op.text) := by
  cases e with
  | name id =>
    obtain rfl := Except.ok.inj h
    unfold Ident.toNode
    split <;> exact ⟨rfl, rfl, by simp [nodeAt, Node.kind]⟩
  | binary left op right =>
    simp only [Expr.toNode, bind_eq_ok, pure_eq_ok] at h
    obtain ⟨l, -, r, -, rfl⟩ := h
    exact ⟨rfl, rfl, fun _ => ⟨left, op, right, rfl, rfl⟩⟩
  | literal | member | classExpr =>
    simp only [Expr.toNode, bind_eq_ok, pure_eq_ok] at h
    obtain ⟨_, -, rfl⟩ := h
    exact ⟨rfl, rfl, by simp [nodeAt, Node.kind]⟩
  | new | assign | function | arrow =>
    simp only [Expr.toNode, bind_eq_ok, pure_eq_ok] at h
    obtain ⟨_, -, _, -, rfl⟩ := h
    exact ⟨rfl, rfl, by simp [nodeAt, Node.kind]⟩
  | call =>
    simp only [Expr.toNode, bind_eq_ok, pure_eq_ok] at h
    obtain ⟨_, -, _, -, _, -, rfl⟩ := h
    exact ⟨rfl, rfl, by simp [nodeAt, Node.kind]⟩

theorem disjoint_signs_factors : ∀ op ∈ signs, op ∉ factors := by decide

/-- The tree of a term is no sum. -/
theorem Expr.not_isOperation_signs {e : Expr} (he : e.isTerm = true) (h : e.toNode = .ok n) :
    ¬ n.isOperation signs := by
  rintro ⟨hn, sign, hsign, hop⟩
  obtain ⟨left, op, right, rfl, hop'⟩ := (Expr.kind_toNode h).2.2 hn
  obtain rfl : op.text = sign := by simpa [hop'] using hop
  exact disjoint_signs_factors _ hsign (by simpa [Expr.isTerm] using he)

/-- What binds in a phrase binds in its tree. -/
theorem Binds.bindsAt {left right : Expr} {op : Ident} {l r : Node} (h : Binds left op right)
    (hl : left.toNode = .ok l) (hr : right.toNode = .ok r) : BindsAt l op.text r := by
  obtain ⟨-, hlsum, -⟩ := Expr.kind_toNode hl
  obtain ⟨hroperand, hrsum, -⟩ := Expr.kind_toNode hr
  rcases h with ⟨hop, hleft, hright⟩ | ⟨hop, hleft, hright⟩
  · have hterm := Expr.isTerm_of_isOperand hright
    exact {
      isOperator := List.mem_append_right _ hop
      leftIsSum := by rw [hlsum, Expr.isSum_of_isTerm hleft]
      rightIsSum := by rw [hrsum, Expr.isSum_of_isTerm hterm]
      rightOfSign := right.not_isOperation_signs hterm hr
      rightOfFactor := by
        intro _ hk
        rw [← hroperand, hk] at hright
        exact Bool.false_ne_true hright
      leftOfFactor := fun _ => left.not_isOperation_signs hleft hl }
  · have hfactor := disjoint_signs_factors _ hop
    exact {
      isOperator := List.mem_append_left _ hop
      leftIsSum := by rw [hlsum, hleft]
      rightIsSum := by rw [hrsum, Expr.isSum_of_isTerm hright]
      rightOfSign := right.not_isOperation_signs hright hr
      rightOfFactor := fun h => absurd h hfactor
      leftOfFactor := fun h => absurd h hfactor }

end Kinds

/-! ## the tree of a program -/

section Bound

theorem isWritten_null : Value.null.IsWritten := .inl rfl

theorem isWritten_writtenList (ns : List Node) : (writtenList ns).IsWritten := by
  unfold writtenList
  split
  · exact .inl rfl
  · next h =>
    refine .inr ⟨ns, ?_, rfl⟩
    simpa using h

theorem allBound_nodeAt {k : NodeKind} {pos : Pos} {vs : List Value} (h : (nodeAt k pos vs).Bound)
    (hvs : ∀ v ∈ vs, ∀ c ∈ v.nodes, c.AllBound) : (nodeAt k pos vs).AllBound := by
  refine (Node.allBound_iff _).2 ⟨h, fun c hc => ?_⟩
  obtain ⟨v, hv, hc⟩ := List.mem_flatMap.1 hc
  exact hvs v hv c hc

theorem Ident.allBound_toNode (id : Ident) : id.toNode.AllBound := by
  unfold Ident.toNode
  split
  · next v hv =>
    refine allBound_nodeAt ⟨⟨_, _, rfl⟩, isWritten_null, trivial⟩ ?_
    simp [Ident.nodes_wordValue? hv]
  · refine allBound_nodeAt ⟨⟨_, _, rfl⟩, isWritten_null, trivial⟩ ?_
    simp

/-- The class of a `new` expression. -/
theorem bound_calleeNode (head : Ident) (path : List Ident) :
    (calleeNode head path).IsDotted ∧ (calleeNode head path).AllBound := by
  have hhead : (nodeAt .identifier head.pos [.text head.text]).IsDotted ∧
      (nodeAt .identifier head.pos [.text head.text]).AllBound := by
    refine ⟨.identifier rfl, allBound_nodeAt ⟨⟨_, _, rfl⟩, isWritten_null, trivial⟩ ?_⟩
    simp
  unfold calleeNode
  generalize nodeAt .identifier head.pos [.text head.text] = object at hhead
  induction path generalizing object with
  | nil => exact hhead
  | cons id path ih =>
    obtain ⟨hdotted, hall⟩ := hhead
    refine ih _ ⟨.member rfl rfl hdotted, allBound_nodeAt ⟨⟨_, _, rfl⟩, isWritten_null, object, rfl, ?_⟩ ?_⟩
    · cases hdotted with
      | identifier hk | member hk => rw [hk]; rfl
    · simpa using hall

mutual

theorem TypeExpr.bound {n : Node} : ∀ ty : TypeExpr, ty.Proper → ty.toNode = .ok n → n.AllBound
  | .named head path args, hp, h => by
    simp only [TypeExpr.toNode, bind_eq_ok] at h
    obtain ⟨ns, hns, h⟩ := h
    have hargs := bound_typeNodes args hp hns
    cases path with
    | nil =>
      obtain rfl := Except.ok.inj h
      refine allBound_nodeAt ⟨⟨_, _, rfl⟩, isWritten_null, trivial⟩ ?_
      simpa using hargs
    | cons id path =>
      obtain rfl := Except.ok.inj h
      refine allBound_nodeAt ⟨⟨_, _, rfl⟩, isWritten_null, (head :: id :: path).map Ident.text, rfl, by simp⟩ ?_
      have hpath := nodes_texts ((head :: id :: path).map Ident.text)
      simpa [-List.map_cons, -List.map_map, hpath] using hargs
  | .literal lit, _, h => by
    simp only [TypeExpr.toNode, bind_eq_ok, pure_eq_ok] at h
    obtain ⟨v, hv, rfl⟩ := h
    refine allBound_nodeAt ⟨⟨_, _, rfl⟩, isWritten_null, trivial⟩ ?_
    simp [Literal.nodes_value hv]
  | .array element, hp, h => by
    simp only [TypeExpr.toNode, bind_eq_ok, pure_eq_ok] at h
    obtain ⟨m, hm, rfl⟩ := h
    simp only [TypeExpr.Proper] at hp
    refine allBound_nodeAt ⟨⟨_, _, rfl⟩, isWritten_null, m, rfl, element.isPlainType hp.1 hm⟩ ?_
    simpa using element.bound hp.2 hm
  | .union first others, hp, h => by
    simp only [TypeExpr.toNode, bind_eq_ok, pure_eq_ok] at h
    obtain ⟨m, hm, ms, hms, rfl⟩ := h
    simp only [TypeExpr.Proper] at hp
    obtain ⟨⟨hplain, hfirst⟩, hne, hplains, hothers⟩ := hp
    have hlen : 2 ≤ (m :: ms).length := by
      cases others with
      | nil => exact absurd rfl hne
      | cons ty tys =>
        simp only [typeNodes, bind_eq_ok, pure_eq_ok] at hms
        obtain ⟨k, -, ks, -, rfl⟩ := hms
        simp
    refine allBound_nodeAt ⟨⟨_, _, rfl⟩, isWritten_null, m :: ms, rfl, hlen, ?_⟩ ?_
    · exact List.forall_mem_cons.2 ⟨first.isPlainType hplain hm, isPlainType_typeNodes hplains hms⟩
    · simpa using ⟨first.bound hfirst hm, bound_typeNodes others hothers hms⟩
  | .function pos typeParams params result, hp, h => by
    simp only [TypeExpr.toNode, bind_eq_ok, pure_eq_ok] at h
    obtain ⟨ps, hps, qs, hqs, m, hm, rfl⟩ := h
    simp only [TypeExpr.Proper] at hp
    refine allBound_nodeAt ⟨⟨_, _, rfl⟩, isWritten_writtenList ps, rfl⟩ ?_
    simpa using ⟨bound_typeParamNodes typeParams hp.1 hps, bound_paramNodes params hp.2.1 hqs, result.bound hp.2.2 hm⟩

theorem bound_typeNodes {ns : List Node} : ∀ tys : List TypeExpr, ProperTypes tys → typeNodes tys = .ok ns →
    ∀ n ∈ ns, n.AllBound
  | [], _, h => by
    obtain rfl := Except.ok.inj h
    nofun
  | ty :: tys, hp, h => by
    simp only [typeNodes, bind_eq_ok, pure_eq_ok] at h
    obtain ⟨m, hm, ms, hms, rfl⟩ := h
    simp only [ProperTypes] at hp
    exact List.forall_mem_cons.2 ⟨ty.bound hp.1 hm, bound_typeNodes tys hp.2 hms⟩

theorem bound_optionalTypeNode {n : Option Node} : ∀ ty : Option TypeExpr, ProperType? ty →
    optionalTypeNode ty = .ok n → ∀ m ∈ n, m.AllBound
  | none, _, h => by
    obtain rfl := Except.ok.inj h
    nofun
  | some ty, hp, h => by
    simp only [optionalTypeNode, bind_eq_ok, pure_eq_ok] at h
    obtain ⟨m, hm, rfl⟩ := h
    simpa using ty.bound hp hm

theorem TypeParam.bound {n : Node} : ∀ p : TypeParam, p.Proper → p.toNode = .ok n → n.AllBound
  | .mk name bound default, hp, h => by
    simp only [TypeParam.toNode, bind_eq_ok, pure_eq_ok] at h
    obtain ⟨m, hm, d, hd, rfl⟩ := h
    simp only [TypeParam.Proper] at hp
    refine allBound_nodeAt ⟨⟨_, _, rfl⟩, isWritten_null, trivial⟩ ?_
    simpa using ⟨bound_optionalTypeNode bound hp.1 hm, bound_optionalTypeNode default hp.2 hd⟩

theorem bound_typeParamNodes {ns : List Node} : ∀ ps : List TypeParam, ProperTypeParams ps →
    typeParamNodes ps = .ok ns → ∀ n ∈ ns, n.AllBound
  | [], _, h => by
    obtain rfl := Except.ok.inj h
    nofun
  | p :: ps, hp, h => by
    simp only [typeParamNodes, bind_eq_ok, pure_eq_ok] at h
    obtain ⟨m, hm, ms, hms, rfl⟩ := h
    simp only [ProperTypeParams] at hp
    exact List.forall_mem_cons.2 ⟨p.bound hp.1 hm, bound_typeParamNodes ps hp.2 hms⟩

theorem Param.bound {n : Node} : ∀ p : Param, p.Proper → p.toNode = .ok n → n.AllBound
  | .mk name optional declared default, hp, h => by
    simp only [Param.toNode, bind_eq_ok, pure_eq_ok] at h
    obtain ⟨m, hm, d, hd, rfl⟩ := h
    simp only [Param.Proper] at hp
    refine allBound_nodeAt ⟨⟨_, _, rfl⟩, isWritten_null, trivial⟩ ?_
    simpa using ⟨bound_optionalTypeNode declared hp.1 hm, bound_optionalExprNode default hp.2 hd⟩

theorem bound_paramNodes {ns : List Node} : ∀ ps : List Param, ProperParams ps → paramNodes ps = .ok ns →
    ∀ n ∈ ns, n.AllBound
  | [], _, h => by
    obtain rfl := Except.ok.inj h
    nofun
  | p :: ps, hp, h => by
    simp only [paramNodes, bind_eq_ok, pure_eq_ok] at h
    obtain ⟨m, hm, ms, hms, rfl⟩ := h
    simp only [ProperParams] at hp
    exact List.forall_mem_cons.2 ⟨p.bound hp.1 hm, bound_paramNodes ps hp.2 hms⟩

theorem Signature.bound {s : SignatureNodes} : ∀ sig : Signature, sig.Proper → sig.nodes = .ok s →
    ∀ v ∈ s.values, ∀ c ∈ v.nodes, c.AllBound
  | .mk typeParams params result, hp, h => by
    simp only [Signature.nodes, bind_eq_ok, pure_eq_ok] at h
    obtain ⟨ps, hps, qs, hqs, m, hm, rfl⟩ := h
    simp only [Signature.Proper] at hp
    simpa [SignatureNodes.values] using ⟨bound_typeParamNodes typeParams hp.1 hps, bound_paramNodes params hp.2.1 hqs,
      bound_optionalTypeNode result hp.2.2 hm⟩

theorem Expr.bound {n : Node} : ∀ e : Expr, e.Proper → e.toNode = .ok n → n.AllBound
  | .name id, _, h => by
    obtain rfl := Except.ok.inj h
    exact id.allBound_toNode
  | .literal lit, _, h => by
    simp only [Expr.toNode, bind_eq_ok, pure_eq_ok] at h
    obtain ⟨v, hv, rfl⟩ := h
    refine allBound_nodeAt ⟨⟨_, _, rfl⟩, isWritten_null, trivial⟩ ?_
    simp [Literal.nodes_value hv]
  | .member object property, hp, h => by
    simp only [Expr.toNode, bind_eq_ok, pure_eq_ok] at h
    obtain ⟨m, hm, rfl⟩ := h
    simp only [Expr.Proper] at hp
    refine allBound_nodeAt ⟨⟨_, _, rfl⟩, isWritten_null, m, rfl, ?_⟩ ?_
    · rw [(Expr.kind_toNode hm).1, hp.1]
    · simpa using object.bound hp.2 hm
  | .call callee typeArgs args, hp, h => by
    simp only [Expr.toNode, bind_eq_ok, pure_eq_ok] at h
    obtain ⟨m, hm, ts, hts, as, has, rfl⟩ := h
    simp only [Expr.Proper] at hp
    obtain ⟨⟨hoperand, hcallee⟩, htypes, hargs⟩ := hp
    refine allBound_nodeAt ⟨⟨_, _, rfl⟩, isWritten_null, isWritten_writtenList ts, m, rfl, ?_⟩ ?_
    · rw [(Expr.kind_toNode hm).1, hoperand]
    · simpa using ⟨callee.bound hcallee hm, bound_typeNodes typeArgs htypes hts, bound_exprNodes args hargs has⟩
  | .new pos head path typeArgs args, hp, h => by
    simp only [Expr.toNode, bind_eq_ok, pure_eq_ok] at h
    obtain ⟨ts, hts, as, has, rfl⟩ := h
    simp only [Expr.Proper] at hp
    obtain ⟨hdotted, hcallee⟩ := bound_calleeNode head path
    refine allBound_nodeAt ⟨⟨_, _, rfl⟩, isWritten_null, isWritten_writtenList ts, _, rfl, hdotted⟩ ?_
    simpa using ⟨hcallee, bound_typeNodes typeArgs hp.1 hts, bound_exprNodes args hp.2 has⟩
  | .assign target value, hp, h => by
    simp only [Expr.toNode, bind_eq_ok, pure_eq_ok] at h
    obtain ⟨m, hm, v, hv, rfl⟩ := h
    simp only [Expr.Proper] at hp
    refine allBound_nodeAt ⟨⟨_, _, rfl⟩, isWritten_null, m, rfl, ?_⟩ ?_
    · rw [(Expr.kind_toNode hm).1, hp.1.1]
    · simpa using ⟨target.bound hp.1.2 hm, value.bound hp.2 hv⟩
  | .binary left op right, hp, h => by
    simp only [Expr.toNode, bind_eq_ok, pure_eq_ok] at h
    obtain ⟨l, hl, r, hr, rfl⟩ := h
    simp only [Expr.Proper] at hp
    refine allBound_nodeAt ⟨⟨_, _, rfl⟩, isWritten_null, l, op.text, r, rfl, rfl, rfl, hp.1.bindsAt hl hr⟩ ?_
    simpa using ⟨left.bound hp.2.1 hl, right.bound hp.2.2 hr⟩
  | .function pos sig body, hp, h => by
    simp only [Expr.toNode, bind_eq_ok, pure_eq_ok] at h
    obtain ⟨s, hs, b, hb, rfl⟩ := h
    simp only [Expr.Proper] at hp
    refine allBound_nodeAt ⟨⟨_, _, rfl⟩, isWritten_writtenList _, trivial⟩ ?_
    simpa [or_imp, forall_and] using ⟨sig.bound hp.1 hs, body.bound hp.2 hb⟩
  | .arrow pos sig body, hp, h => by
    simp only [Expr.toNode, bind_eq_ok, pure_eq_ok] at h
    obtain ⟨s, hs, b, hb, rfl⟩ := h
    simp only [Expr.Proper] at hp
    refine allBound_nodeAt ⟨⟨_, _, rfl⟩, isWritten_writtenList _, trivial⟩ ?_
    simpa [or_imp, forall_and] using ⟨sig.bound hp.1 hs, body.bound hp.2 hb⟩
  | .classExpr pos shape, hp, h => by
    simp only [Expr.toNode, bind_eq_ok, pure_eq_ok] at h
    obtain ⟨c, hc, rfl⟩ := h
    exact allBound_nodeAt ⟨⟨_, _, rfl⟩, isWritten_writtenList _, trivial⟩ (shape.bound hp hc)

theorem bound_exprNodes {ns : List Node} : ∀ es : List Expr, ProperExprs es → exprNodes es = .ok ns →
    ∀ n ∈ ns, n.AllBound
  | [], _, h => by
    obtain rfl := Except.ok.inj h
    nofun
  | e :: es, hp, h => by
    simp only [exprNodes, bind_eq_ok, pure_eq_ok] at h
    obtain ⟨m, hm, ms, hms, rfl⟩ := h
    simp only [ProperExprs] at hp
    exact List.forall_mem_cons.2 ⟨e.bound hp.1 hm, bound_exprNodes es hp.2 hms⟩

theorem bound_optionalExprNode {n : Option Node} : ∀ e : Option Expr, ProperExpr? e → optionalExprNode e = .ok n →
    ∀ m ∈ n, m.AllBound
  | none, _, h => by
    obtain rfl := Except.ok.inj h
    nofun
  | some e, hp, h => by
    simp only [optionalExprNode, bind_eq_ok, pure_eq_ok] at h
    obtain ⟨m, hm, rfl⟩ := h
    simpa using e.bound hp hm

theorem ArrowBody.bound {n : Node} : ∀ b : ArrowBody, b.Proper → b.toNode = .ok n → n.AllBound
  | .block b, hp, h => b.bound hp h
  | .expr e, hp, h => e.bound hp h

theorem Block.bound {n : Node} : ∀ b : Block, b.Proper → b.toNode = .ok n → n.AllBound
  | .mk pos body, hp, h => by
    simp only [Block.toNode, bind_eq_ok, pure_eq_ok] at h
    obtain ⟨ms, hms, rfl⟩ := h
    refine allBound_nodeAt ⟨⟨_, _, rfl⟩, isWritten_null, trivial⟩ ?_
    simpa using bound_stmtNodes body hp hms

theorem Stmt.bound {n : Node} : ∀ s : Stmt, s.Proper → s.toNode = .ok n → n.AllBound
  | .variables pos binder declarators, hp, h => by
    simp only [Stmt.toNode, bind_eq_ok, pure_eq_ok] at h
    obtain ⟨ms, hms, rfl⟩ := h
    simp only [Stmt.Proper] at hp
    have hne : ms ≠ [] := by
      cases declarators with
      | nil => exact absurd rfl hp.1
      | cons d ds =>
        simp only [declaratorNodes, bind_eq_ok, pure_eq_ok] at hms
        obtain ⟨k, -, ks, -, rfl⟩ := hms
        simp
    refine allBound_nodeAt ⟨⟨_, _, rfl⟩, isWritten_null, ms, rfl, hne⟩ ?_
    simpa using bound_declaratorNodes declarators hp.2 hms
  | .function pos name sig body, hp, h => by
    simp only [Stmt.toNode, bind_eq_ok, pure_eq_ok] at h
    obtain ⟨s, hs, b, hb, rfl⟩ := h
    simp only [Stmt.Proper] at hp
    refine allBound_nodeAt ⟨⟨_, _, rfl⟩, isWritten_writtenList _, trivial⟩ ?_
    simpa [or_imp, forall_and] using ⟨sig.bound hp.1 hs, body.bound hp.2 hb⟩
  | .classDecl pos name shape, hp, h => by
    simp only [Stmt.toNode, bind_eq_ok, pure_eq_ok] at h
    obtain ⟨c, hc, rfl⟩ := h
    refine allBound_nodeAt ⟨⟨_, _, rfl⟩, isWritten_writtenList _, trivial⟩ ?_
    simpa using shape.bound hp hc
  | .ret pos value, hp, h => by
    simp only [Stmt.toNode, bind_eq_ok, pure_eq_ok] at h
    obtain ⟨m, hm, rfl⟩ := h
    refine allBound_nodeAt ⟨⟨_, _, rfl⟩, isWritten_null, trivial⟩ ?_
    simpa using bound_optionalExprNode value hp hm
  | .expr e, hp, h => by
    simp only [Stmt.toNode, bind_eq_ok, pure_eq_ok] at h
    obtain ⟨m, hm, rfl⟩ := h
    refine allBound_nodeAt ⟨⟨_, _, rfl⟩, isWritten_null, trivial⟩ ?_
    simpa using e.bound hp hm

theorem bound_stmtNodes {ns : List Node} : ∀ ss : List Stmt, ProperStmts ss → stmtNodes ss = .ok ns →
    ∀ n ∈ ns, n.AllBound
  | [], _, h => by
    obtain rfl := Except.ok.inj h
    nofun
  | s :: ss, hp, h => by
    simp only [stmtNodes, bind_eq_ok, pure_eq_ok] at h
    obtain ⟨m, hm, ms, hms, rfl⟩ := h
    simp only [ProperStmts] at hp
    exact List.forall_mem_cons.2 ⟨s.bound hp.1 hm, bound_stmtNodes ss hp.2 hms⟩

theorem Declarator.bound {n : Node} : ∀ d : Declarator, d.Proper → d.toNode = .ok n → n.AllBound
  | .mk name declared init, hp, h => by
    simp only [Declarator.toNode, bind_eq_ok, pure_eq_ok] at h
    obtain ⟨m, hm, i, hi, rfl⟩ := h
    simp only [Declarator.Proper] at hp
    refine allBound_nodeAt ⟨⟨_, _, rfl⟩, isWritten_null, trivial⟩ ?_
    simpa using ⟨bound_optionalTypeNode declared hp.1 hm, bound_optionalExprNode init hp.2 hi⟩

theorem bound_declaratorNodes {ns : List Node} : ∀ ds : List Declarator, ProperDeclarators ds →
    declaratorNodes ds = .ok ns → ∀ n ∈ ns, n.AllBound
  | [], _, h => by
    obtain rfl := Except.ok.inj h
    nofun
  | d :: ds, hp, h => by
    simp only [declaratorNodes, bind_eq_ok, pure_eq_ok] at h
    obtain ⟨m, hm, ms, hms, rfl⟩ := h
    simp only [ProperDeclarators] at hp
    exact List.forall_mem_cons.2 ⟨d.bound hp.1 hm, bound_declaratorNodes ds hp.2 hms⟩

theorem ClassShape.bound {c : ClassNodes} : ∀ shape : ClassShape, shape.Proper → shape.nodes = .ok c →
    ∀ v ∈ c.values, ∀ n ∈ v.nodes, n.AllBound
  | .mk typeParams heritage members, hp, h => by
    simp only [ClassShape.nodes, bind_eq_ok, pure_eq_ok] at h
    obtain ⟨b, hb, ms, hms, ps, hps, rfl⟩ := h
    simp only [ClassShape.Proper] at hp
    simpa [ClassNodes.values] using ⟨bound_typeParamNodes typeParams hp.1 hps,
      bound_optionalHeritageNode heritage hp.2.1 hb, bound_memberNodes members hp.2.2 hms⟩

theorem Heritage.bound {n : Node} : ∀ b : Heritage, b.Proper → b.toNode = .ok n → n.AllBound
  | .mk name typeArgs, hp, h => by
    simp only [Heritage.toNode, bind_eq_ok, pure_eq_ok] at h
    obtain ⟨ts, hts, rfl⟩ := h
    refine allBound_nodeAt ⟨⟨_, _, rfl⟩, isWritten_null, isWritten_writtenList ts⟩ ?_
    simpa using bound_typeNodes typeArgs hp hts

theorem bound_optionalHeritageNode {n : Option Node} : ∀ b : Option Heritage, ProperHeritage? b →
    optionalHeritageNode b = .ok n → ∀ m ∈ n, m.AllBound
  | none, _, h => by
    obtain rfl := Except.ok.inj h
    nofun
  | some b, hp, h => by
    simp only [optionalHeritageNode, bind_eq_ok, pure_eq_ok] at h
    obtain ⟨m, hm, rfl⟩ := h
    simpa using b.bound hp hm

theorem Member.bound {n : Node} : ∀ m : Member, m.Proper → m.toNode = .ok n → n.AllBound
  | .method name sig body, hp, h => by
    simp only [Member.toNode, bind_eq_ok, pure_eq_ok] at h
    obtain ⟨s, hs, b, hb, rfl⟩ := h
    simp only [Member.Proper] at hp
    have hfunction : (nodeAt .functionExpression name.pos (s.values ++ [.node b])).AllBound := by
      refine allBound_nodeAt ⟨⟨_, _, rfl⟩, isWritten_writtenList _, trivial⟩ ?_
      simpa [or_imp, forall_and] using ⟨sig.bound hp.1 hs, body.bound hp.2 hb⟩
    refine allBound_nodeAt ⟨⟨_, _, rfl⟩, isWritten_null, trivial⟩ ?_
    simpa using hfunction
  | .property name optional declared value, hp, h => by
    simp only [Member.toNode, bind_eq_ok, pure_eq_ok] at h
    obtain ⟨m, hm, v, hv, rfl⟩ := h
    simp only [Member.Proper] at hp
    refine allBound_nodeAt ⟨⟨_, _, rfl⟩, isWritten_null, trivial⟩ ?_
    simpa using ⟨bound_optionalTypeNode declared hp.1 hm, bound_optionalExprNode value hp.2 hv⟩

theorem bound_memberNodes {ns : List Node} : ∀ ms : List Member, ProperMembers ms → memberNodes ms = .ok ns →
    ∀ n ∈ ns, n.AllBound
  | [], _, h => by
    obtain rfl := Except.ok.inj h
    nofun
  | m :: ms, hp, h => by
    simp only [memberNodes, bind_eq_ok, pure_eq_ok] at h
    obtain ⟨k, hk, ks, hks, rfl⟩ := h
    simp only [ProperMembers] at hp
    exact List.forall_mem_cons.2 ⟨m.bound hp.1 hk, bound_memberNodes ms hp.2 hks⟩

end

/-- The parts of every node of the tree of a proper program bind as they are written. -/
theorem Program.bound {p : Program} {root : Node} (hp : p.Proper) (h : p.toNode = .ok root) : root.AllBound := by
  simp only [Program.toNode, bind_eq_ok, pure_eq_ok] at h
  obtain ⟨ms, hms, rfl⟩ := h
  refine allBound_nodeAt ⟨⟨_, _, rfl⟩, isWritten_null, trivial⟩ ?_
  simpa using bound_stmtNodes p.body hp hms

end Bound

end TypeLint.Source
