import TypeLint.Proofs.Source.Heads
import TypeLint.Proofs.Tree.Shape

/-!
# The type references of a tree

`Node.references` lists the names of the type references of a tree with their places, in the order in which the nodes
are visited.  In the tree of a program this is the order of the source: they are among the heads of the program
(`Program.references_sublist`).
-/

namespace TypeLint.Tree

/-- The name and the place of a type reference. -/
def Node.reference? (n : Node) : Option (Text × Loc) :=
  if n.kind = .typeReference then n.name?.bind fun name => n.loc.map (name, ·) else none

/-- The type references of a tree. -/
def Node.references (n : Node) : List (Text × Loc) := n.preorder.filterMap Node.reference?

theorem Node.references_eq (n : Node) :
    n.references = n.reference?.toList ++ n.children.flatMap Node.references := by
  rw [Node.references, Node.preorder_eq, List.filterMap_cons]
  have hc : (n.children.flatMap Node.preorder).filterMap Node.reference? = n.children.flatMap Node.references := by
    rw [List.filterMap_flatMap]
    rfl
  cases n.reference? <;> simp [hc]

end TypeLint.Tree

namespace TypeLint.Source

open TypeLint.Tree

theorem Pos.toLoc_inj {p q : Pos} (h : p.toLoc = q.toLoc) : p = q := by
  obtain ⟨line, column⟩ := p
  obtain ⟨line', column'⟩ := q
  simp only [Pos.toLoc, Loc.mk.injEq, Option.some.injEq, Int.ofNat_inj] at h
  rw [h.1, h.2]

/-- A name as the reference to a type. -/
def Ident.reference (id : Ident) : Text × Loc := (id.text, id.pos.toLoc)

/-- The references in values are among names, in their order. -/
def Within (ns : List Node) (ids : List Ident) : Prop := (ns.flatMap Node.references).Sublist (ids.map Ident.reference)

section Within

theorem Within.nil (ids : List Ident) : Within [] ids := List.nil_sublist _

theorem Within.append {ns ns' : List Node} {ids ids' : List Ident} (h : Within ns ids) (h' : Within ns' ids') :
    Within (ns ++ ns') (ids ++ ids') := by
  unfold Within
  rw [List.flatMap_append, List.map_append]
  exact List.Sublist.append h h'

theorem within_nodeAt {k : NodeKind} (hk : k ≠ .typeReference) {pos : Pos} {vs : List Value} {ids : List Ident}
    (h : Within (vs.flatMap Value.nodes) ids) : Within [nodeAt k pos vs] ids := by
  unfold Within
  rw [List.flatMap_singleton, Node.references_eq]
  have hn : (nodeAt k pos vs).reference? = none := if_neg hk
  rw [hn]
  exact h

theorem within_typeReference {head : Ident} {args : List Node} {ids : List Ident} (h : Within args ids) :
    Within [nodeAt .typeReference head.pos [.text head.text, nodeList args]] (head :: ids) := by
  unfold Within
  rw [List.flatMap_singleton, Node.references_eq]
  have hr : (nodeAt .typeReference head.pos [.text head.text, nodeList args]).reference? = some head.reference := rfl
  have hc : (nodeAt .typeReference head.pos [.text head.text, nodeList args]).children = args := by
    simp [nodeAt, Node.children, Node.values]
  rw [hr, hc]
  exact List.Sublist.cons_cons _ h

end Within

section References

attribute [local simp] TypeExpr.heads typeHeads typeHeads? TypeParam.heads Param.heads Signature.heads Expr.heads
  exprHeads exprHeads? Block.heads Stmt.heads Declarator.heads ClassShape.heads Heritage.heads Member.heads

theorem within_ident (id : Ident) : Within [id.toNode] [] := by
  unfold Ident.toNode
  split
  · next v hv =>
    refine within_nodeAt (by decide) ?_
    simpa [Ident.nodes_wordValue? hv] using Within.nil []
  · refine within_nodeAt (by decide) ?_
    simpa using Within.nil []

theorem within_calleeNode (head : Ident) (path : List Ident) : Within [calleeNode head path] [] := by
  have hhead : Within [nodeAt .identifier head.pos [.text head.text]] [] :=
    within_nodeAt (by decide) (by simpa using Within.nil [])
  unfold calleeNode
  generalize nodeAt .identifier head.pos [.text head.text] = object at hhead
  induction path generalizing object with
  | nil => exact hhead
  | cons id path ih =>
    refine ih _ (within_nodeAt (by decide) ?_)
    simpa using hhead

mutual

theorem TypeExpr.within {n : Node} : ∀ ty : TypeExpr, ty.toNode = .ok n → Within [n] ty.heads
  | .named head path args, h => by
    simp only [TypeExpr.toNode, bind_eq_ok] at h
    obtain ⟨ns, hns, h⟩ := h
    have hargs := within_typeNodes args hns
    cases path with
    | nil =>
      obtain rfl := Except.ok.inj h
      exact within_typeReference hargs
    | cons id path =>
      obtain rfl := Except.ok.inj h
      refine within_nodeAt (by decide) ?_
      have hpath := nodes_texts ((head :: id :: path).map Ident.text)
      simp only [List.flatMap_cons, List.flatMap_nil, hpath, nodes_nodeList, List.nil_append, List.append_nil]
      exact (Within.nil [head]).append hargs
  | .literal lit, h => by
    simp only [TypeExpr.toNode, bind_eq_ok, pure_eq_ok] at h
    obtain ⟨v, hv, rfl⟩ := h
    refine within_nodeAt (by decide) ?_
    simpa [Literal.nodes_value hv] using Within.nil _
  | .array element, h => by
    simp only [TypeExpr.toNode, bind_eq_ok, pure_eq_ok] at h
    obtain ⟨m, hm, rfl⟩ := h
    refine within_nodeAt (by decide) ?_
    simpa using element.within hm
  | .union first others, h => by
    simp only [TypeExpr.toNode, bind_eq_ok, pure_eq_ok] at h
    obtain ⟨m, hm, ms, hms, rfl⟩ := h
    refine within_nodeAt (by decide) ?_
    simpa using (first.within hm).append (within_typeNodes others hms)
  | .function pos typeParams params result, h => by
    simp only [TypeExpr.toNode, bind_eq_ok, pure_eq_ok] at h
    obtain ⟨ps, hps, qs, hqs, m, hm, rfl⟩ := h
    refine within_nodeAt (by decide) ?_
    simpa using (within_typeParamNodes typeParams hps).append
      ((within_paramNodes params hqs).append (result.within hm))

theorem within_typeNodes {ns : List Node} : ∀ tys : List TypeExpr, typeNodes tys = .ok ns →
    Within ns (typeHeads tys)
  | [], h => by
    obtain rfl := Except.ok.inj h
    exact .nil _
  | ty :: tys, h => by
    simp only [typeNodes, bind_eq_ok, pure_eq_ok] at h
    obtain ⟨k, hk, ks, hks, rfl⟩ := h
    exact (TypeExpr.within ty hk).append (within_typeNodes tys hks)

theorem within_optionalTypeNode {n : Option Node} : ∀ ty : Option TypeExpr, optionalTypeNode ty = .ok n →
    Within n.toList (typeHeads? ty)
  | none, h => by
    obtain rfl := Except.ok.inj h
    exact .nil _
  | some ty, h => by
    simp only [optionalTypeNode, bind_eq_ok, pure_eq_ok] at h
    obtain ⟨m, hm, rfl⟩ := h
    exact TypeExpr.within ty hm

theorem TypeParam.within {n : Node} : ∀ p : TypeParam, p.toNode = .ok n → Within [n] p.heads
  | .mk name bound default, h => by
    simp only [TypeParam.toNode, bind_eq_ok, pure_eq_ok] at h
    obtain ⟨m, hm, d, hd, rfl⟩ := h
    refine within_nodeAt (by decide) ?_
    simpa using (within_optionalTypeNode bound hm).append (within_optionalTypeNode default hd)

theorem within_typeParamNodes {ns : List Node} : ∀ ps : List TypeParam, typeParamNodes ps = .ok ns →
    Within ns (typeParamHeads ps)
  | [], h => by
    obtain rfl := Except.ok.inj h
    exact .nil _
  | p :: ps, h => by
    simp only [typeParamNodes, bind_eq_ok, pure_eq_ok] at h
    obtain ⟨k, hk, ks, hks, rfl⟩ := h
    exact (TypeParam.within p hk).append (within_typeParamNodes ps hks)

theorem Param.within {n : Node} : ∀ p : Param, p.toNode = .ok n → Within [n] p.heads
  | .mk name optional declared default, h => by
    simp only [Param.toNode, bind_eq_ok, pure_eq_ok] at h
    obtain ⟨m, hm, d, hd, rfl⟩ := h
    refine within_nodeAt (by decide) ?_
    simpa using (within_optionalTypeNode declared hm).append (within_optionalExprNode default hd)

theorem within_paramNodes {ns : List Node} : ∀ ps : List Param, paramNodes ps = .ok ns →
    Within ns (paramHeads ps)
  | [], h => by
    obtain rfl := Except.ok.inj h
    exact .nil _
  | p :: ps, h => by
    simp only [paramNodes, bind_eq_ok, pure_eq_ok] at h
    obtain ⟨k, hk, ks, hks, rfl⟩ := h
    exact (Param.within p hk).append (within_paramNodes ps hks)

theorem Signature.within {s : SignatureNodes} : ∀ sig : Signature, sig.nodes = .ok s →
    Within (s.values.flatMap Value.nodes) sig.heads
  | .mk typeParams params result, h => by
    simp only [Signature.nodes, bind_eq_ok, pure_eq_ok] at h
    obtain ⟨ps, hps, qs, hqs, m, hm, rfl⟩ := h
    simpa [SignatureNodes.values] using
      (within_typeParamNodes typeParams hps).append ((within_paramNodes params hqs).append
        (within_optionalTypeNode result hm))

theorem Expr.within {n : Node} : ∀ e : Expr, e.toNode = .ok n → Within [n] e.heads
  | .name id, h => by
    obtain rfl := Except.ok.inj h
    exact within_ident id
  | .literal lit, h => by
    simp only [Expr.toNode, bind_eq_ok, pure_eq_ok] at h
    obtain ⟨v, hv, rfl⟩ := h
    refine within_nodeAt (by decide) ?_
    simpa [Literal.nodes_value hv] using Within.nil _
  | .member object property, h => by
    simp only [Expr.toNode, bind_eq_ok, pure_eq_ok] at h
    obtain ⟨m, hm, rfl⟩ := h
    refine within_nodeAt (by decide) ?_
    simpa using object.within hm
  | .call callee typeArgs args, h => by
    simp only [Expr.toNode, bind_eq_ok, pure_eq_ok] at h
    obtain ⟨m, hm, ts, hts, as, has, rfl⟩ := h
    refine within_nodeAt (by decide) ?_
    simpa using (callee.within hm).append ((within_typeNodes typeArgs hts).append (within_exprNodes args has))
  | .new pos head path typeArgs args, h => by
    simp only [Expr.toNode, bind_eq_ok, pure_eq_ok] at h
    obtain ⟨ts, hts, as, has, rfl⟩ := h
    refine within_nodeAt (by decide) ?_
    simpa using (within_calleeNode head path).append
      ((within_typeNodes typeArgs hts).append (within_exprNodes args has))
  | .assign target value, h => by
    simp only [Expr.toNode, bind_eq_ok, pure_eq_ok] at h
    obtain ⟨m, hm, v, hv, rfl⟩ := h
    refine within_nodeAt (by decide) ?_
    simpa using (target.within hm).append (value.within hv)
  | .binary left op right, h => by
    simp only [Expr.toNode, bind_eq_ok, pure_eq_ok] at h
    obtain ⟨m, hm, r, hr, rfl⟩ := h
    refine within_nodeAt (by decide) ?_
    simpa using (left.within hm).append (right.within hr)
  | .function pos sig body, h => by
    simp only [Expr.toNode, bind_eq_ok, pure_eq_ok] at h
    obtain ⟨s, hs, b, hb, rfl⟩ := h
    refine within_nodeAt (by decide) ?_
    simpa using (sig.within hs).append (body.within hb)
  | .arrow pos sig body, h => by
    simp only [Expr.toNode, bind_eq_ok, pure_eq_ok] at h
    obtain ⟨s, hs, b, hb, rfl⟩ := h
    refine within_nodeAt (by decide) ?_
    simpa using (sig.within hs).append (body.within hb)
  | .classExpr pos shape, h => by
    simp only [Expr.toNode, bind_eq_ok, pure_eq_ok] at h
    obtain ⟨s, hs, rfl⟩ := h
    exact within_nodeAt (by decide) (shape.within hs)

theorem within_exprNodes {ns : List Node} : ∀ es : List Expr, exprNodes es = .ok ns →
    Within ns (exprHeads es)
  | [], h => by
    obtain rfl := Except.ok.inj h
    exact .nil _
  | e :: es, h => by
    simp only [exprNodes, bind_eq_ok, pure_eq_ok] at h
    obtain ⟨k, hk, ks, hks, rfl⟩ := h
    exact (Expr.within e hk).append (within_exprNodes es hks)

theorem within_optionalExprNode {n : Option Node} : ∀ e : Option Expr, optionalExprNode e = .ok n →
    Within n.toList (exprHeads? e)
  | none, h => by
    obtain rfl := Except.ok.inj h
    exact .nil _
  | some e, h => by
    simp only [optionalExprNode, bind_eq_ok, pure_eq_ok] at h
    obtain ⟨m, hm, rfl⟩ := h
    exact Expr.within e hm

theorem ArrowBody.within {n : Node} : ∀ b : ArrowBody, b.toNode = .ok n → Within [n] b.heads
  | .block b, h => b.within h
  | .expr e, h => e.within h

theorem Block.within {n : Node} : ∀ b : Block, b.toNode = .ok n → Within [n] b.heads
  | .mk pos body, h => by
    simp only [Block.toNode, bind_eq_ok, pure_eq_ok] at h
    obtain ⟨ms, hms, rfl⟩ := h
    refine within_nodeAt (by decide) ?_
    simpa using within_stmtNodes body hms

theorem Stmt.within {n : Node} : ∀ s : Stmt, s.toNode = .ok n → Within [n] s.heads
  | .variables pos binder declarators, h => by
    simp only [Stmt.toNode, bind_eq_ok, pure_eq_ok] at h
    obtain ⟨ms, hms, rfl⟩ := h
    refine within_nodeAt (by decide) ?_
    simpa using within_declaratorNodes declarators hms
  | .function pos name sig body, h => by
    simp only [Stmt.toNode, bind_eq_ok, pure_eq_ok] at h
    obtain ⟨s, hs, b, hb, rfl⟩ := h
    refine within_nodeAt (by decide) ?_
    simpa using (sig.within hs).append (body.within hb)
  | .classDecl pos name shape, h => by
    simp only [Stmt.toNode, bind_eq_ok, pure_eq_ok] at h
    obtain ⟨s, hs, rfl⟩ := h
    exact within_nodeAt (by decide) (shape.within hs)
  | .ret pos value, h => by
    simp only [Stmt.toNode, bind_eq_ok, pure_eq_ok] at h
    obtain ⟨m, hm, rfl⟩ := h
    refine within_nodeAt (by decide) ?_
    simpa using within_optionalExprNode value hm
  | .expr e, h => by
    simp only [Stmt.toNode, bind_eq_ok, pure_eq_ok] at h
    obtain ⟨m, hm, rfl⟩ := h
    refine within_nodeAt (by decide) ?_
    simpa using e.within hm

theorem within_stmtNodes {ns : List Node} : ∀ ss : List Stmt, stmtNodes ss = .ok ns →
    Within ns (stmtHeads ss)
  | [], h => by
    obtain rfl := Except.ok.inj h
    exact .nil _
  | s :: ss, h => by
    simp only [stmtNodes, bind_eq_ok, pure_eq_ok] at h
    obtain ⟨k, hk, ks, hks, rfl⟩ := h
    exact (Stmt.within s hk).append (within_stmtNodes ss hks)

theorem Declarator.within {n : Node} : ∀ d : Declarator, d.toNode = .ok n → Within [n] d.heads
  | .mk name declared init, h => by
    simp only [Declarator.toNode, bind_eq_ok, pure_eq_ok] at h
    obtain ⟨m, hm, i, hi, rfl⟩ := h
    refine within_nodeAt (by decide) ?_
    simpa using (within_optionalTypeNode declared hm).append (within_optionalExprNode init hi)

theorem within_declaratorNodes {ns : List Node} : ∀ ds : List Declarator, declaratorNodes ds = .ok ns →
    Within ns (declaratorHeads ds)
  | [], h => by
    obtain rfl := Except.ok.inj h
    exact .nil _
  | d :: ds, h => by
    simp only [declaratorNodes, bind_eq_ok, pure_eq_ok] at h
    obtain ⟨k, hk, ks, hks, rfl⟩ := h
    exact (Declarator.within d hk).append (within_declaratorNodes ds hks)

theorem ClassShape.within {c : ClassNodes} : ∀ shape : ClassShape, shape.nodes = .ok c →
    Within (c.values.flatMap Value.nodes) shape.heads
  | .mk typeParams heritage members, h => by
    simp only [ClassShape.nodes, bind_eq_ok, pure_eq_ok] at h
    obtain ⟨b, hb, ms, hms, ps, hps, rfl⟩ := h
    simpa [ClassNodes.values] using
      (within_typeParamNodes typeParams hps).append ((within_optionalHeritageNode heritage hb).append
        (within_memberNodes members hms))

theorem Heritage.within {n : Node} : ∀ b : Heritage, b.toNode = .ok n → Within [n] b.heads
  | .mk name typeArgs, h => by
    simp only [Heritage.toNode, bind_eq_ok, pure_eq_ok] at h
    obtain ⟨ts, hts, rfl⟩ := h
    refine within_nodeAt (by decide) ?_
    simpa using within_typeNodes typeArgs hts

theorem within_optionalHeritageNode {n : Option Node} : ∀ b : Option Heritage, optionalHeritageNode b = .ok n →
    Within n.toList (heritageHeads? b)
  | none, h => by
    obtain rfl := Except.ok.inj h
    exact .nil _
  | some b, h => by
    simp only [optionalHeritageNode, bind_eq_ok, pure_eq_ok] at h
    obtain ⟨m, hm, rfl⟩ := h
    exact Heritage.within b hm

theorem Member.within {n : Node} : ∀ m : Member, m.toNode = .ok n → Within [n] m.heads
  | .method name sig body, h => by
    simp only [Member.toNode, bind_eq_ok, pure_eq_ok] at h
    obtain ⟨s, hs, b, hb, rfl⟩ := h
    have hf : Within [nodeAt .functionExpression name.pos (s.values ++ [.node b])] (sig.heads ++ body.heads) := by
      refine within_nodeAt (by decide) ?_
      simpa using (sig.within hs).append (body.within hb)
    refine within_nodeAt (by decide) ?_
    simpa using hf
  | .property name optional declared value, h => by
    simp only [Member.toNode, bind_eq_ok, pure_eq_ok] at h
    obtain ⟨m, hm, v, hv, rfl⟩ := h
    refine within_nodeAt (by decide) ?_
    simpa using (within_optionalTypeNode declared hm).append (within_optionalExprNode value hv)

theorem within_memberNodes {ns : List Node} : ∀ ms : List Member, memberNodes ms = .ok ns →
    Within ns (memberHeads ms)
  | [], h => by
    obtain rfl := Except.ok.inj h
    exact .nil _
  | m :: ms, h => by
    simp only [memberNodes, bind_eq_ok, pure_eq_ok] at h
    obtain ⟨k, hk, ks, hks, rfl⟩ := h
    exact (Member.within m hk).append (within_memberNodes ms hks)

end

end References

/-- The type references of a program are among its heads, in the order of the source. -/
theorem Program.references_sublist {p : Program} {root : Node} (h : p.toNode = .ok root) :
    root.references.Sublist (p.heads.map Ident.reference) := by
  simp only [Program.toNode, bind_eq_ok, pure_eq_ok] at h
  obtain ⟨ms, hms, rfl⟩ := h
  have hroot : Within [nodeAt .program .start [nodeList ms]] p.heads := by
    refine within_nodeAt (by decide) ?_
    simpa [Program.heads] using within_stmtNodes p.body hms
  simpa [Within] using hroot

end TypeLint.Source
