import TypeLint.Proofs.Tree.Address
import TypeLint.Tree.Build

/-!
# The shape of the tree of a program

In the tree of a program each node has a value for every field of its kind, types stand where types are declared, and
parameters where parameters are.

* `NodeKind.allows` — which kinds may stand in a field;
* `Node.Conforms` — every node of a tree has a location and the fields of its kind, with nodes of allowed kinds in
  them;
* `Node.Conforms.enumerates_preorder` — such a tree is visited occurrence by occurrence;
* `Program.conforms` — the tree of a program conforms.
-/

namespace TypeLint.Tree

/-- The kinds of types. -/
def NodeKind.isType : NodeKind → Bool
  | .typeReference | .qualifiedTypeReference | .arrayType | .unionType | .functionType | .literalType => true
  | _ => false

/-- The kinds that may stand in a field, where they matter for the types that are mentioned. -/
def NodeKind.allows (parent : NodeKind) (f : Field) (child : NodeKind) : Bool :=
  match f with
  | .declaredType | .returnType | .typeArgs | .element | .types | .constraint => child.isType
  | .typeParams => child = .typeParameter
  | .params => child = .param
  | .heritage => child = .classHeritage
  | .default => parent ≠ .typeParameter || child.isType
  | _ => true

/-- Every node of a tree has a location and the fields of its kind, with nodes of allowed kinds in them. -/
inductive Node.Conforms : Node → Prop
  | intro {n : Node} (located : n.loc.isSome = true) (arity : n.values.length = n.kind.fields.length)
      (allowed : ∀ e c, n.follow e = some c → n.kind.allows e.through c.kind = true)
      (below : ∀ e c, n.follow e = some c → c.Conforms) : n.Conforms

namespace Node.Conforms

theorem located {n : Node} : n.Conforms → n.loc.isSome = true
  | .intro h _ _ _ => h

theorem arity {n : Node} : n.Conforms → n.values.length = n.kind.fields.length
  | .intro _ h _ _ => h

theorem allowed {n c : Node} {e : Edge} (h : n.Conforms) (he : n.follow e = some c) :
    n.kind.allows e.through c.kind = true := by
  obtain ⟨-, -, h, -⟩ := h
  exact h e c he

theorem follow {n c : Node} {e : Edge} (h : n.Conforms) (he : n.follow e = some c) : c.Conforms := by
  obtain ⟨-, -, -, h⟩ := h
  exact h e c he

theorem at? {n m : Node} {a : Address} (h : n.Conforms) (ha : n.at? a = some m) : m.Conforms := by
  induction a generalizing n with
  | nil => exact Option.some.inj ha ▸ h
  | cons e a ih =>
    obtain ⟨c, hc, ha⟩ := Node.at?_cons_eq_some.1 ha
    exact ih (h.follow hc) ha

/-- A tree that conforms is visited occurrence by occurrence. -/
theorem enumerates_preorder {n : Node} (h : n.Conforms) : Enumerates n.preorder fun a m => n.at? a = some m := by
  induction n using Node.preorder.induct with
  | case1 n ih =>
    rw [Node.preorder_eq n]
    have hroot : Enumerates [n] fun (a : Address) m => a = [] ∧ m = n := .singleton fun _ _ => Iff.rfl
    have hbelow := (Node.enumerates_children (Nat.le_of_eq h.arity)).flatMap List.cons
      (fun e c he => ih c (Node.mem_children_of_follow he) (h.follow he)) fun _ _ _ _ => List.cons.inj
    refine (hroot.append hbelow ?_).congr ?_
    · rintro a m m' ⟨rfl, -⟩ ⟨e, c, a, -, -, h⟩
      exact List.cons_ne_nil e a h
    · intro a m
      cases a with
      | nil => simp [eq_comm]
      | cons e a => simp [Node.at?_cons_eq_some]

end Node.Conforms

/-! ## nodes that conform -/

/-- The nodes of a value conform and may stand in a field. -/
def Value.Fits (parent : NodeKind) (f : Field) (v : Value) : Prop :=
  ∀ c ∈ v.nodes, parent.allows f c.kind = true ∧ c.Conforms

theorem Node.conforms_of_fits {n : Node} (hloc : n.loc.isSome = true)
    (h : List.Forall₂ (Value.Fits n.kind) n.kind.fields n.values) :
    n.Conforms := by
  have hfit : ∀ e c, n.follow e = some c → n.kind.allows e.through c.kind = true ∧ c.Conforms := by
    intro e c he
    obtain ⟨v, hz, hc⟩ := Node.follow_eq_some.1 he
    exact (List.forall₂_iff_zip.1 h).2 hz c (Value.mem_nodes_of_follow hc)
  exact .intro hloc h.length_eq.symm (fun e c he => (hfit e c he).1) fun e c he => (hfit e c he).2

end TypeLint.Tree

namespace TypeLint.Source

open TypeLint.Tree

/-! ## what the values of fields hold -/

@[simp]
theorem nodes_null : Value.null.nodes = [] := rfl

@[simp]
theorem nodes_bool (b : Bool) : (Value.bool b).nodes = [] := rfl

@[simp]
theorem nodes_text (t : Text) : (Value.text t).nodes = [] := rfl

@[simp]
theorem nodes_texts (ts : List Text) : (Value.list (ts.map .text)).nodes = [] := by
  simp [Value.nodes, List.filterMap_map, Function.comp_def, Value.node?]

@[simp]
theorem nodes_node (n : Node) : (Value.node n).nodes = [n] := rfl

@[simp]
theorem nodes_nodeList (ns : List Node) : (nodeList ns).nodes = ns := by
  simp [nodeList, Value.nodes, List.filterMap_map, Function.comp_def, Value.node?]

@[simp]
theorem nodes_writtenList (ns : List Node) : (writtenList ns).nodes = ns := by
  unfold writtenList
  split
  · next h =>
    rw [List.isEmpty_iff.1 h]
    rfl
  · exact nodes_nodeList ns

@[simp]
theorem nodes_optionalNode (n : Option Node) : (optionalNode n).nodes = n.toList := by
  cases n <;> rfl

theorem nodes_numberValue {t : Text} {v : Value} (h : numberValue t = .ok v) : v.nodes = [] := by
  unfold numberValue at h
  split at h
  · obtain rfl := Except.ok.inj h
    rfl
  · split at h
    · simp at h
    · obtain rfl := Except.ok.inj h
      rfl

theorem Literal.nodes_value {lit : Literal} {v : Value} (h : lit.value = .ok v) : v.nodes = [] := by
  unfold Literal.value at h
  split at h
  · exact nodes_numberValue h
  · split at h
    · obtain rfl := Except.ok.inj h
      rfl
    · simp at h

theorem Ident.nodes_wordValue? {word : Text} {v : Value} (h : wordValue? word = some v) : v.nodes = [] := by
  unfold wordValue? at h
  split_ifs at h <;> obtain rfl := Option.some.inj h <;> rfl

/-! ## the tree of a program -/

section Except

variable {ε α β : Type}

theorem bind_eq_ok {x : Except ε α} {f : α → Except ε β} {b : β} :
    (x >>= f) = .ok b ↔ ∃ a, x = .ok a ∧ f a = .ok b := by
  cases x <;> simp [bind, Except.bind]

theorem pure_eq_ok {a b : α} : (pure a : Except ε α) = .ok b ↔ a = b := by
  simp [pure, Except.pure]

end Except

theorem conforms_nodeAt {k : NodeKind} {pos : Pos} {values : List Value}
    (h : List.Forall₂ (Value.Fits k) k.fields values) : (nodeAt k pos values).Conforms :=
  Node.conforms_of_fits rfl h

section Conforms

attribute [local simp] NodeKind.fields Value.Fits NodeKind.allows

theorem Ident.conforms_toNode (id : Ident) : id.toNode.Conforms := by
  unfold Ident.toNode
  split
  · next v hv =>
    refine conforms_nodeAt ?_
    simp [Ident.nodes_wordValue? hv]
  · refine conforms_nodeAt ?_
    simp

theorem conforms_calleeNode (head : Ident) (path : List Ident) : (calleeNode head path).Conforms := by
  have hhead : (nodeAt .identifier head.pos [.text head.text]).Conforms := conforms_nodeAt (by simp)
  unfold calleeNode
  generalize nodeAt .identifier head.pos [.text head.text] = object at hhead
  induction path generalizing object with
  | nil => exact hhead
  | cons id path ih =>
    refine ih _ (conforms_nodeAt ?_)
    simp [hhead]

/-- The parts of a signature stand where they are allowed. -/
structure SignatureNodes.Conform (s : SignatureNodes) : Prop where
  typeParams : ∀ n ∈ s.typeParams, n.kind = .typeParameter ∧ n.Conforms
  params : ∀ n ∈ s.params, n.kind = .param ∧ n.Conforms
  result : ∀ n ∈ s.result, n.kind.isType = true ∧ n.Conforms

/-- The parts of a class stand where they are allowed. -/
structure ClassNodes.Conform (c : ClassNodes) : Prop where
  typeParams : ∀ n ∈ c.typeParams, n.kind = .typeParameter ∧ n.Conforms
  heritage : ∀ n ∈ c.heritage, n.kind = .classHeritage ∧ n.Conforms
  members : ∀ n ∈ c.members, n.Conforms

mutual

theorem TypeExpr.conforms {n : Node} : ∀ ty : TypeExpr, ty.toNode = .ok n → n.kind.isType = true ∧ n.Conforms
  | .named head path args, h => by
    simp only [TypeExpr.toNode, bind_eq_ok] at h
    obtain ⟨ns, hns, h⟩ := h
    have hargs := conforms_typeNodes args hns
    cases path with
    | nil =>
      obtain rfl := Except.ok.inj h
      refine ⟨rfl, conforms_nodeAt ?_⟩
      simpa using hargs
    | cons id path =>
      obtain rfl := Except.ok.inj h
      refine ⟨rfl, conforms_nodeAt ?_⟩
      have hpath := nodes_texts ((head :: id :: path).map Ident.text)
      simpa [-List.map_cons, -List.map_map, hpath] using hargs
  | .literal lit, h => by
    simp only [TypeExpr.toNode, bind_eq_ok, pure_eq_ok] at h
    obtain ⟨v, hv, rfl⟩ := h
    refine ⟨rfl, conforms_nodeAt ?_⟩
    simp [Literal.nodes_value hv]
  | .array element, h => by
    simp only [TypeExpr.toNode, bind_eq_ok, pure_eq_ok] at h
    obtain ⟨m, hm, rfl⟩ := h
    refine ⟨rfl, conforms_nodeAt ?_⟩
    simpa using element.conforms hm
  | .union first others, h => by
    simp only [TypeExpr.toNode, bind_eq_ok, pure_eq_ok] at h
    obtain ⟨m, hm, ms, hms, rfl⟩ := h
    refine ⟨rfl, conforms_nodeAt ?_⟩
    simpa using ⟨first.conforms hm, conforms_typeNodes others hms⟩
  | .function pos typeParams params result, h => by
    simp only [TypeExpr.toNode, bind_eq_ok, pure_eq_ok] at h
    obtain ⟨ps, hps, qs, hqs, m, hm, rfl⟩ := h
    refine ⟨rfl, conforms_nodeAt ?_⟩
    simpa using ⟨conforms_typeParamNodes typeParams hps, conforms_paramNodes params hqs, result.conforms hm⟩

theorem conforms_typeNodes {ns : List Node} : ∀ tys : List TypeExpr, typeNodes tys = .ok ns →
    ∀ n ∈ ns, n.kind.isType = true ∧ n.Conforms
  | [], h => by
    obtain rfl := Except.ok.inj h
    nofun
  | ty :: tys, h => by
    simp only [typeNodes, bind_eq_ok, pure_eq_ok] at h
    obtain ⟨m, hm, ms, hms, rfl⟩ := h
    exact List.forall_mem_cons.2 ⟨ty.conforms hm, conforms_typeNodes tys hms⟩

theorem conforms_optionalTypeNode {n : Option Node} : ∀ ty : Option TypeExpr, optionalTypeNode ty = .ok n →
    ∀ m ∈ n, m.kind.isType = true ∧ m.Conforms
  | none, h => by
    obtain rfl := Except.ok.inj h
    nofun
  | some ty, h => by
    simp only [optionalTypeNode, bind_eq_ok, pure_eq_ok] at h
    obtain ⟨m, hm, rfl⟩ := h
    simpa using ty.conforms hm

theorem TypeParam.conforms {n : Node} : ∀ p : TypeParam, p.toNode = .ok n →
    n.kind = .typeParameter ∧ n.Conforms
  | .mk name bound default, h => by
    simp only [TypeParam.toNode, bind_eq_ok, pure_eq_ok] at h
    obtain ⟨m, hm, d, hd, rfl⟩ := h
    refine ⟨rfl, conforms_nodeAt ?_⟩
    simpa using ⟨conforms_optionalTypeNode bound hm, conforms_optionalTypeNode default hd⟩

theorem conforms_typeParamNodes {ns : List Node} : ∀ ps : List TypeParam, typeParamNodes ps = .ok ns →
    ∀ n ∈ ns, n.kind = .typeParameter ∧ n.Conforms
  | [], h => by
    obtain rfl := Except.ok.inj h
    nofun
  | p :: ps, h => by
    simp only [typeParamNodes, bind_eq_ok, pure_eq_ok] at h
    obtain ⟨m, hm, ms, hms, rfl⟩ := h
    exact List.forall_mem_cons.2 ⟨p.conforms hm, conforms_typeParamNodes ps hms⟩

theorem Param.conforms {n : Node} : ∀ p : Param, p.toNode = .ok n → n.kind = .param ∧ n.Conforms
  | .mk name optional declared default, h => by
    simp only [Param.toNode, bind_eq_ok, pure_eq_ok] at h
    obtain ⟨m, hm, d, hd, rfl⟩ := h
    refine ⟨rfl, conforms_nodeAt ?_⟩
    simpa using ⟨conforms_optionalTypeNode declared hm, conforms_optionalExprNode default hd⟩

theorem conforms_paramNodes {ns : List Node} : ∀ ps : List Param, paramNodes ps = .ok ns →
    ∀ n ∈ ns, n.kind = .param ∧ n.Conforms
  | [], h => by
    obtain rfl := Except.ok.inj h
    nofun
  | p :: ps, h => by
    simp only [paramNodes, bind_eq_ok, pure_eq_ok] at h
    obtain ⟨m, hm, ms, hms, rfl⟩ := h
    exact List.forall_mem_cons.2 ⟨p.conforms hm, conforms_paramNodes ps hms⟩

theorem Signature.conform {s : SignatureNodes} : ∀ sig : Signature, sig.nodes = .ok s → s.Conform
  | .mk typeParams params result, h => by
    simp only [Signature.nodes, bind_eq_ok, pure_eq_ok] at h
    obtain ⟨ps, hps, qs, hqs, m, hm, rfl⟩ := h
    exact ⟨conforms_typeParamNodes typeParams hps, conforms_paramNodes params hqs, conforms_optionalTypeNode result hm⟩

theorem Expr.conforms {n : Node} : ∀ e : Expr, e.toNode = .ok n → n.Conforms
  | .name id, h => by
    obtain rfl := Except.ok.inj h
    exact id.conforms_toNode
  | .literal lit, h => by
    simp only [Expr.toNode, bind_eq_ok, pure_eq_ok] at h
    obtain ⟨v, hv, rfl⟩ := h
    refine conforms_nodeAt ?_
    simp [Literal.nodes_value hv]
  | .member object property, h => by
    simp only [Expr.toNode, bind_eq_ok, pure_eq_ok] at h
    obtain ⟨m, hm, rfl⟩ := h
    refine conforms_nodeAt ?_
    simpa using object.conforms hm
  | .call callee typeArgs args, h => by
    simp only [Expr.toNode, bind_eq_ok, pure_eq_ok] at h
    obtain ⟨m, hm, ts, hts, as, has, rfl⟩ := h
    refine conforms_nodeAt ?_
    simpa using ⟨callee.conforms hm, conforms_typeNodes typeArgs hts, conforms_exprNodes args has⟩
  | .new pos head path typeArgs args, h => by
    simp only [Expr.toNode, bind_eq_ok, pure_eq_ok] at h
    obtain ⟨ts, hts, as, has, rfl⟩ := h
    refine conforms_nodeAt ?_
    simpa using ⟨conforms_calleeNode head path, conforms_typeNodes typeArgs hts, conforms_exprNodes args has⟩
  | .assign target value, h => by
    simp only [Expr.toNode, bind_eq_ok, pure_eq_ok] at h
    obtain ⟨m, hm, v, hv, rfl⟩ := h
    refine conforms_nodeAt ?_
    simpa using ⟨target.conforms hm, value.conforms hv⟩
  | .binary left op right, h => by
    simp only [Expr.toNode, bind_eq_ok, pure_eq_ok] at h
    obtain ⟨m, hm, r, hr, rfl⟩ := h
    refine conforms_nodeAt ?_
    simpa using ⟨left.conforms hm, right.conforms hr⟩
  | .function pos sig body, h => by
    simp only [Expr.toNode, bind_eq_ok, pure_eq_ok] at h
    obtain ⟨s, hs, b, hb, rfl⟩ := h
    obtain ⟨h1, h2, h3⟩ := sig.conform hs
    refine conforms_nodeAt ?_
    simpa [SignatureNodes.values] using ⟨h1, h2, h3, body.conforms hb⟩
  | .arrow pos sig body, h => by
    simp only [Expr.toNode, bind_eq_ok, pure_eq_ok] at h
    obtain ⟨s, hs, b, hb, rfl⟩ := h
    obtain ⟨h1, h2, h3⟩ := sig.conform hs
    refine conforms_nodeAt ?_
    simpa [SignatureNodes.values] using ⟨h1, h2, h3, body.conforms hb⟩
  | .classExpr pos shape, h => by
    simp only [Expr.toNode, bind_eq_ok, pure_eq_ok] at h
    obtain ⟨s, hs, rfl⟩ := h
    obtain ⟨h1, h2, h3⟩ := shape.conform hs
    refine conforms_nodeAt ?_
    simpa [ClassNodes.values] using ⟨h1, h2, h3⟩

theorem conforms_exprNodes {ns : List Node} : ∀ es : List Expr, exprNodes es = .ok ns → ∀ n ∈ ns, n.Conforms
  | [], h => by
    obtain rfl := Except.ok.inj h
    nofun
  | e :: es, h => by
    simp only [exprNodes, bind_eq_ok, pure_eq_ok] at h
    obtain ⟨m, hm, ms, hms, rfl⟩ := h
    exact List.forall_mem_cons.2 ⟨e.conforms hm, conforms_exprNodes es hms⟩

theorem conforms_optionalExprNode {n : Option Node} : ∀ e : Option Expr, optionalExprNode e = .ok n →
    ∀ m ∈ n, m.Conforms
  | none, h => by
    obtain rfl := Except.ok.inj h
    nofun
  | some e, h => by
    simp only [optionalExprNode, bind_eq_ok, pure_eq_ok] at h
    obtain ⟨m, hm, rfl⟩ := h
    simpa using e.conforms hm

theorem ArrowBody.conforms {n : Node} : ∀ b : ArrowBody, b.toNode = .ok n → n.Conforms
  | .block b, h => b.conforms h
  | .expr e, h => e.conforms h

theorem Block.conforms {n : Node} : ∀ b : Block, b.toNode = .ok n → n.Conforms
  | .mk pos body, h => by
    simp only [Block.toNode, bind_eq_ok, pure_eq_ok] at h
    obtain ⟨ms, hms, rfl⟩ := h
    refine conforms_nodeAt ?_
    simpa using conforms_stmtNodes body hms

theorem Stmt.conforms {n : Node} : ∀ s : Stmt, s.toNode = .ok n → n.Conforms
  | .variables pos binder declarators, h => by
    simp only [Stmt.toNode, bind_eq_ok, pure_eq_ok] at h
    obtain ⟨ms, hms, rfl⟩ := h
    refine conforms_nodeAt ?_
    simpa using conforms_declaratorNodes declarators hms
  | .function pos name sig body, h => by
    simp only [Stmt.toNode, bind_eq_ok, pure_eq_ok] at h
    obtain ⟨s, hs, b, hb, rfl⟩ := h
    obtain ⟨h1, h2, h3⟩ := sig.conform hs
    refine conforms_nodeAt ?_
    simpa [SignatureNodes.values] using ⟨h1, h2, h3, body.conforms hb⟩
  | .classDecl pos name shape, h => by
    simp only [Stmt.toNode, bind_eq_ok, pure_eq_ok] at h
    obtain ⟨s, hs, rfl⟩ := h
    obtain ⟨h1, h2, h3⟩ := shape.conform hs
    refine conforms_nodeAt ?_
    simpa [ClassNodes.values] using ⟨h1, h2, h3⟩
  | .ret pos value, h => by
    simp only [Stmt.toNode, bind_eq_ok, pure_eq_ok] at h
    obtain ⟨m, hm, rfl⟩ := h
    refine conforms_nodeAt ?_
    simpa using conforms_optionalExprNode value hm
  | .expr e, h => by
    simp only [Stmt.toNode, bind_eq_ok, pure_eq_ok] at h
    obtain ⟨m, hm, rfl⟩ := h
    refine conforms_nodeAt ?_
    simpa using e.conforms hm

theorem conforms_stmtNodes {ns : List Node} : ∀ ss : List Stmt, stmtNodes ss = .ok ns → ∀ n ∈ ns, n.Conforms
  | [], h => by
    obtain rfl := Except.ok.inj h
    nofun
  | s :: ss, h => by
    simp only [stmtNodes, bind_eq_ok, pure_eq_ok] at h
    obtain ⟨m, hm, ms, hms, rfl⟩ := h
    exact List.forall_mem_cons.2 ⟨s.conforms hm, conforms_stmtNodes ss hms⟩

theorem Declarator.conforms {n : Node} : ∀ d : Declarator, d.toNode = .ok n → n.Conforms
  | .mk name declared init, h => by
    simp only [Declarator.toNode, bind_eq_ok, pure_eq_ok] at h
    obtain ⟨m, hm, i, hi, rfl⟩ := h
    refine conforms_nodeAt ?_
    simpa using ⟨conforms_optionalTypeNode declared hm, conforms_optionalExprNode init hi⟩

theorem conforms_declaratorNodes {ns : List Node} : ∀ ds : List Declarator, declaratorNodes ds = .ok ns →
    ∀ n ∈ ns, n.Conforms
  | [], h => by
    obtain rfl := Except.ok.inj h
    nofun
  | d :: ds, h => by
    simp only [declaratorNodes, bind_eq_ok, pure_eq_ok] at h
    obtain ⟨m, hm, ms, hms, rfl⟩ := h
    exact List.forall_mem_cons.2 ⟨d.conforms hm, conforms_declaratorNodes ds hms⟩

theorem ClassShape.conform {c : ClassNodes} : ∀ shape : ClassShape, shape.nodes = .ok c → c.Conform
  | .mk typeParams heritage members, h => by
    simp only [ClassShape.nodes, bind_eq_ok, pure_eq_ok] at h
    obtain ⟨b, hb, ms, hms, ps, hps, rfl⟩ := h
    exact ⟨conforms_typeParamNodes typeParams hps, conforms_optionalHeritageNode heritage hb,
      conforms_memberNodes members hms⟩

theorem Heritage.conforms {n : Node} : ∀ b : Heritage, b.toNode = .ok n → n.kind = .classHeritage ∧ n.Conforms
  | .mk name typeArgs, h => by
    simp only [Heritage.toNode, bind_eq_ok, pure_eq_ok] at h
    obtain ⟨ts, hts, rfl⟩ := h
    refine ⟨rfl, conforms_nodeAt ?_⟩
    simpa using conforms_typeNodes typeArgs hts

theorem conforms_optionalHeritageNode {n : Option Node} : ∀ b : Option Heritage, optionalHeritageNode b = .ok n →
    ∀ m ∈ n, m.kind = .classHeritage ∧ m.Conforms
  | none, h => by
    obtain rfl := Except.ok.inj h
    nofun
  | some b, h => by
    simp only [optionalHeritageNode, bind_eq_ok, pure_eq_ok] at h
    obtain ⟨m, hm, rfl⟩ := h
    simpa using b.conforms hm

theorem Member.conforms {n : Node} : ∀ m : Member, m.toNode = .ok n → n.Conforms
  | .method name sig body, h => by
    simp only [Member.toNode, bind_eq_ok, pure_eq_ok] at h
    obtain ⟨s, hs, b, hb, rfl⟩ := h
    obtain ⟨h1, h2, h3⟩ := sig.conform hs
    have hf : (nodeAt .functionExpression name.pos (s.values ++ [.node b])).Conforms := by
      refine conforms_nodeAt ?_
      simpa [SignatureNodes.values] using ⟨h1, h2, h3, body.conforms hb⟩
    refine conforms_nodeAt ?_
    simpa using hf
  | .property name optional declared value, h => by
    simp only [Member.toNode, bind_eq_ok, pure_eq_ok] at h
    obtain ⟨m, hm, v, hv, rfl⟩ := h
    refine conforms_nodeAt ?_
    simpa using ⟨conforms_optionalTypeNode declared hm, conforms_optionalExprNode value hv⟩

theorem conforms_memberNodes {ns : List Node} : ∀ ms : List Member, memberNodes ms = .ok ns → ∀ n ∈ ns, n.Conforms
  | [], h => by
    obtain rfl := Except.ok.inj h
    nofun
  | m :: ms, h => by
    simp only [memberNodes, bind_eq_ok, pure_eq_ok] at h
    obtain ⟨k, hk, ks, hks, rfl⟩ := h
    exact List.forall_mem_cons.2 ⟨m.conforms hk, conforms_memberNodes ms hks⟩

end

/-- The tree of a program conforms. -/
theorem Program.conforms {p : Program} {root : Node} (h : p.toNode = .ok root) : root.Conforms := by
  simp only [Program.toNode, bind_eq_ok, pure_eq_ok] at h
  obtain ⟨ms, hms, rfl⟩ := h
  refine conforms_nodeAt ?_
  simpa using conforms_stmtNodes p.body hms

end Conforms

end TypeLint.Source
