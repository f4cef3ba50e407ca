import TypeLint.Proofs.Source.Move
import TypeLint.Proofs.Tree.Address
import TypeLint.Tree.Build

/-!
# Relocating trees

`relocate g` changes the locations of a tree as `g` says, at any depth, and nothing else.  The tree of a phrase that
is moved is the tree of the phrase, relocated.

* `Node.relocate`, `Value.relocate` — trees with other locations;
* `Node.get_relocate`, `Node.children_relocate`, `Node.preorder_relocate` — their parts are the parts, relocated;
* `stmtNodes_move` — the trees of statements that are moved.
-/

namespace TypeLint.Tree

mutual

/-- The node, with the locations changed. -/
def Node.relocate (g : Loc → Loc) : Node → Node
  | .mk kind loc values => .mk kind (loc.map g) (relocateValues g values)

/-- The value, with the locations changed. -/
def Value.relocate (g : Loc → Loc) : Value → Value
  | .null => .null
  | .bool b => .bool b
  | .int n => .int n
  | .float x => .float x
  | .text t => .text t
  | .node n => .node (n.relocate g)
  | .list vs => .list (relocateValues g vs)

/-- The values, with the locations changed. -/
def relocateValues (g : Loc → Loc) : List Value → List Value
  | [] => []
  | v :: vs => v.relocate g :: relocateValues g vs

end

/-! ## parts of relocated trees -/

variable (g : Loc → Loc)

@[simp]
theorem relocateValues_eq_map (vs : List Value) : relocateValues g vs = vs.map (Value.relocate g) := by
  induction vs with
  | nil => rfl
  | cons v vs ih => rw [relocateValues, ih, List.map_cons]

@[simp]
theorem Node.kind_relocate (n : Node) : (n.relocate g).kind = n.kind := by
  cases n
  rfl

@[simp]
theorem Node.loc_relocate (n : Node) : (n.relocate g).loc = n.loc.map g := by
  cases n
  rfl

@[simp]
theorem Node.values_relocate (n : Node) : (n.relocate g).values = n.values.map (Value.relocate g) := by
  obtain ⟨kind, loc, values⟩ := n
  exact relocateValues_eq_map g values

@[simp]
theorem Value.node?_relocate (v : Value) : (v.relocate g).node? = v.node?.map (Node.relocate g) := by
  cases v <;> rfl

@[simp]
theorem Value.text?_relocate (v : Value) : (v.relocate g).text? = v.text? := by
  cases v <;> rfl

@[simp]
theorem Value.items_relocate (v : Value) : (v.relocate g).items = v.items.map (Node.relocate g) := by
  cases v with
  | list vs => simp [Value.relocate, Value.items, List.map_filterMap]
  | _ => rfl

@[simp]
theorem Value.nodes_relocate (v : Value) : (v.relocate g).nodes = v.nodes.map (Node.relocate g) := by
  cases v with
  | list vs => simp [Value.relocate, Value.nodes, List.map_filterMap]
  | _ => rfl

@[simp]
theorem Node.get_relocate (n : Node) (f : Field) : (n.relocate g).get f = (n.get f).relocate g := by
  unfold Node.get
  rw [Node.kind_relocate, Node.values_relocate, List.zip_map_right, List.find?_map]
  cases h : (n.kind.fields.zip n.values).find? (·.1 = f) with
  | none => simp [Function.comp_def, h, Value.relocate]
  | some x => simp [Function.comp_def, h]

@[simp]
theorem Node.child?_relocate (n : Node) (f : Field) :
    (n.relocate g).child? f = (n.child? f).map (Node.relocate g) := by
  simp [Node.child?]

@[simp]
theorem Node.items_relocate (n : Node) (f : Field) :
    (n.relocate g).items f = (n.items f).map (Node.relocate g) := by
  simp [Node.items]

@[simp]
theorem Node.name?_relocate (n : Node) : (n.relocate g).name? = n.name? := by
  simp [Node.name?]

@[simp]
theorem Node.children_relocate (n : Node) : (n.relocate g).children = n.children.map (Node.relocate g) := by
  simp [Node.children, List.flatMap_map, List.map_flatMap]

@[simp]
theorem Node.preorder_relocate (n : Node) : (n.relocate g).preorder = n.preorder.map (Node.relocate g) := by
  rw [Node.preorder_eq, Node.preorder_eq n, Node.children_relocate, List.map_cons, List.flatMap_map, List.map_flatMap]
  congr 1
  refine List.flatMap_congr ?_
  intro c hc
  exact c.preorder_relocate
termination_by n.size
decreasing_by exact Node.size_children_lt hc

end TypeLint.Tree

namespace TypeLint.Source

open TypeLint.Tree

section Move

variable {f : Pos → Pos} {g : Loc → Loc} (hfg : ∀ p : Pos, (f p).toLoc = g p.toLoc)

/-! ## values -/

@[simp]
theorem relocate_nodeList (ns : List Node) : (nodeList ns).relocate g = nodeList (ns.map (Node.relocate g)) := by
  simp [nodeList, Value.relocate]

@[simp]
theorem relocate_writtenList (ns : List Node) :
    (writtenList ns).relocate g = writtenList (ns.map (Node.relocate g)) := by
  cases ns <;> simp [writtenList, Value.relocate]

@[simp]
theorem relocate_optionalNode (n : Option Node) :
    (optionalNode n).relocate g = optionalNode (n.map (Node.relocate g)) := by
  cases n <;> rfl

/-- The parts of a signature, with the locations changed. -/
def SignatureNodes.relocate (g : Loc → Loc) (s : SignatureNodes) : SignatureNodes :=
  ⟨s.typeParams.map (Node.relocate g), s.params.map (Node.relocate g), s.result.map (Node.relocate g)⟩

@[simp]
theorem SignatureNodes.values_relocate (s : SignatureNodes) :
    (s.relocate g).values = s.values.map (Value.relocate g) := by
  simp [SignatureNodes.relocate, SignatureNodes.values]

/-- The parts of a class, with the locations changed. -/
def ClassNodes.relocate (g : Loc → Loc) (c : ClassNodes) : ClassNodes :=
  ⟨c.typeParams.map (Node.relocate g), c.heritage.map (Node.relocate g), c.members.map (Node.relocate g)⟩

@[simp]
theorem ClassNodes.values_relocate (c : ClassNodes) : (c.relocate g).values = c.values.map (Value.relocate g) := by
  simp [ClassNodes.relocate, ClassNodes.values]

theorem relocate_numberValue (t : Text) : Value.relocate g <$> numberValue t = numberValue t := by
  unfold numberValue
  split
  · rfl
  · split <;> rfl

/-- The value of a literal has no locations. -/
theorem Literal.value_move (lit : Literal) : (lit.move f).value = Value.relocate g <$> lit.value := by
  unfold Literal.value
  simp only [Literal.move]
  split
  · exact (relocate_numberValue _).symm
  · split <;> rfl

theorem relocate_wordValue? {word : Text} {v : Value} (h : wordValue? word = some v) : v.relocate g = v := by
  unfold wordValue? at h
  split_ifs at h <;> obtain rfl := Option.some.inj h <;> rfl

/-! ## the tree of a phrase that is moved -/

theorem TypeExpr.start_move : ∀ ty : TypeExpr, (ty.move f).start = f ty.start
  | .named .. | .literal _ | .function .. => rfl
  | .array element => element.start_move
  | .union first _ => first.start_move

theorem Expr.start_move : ∀ e : Expr, (e.move f).start = f e.start
  | .name _ | .literal _ | .new .. | .function .. | .arrow .. | .classExpr .. => rfl
  | .member object _ => object.start_move
  | .call callee _ _ => callee.start_move
  | .assign target _ => target.start_move
  | .binary left _ _ => left.start_move

include hfg

theorem relocate_nodeAt (kind : NodeKind) (pos : Pos) (values : List Value) :
    (nodeAt kind pos values).relocate g = nodeAt kind (f pos) (values.map (Value.relocate g)) := by
  simp [nodeAt, Node.relocate, hfg]

theorem Ident.toNode_move (id : Ident) : (id.move f).toNode = id.toNode.relocate g := by
  unfold Ident.toNode
  simp only [Ident.move]
  split
  · next v hv => simp [relocate_nodeAt hfg, relocate_wordValue? hv, Value.relocate]
  · simp [relocate_nodeAt hfg, Value.relocate]

theorem calleeNode_move (head : Ident) (path : List Ident) :
    calleeNode (head.move f) (path.map (Ident.move f)) = (calleeNode head path).relocate g := by
  have hhead : nodeAt .identifier (f head.pos) [.text head.text] =
      (nodeAt .identifier head.pos [.text head.text]).relocate g := by
    simp [relocate_nodeAt hfg, Value.relocate]
  unfold calleeNode
  simp only [Ident.move, hhead]
  generalize nodeAt .identifier head.pos [.text head.text] = object
  induction path generalizing object with
  | nil => rfl
  | cons id path ih =>
    rw [List.map_cons, List.foldl_cons, List.foldl_cons, ← ih, relocate_nodeAt hfg]
    rfl

-- Trees are built by `bind` and `map`: both sides are brought into the form in which the parts of the phrase are built
-- first, and `relocate` stands at the values of the last node.
set_option linter.unusedSectionVars false in
attribute [local simp] map_bind bind_map_left map_pure Value.relocate in
mutual

theorem TypeExpr.toNode_move : ∀ ty : TypeExpr, (ty.move f).toNode = Node.relocate g <$> ty.toNode
  | .named head path args => by
    cases path with
    | nil => simp [TypeExpr.move, TypeExpr.toNode, relocate_nodeAt hfg, typeNodes_move args]
    | cons id path =>
      simp [TypeExpr.move, TypeExpr.toNode, relocate_nodeAt hfg, typeNodes_move args, Function.comp_def]
  | .literal lit => by simp [TypeExpr.move, TypeExpr.toNode, relocate_nodeAt hfg, lit.value_move (g := g)]
  | .array element => by
    simp [TypeExpr.move, TypeExpr.toNode, relocate_nodeAt hfg, element.start_move, element.toNode_move]
  | .union first others => by
    simp [TypeExpr.move, TypeExpr.toNode, relocate_nodeAt hfg, first.start_move, first.toNode_move,
      typeNodes_move others]
  | .function pos typeParams params result => by
    simp [TypeExpr.move, TypeExpr.toNode, relocate_nodeAt hfg, typeParamNodes_move typeParams,
      paramNodes_move params, result.toNode_move]

theorem typeNodes_move : ∀ tys : List TypeExpr,
    typeNodes (tys.map (TypeExpr.move f)) = List.map (Node.relocate g) <$> typeNodes tys
  | [] => rfl
  | ty :: tys => by simp [typeNodes, ty.toNode_move, typeNodes_move tys]

theorem optionalTypeNode_move : ∀ ty : Option TypeExpr,
    optionalTypeNode (ty.map (TypeExpr.move f)) = Option.map (Node.relocate g) <$> optionalTypeNode ty
  | none => rfl
  | some ty => by simp [optionalTypeNode, ty.toNode_move]

theorem TypeParam.toNode_move : ∀ p : TypeParam, (p.move f).toNode = Node.relocate g <$> p.toNode
  | .mk name bound default => by
    simp [TypeParam.move, TypeParam.toNode, relocate_nodeAt hfg, optionalTypeNode_move bound,
      optionalTypeNode_move default]

theorem typeParamNodes_move : ∀ ps : List TypeParam,
    typeParamNodes (ps.map (TypeParam.move f)) = List.map (Node.relocate g) <$> typeParamNodes ps
  | [] => rfl
  | p :: ps => by simp [typeParamNodes, p.toNode_move, typeParamNodes_move ps]

theorem Param.toNode_move : ∀ p : Param, (p.move f).toNode = Node.relocate g <$> p.toNode
  | .mk name optional declared default => by
    simp [Param.move, Param.toNode, relocate_nodeAt hfg, optionalTypeNode_move declared,
      optionalExprNode_move default]

theorem paramNodes_move : ∀ ps : List Param,
    paramNodes (ps.map (Param.move f)) = List.map (Node.relocate g) <$> paramNodes ps
  | [] => rfl
  | p :: ps => by simp [paramNodes, p.toNode_move, paramNodes_move ps]

theorem Signature.nodes_move : ∀ sig : Signature, (sig.move f).nodes = SignatureNodes.relocate g <$> sig.nodes
  | .mk typeParams params result => by
    simp [Signature.move, Signature.nodes, SignatureNodes.relocate, typeParamNodes_move typeParams,
      paramNodes_move params, optionalTypeNode_move result]

theorem Expr.toNode_move : ∀ e : Expr, (e.move f).toNode = Node.relocate g <$> e.toNode
  | .name id => congrArg Except.ok (id.toNode_move hfg)
  | .literal lit => by simp [Expr.move, Expr.toNode, relocate_nodeAt hfg, lit.value_move (g := g)]
  | .member object property => by
    simp [Expr.move, Expr.toNode, relocate_nodeAt hfg, object.start_move, object.toNode_move]
  | .call callee typeArgs args => by
    simp [Expr.move, Expr.toNode, relocate_nodeAt hfg, callee.start_move, callee.toNode_move,
      typeNodes_move typeArgs, exprNodes_move args]
  | .new pos head path typeArgs args => by
    simp [Expr.move, Expr.toNode, relocate_nodeAt hfg, calleeNode_move hfg, typeNodes_move typeArgs,
      exprNodes_move args]
  | .assign target value => by
    simp [Expr.move, Expr.toNode, relocate_nodeAt hfg, target.start_move, target.toNode_move, value.toNode_move]
  | .binary left op right => by
    simp [Expr.move, Expr.toNode, relocate_nodeAt hfg, left.toNode_move, right.toNode_move]
  | .function pos sig body => by
    simp [Expr.move, Expr.toNode, relocate_nodeAt hfg, sig.nodes_move, body.toNode_move]
  | .arrow pos sig body => by simp [Expr.move, Expr.toNode, relocate_nodeAt hfg, sig.nodes_move, body.toNode_move]
  | .classExpr pos shape => by simp [Expr.move, Expr.toNode, relocate_nodeAt hfg, shape.nodes_move]

theorem exprNodes_move : ∀ es : List Expr,
    exprNodes (es.map (Expr.move f)) = List.map (Node.relocate g) <$> exprNodes es
  | [] => rfl
  | e :: es => by simp [exprNodes, e.toNode_move, exprNodes_move es]

theorem optionalExprNode_move : ∀ e : Option Expr,
    optionalExprNode (e.map (Expr.move f)) = Option.map (Node.relocate g) <$> optionalExprNode e
  | none => rfl
  | some e => by simp [optionalExprNode, e.toNode_move]

theorem ArrowBody.toNode_move : ∀ b : ArrowBody, (b.move f).toNode = Node.relocate g <$> b.toNode
  | .block b => b.toNode_move
  | .expr e => e.toNode_move

theorem Block.toNode_move : ∀ b : Block, (b.move f).toNode = Node.relocate g <$> b.toNode
  | .mk pos body => by simp [Block.move, Block.toNode, relocate_nodeAt hfg, stmtNodes_move body]

theorem Stmt.toNode_move : ∀ s : Stmt, (s.move f).toNode = Node.relocate g <$> s.toNode
  | .variables pos binder declarators => by
    simp [Stmt.move, Stmt.toNode, relocate_nodeAt hfg, declaratorNodes_move declarators]
  | .function pos name sig body => by
    simp [Stmt.move, Stmt.toNode, relocate_nodeAt hfg, sig.nodes_move, body.toNode_move]
  | .classDecl pos name shape => by simp [Stmt.move, Stmt.toNode, relocate_nodeAt hfg, shape.nodes_move]
  | .ret pos value => by simp [Stmt.move, Stmt.toNode, relocate_nodeAt hfg, optionalExprNode_move value]
  | .expr e => by simp [Stmt.move, Stmt.toNode, relocate_nodeAt hfg, e.start_move, e.toNode_move]

theorem stmtNodes_move : ∀ ss : List Stmt,
    stmtNodes (ss.map (Stmt.move f)) = List.map (Node.relocate g) <$> stmtNodes ss
  | [] => rfl
  | s :: ss => by simp [stmtNodes, s.toNode_move, stmtNodes_move ss]

theorem Declarator.toNode_move : ∀ d : Declarator, (d.move f).toNode = Node.relocate g <$> d.toNode
  | .mk name declared init => by
    simp [Declarator.move, Declarator.toNode, relocate_nodeAt hfg, optionalTypeNode_move declared,
      optionalExprNode_move init]

theorem declaratorNodes_move : ∀ ds : List Declarator,
    declaratorNodes (ds.map (Declarator.move f)) = List.map (Node.relocate g) <$> declaratorNodes ds
  | [] => rfl
  | d :: ds => by simp [declaratorNodes, d.toNode_move, declaratorNodes_move ds]

theorem ClassShape.nodes_move : ∀ c : ClassShape, (c.move f).nodes = ClassNodes.relocate g <$> c.nodes
  | .mk typeParams heritage members => by
    simp [ClassShape.move, ClassShape.nodes, ClassNodes.relocate, typeParamNodes_move typeParams,
      optionalHeritageNode_move heritage, memberNodes_move members]

theorem Heritage.toNode_move : ∀ h : Heritage, (h.move f).toNode = Node.relocate g <$> h.toNode
  | .mk name typeArgs => by simp [Heritage.move, Heritage.toNode, relocate_nodeAt hfg, typeNodes_move typeArgs]

theorem optionalHeritageNode_move : ∀ h : Option Heritage,
    optionalHeritageNode (h.map (Heritage.move f)) = Option.map (Node.relocate g) <$> optionalHeritageNode h
  | none => rfl
  | some h => by simp [optionalHeritageNode, h.toNode_move]

theorem Member.toNode_move : ∀ m : Member, (m.move f).toNode = Node.relocate g <$> m.toNode
  | .method name sig body => by
    simp [Member.move, Member.toNode, relocate_nodeAt hfg, sig.nodes_move, body.toNode_move]
  | .property name optional declared value => by
    simp [Member.move, Member.toNode, relocate_nodeAt hfg, optionalTypeNode_move declared,
      optionalExprNode_move value]

theorem memberNodes_move : ∀ ms : List Member,
    memberNodes (ms.map (Member.move f)) = List.map (Node.relocate g) <$> memberNodes ms
  | [] => rfl
  | m :: ms => by simp [memberNodes, m.toNode_move, memberNodes_move ms]

end

end Move

end TypeLint.Source
